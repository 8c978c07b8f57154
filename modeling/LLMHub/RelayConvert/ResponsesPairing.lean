import LLMHub.RelayConvert.ResponsesContent

namespace LLMHub

open Go

/-- The item types clients send as input. -/
inductive InputItemKind
  | message
  | reasoning
  | functionCall
  | customToolCall
  | functionCallOutput
  | customToolCallOutput
  deriving DecidableEq, Repr

/-- The types an item of the kind is written with. A message may leave its type out. -/
def InputItemKind.types : InputItemKind → List String
  | .message => ["", "message"]
  | .reasoning => ["reasoning"]
  | .functionCall => ["function_call"]
  | .customToolCall => ["custom_tool_call"]
  | .functionCallOutput => ["function_call_output"]
  | .customToolCallOutput => ["custom_tool_call_output"]

/-- An input item of a known kind. Calls and outputs have a call id, calls have a name. -/
structure InputItem (text : JsonText) where
  fields : List (String × Json)
  kind : InputItemKind
  typed : fieldText text fields "type" ∈ kind.types
  identified : kind ≠ .message → kind ≠ .reasoning → fieldText text fields "call_id" ≠ ""
  named : kind = .functionCall ∨ kind = .customToolCall → fieldText text fields "name" ≠ ""

/-- What a conversation consists of: messages, and calls of the assistant. -/
inductive ChatEntry
  | message (role : String) (content : Json) (toolCallId : String)
  | call (toolCall : ChatToolCall)

/-- The entries of a message. Without a content it only carries its calls. -/
def ChatMessage.entries (message : ChatMessage) : List ChatEntry :=
  (message.content.toList.map fun content => .message message.role content message.toolCallId) ++
    message.toolCalls.map .call

namespace InputItem

variable {text : JsonText}

def messageEntry (item : InputItem text) : ChatEntry :=
  .message (messageRole text item.fields) (responsesInputContentToChatContent text (item.fields.lookup "content")) ""

def callEntry (item : InputItem text) (type field : String) (custom : Option Json) : ChatEntry :=
  .call
    { id := fieldText text item.fields "call_id", type := type, name := fieldText text item.fields "name",
      arguments := responsesArgumentsString text (item.fields.lookup field), custom := custom }

def outputEntry (item : InputItem text) : ChatEntry :=
  .message "tool" (.str (responsesArgumentsString text (item.fields.lookup "output"))) (fieldText text item.fields "call_id")

/-- The call of an item, with its id, name and arguments. -/
structure Calls (item : InputItem text) (call : ChatToolCall) (type field : String) (custom : Option Json) : Prop where
  id : Names text item.fields "call_id" call.id
  type : call.type = type
  name : Names text item.fields "name" call.name
  arguments : WrittenAs text (item.fields.lookup field) call.arguments
  custom : call.custom = custom

/-- An entry says what an item says. -/
def Means (item : InputItem text) : ChatEntry → Prop
  | .message role content toolCallId =>
    match item.kind with
    | .message => (∃ name, Names text item.fields "role" name ∧ role = if name = "" then "user" else name) ∧
        SameContent text (item.fields.lookup "content") content ∧ toolCallId = ""
    | .functionCallOutput | .customToolCallOutput => role = "tool" ∧ Names text item.fields "call_id" toolCallId ∧
        ∃ output, content = .str output ∧ WrittenAs text (item.fields.lookup "output") output
    | _ => False
  | .call call =>
    match item.kind with
    | .functionCall => item.Calls call "function" "arguments" none
    | .customToolCall => item.Calls call "custom" "input" (some (.obj item.fields))
    | _ => False

/-- An item that is kept: no reasoning, no output of a custom tool, and no media part
that loses a field. -/
structure Kept (item : InputItem text) : Prop where
  spoken : item.kind ≠ .reasoning
  answered : item.kind ≠ .customToolCallOutput
  whole : item.kind = .message → ∀ parts, item.fields.lookup "content" = some (.arr parts) →
    ∀ part ∈ parts, PartWhole text part

/-- What the conversion adds for an item: reasoning and custom outputs are taken for messages. -/
def added (item : InputItem text) : ChatEntry :=
  match item.kind with
  | .message | .reasoning | .customToolCallOutput => item.messageEntry
  | .functionCall => item.callEntry "function" "arguments" none
  | .customToolCall => item.callEntry "custom" "input" (some (.obj item.fields))
  | .functionCallOutput => item.outputEntry

theorem means_added_iff (item : InputItem text) : (item.kind ≠ .reasoning ∧ item.Means item.added) ↔ item.Kept := by
  have call : ∀ type field custom, item.Calls
      { id := fieldText text item.fields "call_id", type := type, name := fieldText text item.fields "name",
        arguments := responsesArgumentsString text (item.fields.lookup field), custom := custom } type field custom :=
    fun _ _ _ => ⟨names_iff.mpr rfl, rfl, names_iff.mpr rfl, writtenAs_iff.mpr rfl, rfl⟩
  have kept (spoken : item.kind ≠ .reasoning) (answered : item.kind ≠ .customToolCallOutput) (other : item.kind ≠ .message) :
      item.Kept := ⟨spoken, answered, fun is => absurd is other⟩
  cases kind : item.kind with
  | message =>
    simp only [added, kind, messageEntry, Means, names_iff, exists_eq_left, messageRole, sameContent_iff, ne_eq,
      reduceCtorEq, not_false_eq_true, true_and, and_true]
    exact ⟨fun whole => ⟨by simp [kind], by simp [kind], fun _ => whole⟩, fun kept => kept.whole kind⟩
  | reasoning => exact iff_of_false (fun spoken => spoken.1 rfl) fun kept => kept.spoken kind
  | functionCall | customToolCall =>
    simp only [added, kind, callEntry, Means]
    exact iff_of_true ⟨by simp, call _ _ _⟩ (kept (by simp [kind]) (by simp [kind]) (by simp [kind]))
  | functionCallOutput =>
    simp only [added, kind, outputEntry, Means]
    exact iff_of_true ⟨by simp, trivial, names_iff.mpr rfl, _, rfl, writtenAs_iff.mpr rfl⟩
      (kept (by simp [kind]) (by simp [kind]) (by simp [kind]))
  | customToolCallOutput =>
    -- The call id of the message is empty, that of the item is not.
    have identified := item.identified (by simp [kind]) (by simp [kind])
    simp only [added, kind, messageEntry, Means, names_iff]
    exact iff_of_false (fun means => identified means.2.2.1.symm) fun kept => kept.answered kind

end InputItem

/-- Calls are the assistant's, and a message without a content carries some. -/
def CarriesCalls (message : ChatMessage) : Prop :=
  (message.toolCalls ≠ [] → message.role = "assistant") ∧ (message.content = none → message.toolCalls ≠ [])

/-- The messages of the items: each item once and in order, where reasoning is no part
of a conversation, and no other message than the assistant's with calls. -/
structure Paired {text : JsonText} (items : List (InputItem text)) (messages : List ChatMessage) : Prop where
  entries : List.Forall₂ InputItem.Means (items.filter fun item => item.kind ≠ .reasoning)
    (messages.flatMap ChatMessage.entries)
  carries : ∀ message ∈ messages, CarriesCalls message

section
variable {front tail : List ChatMessage}

theorem appendToolCallToLastAssistant_new {messages : List ChatMessage}
    (other : messages.getLast?.map ChatMessage.role ≠ some "assistant") (toolCall : ChatToolCall) :
    appendToolCallToLastAssistant messages toolCall =
      messages ++ [{ role := "assistant", toolCalls := [toolCall] }] := by
  simp only [appendToolCallToLastAssistant, if_neg other]
  rw [List.length_append, List.length_singleton, Nat.add_sub_cancel, modify_last]
  rfl

theorem appendToolCallToLastAssistant_last {last : ChatMessage} (assistant : last.role = "assistant")
    (messages : List ChatMessage) (toolCall : ChatToolCall) :
    appendToolCallToLastAssistant (messages ++ [last]) toolCall =
      messages ++ [{ last with toolCalls := last.toolCalls ++ [toolCall] }] := by
  have found : ((messages ++ [last]).getLast?.map ChatMessage.role = some "assistant") := by simp [assistant]
  simp only [appendToolCallToLastAssistant, if_pos found]
  rw [List.length_append, List.length_singleton, Nat.add_sub_cancel, modify_last]

/-- A call goes behind the entries so far, and the messages in front of the input stay. -/
theorem appendToolCallToLastAssistant_adds (closed : front.getLast?.map ChatMessage.role ≠ some "assistant")
    (carries : ∀ message ∈ tail, CarriesCalls message) (toolCall : ChatToolCall) :
    ∃ next, appendToolCallToLastAssistant (front ++ tail) toolCall = front ++ next ∧
      next.flatMap ChatMessage.entries = tail.flatMap ChatMessage.entries ++ [.call toolCall] ∧
      ∀ message ∈ next, CarriesCalls message := by
  by_cases other : (front ++ tail).getLast?.map ChatMessage.role = some "assistant"
  · rcases tail.eq_nil_or_concat with empty | ⟨init, last, concat⟩
    · rw [empty, List.append_nil] at other
      exact absurd other closed
    · rw [List.concat_eq_append] at concat
      subst concat
      have assistant : last.role = "assistant" := by simpa using other
      refine ⟨init ++ [{ last with toolCalls := last.toolCalls ++ [toolCall] }], ?_, ?_, ?_⟩
      · rw [← List.append_assoc, appendToolCallToLastAssistant_last assistant, List.append_assoc]
      · simp [ChatMessage.entries]
      · intro message member
        rcases List.mem_append.mp member with old | new
        · exact carries message (List.mem_append_left _ old)
        · rw [List.mem_singleton.mp new]
          exact ⟨fun _ => assistant, fun _ => by simp⟩
  · refine ⟨tail ++ [{ role := "assistant", toolCalls := [toolCall] }], ?_, ?_, ?_⟩
    · rw [appendToolCallToLastAssistant_new other, List.append_assoc]
    · simp [ChatMessage.entries]
    · intro message member
      rcases List.mem_append.mp member with old | new
      · exact carries message old
      · rw [List.mem_singleton.mp new]
        exact ⟨fun _ => rfl, fun _ => by simp⟩

end

section
variable {text : JsonText} {front tail : List ChatMessage}

/-- Every other type is read as a message. -/
theorem responsesInputItemToChatMessages_message {fields : List (String × Json)}
    (call : fieldText text fields "type" ≠ "function_call") (custom : fieldText text fields "type" ≠ "custom_tool_call")
    (output : fieldText text fields "type" ≠ "function_call_output") (messages : List ChatMessage) :
    responsesInputItemToChatMessages text fields messages =
      .ok (messages ++ [{ role := messageRole text fields,
                          content := some (responsesInputContentToChatContent text (fields.lookup "content")) }]) := by
  unfold responsesInputItemToChatMessages
  split
  next same => exact absurd same call
  next same => exact absurd same custom
  next same => exact absurd same output
  next => rfl

/-- What one item does: its entry is added, nothing else changes. -/
theorem responsesInputItemToChatMessages_adds (closed : front.getLast?.map ChatMessage.role ≠ some "assistant")
    (carries : ∀ message ∈ tail, CarriesCalls message) (item : InputItem text) :
    ∃ next, responsesInputItemToChatMessages text item.fields (front ++ tail) = .ok (front ++ next) ∧
      next.flatMap ChatMessage.entries = tail.flatMap ChatMessage.entries ++ [item.added] ∧
      ∀ message ∈ next, CarriesCalls message := by
  have kept (message : ChatMessage) (entry : message.entries = [item.added]) (sound : CarriesCalls message) :
      ∃ next, (.ok (front ++ tail ++ [message]) : Except String (List ChatMessage)) = .ok (front ++ next) ∧
        next.flatMap ChatMessage.entries = tail.flatMap ChatMessage.entries ++ [item.added] ∧
        ∀ message ∈ next, CarriesCalls message := by
    refine ⟨tail ++ [message], by rw [List.append_assoc], by simp [entry], fun other member => ?_⟩
    rcases List.mem_append.mp member with old | new
    · exact carries other old
    · rw [List.mem_singleton.mp new]
      exact sound
  have typed := item.typed
  cases kind : item.kind with
  | functionCall =>
    have type : fieldText text item.fields "type" = "function_call" := by simpa [kind, InputItemKind.types] using typed
    have identified := item.identified (by simp [kind]) (by simp [kind])
    have named := item.named (.inl kind)
    obtain ⟨next, appended, entries, sound⟩ := appendToolCallToLastAssistant_adds closed carries
      { id := fieldText text item.fields "call_id", type := "function", name := fieldText text item.fields "name",
        arguments := responsesArgumentsString text (item.fields.lookup "arguments") }
    refine ⟨next, ?_, by simpa [InputItem.added, kind, InputItem.callEntry] using entries, sound⟩
    rw [← appended]
    simp [responsesInputItemToChatMessages, type, responsesFunctionCallItemToChatToolCall, named, responsesCallID,
      identified]
  | customToolCall =>
    have type : fieldText text item.fields "type" = "custom_tool_call" := by
      simpa [kind, InputItemKind.types] using typed
    have identified := item.identified (by simp [kind]) (by simp [kind])
    obtain ⟨next, appended, entries, sound⟩ := appendToolCallToLastAssistant_adds closed carries
      (responsesCustomToolCallItemToChatToolCall text item.fields)
    refine ⟨next, ?_, ?_, sound⟩
    · rw [← appended]
      simp [responsesInputItemToChatMessages, type]
    · simpa [InputItem.added, kind, InputItem.callEntry, responsesCustomToolCallItemToChatToolCall, responsesCallID,
        identified] using entries
  | functionCallOutput =>
    have type : fieldText text item.fields "type" = "function_call_output" := by
      simpa [kind, InputItemKind.types] using typed
    simp only [responsesInputItemToChatMessages, type]
    refine kept _ ?_ ⟨fun calls => absurd rfl calls, nofun⟩
    simp [ChatMessage.entries, InputItem.added, kind, InputItem.outputEntry, responseToolOutputToChatContent]
  | _ =>
    simp only [kind, InputItemKind.types, List.mem_cons, List.not_mem_nil, or_false] at typed
    rw [responsesInputItemToChatMessages_message (by grind) (by grind) (by grind)]
    refine kept _ ?_ ⟨fun calls => absurd rfl calls, nofun⟩
    simp [ChatMessage.entries, InputItem.added, kind, InputItem.messageEntry]

theorem inputItemsToChat_adds (closed : front.getLast?.map ChatMessage.role ≠ some "assistant")
    (items : List (InputItem text)) (carries : ∀ message ∈ tail, CarriesCalls message) :
    ∃ next, inputItemsToChat text (items.map InputItem.fields) (front ++ tail) = .ok (front ++ next) ∧
      next.flatMap ChatMessage.entries = tail.flatMap ChatMessage.entries ++ items.map InputItem.added ∧
      ∀ message ∈ next, CarriesCalls message := by
  induction items generalizing tail with
  | nil => exact ⟨tail, rfl, by simp, carries⟩
  | cons item rest ih =>
    obtain ⟨middle, step, entries, carriesMiddle⟩ := responsesInputItemToChatMessages_adds closed carries item
    obtain ⟨next, run, entriesNext, carriesNext⟩ := ih carriesMiddle
    refine ⟨next, ?_, ?_, carriesNext⟩
    · rw [List.map_cons, inputItemsToChat, step]
      exact run
    · rw [entriesNext, entries, List.map_cons, List.append_assoc]
      rfl

theorem decodeMaps_obj (items : List (List (String × Json))) : decodeMaps (items.map .obj) = some items := by
  induction items with
  | nil => rfl
  | cons item rest ih => simp [decodeMaps, ih]

theorem instructionMessages_closed (text : JsonText) (instructions : Option Json) :
    (instructionMessages text instructions).getLast?.map ChatMessage.role ≠ some "assistant" := by
  unfold instructionMessages
  split
  · split_ifs <;> simp
  · simp

end

/-- For every input array, after the message of the instructions: each call item is one
tool call of the assistant, each output item one tool message, each message item one
message, in input order and with nothing else created, exactly if every item is kept. -/
theorem responses_items_paired_iff (text : JsonText) (req : ResponsesRequest) (items : List (InputItem text)) :
    (∃ messages, responsesRequestMessagesToChat text
          { req with input := some (.arr (items.map fun item => .obj item.fields)) } =
        .ok (instructionMessages text req.instructions ++ messages) ∧ Paired items messages) ↔
      ∀ item ∈ items, item.Kept := by
  obtain ⟨messages, run, entries, carries⟩ :=
    @inputItemsToChat_adds text _ [] (instructionMessages_closed text req.instructions) items nofun
  have decoded : decodeMaps (items.map fun item => .obj item.fields) = some (items.map InputItem.fields) := by
    rw [← decodeMaps_obj, List.map_map]
    rfl
  have whole : responsesRequestMessagesToChat text
      { req with input := some (.arr (items.map fun item => .obj item.fields)) } =
        .ok (instructionMessages text req.instructions ++ messages) := by
    simp only [responsesRequestMessagesToChat, rawJSONPresent, decoded]
    rw [← run, List.append_nil]
  rw [List.flatMap_nil, List.nil_append] at entries
  have same : Paired items messages ↔ ∀ item ∈ items, item.kind ≠ .reasoning ∧ item.Means item.added := by
    rw [forall₂_and]
    constructor
    · rintro ⟨means, -⟩
      rw [entries] at means
      have spoken : ∀ item ∈ items, item.kind ≠ .reasoning := by simpa using means.length_eq
      rw [List.filter_eq_self.mpr (by simpa using spoken), List.forall₂_map_right_iff, List.forall₂_same] at means
      exact ⟨spoken, means⟩
    · rintro ⟨spoken, means⟩
      refine ⟨?_, carries⟩
      rw [entries, List.filter_eq_self.mpr (by simpa using spoken), List.forall₂_map_right_iff, List.forall₂_same]
      exact means
  refine Iff.trans ?_ (same.trans (forall₂_congr fun item _ => item.means_added_iff))
  constructor
  · rintro ⟨other, converted, paired⟩
    rw [whole] at converted
    rwa [List.append_cancel_left (Except.ok.inj converted)]
  · exact fun paired => ⟨messages, whole, paired⟩

/-- Values written as nothing: the items below are all texts. -/
def textsOnly : JsonText where
  marshal _ := ""
  format _ := ""
  decodeError _ := ""

def customCall : InputItem textsOnly where
  fields := [("type", .str "custom_tool_call"), ("call_id", .str "call_1"), ("name", .str "lookup"), ("input", .str "Paris")]
  kind := .customToolCall
  typed := by decide
  identified := by decide
  named := by decide

def customOutput : InputItem textsOnly where
  fields := [("type", .str "custom_tool_call_output"), ("call_id", .str "call_1"), ("output", .str "sunny")]
  kind := .customToolCallOutput
  typed := by decide
  identified := by decide
  named := by decide

/-- An image to be looked at roughly. -/
def roughImage : InputItem textsOnly where
  fields := [("content", .arr [.obj [("type", .str "input_image"), ("image_url", .str "photo.png"), ("detail", .str "low")]])]
  kind := .message
  typed := by decide
  identified := by decide
  named := by decide

/-- The message the image comes in. -/
def bareImage : ChatMessage where
  role := "user"
  content := some (.arr [.obj [("type", .str "image_url"), ("image_url", .str "photo.png")]])

/-- The answer of a custom tool becomes an empty message of the user, and the detail
of an image is lost. -/
theorem custom_output_lost :
    (responsesRequestMessagesToChat textsOnly
        { model := "gpt-5", input := some (.arr ([customCall, customOutput].map fun item => .obj item.fields)) } =
      .ok [{ role := "assistant", toolCalls := [responsesCustomToolCallItemToChatToolCall textsOnly customCall.fields] },
           { role := "user", content := some (.str "") }] ∧
      ¬Paired [customCall, customOutput]
        [{ role := "assistant", toolCalls := [responsesCustomToolCallItemToChatToolCall textsOnly customCall.fields] },
         { role := "user", content := some (.str "") }]) ∧
    responsesRequestMessagesToChat textsOnly { model := "gpt-5", input := some (.arr [.obj roughImage.fields]) } =
        .ok [bareImage] ∧
      ¬Paired [roughImage] [bareImage] := by
  refine ⟨⟨rfl, fun paired => ?_⟩, rfl, fun paired => ?_⟩
  · have entries : List.Forall₂ InputItem.Means [customCall, customOutput] _ := paired.entries
    cases entries with
    | cons _ rest =>
      cases rest with
      | cons means _ => exact absurd means.1 (by decide)
  · have entries : List.Forall₂ InputItem.Means [roughImage] _ := paired.entries
    cases entries with
    | cons means _ =>
      have whole := (sameContent_iff (roughImage.fields.lookup "content")).mp means.2.1 _ rfl _ List.mem_cons_self
      have given := whole "detail" (.str "low") rfl (by decide)
      simp [HasField, Json.child] at given

end LLMHub
