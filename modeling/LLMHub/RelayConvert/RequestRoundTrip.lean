import LLMHub.RelayConvert.ResponsesPairing

namespace LLMHub

open Go

/-- A text without space around it, and not empty. -/
def Trimmed (s : String) : Prop := trimSpace s = s ∧ s ≠ ""

instance (s : String) : Decidable (Trimmed s) := inferInstanceAs (Decidable (_ ∧ _))

def contentText : Option Json → String
  | some (.str s) => s
  | _ => ""

/-- A message of plain text, with function calls only and identified tool results. -/
structure PlainMessage (message : ChatMessage) : Prop where
  role : message.role ∈ ["system", "user", "assistant", "tool"]
  content : message.content = none ∨ message.content = some (.str (contentText message.content))
  functions : ∀ call ∈ message.toolCalls, call.type = "" ∨ call.type = "function"
  identified : ∀ call ∈ message.toolCalls, Trimmed call.id ∧ Trimmed call.name
  answers : message.role = "tool" → Trimmed message.toolCallId

/-- Calls stand on the assistant's messages and call ids on tool messages. -/
structure PlacedCalls (message : ChatMessage) : Prop where
  calls : message.role = "user" ∨ message.role = "tool" → message.toolCalls = []
  answers : message.role = "user" ∨ message.role = "assistant" → message.toolCallId = ""

/-- A tool choice that is left out, named or an object. -/
def ReadableChoice : Option Json → Prop
  | none | some (.str _) | some (.obj _) => True
  | _ => False

def ChatToolCall.returned (call : ChatToolCall) : ChatToolCall :=
  { id := call.id, type := "function", name := call.name, arguments := call.arguments }

/-- A message as it comes back: a null content is the empty text. -/
def ChatMessage.returned (message : ChatMessage) : ChatMessage :=
  { role := message.role, content := some (.str (contentText message.content)),
    toolCalls := message.toolCalls.map ChatToolCall.returned, toolCallId := message.toolCallId }

def instructionTexts (messages : List ChatMessage) : List String :=
  ((messages.filter fun message => message.role = "system").map fun message =>
    trimSpace (contentText message.content)).filter (· ≠ "")

/-- The one system message that comes back. -/
def preamble (texts : List String) : List ChatMessage :=
  if texts = [] then [] else [{ role := "system", content := some (.str ("\n\n".intercalate texts)) }]

section
variable {text : JsonText}

theorem inputItemsToChat_append (items more : List (List (String × Json))) (messages : List ChatMessage) :
    inputItemsToChat text (items ++ more) messages =
      (inputItemsToChat text items messages).bind (inputItemsToChat text more) := by
  induction items generalizing messages with
  | nil => rfl
  | cons item rest ih =>
    rw [List.cons_append, inputItemsToChat, inputItemsToChat]
    cases responsesInputItemToChatMessages text item messages with
    | error message => rfl
    | ok next => exact ih next

theorem functionCallItem_eq {call : ChatToolCall} (function : call.type = "" ∨ call.type = "function")
    (id : Trimmed call.id) (name : Trimmed call.name) :
    functionCallItem call = some [("type", .str "function_call"), ("call_id", .str call.id), ("name", .str call.name),
      ("arguments", .str call.arguments)] := by
  obtain ⟨idTrimmed, idFilled⟩ := id
  obtain ⟨nameTrimmed, nameFilled⟩ := name
  have typed : ¬ (call.type ≠ "" ∧ call.type ≠ "function") := by tauto
  simp only [functionCallItem, idTrimmed, nameTrimmed, if_neg idFilled, if_neg nameFilled, if_neg typed]

theorem fieldText_str {item : List (String × Json)} {key value : String} (found : item.lookup key = some (.str value)) :
    fieldText text item key = trimSpace value := by
  rw [fieldText, found, interface2String]

/-- The item of a call gives the call back, on the assistant's last message. -/
theorem functionCallItem_returned {call : ChatToolCall} (id : Trimmed call.id) (name : Trimmed call.name)
    (messages : List ChatMessage) :
    responsesInputItemToChatMessages text [("type", .str "function_call"), ("call_id", .str call.id),
        ("name", .str call.name), ("arguments", .str call.arguments)] messages =
      .ok (appendToolCallToLastAssistant messages call.returned) := by
  obtain ⟨idTrimmed, idFilled⟩ := id
  obtain ⟨nameTrimmed, nameFilled⟩ := name
  generalize fields : [("type", Json.str "function_call"), ("call_id", .str call.id), ("name", .str call.name),
    ("arguments", .str call.arguments)] = item
  have arguments : item.lookup "arguments" = some (.str call.arguments) := by simp [← fields, List.lookup_cons]
  have type : fieldText text item "type" = "function_call" :=
    (fieldText_str (by simp [← fields])).trans (by decide : trimSpace "function_call" = "function_call")
  have callId : fieldText text item "call_id" = call.id :=
    (fieldText_str (by simp [← fields, List.lookup_cons])).trans idTrimmed
  have named : fieldText text item "name" = call.name :=
    (fieldText_str (by simp [← fields, List.lookup_cons])).trans nameTrimmed
  simp only [responsesInputItemToChatMessages, type, responsesFunctionCallItemToChatToolCall, named, if_neg nameFilled,
    responsesCallID, callId, if_pos idFilled, arguments, responsesArgumentsString]
  rfl

/-- The calls of an assistant's message come back onto that message. -/
theorem functionCalls_returned {calls : List ChatToolCall}
    (functions : ∀ call ∈ calls, call.type = "" ∨ call.type = "function")
    (identified : ∀ call ∈ calls, Trimmed call.id ∧ Trimmed call.name) {last : ChatMessage}
    (assistant : last.role = "assistant") (front : List ChatMessage) :
    inputItemsToChat text (calls.filterMap functionCallItem) (front ++ [last]) =
      .ok (front ++ [{ last with toolCalls := last.toolCalls ++ calls.map ChatToolCall.returned }]) := by
  induction calls generalizing last with
  | nil => simp [inputItemsToChat]
  | cons call rest ih =>
    obtain ⟨function, functionsRest⟩ := List.forall_mem_cons.mp functions
    obtain ⟨⟨id, name⟩, identifiedRest⟩ := List.forall_mem_cons.mp identified
    have attached := @ih functionsRest identifiedRest { last with toolCalls := last.toolCalls ++ [call.returned] } assistant
    rw [List.filterMap_cons_some (functionCallItem_eq function id name), inputItemsToChat,
      functionCallItem_returned id name, appendToolCallToLastAssistant_last assistant, List.map_cons,
      List.append_cons last.toolCalls call.returned (rest.map ChatToolCall.returned)]
    exact attached

/-- The item of a message without calls gives the message back. -/
theorem messageItem_returned {role : String} (filled : Trimmed role) (content : String) (messages : List ChatMessage) :
    responsesInputItemToChatMessages text [("role", .str role), ("content", .str content)] messages =
      .ok (messages ++ [{ role := role, content := some (.str content) }]) := by
  obtain ⟨roleTrimmed, roleFilled⟩ := filled
  generalize fields : [("role", Json.str role), ("content", .str content)] = item
  have untyped : fieldText text item "type" = "" := by
    rw [fieldText, show item.lookup "type" = none by simp [← fields, List.lookup_cons], interface2String]
    decide
  have roled : fieldText text item "role" = role := (fieldText_str (by simp [← fields])).trans roleTrimmed
  have found : item.lookup "content" = some (.str content) := by simp [← fields, List.lookup_cons]
  rw [responsesInputItemToChatMessages_message (by simp [untyped]) (by simp [untyped]) (by simp [untyped]), messageRole,
    roled, if_neg roleFilled, found, responsesInputContentToChatContent]

/-- The item of a tool message gives the message back. -/
theorem outputItem_returned {callId : String} (filled : Trimmed callId) (output : String) (messages : List ChatMessage) :
    responsesInputItemToChatMessages text
        [("type", .str "function_call_output"), ("call_id", .str callId), ("output", .str output)] messages =
      .ok (messages ++ [{ role := "tool", content := some (.str output), toolCallId := callId }]) := by
  generalize fields : [("type", Json.str "function_call_output"), ("call_id", .str callId), ("output", .str output)] = item
  have type : fieldText text item "type" = "function_call_output" :=
    (fieldText_str (by simp [← fields])).trans (by decide : trimSpace "function_call_output" = "function_call_output")
  have identified : fieldText text item "call_id" = callId :=
    (fieldText_str (by simp [← fields, List.lookup_cons])).trans filled.1
  have found : item.lookup "output" = some (.str output) := by simp [← fields, List.lookup_cons]
  simp only [responsesInputItemToChatMessages, type, identified, found, responseToolOutputToChatContent,
    responsesArgumentsString]

variable {parseContent : Json → List ChatPart}

theorem messageItemContent_plain {role : String} {content : Option Json}
    (plain : content = none ∨ content = some (.str (contentText content))) :
    messageItemContent text parseContent role content = .str (contentText content) := by
  rcases plain with null | string
  · rw [null]
    rfl
  · rw [string]
    rfl

theorem toolOutput_plain {content : Option Json} (plain : content = none ∨ content = some (.str (contentText content))) :
    toolOutput text content = contentText content := by
  rcases plain with null | string
  · rw [null]
    rfl
  · rw [string]
    rfl

/-- The items of one message give the message back, those of a system message nothing. -/
theorem messageItems_returned {message : ChatMessage} (plain : PlainMessage message) (placed : PlacedCalls message)
    (front : List ChatMessage) :
    inputItemsToChat text (messageItems text parseContent message) front =
      .ok (front ++ if message.role = "system" then [] else [message.returned]) := by
  have roles := plain.role
  simp only [List.mem_cons, List.not_mem_nil, or_false] at roles
  rcases roles with system | user | assistant | tool
  · have items : messageItems text parseContent message = [] := by
      simp [messageItems, system, (by decide : trimSpace "system" = "system")]
    rw [items, if_pos system, List.append_nil, inputItemsToChat]
  · have items : messageItems text parseContent message =
        [[("role", .str "user"), ("content", .str (contentText message.content))]] := by
      simp [messageItems, user, (by decide : trimSpace "user" = "user"), messageItemContent_plain plain.content]
    rw [items, inputItemsToChat, messageItem_returned (by decide), if_neg (by simp [user]), ChatMessage.returned, user,
      placed.calls (.inl user), placed.answers (.inl user)]
    rfl
  · have items : messageItems text parseContent message =
        [("role", .str "assistant"), ("content", .str (contentText message.content))] ::
          message.toolCalls.filterMap functionCallItem := by
      simp [messageItems, assistant, (by decide : trimSpace "assistant" = "assistant"),
        messageItemContent_plain plain.content]
    rw [items, inputItemsToChat, messageItem_returned (by decide), if_neg (by simp [assistant]), ChatMessage.returned,
      assistant, placed.answers (.inr assistant)]
    exact functionCalls_returned plain.functions plain.identified rfl front
  · obtain ⟨idTrimmed, idFilled⟩ := plain.answers tool
    have items : messageItems text parseContent message =
        [[("type", .str "function_call_output"), ("call_id", .str message.toolCallId),
          ("output", .str (contentText message.content))]] := by
      simp [messageItems, tool, (by decide : trimSpace "tool" = "tool"), idTrimmed, idFilled,
        toolOutput_plain plain.content]
    rw [items, inputItemsToChat, outputItem_returned (plain.answers tool), if_neg (by simp [tool]), ChatMessage.returned,
      tool, placed.calls (.inr tool)]
    rfl

theorem messages_returned {messages : List ChatMessage} (plain : ∀ message ∈ messages, PlainMessage message)
    (placed : ∀ message ∈ messages, PlacedCalls message) (front : List ChatMessage) :
    inputItemsToChat text (messages.flatMap (messageItems text parseContent)) front =
      .ok (front ++ (messages.filter fun message => message.role ≠ "system").map ChatMessage.returned) := by
  induction messages generalizing front with
  | nil => simp [inputItemsToChat]
  | cons message rest ih =>
    obtain ⟨plainFirst, plainRest⟩ := List.forall_mem_cons.mp plain
    obtain ⟨placedFirst, placedRest⟩ := List.forall_mem_cons.mp placed
    rw [List.flatMap_cons, inputItemsToChat_append, messageItems_returned plainFirst placedFirst, Except.bind,
      ih plainRest placedRest]
    by_cases system : message.role = "system"
    · simp [system]
    · simp [system]

/-- The instruction texts of the messages are the system texts. -/
theorem messageInstructions_eq {messages : List ChatMessage} (plain : ∀ message ∈ messages, PlainMessage message) :
    messages.flatMap (messageInstructions parseContent) = instructionTexts messages := by
  induction messages with
  | nil => rfl
  | cons message rest ih =>
    obtain ⟨plainFirst, plainRest⟩ := List.forall_mem_cons.mp plain
    have text : instructionText parseContent message.content = trimSpace (contentText message.content) := by
      rcases plainFirst.content with null | string
      · rw [null]
        exact (by decide : "" = trimSpace "")
      · rw [string]
        rfl
    have roles := plainFirst.role
    simp only [List.mem_cons, List.not_mem_nil, or_false] at roles
    rw [List.flatMap_cons, ih plainRest]
    rcases roles with role | role | role | role
    all_goals
      rw [messageInstructions, text, role]
    · have trimmed : trimSpace "system" = "system" := by decide
      by_cases blank : trimSpace (contentText message.content) = ""
      · simp [trimmed, blank, instructionTexts, role]
      · simp [trimmed, blank, instructionTexts, role]
    · have trimmed : trimSpace "user" = "user" := by decide
      simp [trimmed, instructionTexts, role]
    · have trimmed : trimSpace "assistant" = "assistant" := by decide
      simp [trimmed, instructionTexts, role]
    · have trimmed : trimSpace "tool" = "tool" := by decide
      simp [trimmed, instructionTexts, role]

theorem intercalate_filled {separator : String} {texts : List String} (listed : texts ≠ [])
    (filled : ∀ part ∈ texts, trimSpace part ≠ "") : trimSpace (separator.intercalate texts) ≠ "" := by
  cases texts with
  | nil => exact absurd rfl listed
  | cons first rest =>
    intro blank
    refine filled first List.mem_cons_self ?_
    rw [trimSpace_eq_nil_iff] at blank ⊢
    intro c member
    refine blank c ?_
    cases rest with
    | nil => rwa [String.intercalate_singleton]
    | cons second rest =>
      rw [String.intercalate_cons_cons, String.toList_append, String.toList_append]
      exact List.mem_append_left _ (List.mem_append_left _ member)

theorem chatToolChoiceToResponses_readable {choice : Option Json} (readable : ReadableChoice choice) :
    ReadableChoice (chatToolChoiceToResponses choice) := by
  unfold chatToolChoiceToResponses
  split
  · dsimp only
    split
    · split_ifs
      · trivial
      · split
        · split
          · split_ifs <;> trivial
          · trivial
        · trivial
    · split
      · split_ifs <;> trivial
      · trivial
    · trivial
  · exact readable

theorem responsesRequestToolChoiceToChat_ok {choice : Option Json} (readable : ReadableChoice choice) :
    ∃ back, responsesRequestToolChoiceToChat text choice = .ok back := by
  match choice, readable with
  | none, _ => exact ⟨none, rfl⟩
  | some (.str _), _ => exact ⟨_, rfl⟩
  | some (.obj fields), _ =>
    simp only [responsesRequestToolChoiceToChat, rawJSONPresent]
    split_ifs <;> exact ⟨_, rfl⟩

theorem instructionTexts_filled {messages : List ChatMessage} : ∀ part ∈ instructionTexts messages, trimSpace part ≠ "" := by
  intro part member
  obtain ⟨listed, filled⟩ := List.mem_filter.mp member
  obtain ⟨message, _, rfl⟩ := List.mem_map.mp listed
  rw [trimSpace_trimSpace]
  exact of_decide_eq_true filled

theorem instructionMessages_instructionTexts (messages : List ChatMessage) :
    instructionMessages text (if (instructionTexts messages).isEmpty then none
      else some (.str ("\n\n".intercalate (instructionTexts messages)))) = preamble (instructionTexts messages) := by
  by_cases none : instructionTexts messages = []
  · rw [none]
    rfl
  · have listed : ¬ (instructionTexts messages).isEmpty = true := by simpa using none
    rw [if_neg listed, preamble, if_neg none]
    exact if_pos (intercalate_filled none instructionTexts_filled)

variable (text parseContent) in
def plainResponses (req : ChatRequest) : ResponsesRequest where
  model := req.model
  input := some (.arr ((req.messages.flatMap (messageItems text parseContent)).map .obj))
  instructions := if (instructionTexts req.messages).isEmpty then none
    else some (.str ("\n\n".intercalate (instructionTexts req.messages)))
  toolChoice := chatToolChoiceToResponses req.toolChoice

theorem plainResponses_eq {req : ChatRequest} (model : req.model ≠ "") (single : req.n.getD 1 ≤ 1)
    (plain : ∀ message ∈ req.messages, PlainMessage message) :
    chatCompletionsRequestToResponsesRequest text parseContent req = .ok (plainResponses text parseContent req) := by
  rw [chatCompletionsRequestToResponsesRequest, if_neg model, if_neg (by omega), messageInstructions_eq plain]
  rfl

theorem plainResponses_messages {req : ChatRequest} (plain : ∀ message ∈ req.messages, PlainMessage message)
    (placed : ∀ message ∈ req.messages, PlacedCalls message) :
    responsesRequestMessagesToChat text (plainResponses text parseContent req) =
      .ok (preamble (instructionTexts req.messages) ++
        (req.messages.filter fun message => message.role ≠ "system").map ChatMessage.returned) := by
  simp only [responsesRequestMessagesToChat, plainResponses, rawJSONPresent, decodeMaps_obj,
    instructionMessages_instructionTexts]
  exact messages_returned plain placed _

end

/-- The messages of a request that is converted to Responses and back. -/
def messagesThroughResponses (text : JsonText) (parseContent : Json → List ChatPart) (req : ChatRequest) :
    Except String (List ChatMessage) := do
  let responses ← chatCompletionsRequestToResponsesRequest text parseContent req
  let chat ← responsesRequestToChatCompletionsRequest text responses
  return chat.messages

/-- A request of plain text messages, with a model, at most one answer asked for and a
readable tool choice, comes back from its Responses form with its messages: first the
system texts as one message, then the others in order. -/
theorem chat_responses_round_trip (text : JsonText) (parseContent : Json → List ChatPart) (req : ChatRequest)
    (model : req.model ≠ "") (single : req.n.getD 1 ≤ 1) (choice : ReadableChoice req.toolChoice)
    (plain : ∀ message ∈ req.messages, PlainMessage message) (placed : ∀ message ∈ req.messages, PlacedCalls message) :
    messagesThroughResponses text parseContent req =
      .ok (preamble (instructionTexts req.messages) ++
        (req.messages.filter fun message => message.role ≠ "system").map ChatMessage.returned) := by
  obtain ⟨back, chosen⟩ := @responsesRequestToolChoiceToChat_ok text _ (chatToolChoiceToResponses_readable choice)
  have stateless : validateResponsesRequestChatUnsupportedFields (plainResponses text parseContent req) = .ok () := rfl
  have modelled : ¬ (plainResponses text parseContent req).model = "" := model
  have returned : responsesRequestToChatCompletionsRequest text (plainResponses text parseContent req) =
      .ok { model := req.model, toolChoice := back,
            messages := preamble (instructionTexts req.messages) ++
              (req.messages.filter fun message => message.role ≠ "system").map ChatMessage.returned } := by
    rw [responsesRequestToChatCompletionsRequest, if_neg modelled, stateless, plainResponses_messages plain placed,
      show (plainResponses text parseContent req).toolChoice = chatToolChoiceToResponses req.toolChoice from rfl, chosen]
    rfl
  rw [messagesThroughResponses, plainResponses_eq model single plain]
  exact congrArg (Except.map ChatRequest.messages) returned

/-- A question with a tool call and its answer, after a system text. -/
def weatherChat : ChatRequest where
  model := "gpt-5"
  messages :=
    [{ role := "system", content := some (.str " Be brief. ") },
     { role := "user", content := some (.str "Weather in Paris?") },
     { role := "assistant",
       toolCalls := [{ id := "call_1", type := "function", name := "weather", arguments := "Paris" }] },
     { role := "tool", content := some (.str "sunny"), toolCallId := "call_1" }]

theorem weatherChat_returned :
    messagesThroughResponses textsOnly (fun _ => []) weatherChat =
      .ok (preamble (instructionTexts weatherChat.messages) ++
        (weatherChat.messages.filter fun message => message.role ≠ "system").map ChatMessage.returned) := by
  refine chat_responses_round_trip textsOnly (fun _ => []) weatherChat (by decide) (by decide) trivial ?_ ?_
  · intro message member
    simp only [weatherChat, List.mem_cons, List.not_mem_nil, or_false] at member
    rcases member with rfl | rfl | rfl | rfl
    all_goals exact ⟨by decide, by simp [contentText], by decide, by decide, by decide⟩
  · intro message member
    simp only [weatherChat, List.mem_cons, List.not_mem_nil, or_false] at member
    rcases member with rfl | rfl | rfl | rfl
    all_goals exact ⟨by simp, by simp⟩

def userCall : ChatMessage where
  role := "user"
  content := some (.str "Hello")
  toolCalls := [{ id := "call_1", type := "function", name := "weather", arguments := "Paris" }]

/-- Plain messages that do not come back: without a model, with two answers asked for,
with a tool choice that is a number, and with a call or a call id on the user's message. -/
theorem plain_messages_lost :
    PlainMessage userCall ∧ PlainMessage { userCall with toolCalls := [] } ∧
      PlainMessage { userCall with toolCalls := [], toolCallId := "call_1" } ∧
      messagesThroughResponses textsOnly (fun _ => []) { model := "", messages := [{ userCall with toolCalls := [] }] } =
        .error "model is required" ∧
      messagesThroughResponses textsOnly (fun _ => [])
          { model := "gpt-5", n := some 2, messages := [{ userCall with toolCalls := [] }] } =
        .error "n>1 is not supported in responses compatibility mode" ∧
      messagesThroughResponses textsOnly (fun _ => [])
          { model := "gpt-5", toolChoice := some (.num 5), messages := [{ userCall with toolCalls := [] }] } =
        .error "invalid tool_choice: " ∧
      messagesThroughResponses textsOnly (fun _ => []) { model := "gpt-5", messages := [userCall] } =
        .ok [{ userCall with toolCalls := [] }] ∧
      messagesThroughResponses textsOnly (fun _ => [])
          { model := "gpt-5", messages := [{ userCall with toolCalls := [], toolCallId := "call_1" }] } =
        .ok [{ userCall with toolCalls := [] }] :=
  ⟨⟨by decide, .inr rfl, by decide, by decide, by decide⟩, ⟨by decide, .inr rfl, by decide, by decide, by decide⟩,
    ⟨by decide, .inr rfl, by decide, by decide, by decide⟩, rfl, rfl, rfl, rfl, rfl⟩

end LLMHub
