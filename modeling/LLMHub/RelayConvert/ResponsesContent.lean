import LLMHub.RelayConvert.ResponsesRequests

namespace LLMHub

open Go

section Readings
variable (text : JsonText)

/-- The text a field is printed as, nothing if it is missing. -/
def Prints : Option Json → String → Prop
  | none, printed | some .null, printed => printed = ""
  | some (.str value), printed => printed = value
  | some (.bool flag), printed => printed = toString flag
  | some value, printed => printed = text.format value

/-- The text a value is handed on as: its own, or else its JSON. -/
def WrittenAs : Option Json → String → Prop
  | none, written | some .null, written => written = ""
  | some (.str value), written => written = value
  | some value, written => written = text.marshal value

/-- The printed text of a field without the space around it. -/
def Names (item : List (String × Json)) (key name : String) : Prop :=
  ∃ printed, Prints text (item.lookup key) printed ∧ name = trimSpace printed

/-- The payload of a media part, whose own field is `main`, has one of the part's
fields: under its key, or by being the field's value or address. -/
def HasField (main : String) (payload : Json) (key : String) (value : Json) : Prop :=
  payload.child key = some value ∨ (key = main ∧ (payload = value ∨ value = .obj [("url", payload)])) ∨
    (key = "url" ∧ ∃ address, payload = .str address ∧ value = .str address)

/-- The payload has every field of the part beside its type. -/
def HoldsFields (part : List (String × Json)) (main : String) (payload : Json) : Prop :=
  ∀ key value, part.lookup key = some value → key ≠ "type" → HasField main payload key value

def IsText (part : Json) (value : String) : Prop :=
  ∃ fields, part = .obj fields ∧ (∃ type ∈ ["input_text", "output_text", "text"], Names text fields "type" type) ∧
    Prints text (fields.lookup "text") value

/-- The chat types of the media parts. -/
def chatMediaTypes : List (String × String) :=
  [("input_image", "image_url"), ("input_file", "file"), ("input_audio", "input_audio"), ("input_video", "video_url")]

/-- A chat part says what a Responses part says: the text, all fields of a media
part, or the very value. -/
def SamePart (part chat : Json) : Prop :=
  (∃ value, IsText text part value ∧ chat = .obj [("type", .str "text"), ("text", .str value)]) ∨
  (∃ fields type main payload, part = .obj fields ∧ Names text fields "type" type ∧ chatMediaTypes.lookup type = some main ∧
    chat = .obj [("type", .str main), (main, payload)] ∧ HoldsFields fields main payload) ∨
  (chat = part ∧ ∀ fields type, part = .obj fields → Names text fields "type" type →
    type ∉ ["input_text", "output_text", "text"] ∧ chatMediaTypes.lookup type = none)

/-- A chat content says what a Responses content says. A list of texts may be one
text. -/
def SameContent : Option Json → Json → Prop
  | none, chat | some .null, chat => chat = .str ""
  | some (.arr parts), chat =>
    (∃ texts, chat = .str (String.join texts) ∧ List.Forall₂ (IsText text) parts texts) ∨
      ∃ chatParts, chat = .arr chatParts ∧ List.Forall₂ (SamePart text) parts chatParts
  | some content, chat => chat = content

/-- Of the fields beside the type there are only listed ones, or no listed one. -/
def ListedOnly (part : List (String × Json)) (keys : List String) : Prop :=
  (∀ key ∈ keys, part.lookup key = none) ∨ ∀ key value, part.lookup key = some value → key = "type" ∨ key ∈ keys

/-- A video part that is no more than its address, if it has one. -/
def VideoWhole (part : List (String × Json)) : Prop :=
  (part.lookup "video_url").elim
    (interface2String text (part.lookup "url") = "" ∨ ∀ key value, part.lookup key = some value →
      key = "type" ∨ (key = "url" ∧ ∃ address, value = .str address))
    fun held => HoldsFields part "video_url" held ∧ ∀ fields, held = .obj fields →
      interface2String text (fields.lookup "url") = "" ∨ ∃ address, fields = [("url", .str address)]

/-- A part of which the conversion keeps every field. -/
def PartWhole : Json → Prop
  | .obj part =>
    match fieldText text part "type" with
    | "input_image" =>
      (part.lookup "image_url").elim (ListedOnly part ["url", "file_id", "detail"]) (HoldsFields part "image_url")
    | "input_file" =>
      (part.lookup "file").elim (ListedOnly part ["file_id", "file_data", "filename", "file_url"])
        (HoldsFields part "file")
    | "input_audio" => (part.lookup "input_audio").elim True (HoldsFields part "input_audio")
    | "input_video" => VideoWhole text part
    | _ => True
  | _ => True

end Readings

section
variable {text : JsonText}

theorem prints_iff {value : Option Json} {printed : String} : Prints text value printed ↔ printed = interface2String text value := by
  rcases value with _ | (_ | (_ | _) | _ | _ | _ | _) <;> exact Iff.rfl

theorem writtenAs_iff {value : Option Json} {written : String} :
    WrittenAs text value written ↔ written = responsesArgumentsString text value := by
  rcases value with _ | (_ | _ | _ | _ | _ | _) <;> exact Iff.rfl

theorem names_iff {item : List (String × Json)} {key name : String} : Names text item key name ↔ name = fieldText text item key := by
  simp [Names, prints_iff, fieldText]

theorem lookup_pickFields (part : List (String × Json)) (keys : List String) (key : String) :
    (pickFields part keys).lookup key = if key ∈ keys then part.lookup key else none := by
  induction keys with
  | nil => rfl
  | cons first rest ih =>
    have tail : pickFields part (first :: rest) =
        ((part.lookup first).map fun value => (first, value)).toList ++ pickFields part rest := by
      simp only [pickFields, List.filterMap_cons]
      cases part.lookup first <;> rfl
    rw [tail]
    by_cases here : key = first
    · subst here
      cases found : part.lookup key <;> simp [ih, found]
    · cases part.lookup first <;> simp [ih, here, List.lookup_cons, beq_false_of_ne here]

variable {part fields : List (String × Json)} {main : String}

/-- The payload of a part keeps every field if it is an object with them. -/
theorem hasField_obj_iff (absent : part.lookup main = none) :
    HoldsFields part main (.obj fields) ↔
      ∀ key value, part.lookup key = some value → key ≠ "type" → fields.lookup key = some value := by
  refine forall₃_congr fun key value found => forall_congr' fun _ => ?_
  have other : key ≠ main := by
    rintro rfl
    simp [absent] at found
  simp [HasField, Json.child, other]

theorem mediaPart_iff {keys : List String} :
    HoldsFields part main (responsesMediaPart part main keys) ↔
      (part.lookup main).elim (ListedOnly part keys) (HoldsFields part main) := by
  unfold responsesMediaPart
  cases absent : part.lookup main with
  | some value => exact Iff.rfl
  | none =>
    rw [Option.elim_none, ListedOnly, hasField_obj_iff absent]
    by_cases unlisted : ∀ key ∈ keys, part.lookup key = none
    · have empty : pickFields part keys = [] := by simpa [pickFields] using unlisted
      rw [empty]
      exact iff_of_true (fun _ _ found _ => found) (.inl unlisted)
    · have some_ : pickFields part keys ≠ [] := by simpa [pickFields] using unlisted
      simp only [List.isEmpty_iff, if_neg some_, lookup_pickFields, or_iff_right unlisted]
      refine forall₃_congr fun key value found => ?_
      simp [found, or_iff_not_imp_left]

theorem partPayload_iff :
    HoldsFields part main (responsesPartPayload part main) ↔ (part.lookup main).elim True (HoldsFields part main) := by
  unfold responsesPartPayload
  cases absent : part.lookup main with
  | some value => exact Iff.rfl
  | none =>
    rw [Option.elim_none, hasField_obj_iff absent, iff_true]
    intro key value found other
    rw [lookup_filter_ne part other, found]

/-- An object of an address alone holds what the address does. -/
theorem holdsFields_address {address : String} (main : part.lookup "video_url" = some (.obj [("url", .str address)])) :
    HoldsFields part "video_url" (.str address) ↔ HoldsFields part "video_url" (.obj [("url", .str address)]) := by
  refine forall₃_congr fun key value found => forall_congr' fun _ => ?_
  by_cases own : key = "video_url"
  · rw [own, main] at found
    cases found
    exact iff_of_true (.inr (.inl ⟨own, .inr rfl⟩)) (.inr (.inl ⟨own, .inl rfl⟩))
  · by_cases url : key = "url"
    · simp [HasField, Json.child, url, eq_comm]
    · simp [HasField, Json.child, own, url, List.lookup_cons, beq_false_of_ne url]

theorem videoPart_iff :
    HoldsFields part "video_url" (responsesVideoPartToChatVideoURL text part) ↔ VideoWhole text part := by
  unfold responsesVideoPartToChatVideoURL VideoWhole
  cases main : part.lookup "video_url" with
  | none =>
    rw [Option.elim_none]
    by_cases blank : interface2String text (part.lookup "url") = ""
    · have whole := @partPayload_iff part "video_url"
      rw [main] at whole
      simp only [blank, ne_eq, not_true_eq_false, if_false, true_or, iff_true]
      exact whole.mpr trivial
    · simp only [ne_eq, blank, not_false_eq_true, if_true, false_or]
      refine forall₃_congr fun key value found => ?_
      have other : key ≠ "video_url" := by
        rintro rfl
        simp [main] at found
      have address : HasField "video_url" (.str (interface2String text (part.lookup "url"))) key value ↔
          key = "url" ∧ ∃ address, value = .str address := by
        simp only [HasField, Json.child, other, reduceCtorEq, false_and, false_or]
        refine and_congr_right fun url => exists_congr fun address => and_iff_right_of_imp ?_
        rintro rfl
        rw [← url, found]
        rfl
      rw [address, or_iff_not_imp_left]
  | some held =>
    rw [Option.elim_some]
    cases held with
    | obj fields =>
      by_cases blank : interface2String text (fields.lookup "url") = ""
      · simp [blank, HoldsFields]
      · simp only [ne_eq, blank, not_false_eq_true, if_true, Json.obj.injEq, forall_eq', false_or]
        constructor
        · intro whole
          -- The address alone has the main field only if that holds nothing else.
          have single : ∃ address, fields = [("url", .str address)] := by
            have given := whole "video_url" _ main (by decide)
            simp only [HasField, Json.child, reduceCtorEq, false_or, Json.obj.injEq, true_and] at given
            simp at given
            exact ⟨_, given⟩
          refine ⟨?_, single⟩
          obtain ⟨address, rfl⟩ := single
          exact (holdsFields_address main).mp whole
        · rintro ⟨holds, address, rfl⟩
          exact (holdsFields_address main).mpr holds
    | _ => simp [HoldsFields]

theorem isText_iff {value : String} :
    IsText text (.obj fields) value ↔ fieldText text fields "type" ∈ ["input_text", "output_text", "text"] ∧
      value = interface2String text (fields.lookup "text") := by
  simp [IsText, names_iff, prints_iff]

theorem partWhole_of_text {part : Json} {value : String} (isText : IsText text part value) : PartWhole text part := by
  obtain ⟨fields, rfl, -⟩ := id isText
  have type := (isText_iff.mp isText).1
  simp only [List.mem_cons, List.not_mem_nil, or_false] at type
  rcases type with type | type | type <;> simp [PartWhole, type]

/-- Of a media part, the fields decide. -/
theorem samePart_media_iff {payload : Json} (media : chatMediaTypes.lookup (fieldText text fields "type") = some main) :
    SamePart text (.obj fields) (.obj [("type", .str main), (main, payload)]) ↔ HoldsFields fields main payload := by
  constructor
  · rintro (⟨value, isText, -⟩ | ⟨fields', type, main', payload', same, named, media', chat, whole⟩ | ⟨-, other⟩)
    · have none_ : ∀ type ∈ ["input_text", "output_text", "text"], chatMediaTypes.lookup type = none := by decide
      rw [none_ _ (isText_iff.mp isText).1] at media
      cases media
    · cases same
      rw [names_iff.mp named, media] at media'
      cases media'
      simp only [Json.obj.injEq, List.cons.injEq, Prod.mk.injEq, true_and, and_true] at chat
      rwa [chat]
    · rw [(other fields _ rfl (names_iff.mpr rfl)).2] at media
      cases media
  · exact fun whole => .inr (.inl ⟨fields, _, main, payload, rfl, names_iff.mpr rfl, media, rfl, whole⟩)

theorem contentPart_text_iff {part : Json} {value : String} :
    (responsesContentPart text part).2 = some value ↔ IsText text part value := by
  cases part with
  | obj fields =>
    rw [isText_iff, responsesContentPart]
    simp only [List.mem_cons, List.not_mem_nil, or_false]
    by_cases isText : fieldText text fields "type" = "input_text" ∨ fieldText text fields "type" = "output_text" ∨
        fieldText text fields "type" = "text"
    · rw [if_pos isText, and_iff_right isText, Option.some.injEq, eq_comm]
    · rw [if_neg isText]
      split_ifs <;> simp [isText]
  | _ => simp [responsesContentPart, IsText]

theorem samePart_iff (part : Json) : SamePart text part (responsesContentPart text part).1 ↔ PartWhole text part := by
  cases part with
  | obj fields =>
    simp only [responsesContentPart]
    by_cases isText : fieldText text fields "type" = "input_text" ∨ fieldText text fields "type" = "output_text" ∨
        fieldText text fields "type" = "text"
    · have read : IsText text (.obj fields) _ := isText_iff.mpr ⟨by simpa using isText, rfl⟩
      rw [if_pos isText]
      exact iff_of_true (.inl ⟨_, read, rfl⟩) (partWhole_of_text read)
    · rw [if_neg isText, PartWhole]
      by_cases image : fieldText text fields "type" = "input_image"
      · rw [if_pos image, samePart_media_iff (by rw [image]; rfl), image]
        exact mediaPart_iff
      by_cases file : fieldText text fields "type" = "input_file"
      · rw [if_neg image, if_pos file, samePart_media_iff (by rw [file]; rfl), file]
        exact mediaPart_iff
      by_cases audio : fieldText text fields "type" = "input_audio"
      · rw [if_neg image, if_neg file, if_pos audio, samePart_media_iff (by rw [audio]; rfl), audio]
        exact partPayload_iff
      by_cases video : fieldText text fields "type" = "input_video"
      · rw [if_neg image, if_neg file, if_neg audio, if_pos video, samePart_media_iff (by rw [video]; rfl), video]
        exact videoPart_iff
      rw [if_neg image, if_neg file, if_neg audio, if_neg video]
      refine iff_of_true (.inr (.inr ⟨rfl, ?_⟩)) (by split <;> simp_all)
      rintro _ type ⟨⟩ named
      rw [names_iff.mp named]
      exact ⟨by simpa using isText, by
        simp [chatMediaTypes, List.lookup_cons, beq_false_of_ne image, beq_false_of_ne file, beq_false_of_ne audio,
          beq_false_of_ne video]⟩
  | _ => simp [responsesContentPart, PartWhole, SamePart, IsText]

theorem sameContent_iff (content : Option Json) :
    SameContent text content (responsesInputContentToChatContent text content) ↔
      ∀ parts, content = some (.arr parts) → ∀ part ∈ parts, PartWhole text part := by
  rcases content with _ | (_ | _ | _ | _ | parts | _)
  case some.arr =>
    simp only [SameContent, responsesInputContentToChatContent, responsesContentPartsToChatContent, Option.some.injEq,
      Json.arr.injEq, forall_eq']
    split
    · rename_i texts
      have isText : ∀ part ∈ parts, IsText text part ((responsesContentPart text part).2.getD "") := by
        intro part member
        obtain ⟨value, read⟩ := Option.isSome_iff_exists.mp
          (List.all_eq_true.mp texts _ (List.mem_map_of_mem member))
        rw [read]
        exact contentPart_text_iff.mp read
      refine iff_of_true (.inl ⟨_, rfl, ?_⟩) fun part member => ?_
      · have read : parts.filterMap (Prod.snd ∘ responsesContentPart text) = _ :=
          List.filterMap_eq_map_iff_forall_eq_some.mpr fun part member => contentPart_text_iff.mpr (isText part member)
        rw [List.filterMap_map, read, List.forall₂_map_right_iff, List.forall₂_same]
        exact isText
      · exact partWhole_of_text (isText part member)
    · rename_i mixed
      simp only [reduceCtorEq, false_and, exists_false, false_or, Json.arr.injEq, exists_eq_left', List.map_map,
        List.forall₂_map_right_iff, List.forall₂_same]
      exact forall₂_congr fun part _ => samePart_iff part
  all_goals simp [SameContent, responsesInputContentToChatContent]

end

end LLMHub
