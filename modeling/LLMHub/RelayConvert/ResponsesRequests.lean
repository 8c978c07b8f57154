import LLMHub.Go.JsonTree

namespace LLMHub

open Go

/-- How decoded JSON values are written: `marshal` as JSON, `format` as fmt and
strconv print what is neither a text nor a flag, `decodeError` for the message of a
failed decoding. -/
structure JsonText where
  marshal : Json → String
  format : Json → String
  decodeError : Json → String

/-- A chat tool call. A custom call carries the item it was made from. -/
structure ChatToolCall where
  id : String := ""
  type : String
  name : String := ""
  arguments : String := ""
  custom : Option Json := none

/-- A chat message. Tool calls are kept decoded, `none` is a null content. -/
structure ChatMessage where
  role : String
  content : Option Json := none
  toolCalls : List ChatToolCall := []
  toolCallId : String := ""

/-- The fields of a chat request the conversions fail on or build messages from. -/
structure ChatRequest where
  model : String
  n : Option Int := none
  messages : List ChatMessage
  toolChoice : Option Json := none

structure ResponsesRequest where
  model : String
  input : Option Json := none
  instructions : Option Json := none
  toolChoice : Option Json := none
  conversation : Option Json := none
  previousResponseId : String := ""
  prompt : Option Json := none
  contextManagement : Option Json := none

/-- A content part of a chat message, as `ParseContent` reads it. -/
structure ChatPart where
  type : String
  text : String := ""
  imageUrl : Json := .null
  inputAudio : Json := .null
  file : Json := .null
  videoUrl : Json := .null

section
variable (text : JsonText)

def interface2String : Option Json → String
  | none | some .null => ""
  | some (.str s) => s
  | some (.bool true) => "true"
  | some (.bool false) => "false"
  | some value => text.format value

def getJsonType : Json → String
  | .null => "null"
  | .bool _ => "boolean"
  | .num _ => "number"
  | .str _ => "string"
  | .arr _ => "array"
  | .obj _ => "object"

/-- A raw field that is present and not null. -/
def rawJSONPresent : Option Json → Option Json
  | none | some .null => none
  | some value => some value

def responsesJSONString : Json → String
  | .str s => s
  | value => text.marshal value

def fieldText (item : List (String × Json)) (key : String) : String :=
  trimSpace (interface2String text (item.lookup key))

def pickFields (part : List (String × Json)) (keys : List String) : List (String × Json) :=
  keys.filterMap fun key => (part.lookup key).map fun value => (key, value)

def responsesMediaPart (part : List (String × Json)) (field : String) (keys : List String) : Json :=
  match part.lookup field with
  | some value => value
  | none => .obj (if (pickFields part keys).isEmpty then part else pickFields part keys)

def responsesImagePartToChatImageURL (part : List (String × Json)) : Json :=
  responsesMediaPart part "image_url" ["url", "file_id", "detail"]

def responsesFilePartToChatFile (part : List (String × Json)) : Json :=
  responsesMediaPart part "file" ["file_id", "file_data", "filename", "file_url"]

def responsesPartPayload (part : List (String × Json)) (key : String) : Json :=
  match part.lookup key with
  | some value => value
  | none => .obj (part.filter fun field => field.1 ≠ "type")

def responsesVideoPartToChatVideoURL (part : List (String × Json)) : Json :=
  match part.lookup "video_url" with
  | some (.obj videoURLMap) =>
    if interface2String text (videoURLMap.lookup "url") ≠ "" then .str (interface2String text (videoURLMap.lookup "url"))
    else .obj videoURLMap
  | some videoURL => videoURL
  | none =>
    if interface2String text (part.lookup "url") ≠ "" then .str (interface2String text (part.lookup "url"))
    else responsesPartPayload part "video_url"

/-- The chat part a Responses part becomes, with its text if it is a text part. -/
def responsesContentPart : Json → Json × Option String
  | .obj part =>
    let partType := fieldText text part "type"
    if partType = "input_text" ∨ partType = "output_text" ∨ partType = "text" then
      let value := interface2String text (part.lookup "text")
      (.obj [("type", .str "text"), ("text", .str value)], some value)
    else if partType = "input_image" then
      (.obj [("type", .str "image_url"), ("image_url", responsesImagePartToChatImageURL part)], none)
    else if partType = "input_file" then
      (.obj [("type", .str "file"), ("file", responsesFilePartToChatFile part)], none)
    else if partType = "input_audio" then
      (.obj [("type", .str "input_audio"), ("input_audio", responsesPartPayload part "input_audio")], none)
    else if partType = "input_video" then
      (.obj [("type", .str "video_url"), ("video_url", responsesVideoPartToChatVideoURL text part)], none)
    else (.obj part, none)
  | rawPart => (rawPart, none)

def responsesContentPartsToChatContent (parts : List Json) : Json :=
  let converted := parts.map (responsesContentPart text)
  if converted.all fun part => part.2.isSome then .str (String.join (converted.filterMap Prod.snd))
  else .arr (converted.map Prod.fst)

def responsesInputContentToChatContent : Option Json → Json
  | none | some .null => .str ""
  | some (.str value) => .str value
  | some (.arr parts) => responsesContentPartsToChatContent text parts
  | some content => content

def responsesCallID (item : List (String × Json)) : String :=
  if fieldText text item "call_id" ≠ "" then fieldText text item "call_id" else fieldText text item "id"

/-- Arguments and outputs as text: nothing for null, a text as it is, else its JSON. -/
def responsesArgumentsString : Option Json → String
  | none | some .null => ""
  | some (.str value) => value
  | some value => text.marshal value

def responseToolOutputToChatContent (value : Option Json) : Json := .str (responsesArgumentsString text value)

def responsesFunctionCallItemToChatToolCall (item : List (String × Json)) : Except String ChatToolCall :=
  if fieldText text item "name" = "" then .error "function_call item is missing name"
  else .ok
    { id := responsesCallID text item, type := "function", name := fieldText text item "name",
      arguments := responsesArgumentsString text (item.lookup "arguments") }

def responsesCustomToolCallItemToChatToolCall (item : List (String × Json)) : ChatToolCall :=
  { id := responsesCallID text item, type := "custom", name := fieldText text item "name",
    arguments := responsesArgumentsString text (item.lookup "input"), custom := some (.obj item) }

def appendToolCallToLastAssistant (messages : List ChatMessage) (toolCall : ChatToolCall) : List ChatMessage :=
  let messages :=
    if messages.getLast?.map ChatMessage.role = some "assistant" then messages else messages ++ [{ role := "assistant" }]
  messages.modify (messages.length - 1) fun message => { message with toolCalls := message.toolCalls ++ [toolCall] }

/-- The role of a message item, `user` where none is given. -/
def messageRole (item : List (String × Json)) : String :=
  if fieldText text item "role" = "" then "user" else fieldText text item "role"

def responsesInputItemToChatMessages (item : List (String × Json)) (messages : List ChatMessage) :
    Except String (List ChatMessage) :=
  match fieldText text item "type" with
  | "function_call" => do
    let toolCall ← responsesFunctionCallItemToChatToolCall text item
    return appendToolCallToLastAssistant messages toolCall
  | "custom_tool_call" =>
    .ok (appendToolCallToLastAssistant messages (responsesCustomToolCallItemToChatToolCall text item))
  | "function_call_output" =>
    .ok (messages ++ [{ role := "tool", toolCallId := fieldText text item "call_id",
                        content := some (responseToolOutputToChatContent text (item.lookup "output")) }])
  | _ =>
    .ok (messages ++ [{ role := messageRole text item,
                        content := some (responsesInputContentToChatContent text (item.lookup "content")) }])

/-- A list decoded as a list of objects, where a null becomes the empty one. -/
def decodeMaps : List Json → Option (List (List (String × Json)))
  | [] => some []
  | .obj item :: rest => (decodeMaps rest).map (item :: ·)
  | .null :: rest => (decodeMaps rest).map ([] :: ·)
  | _ :: _ => none

/-- The items, one after the other, onto the messages before them. -/
def inputItemsToChat : List (List (String × Json)) → List ChatMessage → Except String (List ChatMessage)
  | [], messages => .ok messages
  | item :: rest, messages => do
    let nextMessages ← responsesInputItemToChatMessages text item messages
    inputItemsToChat rest nextMessages

/-- The message the instructions become, if they are not blank. -/
def instructionMessages (instructions : Option Json) : List ChatMessage :=
  match rawJSONPresent instructions with
  | some value =>
    if trimSpace (responsesJSONString text value) ≠ "" then
      [{ role := "system", content := some (.str (responsesJSONString text value)) }]
    else []
  | none => []

def responsesRequestMessagesToChat (req : ResponsesRequest) : Except String (List ChatMessage) :=
  let messages := instructionMessages text req.instructions
  match rawJSONPresent req.input with
  | none => .ok messages
  | some (.str input) => .ok (messages ++ [{ role := "user", content := some (.str input) }])
  | some (.arr values) =>
    match decodeMaps values with
    | some items => inputItemsToChat text items messages
    | none => .error ("invalid input array: " ++ text.decodeError (.arr values))
  | some other => .error ("unsupported responses input type \"" ++ getJsonType other ++ "\"")

def validateResponsesRequestChatUnsupportedFields (req : ResponsesRequest) : Except String Unit :=
  let unsupported :=
    (if (rawJSONPresent req.conversation).isSome then ["conversation"] else []) ++
    (if trimSpace req.previousResponseId ≠ "" then ["previous_response_id"] else []) ++
    (if (rawJSONPresent req.prompt).isSome then ["prompt"] else []) ++
    (if (rawJSONPresent req.contextManagement).isSome then ["context_management"] else [])
  if unsupported.isEmpty then .ok ()
  else .error ("responses to chat conversion does not support stateful fields: " ++ ", ".intercalate unsupported)

def responsesRequestToolChoiceToChat (raw : Option Json) : Except String (Option Json) :=
  match rawJSONPresent raw with
  | none => .ok none
  | some (.str choice) => .ok (some (.str choice))
  | some (.obj choice) =>
    if interface2String text (choice.lookup "type") = "function" ∧ fieldText text choice "name" ≠ "" then
      .ok (some (.obj [("type", .str "function"), ("function", .obj [("name", .str (fieldText text choice "name"))])]))
    else .ok (some (.obj choice))
  | some other => .error ("invalid tool_choice: " ++ text.decodeError other)

def responsesRequestToChatCompletionsRequest (req : ResponsesRequest) : Except String ChatRequest := do
  if req.model = "" then throw "model is required"
  validateResponsesRequestChatUnsupportedFields req
  let messages ← responsesRequestMessagesToChat text req
  let toolChoice ← responsesRequestToolChoiceToChat text req.toolChoice
  return { model := req.model, messages, toolChoice }

end

section
variable (text : JsonText) (parseContent : Json → List ChatPart)

def normalizeChatImageURLToString : Json → Json
  | .obj image =>
    if interface2String text (image.lookup "url") ≠ "" then .str (interface2String text (image.lookup "url"))
    else .obj image
  | value => value

/-- The Responses part a chat part becomes in a message of the role. -/
def chatContentPart (role : String) (part : ChatPart) : Json :=
  match part.type with
  | "text" => .obj [("type", .str (if role = "assistant" then "output_text" else "input_text")), ("text", .str part.text)]
  | "image_url" => .obj [("type", .str "input_image"), ("image_url", normalizeChatImageURLToString text part.imageUrl)]
  | "input_audio" => .obj [("type", .str "input_audio"), ("input_audio", part.inputAudio)]
  | "file" => .obj [("type", .str "input_file"), ("file", part.file)]
  | "video_url" => .obj [("type", .str "input_video"), ("video_url", part.videoUrl)]
  | other => .obj [("type", .str other)]

def instructionText (content : Option Json) : String :=
  match content with
  | none => ""
  | some (.str s) => trimSpace s
  | some content =>
    trimSpace ("\n".intercalate ((parseContent content).filterMap fun part =>
      if part.type = "text" ∧ trimSpace part.text ≠ "" then some part.text else none))

/-- The function-call item of a tool call; calls that are no named function calls
with an id are left out. -/
def functionCallItem (call : ChatToolCall) : Option (List (String × Json)) :=
  if trimSpace call.id = "" then none
  else if call.type ≠ "" ∧ call.type ≠ "function" then none
  else if trimSpace call.name = "" then none
  else some [("type", .str "function_call"), ("call_id", .str call.id), ("name", .str (trimSpace call.name)),
    ("arguments", .str call.arguments)]

def messageItemContent (role : String) (content : Option Json) : Json :=
  match content with
  | none => .str ""
  | some (.str s) => .str s
  | some content => .arr ((parseContent content).map (chatContentPart text role))

def toolOutput : Option Json → String
  | none => ""
  | some (.str s) => s
  | some content => text.marshal content

def messageItems (msg : ChatMessage) : List (List (String × Json)) :=
  let role := trimSpace msg.role
  if role = "" then []
  else if role = "tool" ∨ role = "function" then
    if trimSpace msg.toolCallId = "" then
      [[("role", .str "user"), ("content", .str ("[tool_output_missing_call_id] " ++ toolOutput text msg.content))]]
    else [[("type", .str "function_call_output"), ("call_id", .str (trimSpace msg.toolCallId)),
           ("output", .str (toolOutput text msg.content))]]
  else if role = "system" ∨ role = "developer" then []
  else
    [("role", .str role), ("content", messageItemContent text parseContent role msg.content)] ::
      if role = "assistant" then msg.toolCalls.filterMap functionCallItem else []

def messageInstructions (msg : ChatMessage) : List String :=
  let role := trimSpace msg.role
  if role = "system" ∨ role = "developer" then
    if instructionText parseContent msg.content = "" then [] else [instructionText parseContent msg.content]
  else []

/-- A function choice as Responses writes it: with the name at the top. -/
def chatToolChoiceToResponses : Option Json → Option Json
  | some (.obj choice) =>
    let named (name : String) : Json := .obj [("type", .str "function"), ("name", .str name)]
    match choice.lookup "type", choice.lookup "name", choice.lookup "function" with
    | some (.str "function"), some (.str name), function =>
      if name ≠ "" then some (named name)
      else match function with
        | some (.obj fn) =>
          match fn.lookup "name" with
          | some (.str inner) => if inner ≠ "" then some (named inner) else some (.obj choice)
          | _ => some (.obj choice)
        | _ => some (.obj choice)
    | some (.str "function"), _, some (.obj fn) =>
      match fn.lookup "name" with
      | some (.str inner) => if inner ≠ "" then some (named inner) else some (.obj choice)
      | _ => some (.obj choice)
    | _, _, _ => some (.obj choice)
  | choice => choice

def chatCompletionsRequestToResponsesRequest (req : ChatRequest) : Except String ResponsesRequest := do
  if req.model = "" then throw "model is required"
  if req.n.getD 1 > 1 then throw "n>1 is not supported in responses compatibility mode"
  let inputItems := req.messages.flatMap (messageItems text parseContent)
  let instructionsParts := req.messages.flatMap (messageInstructions parseContent)
  return {
    model := req.model
    input := some (.arr (inputItems.map .obj))
    instructions := if instructionsParts.isEmpty then none else some (.str ("\n\n".intercalate instructionsParts))
    toolChoice := chatToolChoiceToResponses req.toolChoice }

end

end LLMHub
