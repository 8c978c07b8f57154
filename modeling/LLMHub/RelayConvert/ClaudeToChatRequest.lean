import LLMHub.Go.Entries
import LLMHub.RelayConvert.Requests

namespace LLMHub

/-- The content of a tool result. `Nested` are the blocks of a list. -/
inductive ClaudeResultContent (Nested : Type)
  | null
  | string (text : String)
  | media (content : List Nested)
  deriving DecidableEq, Repr

/-- The encoding of the lists, of which nil is null. -/
structure NestedTexts (Nested : Type) extends Go.JsonTexts (Option (List Nested)) where
  null : marshal none = "null"

/-- The text of a result that is not a string is the encoding of its parsed list,
which is nil for nothing. -/
def ClaudeResultContent.text {Nested : Type} (nested : NestedTexts Nested) : ClaudeResultContent Nested → String
  | .null => nested.marshal none
  | .string text => text
  | .media content => nested.marshal (some content)

/-- The data of an image as a URL. Data that are nil are printed by the format
verb as such. -/
def ClaudeMessageSource.imageData (source : ClaudeMessageSource) : String :=
  "data:" ++ source.mediaType ++ ";base64," ++ source.data.getD "%!s(<nil>)"

namespace ClaudeMediaMessage

variable {Object Result : Type}

/-- The id of a block, which only a tool use has. -/
def id : ClaudeMediaMessage Object Result → String
  | .toolUse id _ _ => id
  | _ => ""

def name : ClaudeMediaMessage Object Result → String
  | .toolUse _ name _ => name
  | .toolResult _ name _ => name
  | _ => ""

end ClaudeMediaMessage

/-- The parsed blocks of a content. A string is no list. -/
def ClaudeContent.parseContent {Object Result : Type} :
    ClaudeContent Object Result → List (ClaudeMediaMessage Object Result)
  | .string _ => []
  | .blocks content => content

structure ClaudeRequest (Object Nested : Type) where
  system : Option (ClaudeContent Object (ClaudeResultContent Nested)) := none
  messages : List (ClaudeInputMessage Object (ClaudeResultContent Nested))
  deriving DecidableEq, Repr

section Convert

variable {Object Nested : Type}

def ClaudeRequest.searchToolNameByToolCallId (request : ClaudeRequest Object Nested) (toolCallId : String) : String :=
  match (request.messages.flatMap fun m => m.content.parseContent).find? fun block => block.id = toolCallId with
  | some block => block.name
  | none => ""

/-- What the blocks of a message have been turned into: the chat messages so far,
and the calls and the parts of the message's own. -/
structure ChatBuild where
  openAIMessages : List Message
  toolCalls : List ToolCallRequest := []
  mediaMessages : List MediaContent := []
  deriving DecidableEq, Repr

variable (json : Go.JsonTexts Object) (nested : NestedTexts Nested)

/-- One block of a list content. -/
def ChatBuild.step (request : ClaudeRequest Object Nested) (s : ChatBuild) :
    ClaudeMediaMessage Object (ClaudeResultContent Nested) → ChatBuild
  | .text text => { s with mediaMessages := s.mediaMessages ++ [.text text] }
  | .image source => { s with mediaMessages := s.mediaMessages ++ [.imageUrl source.imageData] }
  | .toolUse id name input => { s with toolCalls := s.toolCalls ++ [⟨id, name, json.marshal input⟩] }
  | .toolResult toolUseId name content =>
    let toolName := if name = "" then request.searchToolNameByToolCallId toolUseId else name
    { s with openAIMessages := s.openAIMessages ++
        [{ role := .tool, name := some toolName, toolCallId := toolUseId, content := .string (content.text nested) }] }
  | .document _ => s
  | .other _ => s

/-- The message's own chat message. Its parts are set only if it has no calls. -/
def ChatBuild.message (s : ChatBuild) (role : ChatRole) : Message where
  role := role
  content := if s.mediaMessages.length > 0 ∧ s.toolCalls.length = 0 then .media s.mediaMessages else .null
  toolCalls := if s.toolCalls.length > 0 then some s.toolCalls else none

/-- A chat message is added if it has a content or calls. -/
def appendMessage (openAIMessages : List Message) (message : Message) : List Message :=
  if message.parseContent.length > 0 ∨ message.toolCalls.isSome then openAIMessages ++ [message] else openAIMessages

def convertMessage (request : ClaudeRequest Object Nested) (openAIMessages : List Message)
    (m : ClaudeInputMessage Object (ClaudeResultContent Nested)) : List Message :=
  match m.content with
  | .string text => appendMessage openAIMessages { role := m.role, content := .string text }
  | .blocks content =>
    let s := content.foldl (ChatBuild.step json nested request) { openAIMessages := openAIMessages }
    appendMessage s.openAIMessages (s.message m.role)

end Convert

def MediaContent.text? : MediaContent → Option String
  | .text value => some value
  | _ => none

section Blocks

variable {β : Type}

/-- The parts of one kind in the user's and the assistant's messages, each with
its role. -/
def chatParts (kind : MediaContent → Option β) (messages : List Message) : List (ChatRole × β) :=
  messages.flatMap fun m =>
    if m.role = .user ∨ m.role = .assistant then (m.parseContent.filterMap kind).map fun part => (m.role, part) else []

variable {Object Result : Type}

end Blocks

section Keeps

variable {Object Nested : Type} (json : Go.JsonTexts Object) (nested : NestedTexts Nested)

end Keeps

namespace ClaudeMediaMessage

variable {Object Nested : Type} (nested : NestedTexts Nested)

end ClaudeMediaMessage

section Sent

variable {Object Nested : Type} {json : Go.JsonTexts Object} {nested : NestedTexts Nested}
  {request : ClaudeRequest Object Nested}

def sent (json : Go.JsonTexts Object) (nested : NestedTexts Nested) (request : ClaudeRequest Object Nested)
    (m : ClaudeInputMessage Object (ClaudeResultContent Nested)) : List Message :=
  convertMessage json nested request [] m

variable (isOpenRouterClaude : Bool) (before : List Message)
  (m : ClaudeInputMessage Object (ClaudeResultContent Nested))

end Sent

end LLMHub
