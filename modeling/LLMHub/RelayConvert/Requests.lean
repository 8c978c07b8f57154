import LLMHub.Go.Json

namespace LLMHub

inductive ChatRole
  | system
  | user
  | assistant
  | tool
  | other (name : String)
  deriving DecidableEq, Repr

/-- A part of a list content. -/
inductive MediaContent
  | text (text : String)
  | imageUrl (url : String) (mimeType : String := "")
  | inputAudio (data format : String)
  | file (fileData : String)
  | videoUrl (url : String)
  deriving DecidableEq, Repr

inductive ChatContent
  | null
  | string (text : String)
  | media (parts : List MediaContent)
  deriving DecidableEq, Repr

structure ToolCallRequest where
  id : String
  name : String
  arguments : String
  deriving DecidableEq, Repr

/-- A message of a chat request. `toolCalls` is nothing where the source has no
raw value. -/
structure Message where
  role : ChatRole
  content : ChatContent := .null
  name : Option String := none
  toolCalls : Option (List ToolCallRequest) := none
  toolCallId : String := ""
  deriving DecidableEq, Repr

namespace Message

def parseContent (m : Message) : List MediaContent :=
  match m.content with
  | .null => []
  | .string text => [.text text]
  | .media parts => parts

end Message

structure ClaudeMessageSource where
  type : String
  mediaType : String := ""
  data : Option String := none
  url : String := ""
  deriving DecidableEq, Repr

/-- A content block. `Object` are the inputs of tools, `Result` the contents of
tool results. -/
inductive ClaudeMediaMessage (Object Result : Type)
  | text (text : String)
  | image (source : ClaudeMessageSource)
  | document (source : ClaudeMessageSource)
  | toolUse (id name : String) (input : Object)
  | toolResult (toolUseId name : String) (content : Result)
  | other (type : String)
  deriving DecidableEq, Repr

inductive ClaudeContent (Object Result : Type)
  | string (text : String)
  | blocks (content : List (ClaudeMediaMessage Object Result))
  deriving DecidableEq, Repr

structure ClaudeInputMessage (Object Result : Type) where
  role : ChatRole
  content : ClaudeContent Object Result
  deriving DecidableEq, Repr

namespace ClaudeMediaMessage

variable {Object Result : Type}

def text? : ClaudeMediaMessage Object Result → Option String
  | .text value => some value
  | _ => none

end ClaudeMediaMessage

end LLMHub
