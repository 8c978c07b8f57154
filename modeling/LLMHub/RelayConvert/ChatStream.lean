namespace LLMHub

/-- Payload text; the converters cut it by bytes. -/
abbrev Bytes := List UInt8

structure FunctionResponse where
  name : String := ""
  arguments : Bytes := []
  deriving DecidableEq, Repr

structure ToolCallResponse where
  index : Option Int := none
  id : String := ""
  function : FunctionResponse := {}
  deriving DecidableEq, Repr

structure ChatCompletionsStreamResponseChoiceDelta where
  content : Option Bytes := none
  reasoningContent : Option Bytes := none
  reasoning : Option Bytes := none
  role : String := ""
  toolCalls : List ToolCallResponse := []
  deriving DecidableEq, Repr

structure ChatCompletionsStreamResponseChoice where
  delta : ChatCompletionsStreamResponseChoiceDelta := {}
  finishReason : Option String := none
  index : Int := 0
  deriving DecidableEq, Repr

structure InputTokenDetails where
  cachedTokens : Int := 0
  cachedCreationTokens : Int := 0
  cacheWriteTokens : Int := 0
  deriving DecidableEq, Repr

/-- Cache writes under whichever name the upstream reported them, never negative. -/
def InputTokenDetails.cacheCreationTokensTotal (d : InputTokenDetails) : Int :=
  let total := if d.cacheWriteTokens > d.cachedCreationTokens then d.cacheWriteTokens else d.cachedCreationTokens
  if total < 0 then 0 else total

structure Usage where
  promptTokens : Int := 0
  completionTokens : Int := 0
  totalTokens : Int := 0
  promptTokensDetails : InputTokenDetails := {}
  inputTokens : Int := 0
  outputTokens : Int := 0
  inputTokensDetails : Option InputTokenDetails := none
  claudeCacheCreation5mTokens : Int := 0
  claudeCacheCreation1hTokens : Int := 0
  deriving DecidableEq, Repr

structure ChatCompletionsStreamResponse where
  id : String := ""
  created : Int := 0
  model : String := ""
  choices : List ChatCompletionsStreamResponseChoice := []
  usage : Option Usage := none
  deriving DecidableEq, Repr

namespace ChatCompletionsStreamResponseChoiceDelta

def getContentString (c : ChatCompletionsStreamResponseChoiceDelta) : Bytes := c.content.getD []

def getReasoningContent (c : ChatCompletionsStreamResponseChoiceDelta) : Bytes :=
  match c.reasoningContent, c.reasoning with
  | some text, _ => text
  | none, some text => text
  | none, none => []

end ChatCompletionsStreamResponseChoiceDelta

namespace ChatCompletionsStreamResponseChoice

def finished (choice : ChatCompletionsStreamResponseChoice) : Bool :=
  match choice.finishReason with
  | some reason => reason ≠ ""
  | none => false

end ChatCompletionsStreamResponseChoice

end LLMHub
