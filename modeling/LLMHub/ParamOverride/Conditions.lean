import LLMHub.Go.JsonTree
import LLMHub.Go.Occurrence
import LLMHub.Go.Strconv

namespace LLMHub

open Go (Json JsonPaths)

/-- The index that `\.(-\d+)` matches at the start of the text. -/
def negativeIndexAt : List Char → Option (List Char)
  | '.' :: '-' :: rest =>
    let digits := rest.takeWhile Char.isDigit
    if digits.isEmpty then none else some ('-' :: digits)
  | _ => none

/-- The indexes of all matches. Only a dot starts one, and a match has no second dot. -/
def negativeIndexes : List Char → List (List Char)
  | [] => []
  | c :: rest => (negativeIndexAt (c :: rest)).toList ++ negativeIndexes rest

/-- The lookup is by the text of the whole path before the index's first
occurrence, whatever was replaced already. -/
def negativeIndexArrayPath (path negIndex : List Char) : List Char :=
  let arrayPath := Go.before negIndex path
  if arrayPath.getLast? = some '.' then arrayPath.dropLast else arrayPath

def replaceNegativeIndex (paths : JsonPaths) (data : Json) (path result negIndex : List Char) : List Char :=
  match paths.get data (String.ofList (negativeIndexArrayPath path negIndex)) with
  | some (.arr items) =>
    let actualIndex := items.length + (Go.parseInt (String.ofList negIndex)).value
    if 0 ≤ actualIndex ∧ actualIndex < items.length then
      Go.replaceFirst ('.' :: negIndex) ('.' :: (toString actualIndex).toList) result
    else result
  | _ => result

def processNegativeIndex (paths : JsonPaths) (data : Json) (path : String) : String :=
  String.ofList ((negativeIndexes path.toList).foldl (replaceNegativeIndex paths data path.toList) path.toList)

structure ConditionOperation where
  path : String
  mode : String
  value : Json
  invert : Bool := false
  passMissingKey : Bool := false

inductive JsonType
  | null
  | false
  | number
  | string
  | true
  | json
  deriving DecidableEq, Repr

def JsonType.name : JsonType → String
  | .null => "Null"
  | .false => "False"
  | .number => "Number"
  | .string => "String"
  | .true => "True"
  | .json => "JSON"

def jsonType : Json → JsonType
  | .null => .null
  | .bool b => if b then .true else .false
  | .num _ => .number
  | .str _ => .string
  | .arr _ | .obj _ => .json

/-- Null equals null only, booleans compare with each other, and any other two
types are an error. -/
def compareEqual (paths : JsonPaths) : Json → Json → Except String Bool
  | .null, .null => .ok true
  | .null, _ | _, .null => .ok false
  | .bool b, .bool target => .ok (b == target)
  | .num n, .num target => .ok (n == target)
  | jsonValue, targetValue =>
    if jsonType jsonValue ≠ jsonType targetValue then
      .error s!"compare for different types, got {(jsonType jsonValue).name} and {(jsonType targetValue).name}"
    else .ok (paths.text jsonValue == paths.text targetValue)

def compareNumeric (holds : ℚ → ℚ → Bool) : Json → Json → Except String Bool
  | .num n, .num target => .ok (holds n target)
  | jsonValue, targetValue =>
    .error s!"numeric comparison requires both values to be numbers, got {(jsonType jsonValue).name} and {(jsonType targetValue).name}"

def compareGjsonValues (paths : JsonPaths) (jsonValue targetValue : Json) (mode : String) : Except String Bool :=
  match mode with
  | "full" => compareEqual paths jsonValue targetValue
  | "prefix" => .ok (Go.startsWith (paths.text jsonValue) (paths.text targetValue))
  | "suffix" => .ok (Go.endsWith (paths.text jsonValue) (paths.text targetValue))
  | "contains" => .ok (Go.contains (paths.text jsonValue) (paths.text targetValue))
  | "gt" => compareNumeric (· > ·) jsonValue targetValue
  | "gte" => compareNumeric (· ≥ ·) jsonValue targetValue
  | "lt" => compareNumeric (· < ·) jsonValue targetValue
  | "lte" => compareNumeric (· ≤ ·) jsonValue targetValue
  | _ => .error s!"unsupported comparison mode: {mode}"

/-- A key the document does not have is looked up in the context, if there is one. -/
def checkSingleCondition (paths : JsonPaths) (data : Json) (context : Option Json) (condition : ConditionOperation) :
    Except String Bool :=
  let value := (paths.get data (processNegativeIndex paths data condition.path)).or
    (context.bind fun json => paths.get json condition.path)
  match value with
  | none => .ok condition.passMissingKey
  | some value =>
    match compareGjsonValues paths value condition.value (Go.toLower condition.mode) with
    | .error err => .error s!"comparison failed for path {condition.path}: {err}"
    | .ok result => .ok (if condition.invert then !result else result)

def checkConditions (paths : JsonPaths) (data : Json) (context : Option Json) (conditions : List ConditionOperation)
    (logic : String) : Except String Bool := do
  if conditions.isEmpty then return true
  let results ← conditions.mapM (checkSingleCondition paths data context)
  return if Go.toUpper logic = "AND" then results.all id else results.any id

end LLMHub
