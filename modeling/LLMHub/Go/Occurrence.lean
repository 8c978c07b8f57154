import Mathlib.Data.List.Forall2

namespace Go

/-- The text before the first occurrence: the first part of `strings.Split`. -/
def before (text : List Char) : List Char → List Char
  | [] => []
  | c :: rest => if text.isPrefixOf (c :: rest) then [] else c :: before text rest

/-- `strings.Replace` of the first occurrence. -/
def replaceFirst (old new : List Char) : List Char → List Char
  | [] => []
  | c :: rest => if old.isPrefixOf (c :: rest) then new ++ (c :: rest).drop old.length else c :: replaceFirst old new rest

end Go
