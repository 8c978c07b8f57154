import Mathlib.Data.Rat.Init
import LLMHub.Go.Entries
import LLMHub.Go.Strings

namespace Go

/-- A JSON value. An object lists its fields with their keys. -/
inductive Json where
  | null
  | bool (b : Bool)
  | num (n : ℚ)
  | str (s : String)
  | arr (items : List Json)
  | obj (fields : List (String × Json))

namespace Json

/-- Induction with the hypothesis on every element and on every field value. -/
theorem induct {motive : Json → Prop} (null : motive .null) (bool : ∀ b, motive (.bool b)) (num : ∀ n, motive (.num n))
    (str : ∀ s, motive (.str s)) (arr : ∀ items, (∀ item ∈ items, motive item) → motive (.arr items))
    (obj : ∀ fields, (∀ field ∈ fields, motive field.2) → motive (.obj fields)) (json : Json) : motive json := by
  refine @Json.rec motive (fun items => ∀ item ∈ items, motive item) (fun fields => ∀ field ∈ fields, motive field.2)
    (fun field => motive field.2) null bool num str arr obj ?_ ?_ ?_ ?_ (fun _ _ value => value) json
  · exact fun _ member => absurd member List.not_mem_nil
  · exact fun _ _ head tail => List.forall_mem_cons.mpr ⟨head, tail⟩
  · exact fun _ member => absurd member List.not_mem_nil
  · exact fun _ _ head tail => List.forall_mem_cons.mpr ⟨head, tail⟩

/-- No object of the value lists a key twice, as in a decoded map. -/
inductive Valid : Json → Prop
  | null : Valid .null
  | bool (b : Bool) : Valid (.bool b)
  | num (n : ℚ) : Valid (.num n)
  | str (s : String) : Valid (.str s)
  | arr {items : List Json} (each : ∀ item ∈ items, Valid item) : Valid (.arr items)
  | obj {fields : List (String × Json)} (keyed : Keyed fields) (each : ∀ field ∈ fields, Valid field.2) : Valid (.obj fields)

theorem Valid.single {key : String} {value : Json} (valid : value.Valid) : (Json.obj [(key, value)]).Valid :=
  .obj (List.nodup_singleton _) fun _ member => List.mem_singleton.mp member ▸ valid

/-- The element a path segment selects in an array. -/
def arrayIndex (key : String) : Option Nat :=
  if key ≠ "" ∧ key.toList.all Char.isDigit then some (Nat.ofDigitChars 10 key.toList 0) else none

theorem arrayIndex_repr (n : Nat) : arrayIndex n.repr = some n := by
  have digits : n.repr.toList.all Char.isDigit = true := List.all_eq_true.mpr fun _ member => digit_of_mem_decimal member
  have filled : n.repr ≠ "" := by
    rw [← String.toList_inj.ne, Nat.toList_repr]
    exact Nat.toDigits_ne_nil
  rw [arrayIndex, if_pos ⟨filled, digits⟩, Nat.toList_repr, Nat.ofDigitChars_ten_toDigits]

def child : Json → String → Option Json
  | .obj fields, key => fields.lookup key
  | .arr items, key => (arrayIndex key).bind fun i => items[i]?
  | _, _ => none

def walk (json : Json) : List String → Option Json
  | [] => some json
  | key :: path => (json.child key).bind fun value => value.walk path

def erase : Json → List String → Json
  | .obj fields, [key] => .obj (fields.filter fun field => field.1 ≠ key)
  | .arr items, [key] => .arr (((arrayIndex key).map items.eraseIdx).getD items)
  | .obj fields, key :: path =>
    .obj (fields.map fun field => (field.1, if field.1 = key then field.2.erase path else field.2))
  | .arr items, key :: path => .arr (((arrayIndex key).map fun i => items.modify i fun item => item.erase path).getD items)
  | json, _ => json

mutual

def mapNum (f : ℚ → ℚ) : Json → Json
  | .num n => .num (f n)
  | .arr items => .arr (mapNumItems f items)
  | .obj fields => .obj (mapNumFields f fields)
  | json => json

def mapNumItems (f : ℚ → ℚ) : List Json → List Json
  | [] => []
  | item :: items => item.mapNum f :: mapNumItems f items

def mapNumFields (f : ℚ → ℚ) : List (String × Json) → List (String × Json)
  | [] => []
  | (key, value) :: fields => (key, value.mapNum f) :: mapNumFields f fields

end

theorem mapNumItems_eq_map (f : ℚ → ℚ) (items : List Json) : mapNumItems f items = items.map (mapNum f) := by
  induction items with
  | nil => rfl
  | cons item items ih => exact congrArg (item.mapNum f :: ·) ih

theorem mapNumFields_eq_map (f : ℚ → ℚ) (fields : List (String × Json)) :
    mapNumFields f fields = fields.map fun field => (field.1, field.2.mapNum f) := by
  induction fields with
  | nil => rfl
  | cons field fields ih => exact congrArg ((field.1, field.2.mapNum f) :: ·) ih

end Json

theorem lookup_map_snd (f : Json → Json) (fields : List (String × Json)) (key : String) :
    (fields.map fun field => (field.1, f field.2)).lookup key = (fields.lookup key).map f := by
  induction fields with
  | nil => rfl
  | cons field fields ih =>
    obtain ⟨name, value⟩ := field
    by_cases here : key = name
    · simp [here]
    · simp [List.lookup_cons, beq_false_of_ne here, ih]

/-- A key that path expressions take literally. -/
def plainKey (key : String) : Bool :=
  trimSpace key ≠ "" ∧ key.toList.all fun c => !".*?\\|#@!\x7b\x7d[]()=<>%~:".toList.contains c

/-- The path expressions of `gjson` and `sjson` on JSON text, with the text of a
value. On keys without special characters they walk the value. -/
structure JsonPaths where
  get : Json → String → Option Json
  setRaw : Json → String → Json → Except String Json
  delete : Json → String → Except String Json
  text : Json → String
  get_plain : ∀ json path, path ≠ [] → (∀ key ∈ path, plainKey key) → get json (".".intercalate path) = json.walk path
  /-- `-1` is read as the last element. -/
  delete_plain : ∀ json path, path ≠ [] → (∀ key ∈ path, plainKey key ∧ key ≠ "-1") →
    delete json (".".intercalate path) = .ok (json.erase path)
  text_str : ∀ s, text (.str s) = s

/-- `strings.Split` at one character. -/
def split (separator : Char) (s : String) : List String := (s.toList.splitOn separator).map String.ofList

theorem split_intercalate {separator : String} {c : Char} (single : separator.toList = [c]) {parts : List String}
    (some_ : parts ≠ []) (free : ∀ part ∈ parts, c ∉ part.toList) : split c (separator.intercalate parts) = parts := by
  have inside : ∀ part ∈ parts.map String.toList, c ∉ part := by
    rintro _ member
    obtain ⟨part, listed, rfl⟩ := List.mem_map.mp member
    exact free part listed
  rw [split, String.toList_intercalate, single, List.splitOn_intercalate c inside (by simpa using some_), List.map_map]
  simp

/-- A key without special characters has no dot. -/
theorem dot_free {key : String} (plain : plainKey key = true) : '.' ∉ key.toList := by
  intro member
  have each := List.all_eq_true.mp (of_decide_eq_true plain).2 '.' member
  exact absurd each (by decide)

def JsonPaths.literal : JsonPaths where
  get json path := json.walk (split '.' path)
  setRaw json _ _ := .ok json
  delete json path := .ok (json.erase (split '.' path))
  text | .str s => s | _ => ""
  get_plain json path some_ plain := by rw [split_intercalate rfl some_ fun key member => dot_free (plain key member)]
  delete_plain json path some_ plain := by rw [split_intercalate rfl some_ fun key member => dot_free (plain key member).1]
  text_str _ := rfl

end Go
