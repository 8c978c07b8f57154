import LLMHub.ParamOverride.Conditions

namespace LLMHub

open Go (Json JsonPaths)

structure PruneObjectsOptions where
  conditions : List ConditionOperation := []
  logic : String := "AND"
  recursive : Bool := true

def stringField (fields : List (String × Json)) (key : String) : Option String :=
  match fields.lookup key with
  | some (.str s) => some s
  | _ => none

def boolField (fields : List (String × Json)) (key : String) : Option Bool :=
  match fields.lookup key with
  | some (.bool b) => some b
  | _ => none

/-- The entries of a condition map, without those whose key is blank. -/
def fullConditions (fields : List (String × Json)) : List ConditionOperation :=
  fields.filterMap fun (key, value) =>
    if Go.trimSpace key = "" then none else some { path := Go.trimSpace key, mode := "full", value := value }

def parseConditionOperations : Json → Except String (List ConditionOperation)
  | .obj entries =>
    let conditions := fullConditions entries
    if conditions.isEmpty then .error "conditions object must contain at least one key" else .ok conditions
  | .arr items => items.mapM fun
    | .obj itemMap =>
      let path := (stringField itemMap "path").getD ""
      let mode := (stringField itemMap "mode").getD ""
      if Go.trimSpace path = "" ∨ Go.trimSpace mode = "" then .error "condition path/mode is required"
      else .ok {
        path := path, mode := mode
        value := (itemMap.lookup "value").getD .null
        invert := (boolField itemMap "invert").getD false
        passMissingKey := (boolField itemMap "pass_missing_key").getD false }
    | _ => .error "condition must be object"
  | _ => .error "conditions must be an array or object"

def parsePruneObjectsOptions : Json → Except String PruneObjectsOptions
  | .null => .error "prune_objects value is required"
  | .str raw =>
    let v := Go.trimSpace raw
    if v = "" then .error "prune_objects value is required"
    else .ok { conditions := [{ path := "type", mode := "full", value := .str v }] }
  | .obj raw => do
    let listed ← match raw.lookup "conditions" with
      | some conditions => parseConditionOperations conditions
      | none => pure []
    let filters ← match raw.lookup "where" with
      | some (.obj whereMap) => pure (fullConditions whereMap)
      | some _ => throw "prune_objects where must be object"
      | none => pure []
    let typed := (raw.lookup "type").toList.map fun matchType =>
      ({ path := "type", mode := "full", value := matchType } : ConditionOperation)
    let conditions := listed ++ filters ++ typed
    if conditions.isEmpty then throw "prune_objects conditions are required"
    return {
      conditions := conditions
      logic := ((stringField raw "logic").filter fun logic => Go.trimSpace logic ≠ "").getD "AND"
      recursive := (boolField raw "recursive").getD true }
  | _ => .error "prune_objects value must be string or object"

def shouldPruneObject (paths : JsonPaths) (options : PruneObjectsOptions) (context : Option Json)
    (node : List (String × Json)) : Except String Bool :=
  checkConditions paths (.obj node) context options.conditions options.logic

mutual

/-- The node without the objects that meet the conditions, or nothing if it is
one itself. -/
def pruneObjectsNode (paths : JsonPaths) (options : PruneObjectsOptions) (context : Option Json) :
    Json → Bool → Except String (Option Json)
  | .arr items, _ => do return some (.arr (← pruneObjectsItems paths options context items))
  | .obj fields, isRoot => do
    let shouldDrop ← shouldPruneObject paths options context fields
    if shouldDrop && !isRoot then return none
    if !options.recursive then return some (.obj fields)
    return some (.obj (← pruneObjectsFields paths options context fields))
  | node, _ => .ok (some node)

def pruneObjectsItems (paths : JsonPaths) (options : PruneObjectsOptions) (context : Option Json) :
    List Json → Except String (List Json)
  | [] => .ok []
  | item :: items => do
    let next ← pruneObjectsNode paths options context item false
    return next.toList ++ (← pruneObjectsItems paths options context items)

def pruneObjectsFields (paths : JsonPaths) (options : PruneObjectsOptions) (context : Option Json) :
    List (String × Json) → Except String (List (String × Json))
  | [] => .ok []
  | (key, child) :: fields => do
    let next ← pruneObjectsNode paths options context child false
    return (next.map (key, ·)).toList ++ (← pruneObjectsFields paths options context fields)

end

/-- Decoding into an `interface{}` makes every number a float. -/
def pruneObjects (paths : JsonPaths) (float : ℚ → ℚ) (data : Json) (path : String) (context : Option Json) (value : Json) :
    Except String Json := do
  let options ← parsePruneObjectsOptions value
  if path = "" then
    let cleaned ← pruneObjectsNode paths options context (data.mapNum float) true
    return cleaned.getD .null
  match paths.get data path with
  | none => return data
  | some target =>
    let cleaned ← pruneObjectsNode paths options context (target.mapNum float) true
    paths.setRaw data path (cleaned.getD .null)

/-- An object whose `type` field is the string `v`. -/
def hasType (v : String) : Json → Bool
  | .obj fields => stringField fields "type" = some v
  | _ => false

mutual

def withoutType (v : String) : Json → Json
  | .arr items => .arr (itemsWithoutType v items)
  | .obj fields => .obj (fieldsWithoutType v fields)
  | node => node

def itemsWithoutType (v : String) : List Json → List Json
  | [] => []
  | item :: items =>
    if hasType v item then itemsWithoutType v items else withoutType v item :: itemsWithoutType v items

def fieldsWithoutType (v : String) : List (String × Json) → List (String × Json)
  | [] => []
  | (key, child) :: fields =>
    if hasType v child then fieldsWithoutType v fields else (key, withoutType v child) :: fieldsWithoutType v fields

end

/-- A `type` field that can be compared with a string. -/
def typeComparable (fields : List (String × Json)) : Prop :=
  ∀ value, fields.lookup "type" = some value → value = .null ∨ ∃ s, value = .str s

/-- Every object that is read has a comparable `type` field. What is inside an
object of type `v` is not read. -/
inductive TypesComparable (v : String) : Json → Prop
  | null : TypesComparable v .null
  | bool (b : Bool) : TypesComparable v (.bool b)
  | num (n : ℚ) : TypesComparable v (.num n)
  | str (s : String) : TypesComparable v (.str s)
  | arr {items : List Json} (each : ∀ item ∈ items, hasType v item = false → TypesComparable v item) :
      TypesComparable v (.arr items)
  | obj {fields : List (String × Json)} (type : typeComparable fields)
      (each : ∀ field ∈ fields, hasType v field.2 = false → TypesComparable v field.2) : TypesComparable v (.obj fields)

def keptWithoutType (v : String) (node : Json) : Option Json := if hasType v node then none else some (withoutType v node)

theorem itemsWithoutType_eq (v : String) (items : List Json) :
    itemsWithoutType v items = items.filterMap (keptWithoutType v) := by
  induction items with
  | nil => rfl
  | cons item items ih => by_cases typed : hasType v item = true <;> simp [itemsWithoutType, keptWithoutType, typed, ih]

theorem fieldsWithoutType_eq (v : String) (fields : List (String × Json)) :
    fieldsWithoutType v fields = fields.filterMap fun field => (keptWithoutType v field.2).map (field.1, ·) := by
  induction fields with
  | nil => rfl
  | cons field fields ih =>
    by_cases typed : hasType v field.2 = true <;> simp [fieldsWithoutType, keptWithoutType, typed, ih]

def typeOptions (v : String) : PruneObjectsOptions := { conditions := [{ path := "type", mode := "full", value := .str v }] }

theorem checkConditions_single (paths : JsonPaths) (data : Json) (context : Option Json) (condition : ConditionOperation) :
    checkConditions paths data context [condition] "AND" = checkSingleCondition paths data context condition := by
  have logic : Go.toUpper "AND" = "AND" := by decide
  unfold checkConditions
  cases checked : checkSingleCondition paths data context condition with
  | error err => simp [checked, bind, Except.bind]
  | ok result => simp [checked, logic, bind, Except.bind, pure, Except.pure]

variable {fields : List (String × Json)} {node : Json}

section PruneByType

variable {paths : JsonPaths} {context : Option Json} {v : String}
  (noType : ∀ json, context = some json → paths.get json "type" = none)
include noType

/-- The comparison one object's `type` field goes through. -/
theorem shouldPruneObject_type (fields : List (String × Json)) :
    shouldPruneObject paths (typeOptions v) context fields =
      match fields.lookup "type" with
      | none => .ok false
      | some value => match compareEqual paths value (.str v) with
        | .error err => .error s!"comparison failed for path type: {err}"
        | .ok result => .ok result := by
  have path : processNegativeIndex paths (.obj fields) "type" = "type" := by
    have noIndex : negativeIndexes "type".toList = [] := by decide
    rw [processNegativeIndex, noIndex]
    exact String.ofList_toList
  have read : paths.get (.obj fields) "type" = fields.lookup "type" := by
    have := paths.get_plain (.obj fields) ["type"] (by simp) (by decide)
    rw [show ".".intercalate ["type"] = "type" from by decide] at this
    rw [this]
    cases found : fields.lookup "type" <;> simp [Json.walk, Json.child, found]
  have beyond : (context.bind fun json => paths.get json "type") = none := by
    cases given : context with
    | none => rfl
    | some json => exact noType json given
  have mode : Go.toLower "full" = "full" := by decide
  rw [shouldPruneObject, typeOptions, checkConditions_single, checkSingleCondition, path, read, beyond, Option.or_none, mode]
  rfl

omit noType in
theorem compareEqual_str (value : Json) :
    (∃ s, value = .str s ∧ compareEqual paths value (.str v) = .ok (s == v)) ∨
      value = .null ∧ compareEqual paths value (.str v) = .ok false ∨
      (value ≠ .null ∧ ∀ s, value ≠ .str s) ∧ ∃ err, compareEqual paths value (.str v) = .error err := by
  cases value with
  | str s =>
    refine Or.inl ⟨s, rfl, ?_⟩
    simp [compareEqual, jsonType, paths.text_str]
  | null => exact Or.inr (Or.inl ⟨rfl, rfl⟩)
  | bool b =>
    refine Or.inr (Or.inr ⟨⟨nofun, nofun⟩, ?_⟩)
    cases b <;> exact ⟨_, rfl⟩
  | _ => exact Or.inr (Or.inr ⟨⟨nofun, nofun⟩, _, rfl⟩)

theorem shouldPruneObject_comparable (comparable : typeComparable fields) :
    shouldPruneObject paths (typeOptions v) context fields = .ok (hasType v (.obj fields)) := by
  rw [shouldPruneObject_type noType]
  cases found : fields.lookup "type" with
  | none => simp [hasType, stringField, found]
  | some value =>
    rcases @compareEqual_str paths v value with ⟨s, rfl, equal⟩ | ⟨rfl, equal⟩ | ⟨⟨notNull, notString⟩, -⟩
    · simp only [equal, hasType, stringField, found, Option.some.injEq, beq_eq_decide]
    · simp [equal, hasType, stringField, found]
    · rcases comparable value found with rfl | ⟨s, rfl⟩
      · exact absurd rfl notNull
      · exact absurd rfl (notString s)

theorem shouldPruneObject_error (different : ¬ typeComparable fields) :
    ∃ err, shouldPruneObject paths (typeOptions v) context fields = .error err := by
  rw [shouldPruneObject_type noType]
  simp only [typeComparable, not_forall, not_or] at different
  obtain ⟨value, found, notNull, notString⟩ := different
  rcases @compareEqual_str paths v value with ⟨s, rfl, -⟩ | ⟨rfl, -⟩ | ⟨-, err, failed⟩
  · exact absurd ⟨s, rfl⟩ notString
  · exact absurd rfl notNull
  · exact ⟨_, by rw [found]; dsimp only; rw [failed]⟩

omit noType in
theorem typeComparable_of_hasType (typed : hasType v (.obj fields) = true) : typeComparable fields := by
  intro value found
  simp only [hasType, stringField, found, decide_eq_true_eq] at typed
  split at typed
  · next s same => exact Or.inr ⟨s, Option.some.inj same⟩
  · exact absurd typed nofun

/-- Below the root an object of the type is dropped, whatever is inside. -/
theorem pruneObjectsNode_typed (typed : hasType v node = true) :
    pruneObjectsNode paths (typeOptions v) context node false = .ok none := by
  cases node with
  | obj fields =>
    have drop := shouldPruneObject_comparable noType (v := v) (typeComparable_of_hasType typed)
    rw [pruneObjectsNode, drop, typed]
    rfl
  | _ => exact absurd typed nofun

omit noType in
theorem pruneObjectsItems_ok {items : List Json}
    (each : ∀ item ∈ items, pruneObjectsNode paths (typeOptions v) context item false = .ok (keptWithoutType v item)) :
    pruneObjectsItems paths (typeOptions v) context items = .ok (itemsWithoutType v items) := by
  rw [itemsWithoutType_eq]
  induction items with
  | nil => rfl
  | cons item items ih =>
    obtain ⟨head, tail⟩ := List.forall_mem_cons.mp each
    rw [pruneObjectsItems, head, ih tail, List.filterMap_cons]
    cases keptWithoutType v item <;> rfl

omit noType in
theorem pruneObjectsFields_ok
    (each : ∀ field ∈ fields, pruneObjectsNode paths (typeOptions v) context field.2 false = .ok (keptWithoutType v field.2)) :
    pruneObjectsFields paths (typeOptions v) context fields = .ok (fieldsWithoutType v fields) := by
  rw [fieldsWithoutType_eq]
  induction fields with
  | nil => rfl
  | cons field fields ih =>
    obtain ⟨head, tail⟩ := List.forall_mem_cons.mp each
    rw [pruneObjectsFields, head, ih tail, List.filterMap_cons]
    cases keptWithoutType v field.2 <;> rfl

theorem pruneObjectsNode_comparable (comparable : TypesComparable v node) (isRoot : Bool) :
    pruneObjectsNode paths (typeOptions v) context node isRoot =
      .ok (if hasType v node && !isRoot then none else some (withoutType v node)) := by
  induction node using Json.induct generalizing isRoot with
  | arr items ih =>
    cases comparable with
    | arr each =>
      rw [pruneObjectsNode, pruneObjectsItems_ok]
      · rfl
      · intro item member
        cases typed : hasType v item with
        | true => rw [pruneObjectsNode_typed noType typed, keptWithoutType, if_pos typed]
        | false => simpa [keptWithoutType, typed] using ih item member (each item member typed) false
  | obj fields ih =>
    cases comparable with
    | obj type each =>
      have inside : pruneObjectsFields paths (typeOptions v) context fields = .ok (fieldsWithoutType v fields) := by
        refine pruneObjectsFields_ok fun field member => ?_
        cases typed : hasType v field.2 with
        | true => rw [pruneObjectsNode_typed noType typed, keptWithoutType, if_pos typed]
        | false => simpa [keptWithoutType, typed] using ih field member (each field member typed) false
      rw [pruneObjectsNode, shouldPruneObject_comparable noType type, inside]
      cases hasType v (.obj fields) <;> cases isRoot <;> rfl
  | _ => rfl

omit noType in
theorem pruneObjectsItems_error {items : List Json}
    (failed : ∃ item ∈ items, ∃ err, pruneObjectsNode paths (typeOptions v) context item false = .error err) :
    ∃ err, pruneObjectsItems paths (typeOptions v) context items = .error err := by
  induction items with
  | nil => simp at failed
  | cons item items ih =>
    rw [pruneObjectsItems]
    cases head : pruneObjectsNode paths (typeOptions v) context item false with
    | error err => exact ⟨err, rfl⟩
    | ok next =>
      obtain ⟨bad, member, err, failed⟩ := failed
      rcases List.mem_cons.mp member with rfl | inside
      · exact absurd (head.symm.trans failed) nofun
      · obtain ⟨err, tail⟩ := ih ⟨bad, inside, err, failed⟩
        exact ⟨err, by rw [tail]; rfl⟩

omit noType in
theorem pruneObjectsFields_error
    (failed : ∃ field ∈ fields, ∃ err, pruneObjectsNode paths (typeOptions v) context field.2 false = .error err) :
    ∃ err, pruneObjectsFields paths (typeOptions v) context fields = .error err := by
  induction fields with
  | nil => simp at failed
  | cons field fields ih =>
    rw [pruneObjectsFields]
    cases head : pruneObjectsNode paths (typeOptions v) context field.2 false with
    | error err => exact ⟨err, rfl⟩
    | ok next =>
      obtain ⟨bad, member, err, failed⟩ := failed
      rcases List.mem_cons.mp member with rfl | inside
      · exact absurd (head.symm.trans failed) nofun
      · obtain ⟨err, tail⟩ := ih ⟨bad, inside, err, failed⟩
        exact ⟨err, by rw [tail]; rfl⟩

theorem pruneObjectsNode_error (different : ¬ TypesComparable v node) {isRoot : Bool}
    (visited : hasType v node = true → isRoot = true) :
    ∃ err, pruneObjectsNode paths (typeOptions v) context node isRoot = .error err := by
  induction node using Json.induct generalizing isRoot with
  | null => exact absurd .null different
  | bool b => exact absurd (.bool b) different
  | num n => exact absurd (.num n) different
  | str s => exact absurd (.str s) different
  | arr items ih =>
    have inside : ∃ item ∈ items, hasType v item = false ∧ ¬ TypesComparable v item := by
      by_contra all
      refine different (.arr fun item member typed => ?_)
      by_contra bad
      exact all ⟨item, member, typed, bad⟩
    obtain ⟨item, member, typed, bad⟩ := inside
    obtain ⟨err, failed⟩ := pruneObjectsItems_error ⟨item, member, ih item member bad (by simp [typed])⟩
    exact ⟨err, by rw [pruneObjectsNode, failed]; rfl⟩
  | obj fields ih =>
    by_cases comparable : typeComparable fields
    · have inside : ∃ field ∈ fields, hasType v field.2 = false ∧ ¬ TypesComparable v field.2 := by
        by_contra all
        refine different (.obj comparable fun field member typed => ?_)
        by_contra bad
        exact all ⟨field, member, typed, bad⟩
      obtain ⟨field, member, typed, bad⟩ := inside
      obtain ⟨err, failed⟩ := pruneObjectsFields_error ⟨field, member, ih field member bad (by simp [typed])⟩
      refine ⟨err, ?_⟩
      rw [pruneObjectsNode, shouldPruneObject_comparable noType comparable, failed]
      cases own : hasType v (.obj fields) with
      | false => rfl
      | true => rw [visited own]; rfl
    · obtain ⟨err, failed⟩ := shouldPruneObject_error noType (v := v) comparable
      exact ⟨err, by rw [pruneObjectsNode, failed]; rfl⟩

end PruneByType

theorem lookup_fieldsWithoutType (v : String) (keyed : Go.Keyed fields) (key : String) :
    (fieldsWithoutType v fields).lookup key = (fields.lookup key).bind (keptWithoutType v) := by
  induction fields with
  | nil => rfl
  | cons field fields ih =>
    obtain ⟨name, child⟩ := field
    obtain ⟨fresh, rest⟩ := List.nodup_cons.mp (show (name :: fields.map Prod.fst).Nodup from keyed)
    have tail := ih rest
    by_cases here : key = name
    · subst here
      have absent : fields.lookup key = none := by
        rw [List.lookup_eq_none_iff]
        intro field member
        rw [bne_iff_ne]
        rintro rfl
        exact fresh (List.mem_map_of_mem member)
      rw [absent, Option.bind_none] at tail
      cases typed : hasType v child <;> simp [fieldsWithoutType, keptWithoutType, typed, tail]
    · cases typed : hasType v child <;> simp [fieldsWithoutType, typed, List.lookup_cons, beq_false_of_ne here, tail]

theorem stringField_withoutType (v : String) (keyed : Go.Keyed fields) (key : String) :
    stringField (fieldsWithoutType v fields) key = stringField fields key := by
  rw [stringField, stringField, lookup_fieldsWithoutType v keyed]
  cases fields.lookup key with
  | none => rfl
  | some child =>
    cases typed : hasType v child with
    | false => cases child <;> simp [keptWithoutType, typed, withoutType]
    | true =>
      cases child with
      | obj fields => simp [keptWithoutType, typed]
      | _ => exact absurd typed nofun

theorem hasType_withoutType (v : String) (valid : node.Valid) : hasType v (withoutType v node) = hasType v node := by
  cases valid with
  | obj keyed => simp only [withoutType, hasType, stringField_withoutType v keyed]
  | _ => rfl

theorem withoutType_withoutType (v : String) (valid : node.Valid) :
    withoutType v (withoutType v node) = withoutType v node := by
  have twice : ∀ child : Json, child.Valid → withoutType v (withoutType v child) = withoutType v child →
      (keptWithoutType v child).bind (keptWithoutType v) = keptWithoutType v child := by
    intro child valid same
    cases typed : hasType v child <;> simp [keptWithoutType, typed, hasType_withoutType v valid, same]
  induction valid with
  | arr each ih =>
    simp only [withoutType, itemsWithoutType_eq, List.filterMap_filterMap]
    exact congrArg Json.arr (List.filterMap_congr fun item member => twice item (each item member) (ih item member))
  | obj keyed each ih =>
    simp only [withoutType, fieldsWithoutType_eq, List.filterMap_filterMap]
    refine congrArg Json.obj (List.filterMap_congr fun field member => ?_)
    rw [Option.bind_map]
    calc (keptWithoutType v field.2).bind (fun child => (keptWithoutType v child).map (field.1, ·))
        = ((keptWithoutType v field.2).bind (keptWithoutType v)).map (field.1, ·) := Option.map_bind.symm
      _ = (keptWithoutType v field.2).map (field.1, ·) := by rw [twice field.2 (each field member) (ih field member)]
  | _ => rfl

theorem TypesComparable.withoutType {v : String} (valid : node.Valid) (comparable : TypesComparable v node) :
    TypesComparable v (withoutType v node) := by
  have kept : ∀ child child' : Json, keptWithoutType v child = some child' → hasType v child = false ∧
      child' = LLMHub.withoutType v child := by
    intro child child' same
    cases typed : hasType v child <;> simp_all [keptWithoutType]
  induction valid with
  | arr each ih =>
    cases comparable with
    | arr below =>
      rw [LLMHub.withoutType, itemsWithoutType_eq]
      refine .arr fun item member _ => ?_
      obtain ⟨before, inside, same⟩ := List.mem_filterMap.mp member
      obtain ⟨typed, rfl⟩ := kept before item same
      exact ih before inside (below before inside typed)
  | obj keyed each ih =>
    cases comparable with
    | obj type below =>
      rw [LLMHub.withoutType]
      refine .obj ?_ fun field member _ => ?_
      · intro value found
        rw [lookup_fieldsWithoutType v keyed] at found
        obtain ⟨before, inside, same⟩ := Option.bind_eq_some_iff.mp found
        obtain ⟨-, rfl⟩ := kept before value same
        rcases type before inside with rfl | ⟨s, rfl⟩
        · exact Or.inl rfl
        · exact Or.inr ⟨s, rfl⟩
      · rw [fieldsWithoutType_eq] at member
        obtain ⟨before, inside, same⟩ := List.mem_filterMap.mp member
        obtain ⟨child, left, rfl⟩ := Option.map_eq_some_iff.mp same
        obtain ⟨typed, rfl⟩ := kept before.2 child left
        exact ih before inside (below before inside typed)
  | _ => exact comparable

theorem hasType_mapNum (v : String) (float : ℚ → ℚ) (node : Json) : hasType v (node.mapNum float) = hasType v node := by
  cases node with
  | obj fields =>
    have same : stringField (Json.mapNumFields float fields) "type" = stringField fields "type" := by
      rw [stringField, stringField, Json.mapNumFields_eq_map, Go.lookup_map_snd]
      cases fields.lookup "type" with
      | none => rfl
      | some value => cases value <;> rfl
    simp only [Json.mapNum, hasType, same]
  | _ => rfl

theorem mapNum_withoutType (v : String) (float : ℚ → ℚ) (node : Json) :
    (withoutType v node).mapNum float = withoutType v (node.mapNum float) := by
  have kept : ∀ child : Json, (withoutType v child).mapNum float = withoutType v (child.mapNum float) →
      (keptWithoutType v child).map (Json.mapNum float) = keptWithoutType v (child.mapNum float) := by
    intro child same
    cases typed : hasType v child <;> simp [keptWithoutType, typed, hasType_mapNum, same]
  induction node using Json.induct with
  | arr items ih =>
    simp only [withoutType, Json.mapNum, Json.mapNumItems_eq_map, itemsWithoutType_eq, List.map_filterMap, List.filterMap_map]
    exact congrArg Json.arr (List.filterMap_congr fun item member => kept item (ih item member))
  | obj fields ih =>
    simp only [withoutType, Json.mapNum, Json.mapNumFields_eq_map, fieldsWithoutType_eq, List.map_filterMap, List.filterMap_map]
    refine congrArg Json.obj (List.filterMap_congr fun field member => ?_)
    simp only [Function.comp_apply, ← kept field.2 (ih field member), Option.map_map]
    rfl
  | _ => rfl

theorem pruneObjects_type {paths : JsonPaths} {float : ℚ → ℚ} {data : Json} {context : Option Json} {v : String}
    (filled : Go.trimSpace v ≠ "") (exact_ : data.mapNum float = data) :
    pruneObjects paths float data "" context (.str v) =
      (pruneObjectsNode paths (typeOptions (Go.trimSpace v)) context data true).map (·.getD .null) := by
  rw [pruneObjects, parsePruneObjectsOptions]
  simp only [filled, if_false, exact_]
  rfl

/-- Pruning by a type keeps everything but the objects of that type below the
root, and pruning again changes nothing. It fails exactly when an object it
reads has a `type` that is neither null nor a string. -/
theorem prune_objects_exact (paths : JsonPaths) (float : ℚ → ℚ) (context : Option Json)
    (noType : ∀ json, context = some json → paths.get json "type" = none) (data : Json) (valid : data.Valid)
    (exact_ : data.mapNum float = data) (v : String) (filled : Go.trimSpace v ≠ "") :
    (TypesComparable (Go.trimSpace v) data →
      pruneObjects paths float data "" context (.str v) = .ok (withoutType (Go.trimSpace v) data) ∧
      pruneObjects paths float (withoutType (Go.trimSpace v) data) "" context (.str v) =
        .ok (withoutType (Go.trimSpace v) data)) ∧
    (¬ TypesComparable (Go.trimSpace v) data →
      ∃ err, pruneObjects paths float data "" context (.str v) = .error err) := by
  refine ⟨fun comparable => ⟨?_, ?_⟩, fun different => ?_⟩
  · rw [pruneObjects_type filled exact_, pruneObjectsNode_comparable noType comparable]
    simp [Except.map]
  · have exactAfter : (withoutType (Go.trimSpace v) data).mapNum float = withoutType (Go.trimSpace v) data := by
      rw [mapNum_withoutType, exact_]
    rw [pruneObjects_type filled exactAfter, pruneObjectsNode_comparable noType (comparable.withoutType valid),
      withoutType_withoutType _ valid]
    simp [Except.map]
  · obtain ⟨err, failed⟩ := pruneObjectsNode_error noType different (fun _ => rfl)
    exact ⟨err, by rw [pruneObjects_type filled exact_, failed]; rfl⟩

def thinkingRequest : Json :=
  .obj [("messages", .arr [.obj [("type", .str "redacted_thinking")], .obj [("type", .str "output_text")]])]

theorem thinkingRequest_pruned : TypesComparable (Go.trimSpace "redacted_thinking") thinkingRequest ∧
    pruneObjects JsonPaths.literal id thinkingRequest "" none (.str "redacted_thinking") =
      .ok (.obj [("messages", .arr [.obj [("type", .str "output_text")]])]) := by
  have typed : ∀ kind, typeComparable [("type", Json.str kind)] := by
    intro kind value found
    exact Or.inr ⟨kind, (Option.some.inj found).symm⟩
  have comparable : TypesComparable (Go.trimSpace "redacted_thinking") thinkingRequest := by
    refine .obj nofun fun field member _ => ?_
    obtain rfl := List.mem_singleton.mp member
    refine .arr fun item listed _ => ?_
    rcases List.mem_pair.mp listed with rfl | rfl <;>
      exact .obj (typed _) fun field member _ => by obtain rfl := List.mem_singleton.mp member; exact .str _
  have valid : thinkingRequest.Valid := .single <| .arr fun item listed => by
    rcases List.mem_pair.mp listed with rfl | rfl <;> exact .single (.str _)
  have filled : Go.trimSpace "redacted_thinking" ≠ "" := by decide
  exact ⟨comparable,
    ((prune_objects_exact JsonPaths.literal id none nofun thinkingRequest valid rfl "redacted_thinking" filled).1 comparable).1⟩

def unionTypeRequest : Json :=
  .obj [("messages", .arr [.obj [("type", .str "redacted_thinking")]]),
    ("tools", .arr [.obj [("type", .arr [.str "string", .str "null"])]])]

/-- One schema node with another kind of `type` and nothing is pruned. A blank type is
refused, the space around another is dropped, and a number between two floats changes. -/
theorem union_type_aborts :
    pruneObjects JsonPaths.literal id unionTypeRequest "" none (.str "redacted_thinking") =
        .error "comparison failed for path type: compare for different types, got JSON and String" ∧
      pruneObjects JsonPaths.literal id thinkingRequest "" none (.str " ") = .error "prune_objects value is required" ∧
      (pruneObjects JsonPaths.literal id thinkingRequest "" none (.str " output_text") =
          .ok (.obj [("messages", .arr [.obj [("type", .str "redacted_thinking")]])]) ∧
        withoutType " output_text" thinkingRequest = thinkingRequest) ∧
      pruneObjects JsonPaths.literal (fun number => if number = 9007199254740993 then 9007199254740992 else number)
        (.arr [.num 9007199254740993]) "" none (.str "t") = .ok (.arr [.num 9007199254740992]) := by
  refine ⟨rfl, rfl, ⟨rfl, rfl⟩, ?_⟩
  simp [pruneObjects, Json.mapNum]
  rfl

end LLMHub
