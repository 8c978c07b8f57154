import Mathlib.Data.String.Basic
import LLMHub.Go.Sort
import LLMHub.ParamOverride.Conditions

namespace LLMHub

open Go (Json JsonPaths)

/-- The concrete paths a wildcard path stands for, each as its keys. -/
def collectWildcardPaths : Json → List String → List String → List (List String)
  | _, [], front => [front]
  | node, seg :: segments, front =>
    let segment := Go.trimSpace seg
    if segment = "" then []
    else if segment = "*" then
      match node with
      | .obj typed =>
        (Go.sortStable (fun a b => decide (a < b)) (typed.map Prod.fst)).flatMap fun key =>
          match typed.lookup key with
          | some child => collectWildcardPaths child segments (front ++ [key])
          | none => []
      | .arr typed => typed.zipIdx.flatMap fun (child, index) => collectWildcardPaths child segments (front ++ [index.repr])
      | _ => []
    else
      match node with
      | .obj typed =>
        -- a last key is taken whether the object has it or not
        if segments.isEmpty then [front ++ [segment]]
        else
          match typed.lookup segment with
          | some next => collectWildcardPaths next segments (front ++ [segment])
          | none => []
      | .arr typed =>
        let index := Go.parseInt segment
        if !index.ok || index.value < 0 then []
        else
          match typed[index.value.toNat]? with
          | some next => collectWildcardPaths next segments (front ++ [segment])
          | none => []
      | _ => []

/-- `lo.Uniq`. -/
def uniq (l : List String) : List String := l.foldl (fun seen s => if s ∈ seen then seen else seen ++ [s]) []

def expandWildcardPaths (data : Json) (path : String) : List String :=
  uniq ((collectWildcardPaths data (Go.split '.' path) []).map ".".intercalate)

def resolveOperationPaths (data : Json) (path : String) : List String :=
  if Go.contains path "*" then expandWildcardPaths data path else [path]

def deleteValue (paths : JsonPaths) (data : Json) (path : String) : Except String Json :=
  if Go.trimSpace path = "" then .ok data else paths.delete data path

/-- The `delete` case of `applyOperations`. -/
def deleteOperation (paths : JsonPaths) (data : Json) (path : String) : Except String Json :=
  (resolveOperationPaths data (processNegativeIndex paths data path)).foldlM (deleteValue paths) data

def withoutMatches : Json → List String → Json
  | .obj fields, [seg] => .obj (fields.filter fun field => ¬(seg = "*" ∨ field.1 = seg))
  | .arr items, [seg] => .arr (if seg = "*" then [] else ((Json.arrayIndex seg).map items.eraseIdx).getD items)
  | .obj fields, seg :: rest =>
    .obj (fields.map fun field => (field.1, if seg = "*" ∨ field.1 = seg then withoutMatches field.2 rest else field.2))
  | .arr items, seg :: rest =>
    .arr (if seg = "*" then items.map fun item => withoutMatches item rest
      else ((Json.arrayIndex seg).map fun i => items.modify i fun item => withoutMatches item rest).getD items)
  | json, _ => json

def selected : Json → String → List Json
  | .obj fields, seg => (fields.filter fun field => seg = "*" ∨ field.1 = seg).map Prod.snd
  | .arr items, seg => if seg = "*" then items else ((Json.arrayIndex seg).bind fun i => items[i]?).toList
  | _, _ => []

/-- A final wildcard meets no array of two or more elements. -/
def ShortWildcardArrays : Json → List String → Prop
  | _, [] => True
  | node, [seg] => ∀ items, node = .arr items → seg = "*" → items.length ≤ 1
  | node, seg :: rest => ∀ child ∈ selected node seg, ShortWildcardArrays child rest

/-- A key that both the expansion and the deletion take literally. -/
def LiteralKey (key : String) : Prop := Go.plainKey key = true ∧ key ≠ "-1"

/-- Every key a wildcard meets is literal. -/
def LiteralWildcardKeys : Json → List String → Prop
  | _, [] => True
  | node, seg :: rest =>
    (∀ fields, node = .obj fields → seg = "*" → ∀ field ∈ fields, LiteralKey field.1) ∧
      ∀ child ∈ selected node seg, LiteralWildcardKeys child rest

/-- A key of a pattern: literal, without space around it, and read as an index
exactly when it is digits. -/
structure PatternKey (seg : String) : Prop where
  literal : LiteralKey seg
  trimmed : Go.trimSpace seg = seg
  unsigned : ∀ c ∈ seg.toList.head?, c ≠ '-' ∧ c ≠ '+'
  fits : ∀ i, Json.arrayIndex seg = some i → i < 2 ^ 63

theorem LiteralKey.ne_wildcard {key : String} (literal : LiteralKey key) : key ≠ "*" := by
  rintro rfl
  exact absurd literal.1 (by decide)

theorem LiteralKey.filled {key : String} (literal : LiteralKey key) : Go.trimSpace key ≠ "" := (of_decide_eq_true literal.1).1

theorem collectWildcardPaths_front (node : Json) (segments front : List String) :
    collectWildcardPaths node segments front = (collectWildcardPaths node segments []).map (front ++ ·) := by
  induction segments generalizing node front with
  | nil => simp [collectWildcardPaths]
  | cons seg segments ih =>
    -- every branch appends to the front it is given
    have below : ∀ (child : Json) (key : String), collectWildcardPaths child segments (front ++ [key]) =
        (collectWildcardPaths child segments [key]).map (front ++ ·) := by
      intro child key
      rw [ih child (front ++ [key]), ih child [key], List.map_map]
      simp [Function.comp_def]
    simp only [collectWildcardPaths]
    by_cases blank : Go.trimSpace seg = ""
    · rw [if_pos blank, if_pos blank, List.map_nil]
    · rw [if_neg blank, if_neg blank]
      by_cases wildcard : Go.trimSpace seg = "*"
      · rw [if_pos wildcard, if_pos wildcard]
        cases node with
        | obj typed =>
          simp only [List.map_flatMap]
          refine congrArg (List.flatMap · _) (funext fun key => ?_)
          cases typed.lookup key with
          | none => rfl
          | some child => exact below child key
        | arr typed => simp only [List.map_flatMap, below, List.nil_append]
        | _ => rfl
      · rw [if_neg wildcard, if_neg wildcard]
        cases node with
        | obj typed =>
          by_cases last : segments.isEmpty = true
          · simp [last]
          · simp only [last]
            cases typed.lookup (Go.trimSpace seg) with
            | none => rfl
            | some child => exact below child _
        | arr typed =>
          dsimp only
          split
          · rfl
          · cases typed[(Go.parseInt (Go.trimSpace seg)).value.toNat]? with
            | none => rfl
            | some child => exact below child _
        | _ => rfl

def matchedPaths (node : Json) (segments : List String) : List (List String) := collectWildcardPaths node segments []

theorem matchedPaths_nil (node : Json) : matchedPaths node [] = [[]] := rfl

variable (items : List Json) (fields : List (String × Json)) (key : String)

theorem matchedPaths_wildcard_obj (rest : List String) :
    matchedPaths (.obj fields) ("*" :: rest) =
      (Go.sortStable (fun a b => decide (a < b)) (fields.map Prod.fst)).flatMap fun key =>
        ((fields.lookup key).elim [] (matchedPaths · rest)).map (key :: ·) := by
  have trimmed : Go.trimSpace "*" = "*" := by decide
  simp only [matchedPaths, collectWildcardPaths, trimmed]
  refine congrArg (List.flatMap · _) (funext fun key => ?_)
  cases fields.lookup key with
  | none => rfl
  | some child => exact collectWildcardPaths_front child rest [key]

theorem matchedPaths_wildcard_arr (rest : List String) :
    matchedPaths (.arr items) ("*" :: rest) =
      items.zipIdx.flatMap fun indexed => (matchedPaths indexed.1 rest).map (indexed.2.repr :: ·) := by
  have trimmed : Go.trimSpace "*" = "*" := by decide
  simp only [matchedPaths, collectWildcardPaths, trimmed]
  exact congrArg (List.flatMap · _) (funext fun indexed => collectWildcardPaths_front indexed.1 rest [indexed.2.repr])

variable {seg : String} {path rest : List String} {node : Json}

theorem PatternKey.ne_nil (key : PatternKey seg) : seg ≠ "" := key.trimmed ▸ key.literal.filled

theorem PatternKey.parseInt (key : PatternKey seg) :
    (Json.arrayIndex seg = none ∧ (Go.parseInt seg).ok = false) ∨
      ∃ i, Json.arrayIndex seg = some i ∧ Go.parseInt seg = ⟨i, true⟩ := by
  have signed : Go.signedDigits seg.toList = (false, seg.toList) := by
    have unsigned := key.unsigned
    unfold Go.signedDigits
    split
    · next text => exact absurd rfl (unsigned '-' (by rw [text]; rfl)).1
    · next text => exact absurd rfl (unsigned '+' (by rw [text]; rfl)).2
    · rfl
  have filled : seg.toList.isEmpty = false := by
    rw [List.isEmpty_eq_false_iff]
    exact fun empty => key.ne_nil (String.toList_eq_nil_iff.mp empty)
  by_cases digits : seg.toList.all Char.isDigit = true
  · have index : Json.arrayIndex seg = some (Nat.ofDigitChars 10 seg.toList 0) := if_pos ⟨key.ne_nil, digits⟩
    refine Or.inr ⟨_, index, ?_⟩
    have fits : Go.Fits (Nat.ofDigitChars 10 seg.toList 0 : Nat) := by
      have below := key.fits _ index
      exact ⟨by omega, by omega⟩
    rw [Go.parseInt, signed]
    simp [filled, digits, fits]
  · refine Or.inl ⟨if_neg fun both => digits both.2, ?_⟩
    rw [Go.parseInt, signed]
    simp [filled, digits]

theorem matchedPaths_key_obj (key : PatternKey seg) (fields : List (String × Json)) (rest : List String) :
    matchedPaths (.obj fields) (seg :: rest) =
      if rest = [] then [[seg]] else ((fields.lookup seg).elim [] (matchedPaths · rest)).map (seg :: ·) := by
  simp only [matchedPaths, collectWildcardPaths, key.trimmed, key.ne_nil, key.literal.ne_wildcard, if_false, List.isEmpty_iff,
    List.nil_append]
  split_ifs with last
  · rfl
  · cases fields.lookup seg with
    | none => rfl
    | some child => exact collectWildcardPaths_front child rest [seg]

theorem matchedPaths_key_arr (key : PatternKey seg) (items : List Json) (rest : List String) :
    matchedPaths (.arr items) (seg :: rest) =
      (((Json.arrayIndex seg).bind fun i => items[i]?).elim [] (matchedPaths · rest)).map (seg :: ·) := by
  simp only [matchedPaths, collectWildcardPaths, key.trimmed, key.ne_nil, key.literal.ne_wildcard, if_false, List.nil_append]
  rcases key.parseInt with ⟨index, failed⟩ | ⟨i, index, read⟩
  · simp [index, failed]
  · rw [index, read]
    simp only [Bool.not_true, Bool.false_or, Option.bind_some, Int.toNat_natCast]
    rw [if_neg (by simp)]
    cases items[i]? with
    | none => rfl
    | some child => exact collectWildcardPaths_front child rest [seg]

/-- The value after the paths are deleted one after another. -/
def eraseAll (node : Json) (paths : List (List String)) : Json := paths.foldl Json.erase node

theorem erase_obj_cons (below : path ≠ []) :
    (Json.obj fields).erase (key :: path) =
      .obj (fields.map fun field => (field.1, if field.1 = key then field.2.erase path else field.2)) := by
  cases path with
  | nil => exact absurd rfl below
  | cons => rfl

theorem erase_arr_cons (below : path ≠ []) :
    (Json.arr items).erase (key :: path) =
      .arr (((Json.arrayIndex key).map fun i => items.modify i fun item => item.erase path).getD items) := by
  cases path with
  | nil => exact absurd rfl below
  | cons => rfl

theorem eraseAll_obj_key {paths : List (List String)}
    (below : ∀ path ∈ paths, path ≠ []) :
    eraseAll (.obj fields) (paths.map (key :: ·)) =
      .obj (fields.map fun field => (field.1, if field.1 = key then eraseAll field.2 paths else field.2)) := by
  induction paths generalizing fields with
  | nil => simp [eraseAll]
  | cons path paths ih =>
    obtain ⟨first, rest⟩ := List.forall_mem_cons.mp below
    have later := ih (fields.map fun field => (field.1, if field.1 = key then field.2.erase path else field.2)) rest
    rw [← erase_obj_cons fields key first] at later
    refine later.trans (congrArg Json.obj ?_)
    rw [List.map_map]
    refine List.map_congr_left fun field _ => ?_
    by_cases here : field.1 = key <;> simp [here, eraseAll]

theorem eraseAll_arr_key {paths : List (List String)} (below : ∀ path ∈ paths, path ≠ []) :
    eraseAll (.arr items) (paths.map (key :: ·)) =
      .arr (((Json.arrayIndex key).map fun i => items.modify i fun item => eraseAll item paths).getD items) := by
  induction paths generalizing items with
  | nil =>
    cases Json.arrayIndex key with
    | none => rfl
    | some i => exact congrArg Json.arr (List.modify_id i items).symm
  | cons path paths ih =>
    obtain ⟨first, rest⟩ := List.forall_mem_cons.mp below
    refine (congrArg (eraseAll · (paths.map (key :: ·))) (erase_arr_cons items key first)).trans ((ih _ rest).trans ?_)
    cases Json.arrayIndex key with
    | none => rfl
    | some i =>
      simp only [Option.map_some, Option.getD_some, List.modify_modify_eq]
      rfl

theorem eraseAll_append (node : Json) (front rest : List (List String)) :
    eraseAll node (front ++ rest) = eraseAll (eraseAll node front) rest := List.foldl_append

/-- Keys are deleted below one after another, each in its own field. -/
theorem eraseAll_obj_keys {keys : List String} (distinct : keys.Nodup)
    (paths : String → List (List String)) (below : ∀ key ∈ keys, ∀ path ∈ paths key, path ≠ []) :
    eraseAll (.obj fields) (keys.flatMap fun key => (paths key).map (key :: ·)) =
      .obj (fields.map fun field => (field.1, if field.1 ∈ keys then eraseAll field.2 (paths field.1) else field.2)) := by
  induction keys generalizing fields with
  | nil => simp [eraseAll]
  | cons key keys ih =>
    obtain ⟨fresh, rest⟩ := List.nodup_cons.mp distinct
    obtain ⟨first, later⟩ := List.forall_mem_cons.mp below
    rw [List.flatMap_cons, eraseAll_append, eraseAll_obj_key fields key first, ih _ rest later, List.map_map]
    refine congrArg Json.obj (List.map_congr_left fun field _ => ?_)
    by_cases here : field.1 = key
    · simp [here, fresh]
    · simp [here]

/-- An array's elements are handled from the first to the last. -/
theorem eraseAll_arr_items (paths : Json → List (List String)) (items : List Json)
    (below : ∀ item ∈ items, ∀ path ∈ paths item, path ≠ []) (front : List Json) :
    eraseAll (.arr (front ++ items))
        ((items.zipIdx front.length).flatMap fun indexed => (paths indexed.1).map (indexed.2.repr :: ·)) =
      .arr (front ++ items.map fun item => eraseAll item (paths item)) := by
  induction items generalizing front with
  | nil => simp [eraseAll]
  | cons item items ih =>
    obtain ⟨first, later⟩ := List.forall_mem_cons.mp below
    have here : (front ++ item :: items).modify front.length (fun item' => eraseAll item' (paths item)) =
        (front ++ [eraseAll item (paths item)]) ++ items := by
      induction front with
      | nil => rfl
      | cons a front ih => simpa using ih
    have rest := ih later (front ++ [eraseAll item (paths item)])
    rw [List.length_append, List.length_singleton] at rest
    rw [List.zipIdx_cons, List.flatMap_cons, eraseAll_append, eraseAll_arr_key _ _ first, Json.arrayIndex_repr, Option.map_some,
      Option.getD_some, here, rest]
    simp

/-- Deleting every element by its index in the original array leaves nothing
only if there was at most one: after the first deletion the second element is
never at a later index. -/
theorem eraseAll_indexes :
    eraseAll (.arr items) (items.zipIdx.map fun indexed => [indexed.2.repr]) = .arr [] ↔ items.length ≤ 1 := by
  have survives : ∀ (rest : List Json) (n : Nat) (head : Json) (tail : List Json), 0 < n → ∃ left,
      eraseAll (.arr (head :: tail)) ((rest.zipIdx n).map fun indexed => [indexed.2.repr]) = .arr (head :: left) := by
    intro rest
    induction rest with
    | nil => exact fun _ head tail _ => ⟨tail, rfl⟩
    | cons item rest ih =>
      intro n head tail positive
      obtain ⟨left, later⟩ := ih (n + 1) head (tail.eraseIdx (n - 1)) (Nat.succ_pos n)
      refine ⟨left, later ▸ ?_⟩
      have step : (Json.arr (head :: tail)).erase [n.repr] = .arr (head :: tail.eraseIdx (n - 1)) := by
        obtain ⟨m, rfl⟩ := Nat.exists_eq_succ_of_ne_zero positive.ne'
        simp [Json.erase, Json.arrayIndex_repr]
      exact congrArg (eraseAll · _) step
  match items with
  | [] => simp [eraseAll]
  | [item] => simp [eraseAll, Json.erase, Json.arrayIndex_repr]
  | first :: second :: rest =>
    obtain ⟨left, result⟩ := survives (second :: rest) 1 second rest Nat.one_pos
    have step : (Json.arr (first :: second :: rest)).erase [(0 : Nat).repr] = .arr (second :: rest) := by
      simp [Json.erase, Json.arrayIndex_repr]
    have whole : eraseAll (.arr (first :: second :: rest)) ((first :: second :: rest).zipIdx.map fun indexed => [indexed.2.repr]) =
        .arr (second :: left) := (congrArg (eraseAll · _) step).trans result
    rw [whole]
    simp

theorem eraseAll_obj_last (keys : List String) :
    eraseAll (.obj fields) (keys.map fun key => [key]) = .obj (fields.filter fun field => field.1 ∉ keys) := by
  induction keys generalizing fields with
  | nil => simp [eraseAll]
  | cons key keys ih =>
    refine (ih (fields.filter fun field => field.1 ≠ key)).trans (congrArg Json.obj ?_)
    rw [List.filter_filter]
    refine List.filter_congr fun field _ => ?_
    by_cases here : field.1 = key <;> simp [here]

theorem literalKey_index (n : Nat) : LiteralKey n.repr := by
  have digit : ∀ c ∈ n.repr.toList, c.isDigit = true := fun _ member => Go.digit_of_mem_decimal member
  have special : ∀ c ∈ ".*?\\|#@!\x7b\x7d[]()=<>%~:".toList, c.isDigit = false := by simp [Char.isDigit]
  refine ⟨decide_eq_true ⟨?_, List.all_eq_true.mpr fun c member => ?_⟩, fun same => ?_⟩
  · rw [Ne, Go.trimSpace_eq_nil_iff]
    intro blank
    obtain ⟨c, rest, text⟩ := List.exists_cons_of_ne_nil (Nat.toList_repr ▸ Nat.toDigits_ne_nil : n.repr.toList ≠ [])
    have member : c ∈ n.repr.toList := text ▸ List.mem_cons_self
    exact absurd (blank c member) (by rw [Go.isSpace_digit (digit c member)]; decide)
  · simp only [Bool.not_eq_true', List.contains_eq_mem, decide_eq_false_iff_not]
    exact fun listed => absurd (digit c member) (by rw [special c listed]; decide)
  · have sign : '-' ∈ n.repr.toList := by rw [same]; decide
    exact absurd (digit _ sign) (by decide)

/-- The paths of a pattern, grouped by their first key. -/
theorem matchedPaths_cons (valid : node.Valid) (segment : seg = "*" ∨ PatternKey seg)
    (keys : LiteralWildcardKeys node (seg :: rest)) :
    ∃ kids : List (String × Json),
      matchedPaths node (seg :: rest) = kids.flatMap (fun kid => (matchedPaths kid.2 rest).map (kid.1 :: ·)) ∧
      (kids.map Prod.fst).Nodup ∧
      ∀ kid ∈ kids, LiteralKey kid.1 ∧ (rest = [] ∨ kid.2 ∈ selected node seg) := by
  have leaf : ∀ node : Json, (∀ fields, node ≠ .obj fields) → (∀ items, node ≠ .arr items) →
      matchedPaths node (seg :: rest) = [] := by
    intro node notObject notArray
    cases node with
    | obj fields => exact absurd rfl (notObject fields)
    | arr items => exact absurd rfl (notArray items)
    | _ => simp [matchedPaths, collectWildcardPaths]
  cases valid with
  | @obj fields keyed each =>
    rcases segment with rfl | key
    · have perm := @Go.sortStable_perm _ (fun a b : String => decide (a < b)) (fields.map Prod.fst)
      have found : ∀ name ∈ Go.sortStable (fun a b => decide (a < b)) (fields.map Prod.fst),
          ∃ child, fields.lookup name = some child ∧ (name, child) ∈ fields := by
        intro name member
        obtain ⟨field, listed, rfl⟩ := List.mem_map.mp (perm.mem_iff.mp member)
        exact ⟨field.2, (keyed.mem_iff field.1 field.2).mp listed, listed⟩
      refine ⟨(Go.sortStable (fun a b => decide (a < b)) (fields.map Prod.fst)).map
        fun name => (name, (fields.lookup name).getD .null), ?_, ?_, ?_⟩
      · rw [matchedPaths_wildcard_obj, List.flatMap_map]
        refine List.flatMap_congr fun name member => ?_
        obtain ⟨child, lookup, -⟩ := found name member
        rw [lookup]
        rfl
      · rw [List.map_map]
        simpa [Function.comp_def] using perm.nodup_iff.mpr keyed
      · intro kid member
        obtain ⟨name, listed, rfl⟩ := List.mem_map.mp member
        obtain ⟨child, lookup, inside⟩ := found name listed
        refine ⟨keys.1 fields rfl rfl (name, child) inside, Or.inr ?_⟩
        rw [lookup]
        exact List.mem_map_of_mem (List.mem_filter.mpr ⟨inside, by simp⟩)
    · rw [matchedPaths_key_obj key]
      split_ifs with last
      · exact ⟨[(seg, .null)], by simp [last, matchedPaths_nil], List.nodup_singleton _, by simp [last, key.literal]⟩
      · cases lookup : fields.lookup seg with
        | none => exact ⟨[], rfl, List.nodup_nil, nofun⟩
        | some child =>
          refine ⟨[(seg, child)], by simp, List.nodup_singleton _, fun kid member => ?_⟩
          obtain rfl := List.mem_singleton.mp member
          refine ⟨key.literal, Or.inr (List.mem_map.mpr ⟨(seg, child), ?_, rfl⟩)⟩
          exact List.mem_filter.mpr ⟨(keyed.mem_iff seg child).mpr lookup, by simp⟩
  | @arr items each =>
    rcases segment with rfl | key
    · refine ⟨items.zipIdx.map fun indexed => (indexed.2.repr, indexed.1), ?_, ?_, ?_⟩
      · rw [matchedPaths_wildcard_arr, List.flatMap_map]
      · have indexes : (items.zipIdx.map fun indexed => (indexed.2.repr, indexed.1)).map Prod.fst =
            (items.zipIdx.map Prod.snd).map Nat.repr := by rw [List.map_map, List.map_map]; rfl
        rw [indexes, List.zipIdx_map_snd]
        exact List.Nodup.map (fun _ _ same => Go.natDecimal_injective same) (List.nodup_range' 1)
      · intro kid member
        obtain ⟨indexed, listed, rfl⟩ := List.mem_map.mp member
        exact ⟨literalKey_index _, Or.inr (by simpa [selected] using List.fst_mem_of_mem_zipIdx listed)⟩
    · rw [matchedPaths_key_arr key]
      cases found : (Json.arrayIndex seg).bind fun i => items[i]? with
      | none => exact ⟨[], rfl, List.nodup_nil, nofun⟩
      | some child =>
        refine ⟨[(seg, child)], by simp, List.nodup_singleton _, fun kid member => ?_⟩
        obtain rfl := List.mem_singleton.mp member
        refine ⟨key.literal, Or.inr ?_⟩
        rw [selected, if_neg key.literal.ne_wildcard, found]
        exact List.mem_singleton_self child
  | _ => exact ⟨[], leaf _ nofun nofun, List.nodup_nil, nofun⟩

theorem valid_selected {child : Json} (valid : node.Valid) (inside : child ∈ selected node seg) : child.Valid := by
  cases valid with
  | obj keyed each =>
    obtain ⟨field, listed, rfl⟩ := List.mem_map.mp inside
    exact each field (List.mem_filter.mp listed).1
  | arr each =>
    rw [selected] at inside
    split_ifs at inside
    · exact each child inside
    · obtain ⟨i, -, found⟩ := Option.bind_eq_some_iff.mp (Option.mem_toList.mp inside)
      exact each child (List.mem_of_getElem? found)
  | _ => exact absurd inside List.not_mem_nil

/-- The paths of a pattern have literal keys, and no path comes twice. -/
theorem matchedPaths_literal (valid : node.Valid) {segments : List String}
    (pattern : ∀ seg ∈ segments, seg = "*" ∨ PatternKey seg) (keys : LiteralWildcardKeys node segments) :
    (matchedPaths node segments).Nodup ∧
      ∀ path ∈ matchedPaths node segments, path.length = segments.length ∧ ∀ key ∈ path, LiteralKey key := by
  induction segments generalizing node with
  | nil => exact ⟨List.nodup_singleton _, by simp [matchedPaths_nil]⟩
  | cons seg rest ih =>
    obtain ⟨first, later⟩ := List.forall_mem_cons.mp pattern
    obtain ⟨kids, groups, distinct, kid⟩ := matchedPaths_cons valid first keys
    have below : ∀ child ∈ kids, (matchedPaths child.2 rest).Nodup ∧
        ∀ path ∈ matchedPaths child.2 rest, path.length = rest.length ∧ ∀ key ∈ path, LiteralKey key := by
      intro child listed
      rcases (kid child listed).2 with rfl | inside
      · exact ⟨List.nodup_singleton _, by simp [matchedPaths_nil]⟩
      · exact ih (valid_selected valid inside) later (keys.2 child.2 inside)
    rw [groups]
    constructor
    · refine List.nodup_flatMap.mpr ⟨fun child listed => ?_, ?_⟩
      · exact List.Nodup.map (fun _ _ same => (List.cons.inj same).2) (below child listed).1
      · refine (List.pairwise_map.mp distinct).imp fun {one two} different => ?_
        refine List.disjoint_left.mpr fun path left right => ?_
        obtain ⟨_, -, rfl⟩ := List.mem_map.mp left
        obtain ⟨_, -, same⟩ := List.mem_map.mp right
        exact different (List.cons.inj same).1.symm
    · intro path member
      obtain ⟨child, listed, inside⟩ := List.mem_flatMap.mp member
      obtain ⟨tail, found, rfl⟩ := List.mem_map.mp inside
      obtain ⟨length, literal⟩ := (below child listed).2 tail found
      exact ⟨by simp [length], List.forall_mem_cons.mpr ⟨(kid child listed).1, literal⟩⟩

theorem shortWildcardArrays_cons (node : Json) (seg : String) (below : rest ≠ []) :
    ShortWildcardArrays node (seg :: rest) ↔ ∀ child ∈ selected node seg, ShortWildcardArrays child rest := by
  cases rest with
  | nil => exact absurd rfl below
  | cons => rfl

theorem withoutMatches_obj_cons (seg : String) (below : rest ≠ []) :
    withoutMatches (.obj fields) (seg :: rest) = .obj (fields.map fun field =>
      (field.1, if seg = "*" ∨ field.1 = seg then withoutMatches field.2 rest else field.2)) := by
  cases rest with
  | nil => exact absurd rfl below
  | cons => rfl

theorem withoutMatches_arr_cons (seg : String) (below : rest ≠ []) :
    withoutMatches (.arr items) (seg :: rest) = .arr (if seg = "*" then items.map fun item => withoutMatches item rest
      else ((Json.arrayIndex seg).map fun i => items.modify i fun item => withoutMatches item rest).getD items) := by
  cases rest with
  | nil => exact absurd rfl below
  | cons => rfl

/-- The last segment of a pattern. -/
theorem eraseAll_matchedPaths_last (valid : node.Valid) (segment : seg = "*" ∨ PatternKey seg) :
    eraseAll node (matchedPaths node [seg]) = withoutMatches node [seg] ↔ ShortWildcardArrays node [seg] := by
  cases valid with
  | @obj fields keyed each =>
    refine iff_of_true ?_ nofun
    rcases segment with rfl | key
    · have perm := @Go.sortStable_perm _ (fun a b : String => decide (a < b)) (fields.map Prod.fst)
      have paths : matchedPaths (.obj fields) ["*"] =
          (Go.sortStable (fun a b => decide (a < b)) (fields.map Prod.fst)).map fun key => [key] := by
        rw [matchedPaths_wildcard_obj, @List.map_eq_flatMap _ _ fun key => [key]]
        refine List.flatMap_congr fun name member => ?_
        obtain ⟨field, listed, rfl⟩ := List.mem_map.mp (perm.mem_iff.mp member)
        rw [(keyed.mem_iff field.1 field.2).mp listed]
        rfl
      rw [paths, eraseAll_obj_last]
      refine congrArg Json.obj (List.filter_congr fun field member => ?_)
      have listed : field.1 ∈ Go.sortStable (fun a b => decide (a < b)) (fields.map Prod.fst) :=
        perm.mem_iff.mpr (List.mem_map_of_mem member)
      simp only [listed, true_or]
    · rw [matchedPaths_key_obj key, if_pos rfl, withoutMatches]
      refine congrArg Json.obj (List.filter_congr fun field _ => ?_)
      simp [key.literal.ne_wildcard]
  | @arr items each =>
    rcases segment with rfl | key
    · have paths : matchedPaths (.arr items) ["*"] = items.zipIdx.map fun indexed => [indexed.2.repr] := by
        rw [matchedPaths_wildcard_arr, List.map_eq_flatMap]
        rfl
      rw [paths, withoutMatches, if_pos rfl, eraseAll_indexes]
      exact ⟨fun short _ same _ => by cases same; exact short, fun short => short items rfl rfl⟩
    · refine iff_of_true ?_ fun _ _ wildcard => absurd wildcard key.literal.ne_wildcard
      rw [matchedPaths_key_arr key, withoutMatches, if_neg key.literal.ne_wildcard]
      cases index : Json.arrayIndex seg with
      | none => rfl
      | some i =>
        cases found : items[i]? with
        | none =>
          have beyond := List.getElem?_eq_none_iff.mp found
          simp [eraseAll, found, List.eraseIdx_of_length_le beyond]
        | some child => simp [eraseAll, found, matchedPaths_nil, Json.erase, index]
  | _ => exact iff_of_true (by simp [matchedPaths, collectWildcardPaths, eraseAll, withoutMatches]) nofun

theorem modify_eq_modify_iff {items : List Json} {i : Nat} {child : Json} (found : items[i]? = some child) {f g : Json → Json} :
    items.modify i f = items.modify i g ↔ f child = g child := by
  constructor
  · intro same
    have here := congrArg (·[i]?) same
    simpa [List.getElem?_modify, found] using here
  · intro same
    refine List.ext_getElem? fun k => ?_
    rw [List.getElem?_modify, List.getElem?_modify]
    by_cases here : i = k
    · subst here
      simp [found, same]
    · simp [here]

/-- Deleting the expanded paths one by one removes the matches exactly when no
final wildcard meets a longer array. -/
theorem eraseAll_matchedPaths_iff (valid : node.Valid) {segments : List String} (some_ : segments ≠ [])
    (pattern : ∀ seg ∈ segments, seg = "*" ∨ PatternKey seg) (keys : LiteralWildcardKeys node segments) :
    eraseAll node (matchedPaths node segments) = withoutMatches node segments ↔ ShortWildcardArrays node segments := by
  induction segments generalizing node with
  | nil => exact absurd rfl some_
  | cons seg rest ih =>
    obtain ⟨segment, later⟩ := List.forall_mem_cons.mp pattern
    by_cases below : rest = []
    · subst below
      exact eraseAll_matchedPaths_last valid segment
    · have childIff : ∀ child ∈ selected node seg,
          (eraseAll child (matchedPaths child rest) = withoutMatches child rest ↔ ShortWildcardArrays child rest) :=
        fun child inside => ih (valid_selected valid inside) below later (keys.2 child inside)
      have deeper : ∀ child ∈ selected node seg, ∀ path ∈ matchedPaths child rest, path ≠ [] := by
        rintro child inside _ member rfl
        have length := ((matchedPaths_literal (valid_selected valid inside) later (keys.2 child inside)).2 _ member).1
        exact below (List.eq_nil_of_length_eq_zero length.symm)
      rw [shortWildcardArrays_cons node seg below]
      cases valid with
      | @obj fields keyed each =>
        have lookup : ∀ field ∈ fields, fields.lookup field.1 = some field.2 :=
          fun field member => (keyed.mem_iff field.1 field.2).mp member
        rw [withoutMatches_obj_cons fields seg below]
        rcases segment with rfl | key
        · have perm := @Go.sortStable_perm _ (fun a b : String => decide (a < b)) (fields.map Prod.fst)
          have listed : ∀ field ∈ fields, field.1 ∈ Go.sortStable (fun a b => decide (a < b)) (fields.map Prod.fst) :=
            fun field member => perm.mem_iff.mpr (List.mem_map_of_mem member)
          have all : selected (.obj fields) "*" = fields.map Prod.snd := by simp [selected]
          rw [all] at deeper childIff ⊢
          rw [matchedPaths_wildcard_obj, eraseAll_obj_keys fields (perm.nodup_iff.mpr keyed)
            (fun key => (fields.lookup key).elim [] (matchedPaths · rest)) ?_, Json.obj.injEq, List.map_inj_left,
            List.forall_mem_map]
          · refine forall₂_congr fun field member => ?_
            rw [if_pos (listed field member), if_pos (Or.inl rfl), lookup field member, Prod.mk.injEq]
            exact (and_iff_right rfl).trans (childIff field.2 (List.mem_map_of_mem member))
          · intro name member path inside
            obtain ⟨field, found, rfl⟩ := List.mem_map.mp (perm.mem_iff.mp member)
            rw [lookup field found] at inside
            exact deeper field.2 (List.mem_map_of_mem found) path inside
        · have paths : ∀ path ∈ (fields.lookup seg).elim [] (matchedPaths · rest), path ≠ [] := by
            cases found : fields.lookup seg with
            | none => exact nofun
            | some child =>
              have inside := (keyed.mem_iff seg child).mpr found
              exact deeper child (List.mem_map.mpr ⟨_, List.mem_filter.mpr ⟨inside, by simp⟩, rfl⟩)
          rw [matchedPaths_key_obj key, if_neg below, eraseAll_obj_key fields seg paths, Json.obj.injEq, List.map_inj_left, selected,
            List.forall_mem_map]
          simp only [key.literal.ne_wildcard, false_or, List.mem_filter, and_imp, decide_eq_true_eq, Prod.mk.injEq, true_and]
          refine forall₂_congr fun field member => ?_
          by_cases here : field.1 = seg
          · rw [if_pos here, if_pos here, ← here, lookup field member]
            have inside : field.2 ∈ selected (.obj fields) seg :=
              List.mem_map.mpr ⟨field, List.mem_filter.mpr ⟨member, by simp [here]⟩, rfl⟩
            exact (childIff field.2 inside).trans ⟨fun short _ => short, fun short => short rfl⟩
          · rw [if_neg here, if_neg here]
            exact iff_of_true rfl fun same => absurd same here
      | @arr items each =>
        rw [withoutMatches_arr_cons items seg below]
        rcases segment with rfl | key
        · have all : selected (.arr items) "*" = items := by rw [selected, if_pos rfl]
          rw [all] at deeper childIff ⊢
          rw [matchedPaths_wildcard_arr, if_pos rfl]
          have handled := eraseAll_arr_items (matchedPaths · rest) items deeper []
          rw [List.nil_append, List.nil_append, List.length_nil] at handled
          rw [handled, Json.arr.injEq, List.map_inj_left]
          exact forall₂_congr childIff
        · rw [matchedPaths_key_arr key, if_neg key.literal.ne_wildcard]
          rw [selected, if_neg key.literal.ne_wildcard] at deeper childIff ⊢
          cases index : Json.arrayIndex seg with
          | none => exact iff_of_true rfl nofun
          | some i =>
            rw [index, Option.bind_some] at deeper childIff
            rw [Option.bind_some, Option.map_some, Option.getD_some]
            cases found : items[i]? with
            | none =>
              refine iff_of_true ?_ nofun
              rw [List.modify_eq_self (List.getElem?_eq_none_iff.mp found)]
              rfl
            | some child =>
              rw [found] at deeper childIff
              rw [Option.elim_some, eraseAll_arr_key items seg (deeper child (List.mem_singleton_self child)), index, Option.map_some,
                Option.getD_some, Json.arr.injEq, modify_eq_modify_iff found, childIff child (List.mem_singleton_self child)]
              simp
      | _ =>
        refine iff_of_true ?_ nofun
        cases rest with
        | nil => exact absurd rfl below
        | cons => simp [matchedPaths, collectWildcardPaths, eraseAll, withoutMatches]

theorem uniq_nodup {l : List String} (distinct : l.Nodup) : uniq l = l := by
  have run : ∀ (rest seen : List String), (seen ++ rest).Nodup →
      rest.foldl (fun seen s => if s ∈ seen then seen else seen ++ [s]) seen = seen ++ rest := by
    intro rest
    induction rest with
    | nil => simp
    | cons s rest ih =>
      intro seen distinct
      have fresh : s ∉ seen := fun inside => (List.disjoint_of_nodup_append distinct) inside List.mem_cons_self
      rw [List.foldl_cons, if_neg fresh, ih (seen ++ [s]) (by simpa using distinct)]
      simp
  simpa [uniq] using run l [] (by simpa using distinct)

theorem deleteValue_literal (paths : JsonPaths) (data : Json) (some_ : path ≠ [])
    (literal : ∀ key ∈ path, LiteralKey key) : deleteValue paths data (".".intercalate path) = .ok (data.erase path) := by
  have filled : Go.trimSpace (".".intercalate path) ≠ "" := by
    obtain ⟨key, rest, rfl⟩ := List.exists_cons_of_ne_nil some_
    rw [Ne, Go.trimSpace_eq_nil_iff, String.toList_intercalate]
    intro blank
    refine (literal key List.mem_cons_self).filled ((Go.trimSpace_eq_nil_iff key).mpr fun c member => blank c ?_)
    cases rest with
    | nil => simpa [List.intercalate] using member
    | cons => simp [List.intercalate_cons_cons, member]
  rw [deleteValue, if_neg filled, paths.delete_plain data path some_ literal]

theorem foldlM_deleteValue (paths : JsonPaths) (data : Json) {all : List (List String)}
    (literal : ∀ path ∈ all, path ≠ [] ∧ ∀ key ∈ path, LiteralKey key) :
    (all.map ".".intercalate).foldlM (deleteValue paths) data = .ok (eraseAll data all) := by
  induction all generalizing data with
  | nil => rfl
  | cons path all ih =>
    obtain ⟨⟨some_, keys⟩, rest⟩ := List.forall_mem_cons.mp literal
    rw [List.map_cons, List.foldlM_cons, deleteValue_literal paths data some_ keys]
    exact ih (data.erase path) rest

/-- A wildcard delete, after its negative indexes have been processed, removes exactly
the matches if and only if its final wildcard meets no array of two or more elements,
where the pattern and the keys its wildcards meet are literal. -/
theorem wildcard_delete_exact_iff (paths : JsonPaths) (data : Json) (valid : data.Valid) (path : String)
    (wildcard : Go.contains (processNegativeIndex paths data path) "*" = true)
    (pattern : ∀ seg ∈ Go.split '.' (processNegativeIndex paths data path), seg = "*" ∨ PatternKey seg)
    (keys : LiteralWildcardKeys data (Go.split '.' (processNegativeIndex paths data path))) :
    deleteOperation paths data path = .ok (withoutMatches data (Go.split '.' (processNegativeIndex paths data path))) ↔
      ShortWildcardArrays data (Go.split '.' (processNegativeIndex paths data path)) := by
  unfold deleteOperation
  generalize processNegativeIndex paths data path = path at *
  have some_ : Go.split '.' path ≠ [] := by
    rw [Go.split, Ne, List.map_eq_nil_iff]
    exact List.splitOn_ne_nil _ _
  obtain ⟨distinct, literal⟩ := matchedPaths_literal valid pattern keys
  have filled : ∀ keys ∈ matchedPaths data (Go.split '.' path), keys ≠ [] ∧ ∀ key ∈ keys, LiteralKey key := by
    intro keys member
    obtain ⟨length, each⟩ := literal keys member
    exact ⟨fun none_ => some_ (List.eq_nil_of_length_eq_zero (by rw [← length, none_]; rfl)), each⟩
  have joined : ((matchedPaths data (Go.split '.' path)).map ".".intercalate).Nodup := by
    refine distinct.map_on fun one left two right same => ?_
    have back : ∀ keys ∈ matchedPaths data (Go.split '.' path), Go.split '.' (".".intercalate keys) = keys :=
      fun keys member => Go.split_intercalate rfl (filled keys member).1 fun key inside =>
        Go.dot_free ((filled keys member).2 key inside).1
    rw [← back one left, same, back two right]
  rw [resolveOperationPaths, if_pos wildcard, expandWildcardPaths, ← matchedPaths, uniq_nodup joined,
    foldlM_deleteValue paths data filled, Except.ok.injEq, eraseAll_matchedPaths_iff valid some_ pattern keys]

def twoTools : Json := .obj [("tools", .arr [.obj [("name", .str "a")], .obj [("name", .str "b")]])]

theorem twoTools_names_deleted :
    deleteOperation JsonPaths.literal twoTools "tools.*.name" = .ok (.obj [("tools", .arr [.obj [], .obj []])]) := by
  have segments : Go.split '.' (processNegativeIndex JsonPaths.literal twoTools "tools.*.name") =
    ["tools", "*", "name"] := by
    decide
  have valid : twoTools.Valid := .single <| .arr fun item listed => by
    rcases List.mem_pair.mp listed with rfl | rfl <;> exact .single (.str _)
  have key : ∀ seg ∈ ["tools", "name"], PatternKey seg := by
    intro seg member
    rcases List.mem_pair.mp member with rfl | rfl <;>
      exact ⟨⟨by decide, by decide⟩, by decide, by simp, fun i index => by simp [Json.arrayIndex] at index⟩
  have exact_iff := wildcard_delete_exact_iff JsonPaths.literal twoTools valid "tools.*.name" (by decide)
  rw [segments] at exact_iff
  refine (exact_iff (by simp [key]) ?_).mpr ?_
  · simp [LiteralWildcardKeys, selected, twoTools]
  · simp [ShortWildcardArrays, selected, twoTools]

/-- Every other tool survives a delete of all of them. -/
theorem wildcard_skips_renumbered :
    deleteOperation JsonPaths.literal twoTools "tools.*" = .ok (.obj [("tools", .arr [.obj [("name", .str "b")]])]) ∧
      withoutMatches twoTools (Go.split '.' "tools.*") = .obj [("tools", .arr [])] := by
  exact ⟨rfl, rfl⟩

end LLMHub
