import LLMHub.ParamOverride.Conditions

namespace LLMHub

open Go (Json JsonPaths)

/-- The distance from the end that a segment such as `-2` stands for. -/
def negativeIndex (seg : String) : Option Nat :=
  match seg.toList with
  | '-' :: digits => if digits.isEmpty || !digits.all Char.isDigit then none else some (Nat.ofDigitChars 10 digits 0)
  | _ => none

/-- The segment starts the way a negative index does. -/
def signedStart : List Char → Bool
  | '-' :: c :: _ => c.isDigit
  | _ => false

/-- A path with each negative index, within the bounds of the array at its
resolved front, replaced by the index it stands for. -/
inductive Resolves (data : Json) : List String → List String → Prop
  | nil : Resolves data [] []
  | key {segs resolved : List String} {seg : String} (front : Resolves data segs resolved)
      (free : '.' ∉ seg.toList) (unsigned : signedStart seg.toList = false) :
      Resolves data (segs ++ [seg]) (resolved ++ [seg])
  | index {segs resolved : List String} {seg : String} {k : Nat} {items : List Json} (front : Resolves data segs resolved)
      (negative : negativeIndex seg = some k) (found : data.walk resolved = some (.arr items)) (low : 0 < k)
      (high : k ≤ items.length) (fits : items.length < 2 ^ 63) :
      Resolves data (segs ++ [seg]) (resolved ++ [(items.length - k).repr])

/-- The index that the textual lookup gives for a negative index. -/
def lookedUpIndex (paths : JsonPaths) (data : Json) (path negIndex : List Char) : Option Nat :=
  match paths.get data (String.ofList (negativeIndexArrayPath path negIndex)) with
  | some (.arr items) =>
    let actualIndex := items.length + (Go.parseInt (String.ofList negIndex)).value
    if 0 ≤ actualIndex ∧ actualIndex < items.length then some actualIndex.toNat else none
  | _ => none

theorem replaceNegativeIndex_eq (paths : JsonPaths) (data : Json) (path result negIndex : List Char) :
    replaceNegativeIndex paths data path result negIndex =
      match lookedUpIndex paths data path negIndex with
      | some n => Go.replaceFirst ('.' :: negIndex) ('.' :: n.repr.toList) result
      | none => result := by
  unfold replaceNegativeIndex lookedUpIndex
  cases paths.get data (String.ofList (negativeIndexArrayPath path negIndex)) with
  | none => rfl
  | some found =>
    cases found with
    | arr items =>
      dsimp only
      split_ifs with inside
      · obtain ⟨n, same⟩ := Int.eq_ofNat_of_zero_le inside.1
        rw [same]
        rfl
      · rfl
    | _ => rfl

/-- The text of the segments after the first one. -/
def tailText (segs : List (List Char)) : List Char := segs.flatMap ('.' :: ·)

/-- The first segment that starts with the text gets another start. -/
def replaceSegment (text new : List Char) : List (List Char) → List (List Char)
  | [] => []
  | seg :: segs =>
    if text.isPrefixOf seg then (new ++ seg.drop text.length) :: segs else seg :: replaceSegment text new segs

theorem negativeIndexes_free {seg : List Char} (free : '.' ∉ seg) (rest : List Char) :
    negativeIndexes (seg ++ rest) = negativeIndexes rest := by
  induction seg with
  | nil => rfl
  | cons c seg ih =>
    have here : negativeIndexAt (c :: (seg ++ rest)) = none := by
      unfold negativeIndexAt
      split
      · next same => exact absurd ((List.cons.inj same).1 ▸ List.mem_cons_self) free
      · rfl
    rw [List.cons_append, negativeIndexes, here, ih fun inside => free (List.mem_cons_of_mem c inside)]
    rfl

theorem tailText_cons (seg : List Char) (segs : List (List Char)) : tailText (seg :: segs) = '.' :: (seg ++ tailText segs) := rfl

/-- A dot or nothing comes after a segment. -/
theorem tailText_head (segs : List (List Char)) : tailText segs = [] ∨ ∃ rest, tailText segs = '.' :: rest := by
  cases segs with
  | nil => exact Or.inl rfl
  | cons seg segs => exact Or.inr ⟨_, rfl⟩

/-- A segment without a dot; if it starts as a negative index it is one. -/
structure WholeSegment (seg : List Char) : Prop where
  free : '.' ∉ seg
  whole : signedStart seg = true → seg.tail.all Char.isDigit = true

theorem negativeIndexAt_segment {seg : List Char} (segment : WholeSegment seg) (segs : List (List Char)) :
    negativeIndexAt ('.' :: (seg ++ tailText segs)) = if signedStart seg then some seg else none := by
  have after : (tailText segs).takeWhile Char.isDigit = [] := by
    rcases tailText_head segs with nothing | ⟨rest, dot⟩
    · simp [nothing]
    · simp [dot]
  match seg, segment with
  | [], _ => rcases tailText_head segs with nothing | ⟨rest, dot⟩ <;> simp [negativeIndexAt, signedStart, *]
  | [c], segment =>
    by_cases minus : c = '-'
    · subst minus
      simp [negativeIndexAt, signedStart, after]
    · simp [negativeIndexAt, signedStart, minus]
  | c :: d :: rest, segment =>
    by_cases minus : c = '-'
    · subst minus
      cases digit : d.isDigit with
      | false => simp [negativeIndexAt, signedStart, digit]
      | true =>
        have digits : ∀ x ∈ d :: rest, x.isDigit = true := List.all_eq_true.mp (segment.whole digit)
        have taken : (d :: rest ++ tailText segs).takeWhile Char.isDigit = d :: rest := by
          rw [List.takeWhile_append_of_pos digits, after, List.append_nil]
        simp only [negativeIndexAt, signedStart, List.cons_append, digit, ite_true] at taken ⊢
        simp [taken]
    · simp [negativeIndexAt, signedStart, minus]

variable {segs : List (List Char)}

theorem negativeIndexes_tailText (segments : ∀ seg ∈ segs, WholeSegment seg) :
    negativeIndexes (tailText segs) = segs.filter signedStart := by
  induction segs with
  | nil => rfl
  | cons seg segs ih =>
    obtain ⟨first, rest⟩ := List.forall_mem_cons.mp segments
    rw [tailText_cons, negativeIndexes, negativeIndexAt_segment first, negativeIndexes_free first.free, ih rest, List.filter_cons]
    split_ifs <;> rfl

theorem replaceFirst_free {seg : List Char} (free : '.' ∉ seg) (text new rest : List Char) :
    Go.replaceFirst ('.' :: text) new (seg ++ rest) = seg ++ Go.replaceFirst ('.' :: text) new rest := by
  induction seg with
  | nil => rfl
  | cons c seg ih =>
    have other : ('.' == c) = false := beq_false_of_ne fun same => free (same ▸ List.mem_cons_self)
    rw [List.cons_append, Go.replaceFirst, List.isPrefixOf, other, Bool.false_and, if_neg (by simp),
      ih fun inside => free (List.mem_cons_of_mem c inside), List.cons_append]

/-- A text without a dot starts a path's tail only inside its first segment. -/
theorem isPrefixOf_segment {text seg : List Char} (free : '.' ∉ text) (segs : List (List Char)) :
    text.isPrefixOf (seg ++ tailText segs) = text.isPrefixOf seg := by
  induction text generalizing seg with
  | nil => simp
  | cons c text ih =>
    cases seg with
    | nil =>
      rcases tailText_head segs with nothing | ⟨rest, dot⟩
      · rw [nothing]
        rfl
      · have other : (c == '.') = false := beq_false_of_ne fun same => free (same ▸ List.mem_cons_self)
        simp [dot, List.isPrefixOf, other]
    | cons d seg =>
      rw [List.cons_append, List.isPrefixOf, List.isPrefixOf, ih fun inside => free (List.mem_cons_of_mem c inside)]

theorem replaceFirst_tailText {text new : List Char} (free : '.' ∉ text) (segments : ∀ seg ∈ segs, '.' ∉ seg) :
    Go.replaceFirst ('.' :: text) ('.' :: new) (tailText segs) = tailText (replaceSegment text new segs) := by
  induction segs with
  | nil => rfl
  | cons seg segs ih =>
    obtain ⟨first, rest⟩ := List.forall_mem_cons.mp segments
    rw [tailText_cons, Go.replaceFirst, replaceSegment, List.isPrefixOf, beq_self_eq_true, Bool.true_and, isPrefixOf_segment free]
    split_ifs with starts
    · have short := (List.isPrefixOf_iff_prefix.mp starts).length_le
      rw [tailText_cons, List.length_cons, List.drop_succ_cons, List.drop_append_of_le_length short]
      simp
    · rw [replaceFirst_free first, ih rest, tailText_cons]

theorem signedStart_decimal (n : Nat) : signedStart n.repr.toList = false := by
  cases text : n.repr.toList with
  | nil => rfl
  | cons c rest =>
    have digit : c.isDigit = true := Go.digit_of_mem_decimal (text ▸ List.mem_cons_self : c ∈ n.repr.toList)
    have other : c ≠ '-' := by rintro rfl; exact absurd digit (by decide)
    unfold signedStart
    split
    · next same => exact absurd (List.cons.inj same).1 other
    · rfl

theorem signedStart_of_front {text seg : List Char} (signed : signedStart text = true) (starts : text.isPrefixOf seg = true) :
    signedStart seg = true := by
  obtain ⟨rest, rfl⟩ := List.isPrefixOf_iff_prefix.mp starts
  unfold signedStart at signed
  split at signed
  · exact signed
  · exact absurd signed (by simp)

section Run

variable (look : List Char → Option Nat)

def replaceLookedUp (segs : List (List Char)) (text : List Char) : List (List Char) :=
  match look text with
  | some n => replaceSegment text n.repr.toList segs
  | none => segs

/-- A match removes at most one negative index. -/
theorem length_signed_replaceSegment (text new : List Char) (segs : List (List Char)) :
    (segs.filter signedStart).length ≤ ((replaceSegment text new segs).filter signedStart).length + 1 := by
  induction segs with
  | nil => simp
  | cons seg segs ih =>
    rw [replaceSegment]
    split_ifs <;> simp only [List.filter_cons] <;> split_ifs <;> grind

theorem length_signed_run (texts : List (List Char)) (segs : List (List Char)) :
    (segs.filter signedStart).length ≤ ((texts.foldl (replaceLookedUp look) segs).filter signedStart).length +
      (texts.filter fun text => (look text).isSome).length := by
  induction texts generalizing segs with
  | nil => simp
  | cons text texts ih =>
    have later := ih (replaceLookedUp look segs text)
    rw [List.foldl_cons, List.filter_cons]
    cases found : look text with
    | none =>
      simp only [replaceLookedUp, found, Option.isSome_none] at later ⊢
      exact later
    | some n =>
      have step := length_signed_replaceSegment text n.repr.toList segs
      simp only [replaceLookedUp, found, Option.isSome_some, ite_true, List.length_cons] at later ⊢
      omega

/-- What becomes of a segment when every lookup finds something. -/
def lookedUpSegment (seg : List Char) : List Char :=
  if signedStart seg then ((look seg).map fun n => n.repr.toList).getD seg else seg

theorem run_lookedUp {front : List (List Char)} (done : ∀ seg ∈ front, signedStart seg = false)
    (found : ∀ seg ∈ segs, signedStart seg = true → (look seg).isSome = true) :
    (segs.filter signedStart).foldl (replaceLookedUp look) (front ++ segs) = front ++ segs.map (lookedUpSegment look) := by
  induction segs generalizing front with
  | nil => simp
  | cons seg segs ih =>
    obtain ⟨first, rest⟩ := List.forall_mem_cons.mp found
    cases signed : signedStart seg with
    | false =>
      have later := @ih (front ++ [seg]) (List.forall_mem_append.mpr ⟨done, by simpa using signed⟩) rest
      simpa [List.filter_cons, signed, lookedUpSegment] using later
    | true =>
      obtain ⟨n, here⟩ := Option.isSome_iff_exists.mp (first signed)
      have step : replaceLookedUp look (front ++ seg :: segs) seg = (front ++ [n.repr.toList]) ++ segs := by
        simp only [replaceLookedUp, here]
        clear ih
        induction front with
        | nil => simp [replaceSegment]
        | cons other front inner =>
          obtain ⟨head, tail⟩ := List.forall_mem_cons.mp done
          have differs : seg.isPrefixOf other = false := by
            rw [Bool.eq_false_iff]
            exact fun starts => absurd (signedStart_of_front signed starts) (by simp [head])
          rw [List.cons_append, replaceSegment, differs, if_neg (by simp), inner tail]
          rfl
      have later := @ih (front ++ [n.repr.toList])
        (List.forall_mem_append.mpr ⟨done, by simpa using signedStart_decimal n⟩) rest
      rw [List.filter_cons, if_pos signed, List.foldl_cons, step, later]
      simp [lookedUpSegment, signed, here]

/-- If no negative index is left at the end, every lookup found something. -/
theorem all_lookedUp {look : List Char → Option Nat}
    (left : ∀ seg ∈ (segs.filter signedStart).foldl (replaceLookedUp look) segs, signedStart seg = false) :
    ∀ seg ∈ segs, signedStart seg = true → (look seg).isSome = true := by
  have count := length_signed_run look (segs.filter signedStart) segs
  have none_ : ((segs.filter signedStart).foldl (replaceLookedUp look) segs).filter signedStart = [] :=
    List.filter_eq_nil_iff.mpr fun seg member => by simp [left seg member]
  rw [none_, List.length_nil, Nat.zero_add] at count
  have every := List.length_filter_eq_length_iff.mp (Nat.le_antisymm (List.length_filter_le _ _) count)
  exact fun seg member signed => every seg (List.mem_filter.mpr ⟨member, signed⟩)

end Run

variable {seg : String}

theorem negativeIndex_eq_some {k : Nat} (negative : negativeIndex seg = some k) :
    ∃ c digits, seg.toList = '-' :: c :: digits ∧ (∀ d ∈ c :: digits, d.isDigit = true) ∧
      Nat.ofDigitChars 10 (c :: digits) 0 = k := by
  unfold negativeIndex at negative
  split at negative
  · next digits text =>
    split_ifs at negative with bad
    simp only [Bool.or_eq_true, not_or, Bool.not_eq_true, Bool.not_eq_true', Bool.not_eq_false] at bad
    cases digits with
    | nil => exact absurd bad.1 (by simp)
    | cons c digits => exact ⟨c, digits, text, List.all_eq_true.mp bad.2, Option.some.inj negative⟩
  · exact absurd negative nofun

theorem signedStart_negative {k : Nat} (negative : negativeIndex seg = some k) :
    signedStart seg.toList = true ∧ WholeSegment seg.toList := by
  obtain ⟨c, digits, text, all, -⟩ := negativeIndex_eq_some negative
  rw [text]
  refine ⟨all c List.mem_cons_self, fun inside => ?_, fun _ => List.all_eq_true.mpr all⟩
  rcases List.mem_cons.mp inside with same | digit
  · exact absurd same (by decide)
  · exact absurd (all '.' digit) (by decide)

theorem parseInt_negative {k : Nat} (negative : negativeIndex seg = some k) (fits : k < 2 ^ 63) :
    (Go.parseInt seg).value = -k := by
  obtain ⟨c, digits, text, all, rfl⟩ := negativeIndex_eq_some negative
  have word : Go.Fits (-(Nat.ofDigitChars 10 (c :: digits) 0 : Int)) := ⟨by omega, by omega⟩
  have every : (c :: digits).all Char.isDigit = true := List.all_eq_true.mpr all
  rw [Go.parseInt, text]
  simp only [Go.signedDigits, every, List.isEmpty_cons, Bool.not_true, Bool.or_self, Bool.false_eq_true, if_false, if_true]
  rw [if_pos word]

/-- The textual lookup of a negative index, by the array it finds. -/
theorem lookedUpIndex_eq_some_iff {paths : JsonPaths} {data : Json} {path : List Char} {k n : Nat}
    (negative : negativeIndex seg = some k) (positive : 0 < k) (fits : k < 2 ^ 63) :
    lookedUpIndex paths data path seg.toList = some n ↔
      ∃ found, paths.get data (String.ofList (negativeIndexArrayPath path seg.toList)) = some (.arr found) ∧
        k ≤ found.length ∧ n = found.length - k := by
  unfold lookedUpIndex
  cases got : paths.get data (String.ofList (negativeIndexArrayPath path seg.toList)) with
  | none => simp
  | some value =>
    cases value with
    | arr found =>
      simp only [String.ofList_toList, parseInt_negative negative fits, Option.some.injEq, Json.arr.injEq, exists_eq_left']
      rw [Option.ite_none_right_eq_some, Option.some.injEq]
      omega
    | _ => simp

theorem Resolves.length_eq {data : Json} {segs resolved : List String} (resolves : Resolves data segs resolved) :
    resolved.length = segs.length := by
  induction resolves with
  | nil => rfl
  | key _ _ _ ih | index _ _ _ _ _ _ ih => simp [ih]

theorem getElem?_snoc {segs : List String} {last : String} {i : Nat} (here : (segs ++ [last])[i]? = some seg) :
    i < segs.length ∧ segs[i]? = some seg ∨ i = segs.length ∧ seg = last := by
  rcases Nat.lt_trichotomy i segs.length with before | rfl | after
  · rw [List.getElem?_append_left before] at here
    exact Or.inl ⟨before, here⟩
  · rw [List.getElem?_concat_length, Option.some.injEq] at here
    exact Or.inr ⟨rfl, here.symm⟩
  · rw [List.getElem?_eq_none (by simp; omega)] at here
    simp at here

theorem Resolves.at {data : Json} {segs resolved : List String} (resolves : Resolves data segs resolved) {i : Nat}
    (here : segs[i]? = some seg) :
    ('.' ∉ seg.toList ∧ signedStart seg.toList = false ∧ resolved[i]? = some seg) ∨
      ∃ k items, negativeIndex seg = some k ∧ data.walk (resolved.take i) = some (.arr items) ∧ 0 < k ∧ k ≤ items.length ∧
        items.length < 2 ^ 63 ∧ resolved[i]? = some (items.length - k).repr := by
  induction resolves with
  | nil => simp at here
  | @key segs resolved last front free unsigned ih =>
    have length := front.length_eq
    rcases getElem?_snoc here with ⟨before, here⟩ | ⟨rfl, rfl⟩
    · rw [List.getElem?_append_left (by omega), List.take_append_of_le_length (by omega)]
      exact ih here
    · exact Or.inl ⟨free, unsigned, by rw [← length, List.getElem?_concat_length]⟩
  | @index segs resolved last k items front negative found low high fits ih =>
    have length := front.length_eq
    rcases getElem?_snoc here with ⟨before, here⟩ | ⟨rfl, rfl⟩
    · rw [List.getElem?_append_left (by omega), List.take_append_of_le_length (by omega)]
      exact ih here
    · refine Or.inr ⟨k, items, negative, ?_, low, high, fits, by rw [← length, List.getElem?_concat_length]⟩
      rw [← length, List.take_left]
      exact found

theorem dot_free_replaceSegment (text : List Char) (n : Nat) (clean : ∀ seg ∈ segs, '.' ∉ seg) :
    ∀ seg ∈ replaceSegment text n.repr.toList segs, '.' ∉ seg := by
  induction segs with
  | nil => exact nofun
  | cons seg segs ih =>
    obtain ⟨first, rest⟩ := List.forall_mem_cons.mp clean
    rw [replaceSegment]
    split_ifs
    · refine List.forall_mem_cons.mpr ⟨fun inside => ?_, rest⟩
      rcases List.mem_append.mp inside with digit | old
      · exact absurd (Go.digit_of_mem_decimal digit) (by decide)
      · exact first (List.mem_of_mem_drop old)
    · exact List.forall_mem_cons.mpr ⟨first, ih rest⟩

/-- The path that the loop ends with, by its segments. -/
theorem processNegativeIndex_segments (paths : JsonPaths) (data : Json) {first : String} {rest : List String}
    (free : '.' ∉ first.toList) (segments : ∀ seg ∈ rest, WholeSegment seg.toList) :
    let path := ".".intercalate (first :: rest)
    let look := lookedUpIndex paths data path.toList
    let texts := rest.map String.toList
    let final := (texts.filter signedStart).foldl (replaceLookedUp look) texts
    processNegativeIndex paths data path = ".".intercalate (first :: final.map String.ofList) ∧
      ∀ seg ∈ final, '.' ∉ seg := by
  have text : ∀ segs : List String,
      (".".intercalate (first :: segs)).toList = first.toList ++ tailText (segs.map String.toList) := by
    intro segs
    rw [String.toList_intercalate, List.map_cons]
    generalize first.toList = head
    induction segs generalizing head with
    | nil => simp [List.intercalate, tailText]
    | cons seg segs ih =>
      rw [List.map_cons, List.intercalate_cons_cons, ih seg.toList, tailText_cons]
      simp
  intro path look texts final
  have whole : ∀ seg ∈ texts, WholeSegment seg := List.forall_mem_map.mpr segments
  have run : ∀ (found : List (List Char)) (segs : List (List Char)), (∀ seg ∈ found, '.' ∉ seg) → (∀ seg ∈ segs, '.' ∉ seg) →
      found.foldl (replaceNegativeIndex paths data path.toList) (first.toList ++ tailText segs) =
          first.toList ++ tailText (found.foldl (replaceLookedUp look) segs) ∧
        ∀ seg ∈ found.foldl (replaceLookedUp look) segs, '.' ∉ seg := by
    intro found
    induction found with
    | nil => exact fun segs _ clean => ⟨rfl, clean⟩
    | cons negIndex found ih =>
      intro segs free' clean
      obtain ⟨here, later⟩ := List.forall_mem_cons.mp free'
      rw [List.foldl_cons, List.foldl_cons, replaceNegativeIndex_eq]
      cases got : look negIndex with
      | none => simpa [look, replaceLookedUp, got] using ih segs later clean
      | some n =>
        have next := ih (replaceSegment negIndex n.repr.toList segs) later (dot_free_replaceSegment negIndex n clean)
        rw [show lookedUpIndex paths data path.toList negIndex = some n from got, replaceLookedUp, got]
        dsimp only
        rw [replaceFirst_free free, replaceFirst_tailText here clean]
        exact next
  obtain ⟨result, clean⟩ := run (texts.filter signedStart) texts
    (fun seg member => (whole seg (List.mem_filter.mp member).1).free) (fun seg member => (whole seg member).free)
  refine ⟨?_, clean⟩
  have start : path.toList = first.toList ++ tailText texts := text rest
  have matched : negativeIndexes path.toList = texts.filter signedStart := by
    rw [start, negativeIndexes_free free, negativeIndexes_tailText whole]
  have back : (final.map String.ofList).map String.toList = final := by simp [Function.comp_def]
  rw [processNegativeIndex, ← String.toList_inj, String.toList_ofList, text (final.map String.ofList), back, matched]
  exact (congrArg (fun init => (texts.filter signedStart).foldl (replaceNegativeIndex paths data path.toList) init) start).trans
    result

/-- Each negative index is looked up where an array of the right length is: the
text of the path before the index's first occurrence leads, unresolved, to an
array as long as the one at the resolved front. -/
def LookupsAgree (paths : JsonPaths) (data : Json) (segs resolved : List String) : Prop :=
  ∀ i seg k, segs[i]? = some seg → negativeIndex seg = some k → 0 < i ∧
    ∃ items found, data.walk (resolved.take i) = some (.arr items) ∧
      paths.get data (String.ofList (negativeIndexArrayPath (".".intercalate segs).toList seg.toList)) = some (.arr found) ∧
      found.length = items.length

section Resolved

variable {paths : JsonPaths} {data : Json} {first : String} {rest resolved : List String}

/-- The segments after the first, each with what the lookup makes of it. -/
theorem Resolves.rest_eq (resolves : Resolves data (first :: rest) resolved) (agree : LookupsAgree paths data (first :: rest) resolved)
    {i : Nat} (here : rest[i]? = some seg) :
    let look := lookedUpIndex paths data (".".intercalate (first :: rest)).toList
    (signedStart seg.toList = true → (look seg.toList).isSome = true) ∧
      resolved[i + 1]? = some (String.ofList (lookedUpSegment look seg.toList)) := by
  intro look
  rcases resolves.at (i := i + 1) here with ⟨-, unsigned, same⟩ | ⟨k, items, negative, walked, low, high, fits, value⟩
  · rw [same, lookedUpSegment, unsigned]
    simp
  · obtain ⟨-, items', found, walked', got, length⟩ := agree (i + 1) seg k here negative
    obtain rfl : items = items' := Json.arr.inj (Option.some.inj (walked.symm.trans walked'))
    have looked : look seg.toList = some (items.length - k) :=
      (lookedUpIndex_eq_some_iff negative low (by omega)).mpr ⟨found, got, by omega, by omega⟩
    refine ⟨fun _ => by rw [looked]; rfl, ?_⟩
    rw [value, lookedUpSegment, if_pos (signedStart_negative negative).1, looked, Option.map_some, Option.getD_some,
      String.ofList_toList]

/-- A resolved segment has no dot and does not start as a negative index. -/
theorem Resolves.clean (resolves : Resolves data (first :: rest) resolved) :
    ∀ seg ∈ resolved, '.' ∉ seg.toList ∧ signedStart seg.toList = false := by
  intro seg member
  obtain ⟨i, bound, rfl⟩ := List.mem_iff_getElem.mp member
  have length := resolves.length_eq
  rcases resolves.at (List.getElem?_eq_getElem (show i < (first :: rest).length by omega)) with ⟨free, unsigned, same⟩ |
      ⟨k, items, -, -, -, -, -, value⟩
  · rw [List.getElem?_eq_getElem bound, Option.some.injEq] at same
    rw [same]
    exact ⟨free, unsigned⟩
  · rw [List.getElem?_eq_getElem bound, Option.some.injEq] at value
    rw [value]
    exact ⟨fun inside => absurd (Go.digit_of_mem_decimal inside) (by decide), signedStart_decimal _⟩

theorem Resolves.whole (resolves : Resolves data (first :: rest) resolved) : ∀ seg ∈ first :: rest, WholeSegment seg.toList := by
  intro seg member
  obtain ⟨i, bound, rfl⟩ := List.mem_iff_getElem.mp member
  rcases resolves.at (List.getElem?_eq_getElem bound) with ⟨free, unsigned, -⟩ | ⟨k, items, negative, -⟩
  · exact ⟨free, fun signed => absurd signed (by simp [unsigned])⟩
  · exact (signedStart_negative negative).2

/-- A path with one negative index, not in the first place, whose text is not found
before it. -/
theorem LookupsAgree.single {front back : List String} (resolves : Resolves data (front ++ seg :: back) resolved)
    (inner : front ≠ []) (plain : ∀ key ∈ front, Go.plainKey key)
    (alone : ∀ other ∈ front ++ back, negativeIndex other = none)
    (fresh : Go.before seg.toList (".".intercalate (front ++ seg :: back)).toList =
      (".".intercalate front).toList ++ ['.']) :
    LookupsAgree paths data (front ++ seg :: back) resolved := by
  -- what is not an index stays, so the front is where it was
  have kept : resolved.take front.length = front := by
    refine List.ext_getElem? fun i => ?_
    by_cases inside : i < front.length
    · have here := List.getElem?_eq_getElem inside
      rw [List.getElem?_take_of_lt inside, here]
      rcases resolves.at ((List.getElem?_append_left inside).trans here) with ⟨-, -, same⟩ | ⟨k, -, negative, -⟩
      · exact same
      · simp [alone _ (List.mem_append_left _ (List.getElem_mem inside))] at negative
    · simp [inside]
  intro i other k here negative
  obtain ⟨rfl, rfl⟩ : i = front.length ∧ seg = other := by
    rcases Nat.lt_trichotomy i front.length with before | rfl | after
    · rw [List.getElem?_append_left before] at here
      simp [alone other (List.mem_append_left _ (List.mem_of_getElem? here))] at negative
    · simpa using here
    · obtain ⟨j, rfl⟩ := Nat.exists_eq_add_of_lt after
      rw [List.getElem?_append_right (by omega), show front.length + j + 1 - front.length = j + 1 by omega,
        List.getElem?_cons_succ] at here
      simp [alone other (List.mem_append_right _ (List.mem_of_getElem? here))] at negative
  rcases resolves.at here with ⟨-, unsigned, -⟩ | ⟨_, items, -, walked, -⟩
  · simp [(signedStart_negative negative).1] at unsigned
  · refine ⟨List.length_pos_iff.mpr inner, items, items, walked, ?_, rfl⟩
    rw [negativeIndexArrayPath, fresh, if_pos (by simp), List.dropLast_concat, String.ofList_toList,
      paths.get_plain data front inner plain, ← kept]
    exact walked

end Resolved

/-- Every negative index of the path is resolved exactly when each is looked up
at an array of the right length, which the first segment never is. -/
theorem negative_indexes_resolved_iff (paths : JsonPaths) (data : Json) (segs resolved : List String)
    (resolves : Resolves data segs resolved) :
    processNegativeIndex paths data (".".intercalate segs) = ".".intercalate resolved ↔ LookupsAgree paths data segs resolved := by
  cases segs with
  | nil =>
    obtain rfl : resolved = [] := List.eq_nil_of_length_eq_zero resolves.length_eq
    exact iff_of_true rfl fun i seg k here => absurd here (by simp)
  | cons first rest =>
    obtain ⟨firstWhole, whole⟩ := List.forall_mem_cons.mp resolves.whole
    obtain ⟨result, clean⟩ := processNegativeIndex_segments paths data firstWhole.free whole
    have length := resolves.length_eq
    have some_ : resolved ≠ [] := by
      rintro rfl
      exact absurd length (by simp)
    -- the result is compared segment by segment
    have joined : ∀ segs : List String, segs ≠ [] → (∀ seg ∈ segs, '.' ∉ seg.toList) →
        (".".intercalate segs = ".".intercalate resolved ↔ segs = resolved) := by
      intro segs filled free
      refine ⟨fun same => ?_, fun same => by rw [same]⟩
      have one := Go.split_intercalate (show ".".toList = ['.'] from rfl) filled free
      rw [← one, same, Go.split_intercalate (show ".".toList = ['.'] from rfl) some_
        fun seg member => (resolves.clean seg member).1]
    rw [result, joined _ (by simp) (List.forall_mem_cons.mpr ⟨firstWhole.free, List.forall_mem_map.mpr (by simpa using clean)⟩)]
    generalize looks : lookedUpIndex paths data (".".intercalate (first :: rest)).toList = look at *
    constructor
    · intro same
      have found : ∀ text ∈ rest.map String.toList, signedStart text = true → (look text).isSome = true :=
        all_lookedUp (fun text member => by
          have inside : String.ofList text ∈ resolved := same ▸ List.mem_cons_of_mem _ (List.mem_map_of_mem member)
          simpa using (resolves.clean _ inside).2)
      have final := @run_lookedUp _ look [] nofun found
      rw [List.nil_append, List.nil_append] at final
      rw [final] at same
      intro i seg k here negative
      have signed := (signedStart_negative negative).1
      rcases resolves.at here with ⟨-, unsigned, -⟩ | ⟨k', items, negative', walked, low, high, fits, value⟩
      · exact absurd signed (by simp [unsigned])
      · obtain rfl := Option.some.inj (negative.symm.trans negative')
        rw [← same] at value
        cases i with
        | zero =>
          obtain rfl : first = seg := by simpa using here
          have decimal : first = (items.length - k).repr := by simpa using value
          rw [decimal, signedStart_decimal] at signed
          exact absurd signed (by simp)
        | succ j =>
          refine ⟨Nat.succ_pos j, ?_⟩
          have inRest : rest[j]? = some seg := here
          obtain ⟨n, looked⟩ := Option.isSome_iff_exists.mp
            (found seg.toList (List.mem_map_of_mem (List.mem_of_getElem? inRest)) signed)
          have number : n = items.length - k := by
            refine Go.natDecimal_injective ?_
            rw [List.getElem?_cons_succ, List.getElem?_map, List.getElem?_map, List.getElem?_map, inRest] at value
            simpa [lookedUpSegment, signed, looked, -Nat.toList_repr] using value
          rw [← looks] at looked
          obtain ⟨array, got, inBounds, same⟩ := (lookedUpIndex_eq_some_iff negative low (by omega)).mp looked
          exact ⟨items, array, walked, got, by omega⟩
    · intro agree
      have found : ∀ text ∈ rest.map String.toList, signedStart text = true → (look text).isSome = true := by
        refine List.forall_mem_map.mpr fun seg member => ?_
        obtain ⟨i, here⟩ := List.getElem?_of_mem member
        have each := (resolves.rest_eq agree here).1
        rwa [looks] at each
      have final := @run_lookedUp _ look [] nofun found
      rw [List.nil_append, List.nil_append] at final
      rw [final]
      refine List.ext_getElem? fun i => ?_
      cases i with
      | zero =>
        rcases resolves.at (show (first :: rest)[0]? = some first from rfl) with ⟨-, -, same⟩ | ⟨k, items, negative, -⟩
        · exact same.symm
        · exact absurd (agree 0 first k rfl negative).1 (Nat.lt_irrefl 0)
      | succ j =>
        cases here : rest[j]? with
        | none =>
          have beyond := List.getElem?_eq_none_iff.mp here
          rw [List.getElem?_eq_none (by simpa using beyond), List.getElem?_eq_none (by rw [length, List.length_cons]; omega)]
        | some seg =>
          have each := (resolves.rest_eq agree here).2
          rw [looks] at each
          rw [each, List.getElem?_cons_succ, List.getElem?_map, List.getElem?_map, List.getElem?_map, here]
          rfl

def modelsDocument : Json := .obj [("arr", .arr [.obj [("model", .str "a")], .obj [("model", .str "b")]])]

theorem modelsDocument_last_resolved :
    processNegativeIndex JsonPaths.literal modelsDocument (".".intercalate ["arr", "-1", "model"]) =
      ".".intercalate ["arr", "1", "model"] := by
  have front : Resolves modelsDocument ["arr"] ["arr"] := @Resolves.key _ [] [] "arr" .nil (by decide) (by decide)
  have last : Resolves modelsDocument ["arr", "-1"] ["arr", "1"] :=
    @Resolves.index _ ["arr"] ["arr"] "-1" 1 _ front (by decide) rfl (by decide) (by decide) (by decide)
  have resolves : Resolves modelsDocument ["arr", "-1", "model"] ["arr", "1", "model"] :=
    @Resolves.key _ ["arr", "-1"] ["arr", "1"] "model" last (by decide) (by decide)
  have agree : LookupsAgree JsonPaths.literal modelsDocument (["arr"] ++ "-1" :: ["model"]) ["arr", "1", "model"] :=
    .single resolves (by decide) (by decide) (by decide) (by decide)
  exact (negative_indexes_resolved_iff JsonPaths.literal modelsDocument _ _ resolves).mpr agree

/-- Two levels of conversations: the outer array has two elements, the last
inner one three. -/
def nestedArrays : Json := .obj [("a", .arr [.null, .obj [("b", .arr [.num 1, .num 2, .num 3])]])]

/-- The second index is resolved against the outer array: `a.1.b.1` instead of `a.1.b.2`. -/
theorem second_index_misresolved :
    Resolves nestedArrays ["a", "-1", "b", "-1"] ["a", "1", "b", "2"] ∧
      processNegativeIndex JsonPaths.literal nestedArrays "a.-1.b.-1" = "a.1.b.1" := by
  have outer : Resolves nestedArrays ["a"] ["a"] := @Resolves.key _ [] [] "a" .nil (by decide) (by decide)
  have last : Resolves nestedArrays ["a", "-1"] ["a", "1"] :=
    @Resolves.index _ ["a"] ["a"] "-1" 1 _ outer (by decide) rfl (by decide) (by decide) (by decide)
  have inner : Resolves nestedArrays ["a", "-1", "b"] ["a", "1", "b"] :=
    @Resolves.key _ ["a", "-1"] ["a", "1"] "b" last (by decide) (by decide)
  exact ⟨@Resolves.index _ ["a", "-1", "b"] ["a", "1", "b"] "-1" 1 _ inner (by decide) rfl (by decide) (by decide) (by decide),
    by decide⟩

end LLMHub
