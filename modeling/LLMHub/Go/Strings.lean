import Mathlib.Data.List.DropRight

namespace Go

/-- `unicode.IsSpace`: the Latin-1 spaces and the other code points with the
`White_Space` property. -/
def isSpace (c : Char) : Bool :=
  let n := c.toNat
  (9 ≤ n && n ≤ 13) || n == 32 || n == 0x85 || n == 0xA0 || n == 0x1680 || (0x2000 ≤ n && n ≤ 0x200A) ||
    n == 0x2028 || n == 0x2029 || n == 0x202F || n == 0x205F || n == 0x3000

/-- `strings.TrimSpace`. -/
def trimSpace (s : String) : String := String.ofList ((s.toList.dropWhile isSpace).rdropWhile isSpace)

/-- `unicode.ToUpper` on the letters whose upper case is an ASCII letter. No
other letter has an upper case that a pattern over `A-Z` could match. -/
def toUpperChar (c : Char) : Char :=
  if c.toNat == 0x131 then 'I' else if c.toNat == 0x17F then 'S' else c.toUpper

def toUpper (s : String) : String := String.ofList (s.toList.map toUpperChar)

/-- `unicode.ToLower` on the letters whose lower case is an ASCII letter. -/
def toLowerChar (c : Char) : Char :=
  if c.toNat == 0x130 then 'i' else if c.toNat == 0x212A then 'k' else c.toLower

def toLower (s : String) : String := String.ofList (s.toList.map toLowerChar)

/-- `strings.HasPrefix`. -/
def startsWith (s start : String) : Bool := start.toList.isPrefixOf s.toList

/-- `strings.HasSuffix`. -/
def endsWith (s part : String) : Bool := part.toList.isSuffixOf s.toList

def contains (s part : String) : Bool := s.toList.tails.any part.toList.isPrefixOf

def repeatText (s : String) (n : Nat) : String := String.join (List.replicate n s)

theorem trimmed_head {p : Char → Bool} (l : List Char) :
    ((l.dropWhile p).rdropWhile p).dropWhile p = (l.dropWhile p).rdropWhile p := by
  refine List.dropWhile_eq_self_iff.mpr ?_
  intro nonempty
  have inside := List.rdropWhile_prefix p (l.dropWhile p)
  have longer : 0 < (l.dropWhile p).length := lt_of_lt_of_le nonempty inside.length_le
  have same := inside.getElem nonempty
  have stop := List.dropWhile_get_zero_not p l longer
  rw [List.get_eq_getElem] at stop
  rwa [same]

theorem trimSpace_trimSpace (s : String) : trimSpace (trimSpace s) = trimSpace s := by
  unfold trimSpace
  rw [String.toList_ofList, trimmed_head, List.rdropWhile_idempotent]

theorem trimSpace_eq_nil_iff (s : String) : trimSpace s = "" ↔ ∀ c ∈ s.toList, isSpace c = true := by
  rw [trimSpace, ← String.toList_inj, String.toList_ofList, String.toList_empty, List.rdropWhile_eq_nil_iff,
    ← List.dropWhile_eq_nil_iff, List.dropWhile_idempotent, List.dropWhile_eq_nil_iff]

def hexEncode (bytes : List UInt8) : String :=
  String.ofList (bytes.flatMap fun b => [Nat.digitChar (b.toNat / 16), Nat.digitChar (b.toNat % 16)])

/-- Texts around a separator that the first parts do not contain. -/
theorem separated_inj {α : Type} {c : α} {a a' r r' : List α} (free : c ∉ a) (free' : c ∉ a')
    (same : a ++ c :: r = a' ++ c :: r') : a = a' ∧ r = r' := by
  induction a generalizing a' with
  | nil =>
    cases a' with
    | nil => exact ⟨rfl, (List.cons.inj same).2⟩
    | cons d rest =>
      rw [(List.cons.inj same).1] at free'
      exact absurd List.mem_cons_self free'
  | cons d rest ih =>
    cases a' with
    | nil =>
      rw [(List.cons.inj same).1] at free
      exact absurd List.mem_cons_self free
    | cons d' rest' =>
      obtain ⟨head, tail⟩ := List.cons.inj same
      obtain ⟨front, back⟩ := ih (fun inside => free (List.mem_cons_of_mem _ inside))
        (fun inside => free' (List.mem_cons_of_mem _ inside)) tail
      exact ⟨congrArg₂ List.cons head front, back⟩

/-- Parts that each end in a separator, with a last text after them. -/
def keyed {α : Type} (separator : α) (parts : List (List α)) (last : List α) : List α :=
  parts.foldr (fun part rest => part ++ separator :: rest) last

theorem keyed_append {α : Type} (separator : α) (parts more : List (List α)) (last : List α) :
    keyed separator (parts ++ more) last = keyed separator parts (keyed separator more last) :=
  List.foldr_append

theorem keyed_inj {α : Type} (separator : α) (parts : List (List α)) (last last' : List α) :
    keyed separator parts last = keyed separator parts last' ↔ last = last' := by
  induction parts with
  | nil => rfl
  | cons part parts ih =>
    have step : keyed separator (part :: parts) last = keyed separator (part :: parts) last' ↔
        keyed separator parts last = keyed separator parts last' := by simp [keyed]
    exact step.trans ih

/-- A last text is shorter than any key that ends in it. -/
theorem length_lt_keyed {α : Type} (separator : α) {parts : List (List α)} (some_ : parts ≠ []) (last : List α) :
    last.length < (keyed separator parts last).length := by
  have le : ∀ more : List (List α), last.length ≤ (keyed separator more last).length := by
    intro more
    induction more with
    | nil => exact Nat.le_refl _
    | cons part more ih =>
      change last.length ≤ (part ++ separator :: keyed separator more last).length
      rw [List.length_append, List.length_cons]
      omega
  cases parts with
  | nil => exact absurd rfl some_
  | cons part parts =>
    change last.length < (part ++ separator :: keyed separator parts last).length
    have tail := le parts
    rw [List.length_append, List.length_cons]
    omega

/-- Two keys whose parts hold no separator are the same exactly when one last text
spells out the parts that the other key has in addition. -/
theorem keyed_eq_iff {α : Type} {separator : α} {parts parts' : List (List α)} {last last' : List α}
    (free : ∀ part ∈ parts, separator ∉ part) (free' : ∀ part ∈ parts', separator ∉ part) :
    keyed separator parts last = keyed separator parts' last' ↔
      (∃ extra, parts' = parts ++ extra ∧ last = keyed separator extra last') ∨
        ∃ extra, parts = parts' ++ extra ∧ last' = keyed separator extra last := by
  induction parts generalizing parts' with
  | nil =>
    constructor
    · intro same
      exact .inl ⟨parts', rfl, same⟩
    · rintro (⟨extra, rfl, same⟩ | ⟨extra, none_, same⟩)
      · exact same
      · obtain ⟨rfl, rfl⟩ := List.append_eq_nil_iff.mp none_.symm
        exact same.symm
  | cons part parts ih =>
    cases parts' with
    | nil =>
      constructor
      · intro same
        exact .inr ⟨part :: parts, rfl, same.symm⟩
      · rintro (⟨extra, none_, -⟩ | ⟨extra, rfl, same⟩)
        · cases none_
        · exact same.symm
    | cons part' parts' =>
      have tails := @ih parts' (fun other member => free other (List.mem_cons_of_mem _ member))
        (fun other member => free' other (List.mem_cons_of_mem _ member))
      constructor
      · intro same
        obtain ⟨rfl, rest⟩ := separated_inj (free part List.mem_cons_self) (free' part' List.mem_cons_self) same
        rcases tails.mp rest with ⟨extra, rfl, last⟩ | ⟨extra, rfl, last⟩
        · exact .inl ⟨extra, rfl, last⟩
        · exact .inr ⟨extra, rfl, last⟩
      · rintro (⟨extra, parts_, last⟩ | ⟨extra, parts_, last⟩)
        · obtain ⟨rfl, rest⟩ := List.cons.inj parts_
          exact congrArg (part' ++ separator :: ·) (tails.mpr (.inl ⟨extra, rest, last⟩))
        · obtain ⟨rfl, rest⟩ := List.cons.inj parts_
          exact congrArg (part ++ separator :: ·) (tails.mpr (.inr ⟨extra, rest, last⟩))

theorem toList_intercalate_concat {separator : String} {c : Char} (single : separator.toList = [c]) (parts : List String)
    (last : String) :
    (separator.intercalate (parts ++ [last])).toList = keyed c (parts.map String.toList) last.toList := by
  rw [String.toList_intercalate, single, List.map_append]
  induction parts with
  | nil => simp [keyed]
  | cons part parts ih =>
    cases parts with
    | nil => simp [keyed, List.intercalate]
    | cons next parts =>
      rw [List.map_cons, List.cons_append, List.map_cons, List.cons_append, List.intercalate_cons_cons]
      rw [List.map_cons, List.cons_append] at ih
      rw [ih]
      simp [keyed]

theorem digit_of_mem_decimal {n : Nat} {c : Char} (member : c ∈ n.repr.toList) : c.isDigit = true := by
  rw [Nat.toList_repr] at member
  exact Nat.isDigit_of_mem_toDigits (by decide) (by decide) member

theorem isSpace_digit {c : Char} (digit : c.isDigit = true) : isSpace c = false := by
  simp only [Char.isDigit, Bool.and_eq_true, decide_eq_true_eq, ge_iff_le, UInt32.le_iff_toNat_le] at digit
  have low : 48 ≤ c.toNat := digit.1
  have high : c.toNat ≤ 57 := digit.2
  simp only [isSpace, Bool.or_eq_false_iff, Bool.and_eq_false_iff, beq_eq_false_iff_ne, decide_eq_false_iff_not]
  omega

theorem natDecimal_injective {m n : Nat} (same : m.repr = n.repr) : m = n := by
  have digits : Nat.toDigits 10 m = Nat.toDigits 10 n := by
    rw [← Nat.toList_repr, same, Nat.toList_repr]
  rw [← Nat.ofDigitChars_ten_toDigits (n := m), digits, Nat.ofDigitChars_ten_toDigits]

/-- A number is printed with digits and at most a sign. -/
theorem mem_decimal {n : Int} {c : Char} (member : c ∈ (toString n).toList) : c.isDigit = true ∨ c = '-' := by
  cases n with
  | ofNat m => exact Or.inl (digit_of_mem_decimal (n := m) member)
  | negSucc m =>
    change c ∈ ("-" ++ m.succ.repr).toList at member
    rw [String.toList_append, List.mem_append] at member
    rcases member with sign | digit
    · exact Or.inr (List.mem_singleton.mp sign)
    · exact Or.inl (digit_of_mem_decimal digit)

theorem natDecimal_ne_minus (m n : Nat) : m.repr ≠ "-" ++ n.repr := by
  intro same
  have inside : '-' ∈ m.repr.toList := by
    rw [same, String.toList_append]
    exact List.mem_append_left _ List.mem_cons_self
  exact absurd (digit_of_mem_decimal inside) (by decide)

/-- `%d` prints different numbers differently. -/
theorem decimal_injective {m n : Int} (same : toString m = toString n) : m = n := by
  cases m with
  | ofNat a =>
    cases n with
    | ofNat b => exact congrArg Int.ofNat (natDecimal_injective same)
    | negSucc b => exact absurd same (natDecimal_ne_minus a b.succ)
  | negSucc a =>
    cases n with
    | ofNat b => exact absurd same.symm (natDecimal_ne_minus b a.succ)
    | negSucc b =>
      have digits : a.succ.repr = b.succ.repr := (String.append_right_inj "-").mp same
      exact congrArg Int.negSucc (Nat.succ.inj (natDecimal_injective digits))

example : trimSpace " \t req 7\n" = "req 7" := by decide

end Go
