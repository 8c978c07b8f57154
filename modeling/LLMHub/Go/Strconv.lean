import LLMHub.Go.Int64
import LLMHub.Go.Strings

namespace Go

/-- A number that a signed 64-bit word holds. -/
def Fits (n : Int) : Prop := -2 ^ 63 ≤ n ∧ n < 2 ^ 63

instance (n : Int) : Decidable (Fits n) := inferInstanceAs (Decidable (_ ∧ _))

theorem fits_int64 (n : Int) : Fits (int64 n) := ⟨Int.le_bmod (by norm_num), int64_lt n⟩

/-- What `strconv.ParseInt` returns. A number out of range comes back as the
nearest one in range, with an error. -/
structure ParsedInt where
  value : Int
  ok : Bool
  deriving DecidableEq, Repr

def signedDigits : List Char → Bool × List Char
  | '-' :: digits => (true, digits)
  | '+' :: digits => (false, digits)
  | digits => (false, digits)

/-- `strconv.ParseInt(s, 10, 64)`, and so `strconv.Atoi`. -/
def parseInt (s : String) : ParsedInt :=
  let (negative, digits) := signedDigits s.toList
  if digits.isEmpty || !digits.all Char.isDigit then ⟨0, false⟩
  else
    let magnitude : Int := Nat.ofDigitChars 10 digits 0
    let value := if negative then -magnitude else magnitude
    if Fits value then ⟨value, true⟩ else ⟨if negative then -2 ^ 63 else 2 ^ 63 - 1, false⟩

theorem parseInt_digits {s : String} {negative : Bool} {n : Nat}
    (signed : signedDigits s.toList = (negative, Nat.toDigits 10 n)) (fits : Fits (if negative then -(n : Int) else n)) :
    parseInt s = ⟨if negative then -(n : Int) else n, true⟩ := by
  have some : (Nat.toDigits 10 n).isEmpty = false := by
    rw [List.isEmpty_eq_false_iff]
    exact Nat.toDigits_ne_nil
  have digits : (Nat.toDigits 10 n).all Char.isDigit = true := by
    rw [List.all_eq_true]
    exact fun c member => Nat.isDigit_of_mem_toDigits (by decide) (by decide) member
  unfold parseInt
  rw [signed]
  simp only [some, digits, Bool.not_true, Bool.or_self, Bool.false_eq_true, if_false, Nat.ofDigitChars_ten_toDigits]
  exact if_pos fits

theorem signedDigits_of_digit {c : Char} {rest : List Char} (digit : c.isDigit = true) :
    signedDigits (c :: rest) = (false, c :: rest) := by
  unfold signedDigits
  split
  · next same =>
    rw [(List.cons.inj same).1] at digit
    exact absurd digit (by decide)
  · next same =>
    rw [(List.cons.inj same).1] at digit
    exact absurd digit (by decide)
  · rfl

/-- A printed number is read back. -/
theorem parseInt_decimal {n : Int} (fits : Fits n) : parseInt (toString n) = ⟨n, true⟩ := by
  cases n with
  | ofNat m =>
    have signed : signedDigits (toString (Int.ofNat m)).toList = (false, Nat.toDigits 10 m) := by
      change signedDigits m.repr.toList = _
      rw [Nat.toList_repr]
      cases digits : Nat.toDigits 10 m with
      | nil => exact absurd digits Nat.toDigits_ne_nil
      | cons c rest =>
        refine signedDigits_of_digit (Nat.isDigit_of_mem_toDigits (b := 10) (n := m) (by decide) (by decide) ?_)
        rw [digits]
        exact List.mem_cons_self
    exact parseInt_digits signed fits
  | negSucc m =>
    have signed : signedDigits (toString (Int.negSucc m)).toList = (true, Nat.toDigits 10 m.succ) := by
      change signedDigits ("-" ++ m.succ.repr).toList = _
      rw [String.toList_append, Nat.toList_repr]
      rfl
    exact parseInt_digits signed fits

/-- `strings.SplitN` with one separating character. -/
def splitChars (separator : Char) : Nat → List Char → List (List Char)
  | 0, _ => []
  | 1, l => [l]
  | n + 2, l =>
    if separator ∈ l then l.takeWhile (· ≠ separator) :: splitChars separator (n + 1) (l.dropWhile (· ≠ separator)).tail
    else [l]

def splitN (s : String) (separator : Char) (n : Nat) : List String :=
  (splitChars separator n s.toList).map String.ofList

theorem splitChars_joined {separator : Char} {part : List Char} (free : separator ∉ part) (n : Nat) (rest : List Char) :
    splitChars separator (n + 2) (part ++ separator :: rest) = part :: splitChars separator (n + 1) rest := by
  have before : ∀ c ∈ part, decide (c ≠ separator) = true := by
    intro c member
    rw [decide_eq_true_eq]
    rintro rfl
    exact free member
  have front : (part ++ separator :: rest).takeWhile (· ≠ separator) = part := by
    rw [List.takeWhile_append_of_pos before, List.takeWhile_cons_of_neg (by simp), List.append_nil]
  have back : (part ++ separator :: rest).dropWhile (· ≠ separator) = separator :: rest := by
    rw [List.dropWhile_append_of_pos before, List.dropWhile_cons_of_neg (by simp)]
  rw [splitChars, if_pos (List.mem_append_right _ List.mem_cons_self), front, back, List.tail_cons]

/-- `url.QueryEscape` and `url.QueryUnescape`. -/
structure QueryEscaping where
  escape : String → String
  unescape : String → Option String
  unescape_escape : ∀ s, unescape (escape s) = some s
  colon_free : ∀ s, ':' ∉ (escape s).toList

end Go
