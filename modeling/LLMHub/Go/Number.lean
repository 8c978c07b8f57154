import Mathlib.Data.Rat.Floor
import Mathlib.Algebra.Order.Group.Unbundled.Abs
import Mathlib.Tactic.Linarith
import Mathlib.Tactic.Ring

namespace Go

/-- `math.Round` on an exact value: half away from zero. -/
def round (x : ℚ) : Int := if 0 ≤ x then ⌊x + 1 / 2⌋ else -⌊-x + 1 / 2⌋

/-- Toward zero, as a conversion to an integer rounds. -/
def truncate (x : ℚ) : Int := x.num.tdiv x.den

theorem round_nonneg {x : ℚ} (positive : 0 ≤ x) : 0 ≤ round x := by
  rw [round, if_pos positive]
  exact Int.floor_nonneg.mpr (by linarith)

theorem round_le {x : ℚ} {n : Int} (positive : 0 ≤ x) (bound : x ≤ n) : round x ≤ n := by
  rw [round, if_pos positive]
  refine Int.lt_add_one_iff.mp (Int.floor_lt.mpr ?_)
  push_cast
  linarith

theorem round_mono {x y : ℚ} (nonneg : 0 ≤ x) (le : x ≤ y) : round x ≤ round y := by
  rw [round, if_pos nonneg, round, if_pos (nonneg.trans le)]
  exact Int.floor_le_floor (by linarith)

theorem round_intCast (n : Int) : round n = n := by
  have half : ∀ m : Int, ⌊(m : ℚ) + 1 / 2⌋ = m := fun m => by
    rw [Int.floor_eq_iff]
    constructor <;> linarith
  unfold round
  split
  · exact half n
  · rw [← Int.cast_neg, half, neg_neg]

/-- What `math/big` remembers of the byte before the current one while it
scans digits: separators may only follow digits. -/
inductive Previous
  | digit
  | separator
  | other
  deriving DecidableEq

/-- Accumulated state of a digit scan. `point` is the number of digits read
before the radix point. -/
structure Scan where
  value : Nat
  count : Nat
  point : Option Nat
  previous : Previous
  invalid : Bool

def digitValue (c : Char) : Option Nat :=
  if '0' ≤ c ∧ c ≤ '9' then some (c.toNat - '0'.toNat)
  else if 'a' ≤ c ∧ c ≤ 'z' then some (c.toNat - 'a'.toNat + 10)
  else if 'A' ≤ c ∧ c ≤ 'Z' then some (c.toNat - 'A'.toNat + 10)
  else none

/-- The digit loop of `nat.scan` with base zero; the second component is the
unread rest. -/
def scanDigits (base : Nat) (fracOk : Bool) (s : Scan) : List Char → Scan × List Char
  | [] => (s, [])
  | c :: rest =>
    if c = '.' ∧ fracOk ∧ s.point = none then
      scanDigits base fracOk { s with
        point := some s.count, invalid := s.invalid || s.previous = .separator, previous := .other } rest
    else if c = '_' then
      scanDigits base fracOk { s with
        invalid := s.invalid || s.previous ≠ .digit, previous := .separator } rest
    else match digitValue c with
      | some d =>
        if d < base then
          scanDigits base fracOk { s with
            value := s.value * base + d, count := s.count + 1, previous := .digit } rest
        else (s, c :: rest)
      | none => (s, c :: rest)

/-- `nat.scan` with base zero: value, base, number of fractional digits and
the unread rest. A leading zero selects the base, or octal where no fraction is
accepted; a lone octal zero counts as a number. -/
def scanNat (fracOk : Bool) (input : List Char) : Option (Nat × Nat × Nat × List Char) :=
  let start : Scan := ⟨0, 0, none, .other, false⟩
  let zero : Scan := { start with previous := .digit }
  let (base, octal, s, rest) : Nat × Bool × Scan × List Char :=
    match input with
    | '0' :: 'b' :: rest | '0' :: 'B' :: rest => (2, false, zero, rest)
    | '0' :: 'o' :: rest | '0' :: 'O' :: rest => (8, false, zero, rest)
    | '0' :: 'x' :: rest | '0' :: 'X' :: rest => (16, false, zero, rest)
    | '0' :: c :: rest => if fracOk then (10, false, { zero with count := 1 }, c :: rest) else (8, true, zero, c :: rest)
    | '0' :: [] => (10, false, { zero with count := 1 }, [])
    | _ => (10, false, start, input)
  let (s, rest) := scanDigits base fracOk s rest
  if s.invalid || s.previous = .separator then none
  else if s.count = 0 then (if octal then some (0, 10, 0, rest) else none)
  else some (s.value, base, (s.point.map (s.count - ·)).getD 0, rest)

/-- `scanSign`, which fails on an empty input. -/
def scanSign : List Char → Option (Bool × List Char)
  | [] => none
  | '-' :: rest => some (true, rest)
  | '+' :: rest => some (false, rest)
  | rest => some (false, rest)

/-- `scanExponent` with both exponent letters and separators accepted: the
exponent and its base. -/
def scanExponent (input : List Char) : Option (Int × Nat × List Char) :=
  let digits (base : Nat) (rest : List Char) : Option (Int × Nat × List Char) :=
    let (neg, rest) := match rest with
      | '-' :: rest => (true, rest)
      | '+' :: rest => (false, rest)
      | rest => (false, rest)
    let (s, rest) := scanDigits 10 false ⟨0, 0, none, .other, false⟩ rest
    let exp : Int := if neg then -(s.value : Int) else s.value
    if s.count = 0 || s.invalid || s.previous = .separator || exp < -(2 ^ 63) || exp ≥ 2 ^ 63 then none
    else some (exp, base, rest)
  match input with
  | 'e' :: rest | 'E' :: rest => digits 10 rest
  | 'p' :: rest | 'P' :: rest => digits 2 rest
  | rest => some (0, 10, rest)

/-- `(*big.Rat).SetString`: a fraction of integers, or a decimal, binary, octal
or hexadecimal number with an optional exponent. -/
def ratSetString (s : String) : Option ℚ :=
  let input := s.toList
  let signed (neg : Bool) (x : ℚ) : ℚ := if neg then -x else x
  match input.span (· ≠ '/') with
  | (numerator, _ :: denominator) => do
    let (neg, rest) ← scanSign numerator
    let (a, _, _, rest) ← scanNat false rest
    guard rest.isEmpty
    let (b, _, _, rest) ← scanNat false denominator
    guard (rest.isEmpty && b ≠ 0)
    pure (signed neg (a / b))
  | (_, []) => do
    let (neg, rest) ← scanSign input
    let (a, base, fraction, rest) ← scanNat true rest
    let (exp, ebase, rest) ← scanExponent rest
    guard rest.isEmpty
    if a = 0 then pure 0
    else
      let exp5 : Int := (if base = 10 then -(fraction : Int) else 0) + if ebase = 10 then exp else 0
      let perDigit : Int := if base = 8 then 3 else if base = 16 then 4 else 1
      let exp2 : Int := -(fraction * perDigit) + exp
      guard (-(10 ^ 6) ≤ exp5 && exp5 ≤ 10 ^ 6 && -(10 ^ 7) ≤ exp2 && exp2 ≤ 10 ^ 7)
      pure (signed neg (a * 5 ^ exp5 * 2 ^ exp2))

end Go
