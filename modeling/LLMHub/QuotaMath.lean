import LLMHub.Go.Number

namespace LLMHub

/-- Quota columns are 32-bit integers in the database. -/
def maxQuota : Int := 2 ^ 31 - 1

def minQuota : Int := -(2 ^ 31)

/-- Why a conversion was saturated. Exact values have no NaN. -/
inductive QuotaClampKind
  | overflow
  | underflow
  deriving DecidableEq, Repr

def QuotaClampKind.text : QuotaClampKind → String
  | .overflow => "overflow"
  | .underflow => "underflow"

structure QuotaClamp where
  op : String
  kind : QuotaClampKind
  original : ℚ
  clamped : Int
  deriving DecidableEq, Repr

def QuotaClamp.error (c : QuotaClamp) : String :=
  "quota conversion (" ++ c.op ++ ") " ++ c.kind.text ++ ": original=" ++ toString c.original ++
    ", clamped=" ++ toString c.clamped

/-- `int(value)` of an already rounded value, clamped to the column range. -/
def saturateQuota (value : Int) (op : String) : Int × Option QuotaClamp :=
  if value ≥ maxQuota then (maxQuota, some ⟨op, .overflow, value, maxQuota⟩)
  else if value ≤ minQuota then (minQuota, some ⟨op, .underflow, value, minQuota⟩)
  else (value, none)

def strictQuota : Int × Option QuotaClamp → Except QuotaClamp Int
  | (_, some clamp) => .error clamp
  | (quota, none) => .ok quota

def quotaRoundChecked (value : ℚ) : Int × Option QuotaClamp := saturateQuota (Go.round value) "QuotaRound"

/-- Ratios and their products are exact rationals here, where the source
computes in `float64`. -/
def quotaRoundStrict (value : ℚ) : Except QuotaClamp Int := strictQuota (quotaRoundChecked value)

theorem quotaRoundStrict_ok {value : ℚ} {quota : Int} (run : quotaRoundStrict value = .ok quota) :
    quota = Go.round value ∧ minQuota < quota ∧ quota < maxQuota := by
  unfold quotaRoundStrict quotaRoundChecked saturateQuota at run
  split at run
  · simp [strictQuota] at run
  · rename_i below
    split at run
    · simp [strictQuota] at run
    · rename_i above
      cases run
      exact ⟨rfl, not_le.mp above, not_le.mp below⟩

end LLMHub
