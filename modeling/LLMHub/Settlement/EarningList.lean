import LLMHub.Schema.Database
import Mathlib.Data.List.Sort

namespace LLMHub

open Store Action HubProviderEarning

/-- In which role a provider sees a row of the ledger. -/
inductive EarningRole
  | service
  | referral
  deriving DecidableEq, Repr

/-- A row as it is listed. -/
structure ListedEarning where
  row : HubProviderEarning
  earningRole : EarningRole

/-- `provider_id = ? OR (referral_provider_id = ? AND referral_income_quota > 0)`. -/
def HubProviderEarning.listedFor (providerId : Int) (e : HubProviderEarning) : Bool :=
  e.providerId == providerId || (e.referralProviderId == providerId && decide (e.referralIncomeQuota > 0))

/-- The columns that are cleared in a row the provider only referred. -/
def HubProviderEarning.sanitizeReferral (providerId : Int) (e : HubProviderEarning) : HubProviderEarning :=
  { e with
    providerId := providerId
    ownerUserId := e.referralOwnerUserId
    consumerUserId := 0
    tokenId := 0
    supplyGroupId := 0
    channelId := 0
    billingSource := ""
    platformFeeBasisPoints := 0
    platformFeeQuota := 0
    providerIncomeQuota := e.referralIncomeQuota
    baseGroupRatio := 0
    supplyMultiplier := 0
    supplyGrossQuota := 0
    supplyBillingRatio := 0
    billingRatio := 0
    fallbackSpreadPlatformQuota := 0
    fallbackPriceProtection := false }

/-- One turn of the loop over the loaded rows. -/
def HubProviderEarning.project (providerId : Int) (sanitize : Bool) (e : HubProviderEarning) : ListedEarning :=
  let hidden (e : HubProviderEarning) : HubProviderEarning := if sanitize then { e with referralProviderId := 0 } else e
  if e.providerId ≠ providerId ∧ e.referralProviderId = providerId then
    if sanitize then ⟨hidden (e.sanitizeReferral providerId), .referral⟩ else ⟨e, .referral⟩
  else ⟨hidden e, .service⟩

/-- `LIMIT ? OFFSET ?` where a limit that is not positive means all rows. -/
def page {α : Type} (offset limit : Int) (rows : List α) : List α :=
  if limit > 0 then (rows.drop offset.toNat).take limit.toNat else rows

/-- `ORDER BY id DESC`. -/
def newestFirst (rows : List HubProviderEarning) : List HubProviderEarning :=
  rows.insertionSort fun e f => f.id ≤ e.id

def listHubProviderEarningsWith (providerId offset limit : Int) (sanitize : Bool) :
    Command (List ListedEarning × Nat) := do
  let total ← countWhere (listedFor providerId)
  let items ← query fun db : DB =>
    page offset limit (newestFirst (db.hubProviderEarnings.rows.filter (listedFor providerId)))
  pure (items.map (HubProviderEarning.project providerId sanitize), total)

def listHubProviderEarnings (providerId offset limit : Int) : Command (List ListedEarning × Nat) :=
  listHubProviderEarningsWith providerId offset limit true

/-- What a row says about the side that served the request. -/
structure ServingSide where
  providerId : Int
  ownerUserId : Int
  tenantId : Int
  supplyGroupId : Int
  channelId : Int
  providerServiceFeeBasisPoints : Int
  platformFeeBasisPoints : Int
  supplyBillingRatio : ℚ
  baseGroupRatio : ℚ
  supplyMultiplier : ℚ
  billingRatio : ℚ
  supplyGrossQuota : Int
  providerIncomeQuota : Int
  resellerGrossQuota : Int
  resellerNetIncomeQuota : Int
  deriving DecidableEq, Repr

def HubProviderEarning.withServing (e : HubProviderEarning) (s : ServingSide) : HubProviderEarning :=
  { e with
    providerId := s.providerId
    ownerUserId := s.ownerUserId
    tenantId := s.tenantId
    supplyGroupId := s.supplyGroupId
    channelId := s.channelId
    providerServiceFeeBasisPoints := s.providerServiceFeeBasisPoints
    platformFeeBasisPoints := s.platformFeeBasisPoints
    supplyBillingRatio := s.supplyBillingRatio
    baseGroupRatio := s.baseGroupRatio
    supplyMultiplier := s.supplyMultiplier
    billingRatio := s.billingRatio
    supplyGrossQuota := s.supplyGrossQuota
    providerIncomeQuota := s.providerIncomeQuota
    resellerGrossQuota := s.resellerGrossQuota
    resellerNetIncomeQuota := s.resellerNetIncomeQuota }

/-- The provider only referred the request to another one. -/
def HubProviderEarning.OnlyReferral (providerId : Int) (e : HubProviderEarning) : Prop :=
  e.providerId ≠ providerId ∧ e.referralProviderId = providerId

/-- The rows agree, except for the serving side of a row that the provider
only referred. -/
def HubProviderEarning.Alike (providerId : Int) (e f : HubProviderEarning) : Prop :=
  f = e ∨ ∃ s, e.OnlyReferral providerId ∧ f.OnlyReferral providerId ∧ f = e.withServing s

/-- The columns of the serving side that the listing does not clear. -/
def HubProviderEarning.SameResidue (e f : HubProviderEarning) : Prop :=
  f.tenantId = e.tenantId ∧ f.providerServiceFeeBasisPoints = e.providerServiceFeeBasisPoints ∧
    f.resellerGrossQuota = e.resellerGrossQuota ∧ f.resellerNetIncomeQuota = e.resellerNetIncomeQuota

namespace HubProviderEarning
variable {providerId : Int} {e f : HubProviderEarning}

theorem Alike.id (alike : e.Alike providerId f) : f.id = e.id := by
  rcases alike with rfl | ⟨s, -, -, rfl⟩ <;> rfl

theorem Alike.listedFor (alike : e.Alike providerId f) : f.listedFor providerId = e.listedFor providerId := by
  rcases alike with rfl | ⟨s, eOnly, fOnly, same⟩
  · rfl
  · have sameReferral : f.referralProviderId = e.referralProviderId := by rw [same]; rfl
    have sameIncome : f.referralIncomeQuota = e.referralIncomeQuota := by rw [same]; rfl
    simp [HubProviderEarning.listedFor, beq_false_of_ne eOnly.1, beq_false_of_ne fOnly.1, sameReferral, sameIncome]

theorem project_onlyReferral (only : e.OnlyReferral providerId) :
    e.project providerId true = ⟨{ e.sanitizeReferral providerId with referralProviderId := 0 }, .referral⟩ := by
  unfold OnlyReferral at only
  rw [project, if_pos only]
  rfl

/-- The listed rows agree exactly if the uncleared columns do. -/
theorem Alike.project_eq_iff (alike : e.Alike providerId f) :
    f.project providerId true = e.project providerId true ↔ e.SameResidue f := by
  rcases alike with rfl | ⟨s, eOnly, fOnly, same⟩
  · exact ⟨fun _ => ⟨rfl, rfl, rfl, rfl⟩, fun _ => rfl⟩
  · rw [project_onlyReferral eOnly, project_onlyReferral fOnly, same]
    simp only [SameResidue, sanitizeReferral, withServing, ListedEarning.mk.injEq, HubProviderEarning.mk.injEq,
      true_and, and_true]

end HubProviderEarning

section Listing
variable {providerId : Int} {rows rows' : List HubProviderEarning}

def LedgersAlike (providerId : Int) (rows rows' : List HubProviderEarning) : Prop :=
  List.Forall₂ (HubProviderEarning.Alike providerId) rows rows'

/-- Alike ledgers are the two sides of one list of pairs. -/
theorem LedgersAlike.paired (alike : LedgersAlike providerId rows rows') :
    ∃ pairs : List (HubProviderEarning × HubProviderEarning), pairs.map Prod.fst = rows ∧
      pairs.map Prod.snd = rows' ∧ ∀ pair ∈ pairs, pair.1.Alike providerId pair.2 := by
  induction alike with
  | nil => exact ⟨[], rfl, rfl, by simp⟩
  | @cons e f _ _ head _ ih =>
    obtain ⟨pairs, first, second, all⟩ := ih
    refine ⟨(e, f) :: pairs, by simp [first], by simp [second], ?_⟩
    rintro pair (_ | ⟨_, later⟩)
    · exact head
    · exact all pair later

variable {pairs : List (HubProviderEarning × HubProviderEarning)}

theorem filter_snd (alike : ∀ pair ∈ pairs, pair.1.Alike providerId pair.2) :
    (pairs.map Prod.snd).filter (listedFor providerId) =
      (pairs.filter fun pair => pair.1.listedFor providerId).map Prod.snd := by
  rw [List.filter_map]
  refine congrArg _ (List.filter_congr fun pair member => ?_)
  exact (alike pair member).listedFor

theorem filter_fst :
    (pairs.map Prod.fst).filter (listedFor providerId) =
      (pairs.filter fun pair => pair.1.listedFor providerId).map Prod.fst := by
  rw [List.filter_map]
  rfl

/-- Sorting by the key both sides share keeps the pairs together. -/
theorem newestFirst_snd (alike : ∀ pair ∈ pairs, pair.1.Alike providerId pair.2) :
    newestFirst (pairs.map Prod.snd) = (pairs.insertionSort fun p q => q.1.id ≤ p.1.id).map Prod.snd := by
  refine (List.map_insertionSort _ _ _ _ fun p inP q inQ => ?_).symm
  rw [(alike p inP).id, (alike q inQ).id]

theorem newestFirst_fst :
    newestFirst (pairs.map Prod.fst) = (pairs.insertionSort fun p q => q.1.id ≤ p.1.id).map Prod.fst :=
  (List.map_insertionSort _ _ Prod.fst pairs fun _ _ _ _ => Iff.rfl).symm

theorem page_map {α β : Type} (offset limit : Int) (g : α → β) (l : List α) :
    page offset limit (l.map g) = (page offset limit l).map g := by
  unfold page
  split
  · rw [← List.map_drop, ← List.map_take]
  · rfl

theorem mem_of_mem_page {α : Type} {offset limit : Int} {l : List α} {x : α} (member : x ∈ page offset limit l) :
    x ∈ l := by
  unfold page at member
  split at member
  · exact List.mem_of_mem_drop (List.mem_of_mem_take member)
  · exact member

def shownEarnings (providerId offset limit : Int) (rows : List HubProviderEarning) : List ListedEarning :=
  (page offset limit (newestFirst (rows.filter (listedFor providerId)))).map
    (HubProviderEarning.project providerId true)

theorem shownEarnings_fst (offset limit : Int) :
    shownEarnings providerId offset limit (pairs.map Prod.fst) =
      (page offset limit ((pairs.filter fun pair => pair.1.listedFor providerId).insertionSort
        fun p q => q.1.id ≤ p.1.id)).map fun pair => pair.1.project providerId true := by
  rw [shownEarnings, filter_fst, newestFirst_fst, page_map, List.map_map]
  rfl

theorem shownEarnings_snd (alike : ∀ pair ∈ pairs, pair.1.Alike providerId pair.2) (offset limit : Int) :
    shownEarnings providerId offset limit (pairs.map Prod.snd) =
      (page offset limit ((pairs.filter fun pair => pair.1.listedFor providerId).insertionSort
        fun p q => q.1.id ≤ p.1.id)).map fun pair => pair.2.project providerId true := by
  have kept : ∀ pair ∈ pairs.filter fun pair => pair.1.listedFor providerId, pair.1.Alike providerId pair.2 :=
    fun pair member => alike pair (List.mem_of_mem_filter member)
  rw [shownEarnings, filter_snd alike, newestFirst_snd kept, page_map, List.map_map]
  rfl

/-- The listing of every page agrees exactly if the uncleared columns of the
listed rows do. -/
theorem shownEarnings_eq_iff (alike : LedgersAlike providerId rows rows') :
    (∀ offset limit, shownEarnings providerId offset limit rows' = shownEarnings providerId offset limit rows) ↔
      List.Forall₂ (fun e f => e.listedFor providerId = true → e.SameResidue f) rows rows' := by
  obtain ⟨pairs, rfl, rfl, all⟩ := alike.paired
  rw [List.forall₂_map_left_iff, List.forall₂_map_right_iff, List.forall₂_same]
  simp only [shownEarnings_fst, shownEarnings_snd all, List.map_inj_left]
  constructor
  · intro same pair member listed
    refine (all pair member).project_eq_iff.mp (same 0 0 pair ?_)
    exact (List.mem_insertionSort _).mpr (List.mem_filter.mpr ⟨member, listed⟩)
  · intro residue offset limit pair shown
    obtain ⟨member, listed⟩ := List.mem_filter.mp ((List.mem_insertionSort _).mp (mem_of_mem_page shown))
    exact (all pair member).project_eq_iff.mpr (residue pair member listed)

theorem count_listed (alike : LedgersAlike providerId rows rows') :
    rows'.countP (listedFor providerId) = rows.countP (listedFor providerId) := by
  induction alike with
  | nil => rfl
  | cons head _ ih => rw [List.countP_cons, List.countP_cons, ih, head.listedFor]

end Listing

theorem listHubProviderEarnings_apply (providerId offset limit : Int) (s : Session DB) :
    (listHubProviderEarnings providerId offset limit s).1 =
      if s.faults.headD false ∨ s.faults.tail.headD false then .error DriverError.failed
      else .ok (shownEarnings providerId offset limit s.db.hubProviderEarnings.rows,
        s.db.hubProviderEarnings.rows.countP (listedFor providerId)) := by
  -- the two statements, each executed or failed
  rcases s with ⟨db, _ | ⟨_ | _, _ | ⟨_ | _, rest⟩⟩⟩ <;> rfl

/-- On ledgers that differ only in the serving side of rows the provider
referred, its listings agree exactly if the columns agree that the listing
forgets to clear: the tenant, its service fee and the reseller's income. -/
theorem listHubProviderEarnings_same_iff (providerId : Int) (db db' : DB)
    (alike : LedgersAlike providerId db.hubProviderEarnings.rows db'.hubProviderEarnings.rows) :
    (∀ offset limit faults, (listHubProviderEarnings providerId offset limit ⟨db', faults⟩).1 =
        (listHubProviderEarnings providerId offset limit ⟨db, faults⟩).1) ↔
      List.Forall₂ (fun e f => e.listedFor providerId = true → e.SameResidue f)
        db.hubProviderEarnings.rows db'.hubProviderEarnings.rows := by
  simp only [listHubProviderEarnings_apply, count_listed alike]
  rw [← shownEarnings_eq_iff alike]
  constructor
  · intro same offset limit
    have answers := same offset limit []
    simp only [List.headD_nil, List.tail_nil, Bool.false_eq_true, or_self, if_false, Except.ok.injEq, Prod.mk.injEq,
      and_true] at answers
    exact answers
  · intro same offset limit faults
    rw [same offset limit]

/-- A request that provider 1 referred, served by another provider's channel
for a tenant. -/
def referredEarning (tenantId channelId : Int) : HubProviderEarning :=
  { id := 1
    requestId := "request"
    entryType := .usage
    status := .settled
    providerId := 2
    tenantId := tenantId
    ownerUserId := 20
    channelId := channelId
    grossQuota := 1000
    supplyGrossQuota := 900
    providerIncomeQuota := 600
    referralProviderId := 1
    referralOwnerUserId := 10
    referralBasisPoints := 2000
    referralIncomeQuota := 100 }

def referredLedger (tenantId channelId : Int) : DB :=
  { hubProviderEarnings := .single (referredEarning tenantId channelId) }

def servedBy (tenantId channelId : Int) : ServingSide where
  providerId := 2
  ownerUserId := 20
  tenantId := tenantId
  supplyGroupId := 0
  channelId := channelId
  providerServiceFeeBasisPoints := 0
  platformFeeBasisPoints := 0
  supplyBillingRatio := 0
  baseGroupRatio := 0
  supplyMultiplier := 0
  billingRatio := 0
  supplyGrossQuota := 900
  providerIncomeQuota := 600
  resellerGrossQuota := 0
  resellerNetIncomeQuota := 0

theorem referredLedger_alike (tenantId tenantId' channelId channelId' : Int) :
    LedgersAlike 1 (referredLedger tenantId channelId).hubProviderEarnings.rows
      (referredLedger tenantId' channelId').hubProviderEarnings.rows := by
  have only : ∀ tenantId channelId, (referredEarning tenantId channelId).OnlyReferral 1 :=
    fun _ _ => ⟨by simp [referredEarning], rfl⟩
  exact .cons (Or.inr ⟨servedBy tenantId' channelId', only _ _, only _ _, rfl⟩) .nil

/-- The channel that served the request does not show. -/
theorem servingChannel_hidden :
    (listHubProviderEarnings 1 0 20 ⟨referredLedger 7 40, []⟩).1 =
      (listHubProviderEarnings 1 0 20 ⟨referredLedger 7 30, []⟩).1 :=
  (listHubProviderEarnings_same_iff 1 _ _ (referredLedger_alike 7 7 30 40)).mpr
    (.cons (fun _ => ⟨rfl, rfl, rfl, rfl⟩) .nil) 0 20 []

/-- The tenant it was served for does. -/
theorem servingTenant_shown :
    LedgersAlike 1 (referredLedger 7 30).hubProviderEarnings.rows (referredLedger 8 30).hubProviderEarnings.rows ∧
      (listHubProviderEarnings 1 0 20 ⟨referredLedger 8 30, []⟩).1 ≠
        (listHubProviderEarnings 1 0 20 ⟨referredLedger 7 30, []⟩).1 := by
  refine ⟨referredLedger_alike 7 8 30 30, fun same => ?_⟩
  have tenants := congrArg (fun answer => answer.toOption.map fun listing =>
    listing.1.map fun item => item.row.tenantId) same
  revert tenants
  decide

end LLMHub
