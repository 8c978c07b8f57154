import LLMHub.Go.Int64
import LLMHub.Go.Strings
import Mathlib.Algebra.Order.Field.Rat
import Mathlib.Data.List.Sort
import Mathlib.Tactic.Positivity

namespace LLMHub

/-- One billable tool-call line. -/
structure ToolSurchargeItem where
  name : String
  count : Int
  price : ℚ
  deriving DecidableEq, Repr

/-- The published tool prices, the longer of two matching prefixes first. -/
structure ToolPriceIndex where
  defaults : List (String × ℚ) := []
  prefixes : List (String × List (String × ℚ)) := []

/-- Dollars for a thousand calls: the first matching prefix, the default of the
tool, or nothing. -/
def ToolPriceIndex.getToolPriceForModel (index : ToolPriceIndex) (toolName modelName : String) : ℚ :=
  let entry := if modelName = "" then none
    else ((index.prefixes.lookup toolName).getD []).find? fun entry => Go.startsWith modelName entry.1
  match entry with
  | some entry => entry.2
  | none => (index.defaults.lookup toolName).getD 0

def collectToolSurchargeItem (index : ToolPriceIndex) (items : List ToolSurchargeItem) (name : String) (count : Int)
    (modelName : String) : List ToolSurchargeItem :=
  if count ≤ 0 then items
  else
    let price := index.getToolPriceForModel name modelName
    if price ≤ 0 then items else items ++ [⟨name, count, price⟩]

def ToolSurchargeItem.before (a b : ToolSurchargeItem) : Bool :=
  if a.name = b.name then decide (a.price ≤ b.price) else decide (a.name ≤ b.name)

/-- One more item of the sorted list: the calls of an equal line are added to
it, up to the largest integer. -/
def mergeToolSurchargeItem (merged : List ToolSurchargeItem) (item : ToolSurchargeItem) : List ToolSurchargeItem :=
  match merged.getLast? with
  | none => [item]
  | some last =>
    if last.name = item.name ∧ last.price = item.price then
      merged.dropLast ++ [{ last with count := if item.count > (2 ^ 63 - 1) - last.count then 2 ^ 63 - 1 else last.count + item.count }]
    else merged ++ [item]

def mergeToolSurchargeItems (items : List ToolSurchargeItem) : List ToolSurchargeItem :=
  (items.insertionSort (fun a b => a.before b)).foldl mergeToolSurchargeItem []

/-- What a request has used of tools: the built-in tools of a Responses call
with their numbers of calls, and what the adaptors noted. -/
structure ToolUse where
  builtInTools : List (String × Option Int) := []
  responsesMode : Bool := false
  claudeWebSearchRequests : Int := 0
  geminiGoogleSearchCall : Bool := false

def toolSurchargeItems (index : ToolPriceIndex) (use : ToolUse) (modelName : String) : List ToolSurchargeItem :=
  let items := use.builtInTools.foldl
    (fun items (name, tool) => match tool with
      | none => items
      | some callCount => collectToolSurchargeItem index items name callCount modelName) []
  let items := if !use.responsesMode && Go.endsWith modelName "search-preview" then
      collectToolSurchargeItem index items "web_search_preview" 1 modelName
    else items
  let items := collectToolSurchargeItem index items "web_search" use.claudeWebSearchRequests modelName
  let items := if use.geminiGoogleSearchCall then collectToolSurchargeItem index items "google_search" 1 modelName else items
  mergeToolSurchargeItems items

def calculateTextToolCallSurcharge (items : List ToolSurchargeItem) (groupRatio quotaPerUnit : ℚ) : ℚ :=
  items.foldl (fun surcharge item => surcharge + item.price * item.count / 1000 * groupRatio * quotaPerUnit) 0

/-- A line that costs something. -/
def ToolSurchargeItem.Billable (item : ToolSurchargeItem) : Prop := 0 < item.price ∧ 0 < item.count

variable {items : List ToolSurchargeItem}

theorem collectToolSurchargeItem_billable {index : ToolPriceIndex} (name : String) (count : Int)
    (modelName : String) (billable : ∀ item ∈ items, item.Billable) :
    ∀ item ∈ collectToolSurchargeItem index items name count modelName, item.Billable := by
  unfold collectToolSurchargeItem
  split
  · exact billable
  · rename_i called
    dsimp only
    split
    · exact billable
    · rename_i priced
      intro item member
      rcases List.mem_append.mp member with old | new
      · exact billable item old
      · rw [List.mem_singleton.mp new]
        exact ⟨not_le.mp priced, not_le.mp called⟩

theorem mergeToolSurchargeItem_billable {merged : List ToolSurchargeItem} {item : ToolSurchargeItem}
    (billable : ∀ other ∈ merged, other.Billable) (own : item.Billable) :
    ∀ other ∈ mergeToolSurchargeItem merged item, other.Billable := by
  unfold mergeToolSurchargeItem
  split
  · intro other member
    rw [List.mem_singleton.mp member]
    exact own
  · rename_i last found
    have lastBillable := billable last (List.mem_of_getLast? found)
    split
    · intro other member
      rcases List.mem_append.mp member with old | new
      · exact billable other (List.mem_of_mem_dropLast old)
      · rw [List.mem_singleton.mp new]
        refine ⟨lastBillable.1, ?_⟩
        have counted := lastBillable.2
        have more := own.2
        dsimp only
        split <;> omega
    · intro other member
      rcases List.mem_append.mp member with old | new
      · exact billable other old
      · rw [List.mem_singleton.mp new]
        exact own

theorem mergeToolSurchargeItems_billable (billable : ∀ item ∈ items, item.Billable) :
    ∀ item ∈ mergeToolSurchargeItems items, item.Billable := by
  have sorted : ∀ item ∈ items.insertionSort (fun a b => a.before b), item.Billable := fun item member =>
    billable item ((List.perm_insertionSort _ items).mem_iff.mp member)
  unfold mergeToolSurchargeItems
  generalize items.insertionSort (fun a b => a.before b) = rest at sorted
  -- What has been merged so far is billable.
  suffices ∀ merged : List ToolSurchargeItem, (∀ item ∈ merged, item.Billable) →
      ∀ item ∈ rest.foldl mergeToolSurchargeItem merged, item.Billable from this [] (by simp)
  induction rest with
  | nil => exact fun merged old => old
  | cons item rest ih =>
    intro merged old
    exact ih (fun other member => sorted other (List.mem_cons_of_mem _ member)) _
      (mergeToolSurchargeItem_billable old (sorted item List.mem_cons_self))

theorem builtInTools_billable (index : ToolPriceIndex) (tools : List (String × Option Int)) (modelName : String)
    (billable : ∀ item ∈ items, item.Billable) :
    ∀ item ∈ tools.foldl
      (fun items (name, tool) => match tool with
        | none => items
        | some callCount => collectToolSurchargeItem index items name callCount modelName) items, item.Billable := by
  induction tools generalizing items with
  | nil => exact billable
  | cons tool tools ih =>
    obtain ⟨name, tool⟩ := tool
    cases tool with
    | none => exact ih billable
    | some callCount => exact ih (collectToolSurchargeItem_billable name callCount modelName billable)

theorem toolSurchargeItems_billable (index : ToolPriceIndex) (use : ToolUse) (modelName : String) :
    ∀ item ∈ toolSurchargeItems index use modelName, item.Billable := by
  refine mergeToolSurchargeItems_billable ?_
  have optional (c : Bool) (items : List ToolSurchargeItem) (name : String) (billable : ∀ item ∈ items, item.Billable) :
      ∀ item ∈ (if c then collectToolSurchargeItem index items name 1 modelName else items), item.Billable := by
    cases c with
    | true => exact collectToolSurchargeItem_billable name 1 modelName billable
    | false => exact billable
  refine optional _ _ _ (collectToolSurchargeItem_billable _ _ _ (optional _ _ _ ?_))
  exact builtInTools_billable index use.builtInTools modelName (by simp)

theorem calculateTextToolCallSurcharge_nonneg {groupRatio quotaPerUnit : ℚ}
    (billable : ∀ item ∈ items, item.Billable) (group : 0 ≤ groupRatio) (unit : 0 ≤ quotaPerUnit) :
    0 ≤ calculateTextToolCallSurcharge items groupRatio quotaPerUnit := by
  unfold calculateTextToolCallSurcharge
  suffices ∀ start : ℚ, 0 ≤ start →
      0 ≤ items.foldl (fun surcharge item => surcharge + item.price * item.count / 1000 * groupRatio * quotaPerUnit) start from
    this 0 le_rfl
  induction items with
  | nil => exact fun _ nonneg => nonneg
  | cons item items ih =>
    intro start nonneg
    obtain ⟨priced, called⟩ := billable item List.mem_cons_self
    have count : (0 : ℚ) ≤ item.count := by exact_mod_cast called.le
    refine ih (fun other member => billable other (List.mem_cons_of_mem _ member)) _ ?_
    positivity

end LLMHub
