import LLMHub.PerfMetrics.Refresh

namespace LLMHub

/-- The settings of a rule that shape its cache keys. -/
structure ChannelAffinityRule where
  name : String
  includeRuleName : Bool := false
  includeModelName : Bool := false
  includeUsingGroup : Bool := false
  deriving DecidableEq, Repr

/-- A request that matched a rule. `contextGroup` is the using group of its
context and `affinityValue` the text that the rule's key source found in it. -/
structure AffinityRequest where
  path : String
  modelName : String
  usingGroup : String
  contextGroup : String
  tenantId : Int
  policy : Option HubTokenRoutingPolicy := none
  affinityValue : String
  deriving DecidableEq, Repr

/-- The encoding of a policy, which may fail, and the hexadecimal digest of a
text. -/
structure AffinityDigest where
  marshal : HubTokenRoutingPolicy → Option String
  sha1 : String → String
  hex : ∀ text, ∀ c ∈ (sha1 text).toList, c ∈ "0123456789abcdef".toList

def hubTokenRoutingModeChannels : String := "channels"

def AffinityRequest.probeKind (request : AffinityRequest) : HubSupplyProbeKind :=
  hubSupplyProbeKindForRequest request.path

/-- A token policy makes every request a service-tier request. -/
def AffinityRequest.isHubServiceTierRequest (request : AffinityRequest) : Bool :=
  request.policy.isSome || isServiceTier request.contextGroup

section Keys

variable (digest : AffinityDigest)

def affinityFingerprint (s : String) : String :=
  if s = "" then "" else String.ofList ((digest.sha1 s).toList.take 8)

/-- Image requests have a namespace of their own. -/
def probeSegments (request : AffinityRequest) : List String :=
  if request.probeKind = .image then ["probe=image"] else []

def policySegments (policy : HubTokenRoutingPolicy) : List String :=
  if policy.channelIDs ≠ [] then
    match digest.marshal policy with
    | some encoded => [affinityFingerprint digest encoded]
    | none => []
  else []

/-- The routing scope that `GetPreferredChannelByAffinity` gives a request. A
policy in a context has been resolved, so its mode is `channels`. -/
def AffinityRequest.routingScope (request : AffinityRequest) : List String :=
  match request.policy with
  | some policy =>
    ["hub", hubTokenRoutingModeChannels, toString (policy.providerID : Int), toString request.tenantId] ++
      policySegments digest policy ++ probeSegments request
  | none =>
    if request.isHubServiceTierRequest then
      ["hub", "service-tier", toString request.tenantId] ++ probeSegments request
    else []

end Keys

def ChannelAffinityRule.nameSegments (rule : ChannelAffinityRule) : List String :=
  if rule.includeRuleName && rule.name ≠ "" then [rule.name] else []

/-- The model and the group, as far as the rule and the scope put them in. -/
def ChannelAffinityRule.modelSegments (rule : ChannelAffinityRule) (modelName usingGroup : String)
    (routingScope : List String) : List String :=
  let hubRouted := isServiceTier usingGroup || 0 < routingScope.length
  let includeModelName := rule.includeModelName || hubRouted
  let modelKey := if hubRouted then formatMatchingModelName modelName else modelName
  (if includeModelName && modelKey ≠ "" then [modelKey] else []) ++
    (if rule.includeUsingGroup && usingGroup ≠ "" then [usingGroup] else [])

def buildChannelAffinityCacheKeySuffix (rule : ChannelAffinityRule) (modelName usingGroup affinityValue : String)
    (routingScope : List String) : String :=
  ":".intercalate
    (rule.nameSegments ++ rule.modelSegments modelName usingGroup routingScope ++ routingScope ++ [affinityValue])

def AffinityRequest.cacheKeySuffix (digest : AffinityDigest) (rule : ChannelAffinityRule) (request : AffinityRequest) :
    String :=
  buildChannelAffinityCacheKeySuffix rule request.modelName request.usingGroup request.affinityValue
    (request.routingScope digest)

/-- The segments before the value, without the name of the rule. -/
def AffinityRequest.segments (digest : AffinityDigest) (rule : ChannelAffinityRule) (request : AffinityRequest) :
    List String :=
  rule.modelSegments request.modelName request.usingGroup (request.routingScope digest) ++ request.routingScope digest

/-- A scope is empty or starts with `hub`, its mode and a number. -/
def HubScope (scope : List String) : Prop :=
  scope = [] ∨ ∃ mode number rest, scope = "hub" :: mode :: number :: rest ∧ mode ≠ "hub" ∧ number ≠ "hub"

theorem decimal_ne_hub (n : Int) : toString n ≠ "hub" := by
  intro same
  have letter : 'h' ∈ (toString n).toList := by
    rw [same]
    decide +kernel
  rcases Go.mem_decimal letter with digit | sign
  · exact absurd digit (by decide)
  · exact absurd sign (by decide)

theorem decimal_free (n : Int) : ':' ∉ (toString n).toList := by
  intro letter
  rcases Go.mem_decimal letter with digit | sign
  · exact absurd digit (by decide)
  · exact absurd sign (by decide)

theorem formatMatchingModelName_free {name : String} (free : ':' ∉ name.toList) :
    ':' ∉ (formatMatchingModelName name).toList := by
  have patterns : ∀ pattern ∈ matchingModelPatterns, ':' ∉ pattern.toList := by decide +kernel
  rcases formatMatchingModelName_cases name with same | pattern
  · rw [same]
    exact free
  · exact patterns _ pattern

variable {first second : AffinityRequest}

section Scope

variable {digest : AffinityDigest}

theorem mem_affinityFingerprint {s : String} {c : Char} (member : c ∈ (affinityFingerprint digest s).toList) :
    c ∈ "0123456789abcdef".toList := by
  unfold affinityFingerprint at member
  split at member
  · rw [String.toList_empty] at member
    cases member
  · rw [String.toList_ofList] at member
    exact digest.hex s c (List.mem_of_mem_take member)

theorem policySegments_eq (digest : AffinityDigest) (policy : HubTokenRoutingPolicy) :
    policySegments digest policy = [] ∨ ∃ text, policySegments digest policy = [affinityFingerprint digest text] := by
  unfold policySegments
  split
  · split
    · exact .inr ⟨_, rfl⟩
    · exact .inl rfl
  · exact .inl rfl

theorem affinityFingerprint_ne_probe (s : String) : affinityFingerprint digest s ≠ "probe=image" := by
  intro same
  have letter : 'p' ∈ (affinityFingerprint digest s).toList := by
    rw [same]
    decide +kernel
  exact absurd (mem_affinityFingerprint letter) (by decide +kernel)

theorem hubScope_routingScope (request : AffinityRequest) : HubScope (request.routingScope digest) := by
  unfold AffinityRequest.routingScope
  split
  · exact .inr ⟨_, _, _, rfl, by decide +kernel, decimal_ne_hub _⟩
  · split
    · exact .inr ⟨_, _, _, rfl, by decide +kernel, decimal_ne_hub _⟩
    · exact .inl rfl

theorem routingScope_free (request : AffinityRequest) :
    ∀ segment ∈ request.routingScope digest, ':' ∉ segment.toList := by
  have fixed : ∀ segment ∈ ["hub", hubTokenRoutingModeChannels, "service-tier", "probe=image"],
      ':' ∉ segment.toList := by decide +kernel
  have probe : ∀ segment ∈ probeSegments request, ':' ∉ segment.toList := by
    intro segment member
    unfold probeSegments at member
    split at member
    · exact fixed segment (by simp [List.mem_singleton.mp member])
    · cases member
  have selected : ∀ policy, ∀ segment ∈ policySegments digest policy, ':' ∉ segment.toList := by
    intro policy segment member letter
    rcases policySegments_eq digest policy with none_ | ⟨text, one⟩
    · rw [none_] at member
      cases member
    · rw [one, List.mem_singleton] at member
      rw [member] at letter
      exact absurd (mem_affinityFingerprint letter) (by decide +kernel)
  intro segment member
  unfold AffinityRequest.routingScope at member
  split at member
  · simp only [List.mem_append, List.mem_cons, List.not_mem_nil, or_false] at member
    rcases member with ((rfl | rfl | rfl | rfl) | inside) | inside
    · exact fixed _ (by simp)
    · exact fixed _ (by simp)
    · exact decimal_free _
    · exact decimal_free _
    · exact selected _ segment inside
    · exact probe segment inside
  · split at member
    · simp only [List.mem_append, List.mem_cons, List.not_mem_nil, or_false] at member
      rcases member with (rfl | rfl | rfl) | inside
      · exact fixed _ (by simp)
      · exact fixed _ (by simp)
      · exact decimal_free _
      · exact probe segment inside
    · cases member

theorem probe_mem_iff {segments : List String} (none_ : "probe=image" ∉ segments) (request : AffinityRequest) :
    "probe=image" ∈ segments ++ probeSegments request ↔ request.probeKind = .image := by
  rw [List.mem_append, or_iff_right none_]
  unfold probeSegments
  by_cases image : request.probeKind = .image
  · rw [if_pos image]
    exact iff_of_true List.mem_cons_self image
  · rw [if_neg image]
    exact iff_of_false List.not_mem_nil image

theorem probeKind_eq (image : first.probeKind = .image ↔ second.probeKind = .image) :
    first.probeKind = second.probeKind := by
  have kinds : ∀ request : AffinityRequest, request.probeKind = .image ∨ request.probeKind = .text := by
    intro request
    unfold AffinityRequest.probeKind hubSupplyProbeKindForRequest
    dsimp only
    split
    · exact .inl rfl
    · exact .inr rfl
  rcases kinds first with one | one
  · rw [one, image.mp one]
  · rcases kinds second with other | other
    · rw [image.mpr other, other]
    · rw [one, other]

/-- Segments without a probe segment before the last ones leave the kind
readable. -/
theorem probeSegments_inj {segments segments' : List String}
    (none_ : "probe=image" ∉ segments) (none_' : "probe=image" ∉ segments')
    (same : segments ++ probeSegments first = segments' ++ probeSegments second) :
    first.probeKind = second.probeKind := by
  apply probeKind_eq
  rw [← probe_mem_iff none_ first, same, probe_mem_iff none_' second]

theorem probe_not_mem_policySegments (policy : HubTokenRoutingPolicy) :
    "probe=image" ∉ policySegments digest policy := by
  intro member
  rcases policySegments_eq digest policy with none_ | ⟨text, one⟩
  · rw [none_] at member
    cases member
  · rw [one, List.mem_singleton] at member
    exact affinityFingerprint_ne_probe text member.symm

/-- A hub scope determines the tenant and the probe kind. -/
theorem routingScope_inj (some_ : first.routingScope digest ≠ [])
    (same : first.routingScope digest = second.routingScope digest) :
    first.tenantId = second.tenantId ∧ first.probeKind = second.probeKind := by
  have modes : hubTokenRoutingModeChannels ≠ "service-tier" := by decide +kernel
  unfold AffinityRequest.routingScope at some_ same
  cases one : first.policy with
  | some policy =>
    rw [one] at same
    cases other : second.policy with
    | some policy' =>
      rw [other] at same
      simp only [List.cons_append, List.nil_append, List.cons.injEq, true_and] at same
      exact ⟨Go.decimal_injective same.2.1, probeSegments_inj (probe_not_mem_policySegments _) (probe_not_mem_policySegments _) same.2.2⟩
    | none =>
      rw [other] at same
      dsimp only at same
      split at same
      · simp only [List.cons_append, List.nil_append, List.cons.injEq, true_and] at same
        exact absurd same.1 modes
      · cases same
  | none =>
    rw [one] at same some_
    dsimp only at same some_
    split at some_
    · rename_i tier
      rw [if_pos tier] at same
      cases other : second.policy with
      | some policy' =>
        rw [other] at same
        simp only [List.cons_append, List.nil_append, List.cons.injEq, true_and] at same
        exact absurd same.1.symm modes
      | none =>
        rw [other] at same
        dsimp only at same
        split at same
        · simp only [List.cons_append, List.nil_append, List.cons.injEq, true_and] at same
          have tails : [] ++ probeSegments first = [] ++ probeSegments second := by
            rw [List.nil_append, List.nil_append, same.2]
          exact ⟨Go.decimal_injective same.1, probeSegments_inj List.not_mem_nil List.not_mem_nil tails⟩
        · cases same
    · exact absurd rfl some_

end Scope

theorem hubScope_shift {front scope : List String} (short : front.length ≤ 2) (whole : HubScope (front ++ scope))
    (rest : HubScope scope) : front = [] := by
  match front with
  | [] => rfl
  | [first] =>
    obtain none_ | ⟨mode, number, tail, same, mode_ne, -⟩ := whole
    · cases none_
    · obtain ⟨-, rfl⟩ := List.cons.inj same
      obtain none_ | ⟨_, _, _, same, -, -⟩ := rest
      · cases none_
      · exact absurd (List.cons.inj same).1 mode_ne
  | [first, second] =>
    obtain none_ | ⟨mode, number, tail, same, -, number_ne⟩ := whole
    · cases none_
    · obtain ⟨-, rfl⟩ := List.cons.inj (List.cons.inj same).2
      obtain none_ | ⟨_, _, _, same, -, -⟩ := rest
      · cases none_
      · exact absurd (List.cons.inj same).1 number_ne
  | first :: second :: third :: more =>
    simp only [List.length_cons] at short
    omega

/-- Up to two segments before a scope do not hide where the scope begins. -/
theorem hubScope_aligned {front front' scope scope' : List String} (short : front.length ≤ 2) (short' : front'.length ≤ 2)
    (hub : HubScope scope) (hub' : HubScope scope') (same : front ++ scope = front' ++ scope') : scope = scope' := by
  rcases List.append_eq_append_iff.mp same with ⟨extra, front_eq, scope_eq⟩ | ⟨extra, front_eq, scope_eq⟩
  · have none_ : extra = [] := by
      refine hubScope_shift ?_ (scope_eq ▸ hub) hub'
      rw [front_eq, List.length_append] at short'
      omega
    rw [scope_eq, none_, List.nil_append]
  · have none_ : extra = [] := by
      refine hubScope_shift ?_ (scope_eq ▸ hub') hub
      rw [front_eq, List.length_append] at short
      omega
    rw [scope_eq, none_, List.nil_append]

theorem modelSegments_length (rule : ChannelAffinityRule) (modelName usingGroup : String) (scope : List String) :
    (rule.modelSegments modelName usingGroup scope).length ≤ 2 := by
  unfold ChannelAffinityRule.modelSegments
  dsimp only
  rw [List.length_append]
  have one : ∀ (included : Bool) (segment : String), (if included then [segment] else []).length ≤ 1 := by
    intro included segment
    cases included <;> simp
  exact Nat.add_le_add (one _ _) (one _ _)

theorem modelSegments_free (rule : ChannelAffinityRule) {modelName usingGroup : String} (scope : List String)
    (model : ':' ∉ modelName.toList) (group : ':' ∉ usingGroup.toList) :
    ∀ segment ∈ rule.modelSegments modelName usingGroup scope, ':' ∉ segment.toList := by
  have one : ∀ (included : Bool) (name : String), ':' ∉ name.toList →
      ∀ segment ∈ (if included then [name] else []), ':' ∉ segment.toList := by
    intro included name free segment member
    cases included with
    | false => cases member
    | true =>
      rw [List.mem_singleton.mp member]
      exact free
  intro segment member
  unfold ChannelAffinityRule.modelSegments at member
  dsimp only at member
  rcases List.mem_append.mp member with inside | inside
  · refine one _ _ ?_ segment inside
    split
    · exact formatMatchingModelName_free model
    · exact model
  · exact one _ _ group segment inside

section Isolation

variable (digest : AffinityDigest) (rule : ChannelAffinityRule)

/-- Requests under one key agree in tenant, probe kind, scope and value. -/
def Isolated (first second : AffinityRequest) : Prop :=
  first.cacheKeySuffix digest rule = second.cacheKeySuffix digest rule →
    first.tenantId = second.tenantId ∧ first.probeKind = second.probeKind ∧
      first.routingScope digest = second.routingScope digest ∧ first.affinityValue = second.affinityValue

/-- The value of the first request spells out the segments that the second has
in addition, and then the value of the second. -/
def SpellsOut (first second : AffinityRequest) : Prop :=
  ∃ extra, extra ≠ [] ∧ second.segments digest rule = first.segments digest rule ++ extra ∧
    first.affinityValue = ":".intercalate (extra ++ [second.affinityValue])

/-- Two requests outside the hub that have the same segments and the same value
come from the same tenant and ask for the same kind. -/
def PlainAgree (first second : AffinityRequest) : Prop :=
  first.routingScope digest = [] → second.routingScope digest = [] →
    first.segments digest rule = second.segments digest rule → first.affinityValue = second.affinityValue →
      first.tenantId = second.tenantId ∧ first.probeKind = second.probeKind

variable {digest rule}

theorem segments_free {request : AffinityRequest} (model : ':' ∉ request.modelName.toList)
    (group : ':' ∉ request.usingGroup.toList) :
    ∀ part ∈ (request.segments digest rule).map String.toList, ':' ∉ part := by
  intro part member
  obtain ⟨segment, inside, rfl⟩ := List.mem_map.mp member
  rcases List.mem_append.mp inside with front | scope
  · exact modelSegments_free rule _ model group segment front
  · exact routingScope_free request segment scope

theorem toList_intercalate_colon (segments : List String) (value : String) :
    (":".intercalate (segments ++ [value])).toList = Go.keyed ':' (segments.map String.toList) value.toList :=
  Go.toList_intercalate_concat (by decide +kernel) segments value

theorem cacheKeySuffix_eq_iff (first second : AffinityRequest) :
    first.cacheKeySuffix digest rule = second.cacheKeySuffix digest rule ↔
      Go.keyed ':' ((first.segments digest rule).map String.toList) first.affinityValue.toList =
        Go.keyed ':' ((second.segments digest rule).map String.toList) second.affinityValue.toList := by
  have chars : ∀ request : AffinityRequest, (request.cacheKeySuffix digest rule).toList =
      Go.keyed ':' (rule.nameSegments.map String.toList)
        (Go.keyed ':' ((request.segments digest rule).map String.toList) request.affinityValue.toList) := by
    intro request
    unfold AffinityRequest.cacheKeySuffix buildChannelAffinityCacheKeySuffix
    rw [toList_intercalate_colon, List.append_assoc, List.map_append, Go.keyed_append]
    rfl
  rw [← String.toList_inj, chars, chars, Go.keyed_inj]

theorem spellsOut_iff (first second : AffinityRequest) :
    (∃ extra, (second.segments digest rule).map String.toList = (first.segments digest rule).map String.toList ++ extra ∧
      first.affinityValue.toList = Go.keyed ':' extra second.affinityValue.toList) ↔
      (first.segments digest rule = second.segments digest rule ∧ first.affinityValue = second.affinityValue) ∨
        SpellsOut digest rule first second := by
  constructor
  · rintro ⟨extra, segments, value⟩
    obtain ⟨front, back, split, front_eq, back_eq⟩ := List.map_eq_append_iff.mp segments
    have chars : Function.Injective String.toList := fun _ _ => String.toList_injective
    have front_same : front = first.segments digest rule := List.map_injective_iff.mpr chars front_eq
    subst back_eq
    rw [← toList_intercalate_colon, String.toList_inj] at value
    rw [front_same] at split
    by_cases none_ : back = []
    · subst none_
      rw [List.append_nil] at split
      exact .inl ⟨split.symm, value⟩
    · exact .inr ⟨back, none_, split, value⟩
  · rintro (⟨segments, value⟩ | ⟨extra, -, segments, value⟩)
    · exact ⟨[], by rw [segments, List.append_nil], by rw [value]; rfl⟩
    · refine ⟨extra.map String.toList, by rw [segments, List.map_append], ?_⟩
      rw [value, toList_intercalate_colon]

theorem spellsOut_value_ne (spells : SpellsOut digest rule first second) :
    first.affinityValue ≠ second.affinityValue := by
  obtain ⟨extra, some_, -, value⟩ := spells
  intro same
  have longer := Go.length_lt_keyed ':' (List.map_eq_nil_iff.not.mpr some_ : extra.map String.toList ≠ [])
    second.affinityValue.toList
  rw [← toList_intercalate_colon, ← value, same] at longer
  exact absurd longer (Nat.lt_irrefl _)

/-- Two keys agree when the segments and values do, or when one value spells out
the rest of the other key. -/
theorem cacheKeySuffix_eq_cases (model : ':' ∉ first.modelName.toList)
    (group : ':' ∉ first.usingGroup.toList) (model' : ':' ∉ second.modelName.toList)
    (group' : ':' ∉ second.usingGroup.toList) :
    first.cacheKeySuffix digest rule = second.cacheKeySuffix digest rule ↔
      (first.segments digest rule = second.segments digest rule ∧ first.affinityValue = second.affinityValue) ∨
        SpellsOut digest rule first second ∨ SpellsOut digest rule second first := by
  rw [cacheKeySuffix_eq_iff, Go.keyed_eq_iff (segments_free model group) (segments_free model' group'), spellsOut_iff,
    spellsOut_iff]
  constructor
  · rintro ((same | spells) | (⟨segments, value⟩ | spells))
    · exact .inl same
    · exact .inr (.inl spells)
    · exact .inl ⟨segments.symm, value.symm⟩
    · exact .inr (.inr spells)
  · rintro (same | spells | spells)
    · exact .inl (.inl same)
    · exact .inl (.inr spells)
    · exact .inr (.inr spells)

/-- Keys are isolated for two requests exactly when neither value spells out the
rest of the other key, plain requests apart, whose keys hold no tenant. -/
theorem affinity_isolated_iff {first second : AffinityRequest} (model : ':' ∉ first.modelName.toList)
    (group : ':' ∉ first.usingGroup.toList) (model' : ':' ∉ second.modelName.toList)
    (group' : ':' ∉ second.usingGroup.toList) :
    Isolated digest rule first second ↔
      ¬ SpellsOut digest rule first second ∧ ¬ SpellsOut digest rule second first ∧
        PlainAgree digest rule first second := by
  have cases_ := @cacheKeySuffix_eq_cases first second digest rule model group model' group'
  constructor
  · intro isolated
    refine ⟨fun spells => ?_, fun spells => ?_, fun _ _ segments value => ?_⟩
    · exact spellsOut_value_ne spells (isolated (cases_.mpr (.inr (.inl spells)))).2.2.2
    · exact spellsOut_value_ne spells (isolated (cases_.mpr (.inr (.inr spells)))).2.2.2.symm
    · obtain ⟨tenant, kind, -, -⟩ := isolated (cases_.mpr (.inl ⟨segments, value⟩))
      exact ⟨tenant, kind⟩
  · rintro ⟨not_first, not_second, plain⟩ same
    rcases cases_.mp same with ⟨segments, value⟩ | spells | spells
    · have scope : first.routingScope digest = second.routingScope digest :=
        hubScope_aligned (modelSegments_length rule _ _ _) (modelSegments_length rule _ _ _)
          (hubScope_routingScope first) (hubScope_routingScope second) segments
      by_cases none_ : first.routingScope digest = []
      · obtain ⟨tenant, kind⟩ := plain none_ (scope.symm.trans none_) segments value
        exact ⟨tenant, kind, scope, value⟩
      · obtain ⟨tenant, kind⟩ := routingScope_inj none_ scope
        exact ⟨tenant, kind, scope, value⟩
    · exact absurd spells not_first
    · exact absurd spells not_second

end Isolation

def sessionRule : ChannelAffinityRule where
  name := "session"
  includeRuleName := true

def fixedDigest : AffinityDigest where
  marshal _ := some "policy"
  sha1 _ := "356a192b7913b04c54574d18c28d46e6395428ab"
  hex := fun _ => by simp

def tierRequest (path : String) (tenantId : Int) (affinityValue : String) : AffinityRequest where
  path
  modelName := "gpt-4o"
  usingGroup := "high"
  contextGroup := "high"
  tenantId
  affinityValue

theorem tenants_isolated :
    Isolated fixedDigest sessionRule (tierRequest "/v1/chat/completions" 7 "alice")
      (tierRequest "/v1/chat/completions" 8 "alice") := by
  have lengths : ∀ {first second : AffinityRequest},
      (first.segments fixedDigest sessionRule).length = (second.segments fixedDigest sessionRule).length →
        ¬ SpellsOut fixedDigest sessionRule first second := by
    rintro first second same ⟨extra, some_, segments, -⟩
    rw [segments, List.length_append] at same
    exact some_ (List.length_eq_zero_iff.mp (by omega))
  refine (affinity_isolated_iff ?_ ?_ ?_ ?_).mpr ⟨lengths ?_, lengths ?_, fun none_ => absurd none_ ?_⟩
  all_goals decide +kernel

def plainRequest (path : String) (tenantId : Int) (affinityValue : String) : AffinityRequest :=
  { tierRequest path tenantId affinityValue with usingGroup := "default", contextGroup := "default" }

/-- A text value can name the key of an image request, and the value of a request
outside the hub the key of another tenant. -/
theorem affinity_value_spells_key :
    ¬ Isolated fixedDigest sessionRule (tierRequest "/v1/chat/completions" 7 "probe=image:alice")
        (tierRequest "/v1/images/generations" 7 "alice") ∧
      ¬ Isolated fixedDigest sessionRule (plainRequest "/v1/chat/completions" 8 "gpt-4o:hub:service-tier:7:alice")
        (tierRequest "/v1/chat/completions" 7 "alice") := by
  constructor
  · intro isolated
    have kinds := (isolated (by decide +kernel)).2.1
    exact absurd kinds (by decide +kernel)
  · intro isolated
    have tenants := (isolated (by decide +kernel)).1
    exact absurd tenants (by decide +kernel)

end LLMHub
