import LLMHub.Routing.ProbeKinds

namespace LLMHub

def verifiedTargets (targets : List HubSupplyGroupProbeTarget) (modelName : String) (kind : HubSupplyProbeKind) :
    List HubSupplyGroupProbeTarget :=
  ((targets.filter (·.verified)).filter fun target => target.modelName = modelName).filter fun target =>
    target.probeKind = kind

/-- What the verified targets say of a model and a probe kind: nothing without
one, else whether all of them are routable. -/
def probeVerdict (targets : List HubSupplyGroupProbeTarget) (modelName : String) (kind : HubSupplyProbeKind) :
    Option Bool :=
  if verifiedTargets targets modelName kind = [] then none
  else some ((verifiedTargets targets modelName kind).all hubSupplyProbeTargetRoutable)

/-- A probe of the model succeeded, of whatever kind. -/
def modelVerified (targets : List HubSupplyGroupProbeTarget) (modelName : String) : Bool :=
  targets.any fun target => target.verified && target.modelName = modelName

def addKind (kinds : List (HubSupplyProbeKind × Bool)) (target : HubSupplyGroupProbeTarget) :
    List (HubSupplyProbeKind × Bool) :=
  Go.put kinds target.probeKind ((kinds.lookup target.probeKind).getD true && hubSupplyProbeTargetRoutable target)

def modelKinds (targets : List HubSupplyGroupProbeTarget) (modelName : String) : List (HubSupplyProbeKind × Bool) :=
  ((targets.filter (·.verified)).filter fun target => target.modelName = modelName).foldl addKind []

section Kinds
variable (targets : List HubSupplyGroupProbeTarget) {modelName name : String} (kind : HubSupplyProbeKind)

theorem modelVerified_eq_false_iff : modelVerified targets modelName = false ↔
    (targets.filter (·.verified)).filter (fun target => target.modelName = modelName) = [] := by
  simp [modelVerified, List.filter_filter, List.filter_eq_nil_iff, and_comm]

/-- The targets of a model by name, then those verified. -/
theorem filter_own_verified :
    ((targets.filter fun target => target.modelName = modelName).filter (·.verified)).filter
        (fun target => target.modelName = modelName) =
      (targets.filter (·.verified)).filter fun target => target.modelName = modelName := by
  simp only [List.filter_filter]
  refine List.filter_congr fun target _ => ?_
  cases decide (target.modelName = modelName) <;> simp

/-- The targets of one model verify it as all do, and no other. -/
theorem modelVerified_own : modelVerified (targets.filter fun target => target.modelName = modelName) name =
    (name = modelName && modelVerified targets modelName) := by
  simp only [modelVerified, List.any_filter]
  by_cases same : name = modelName
  · rw [same, decide_eq_true rfl, Bool.true_and]
    refine congrArg targets.any (funext fun target => ?_)
    rw [Bool.and_comm, Bool.and_assoc, Bool.and_self]
  · simp only [same, decide_false, Bool.false_and, List.any_eq_false, Bool.and_eq_true, decide_eq_true_eq]
    exact fun target _ hit => same (hit.2.2.symm.trans hit.1)

theorem build_lookup : (buildHubSupplyModelProbeKinds targets).lookup modelName =
    if modelVerified targets modelName then some (modelKinds targets modelName) else none := by
  have grouped := Go.lookup_foldl_put (fun target : HubSupplyGroupProbeTarget => target.modelName)
    (fun found target => addKind (found.getD []) target) (targets.filter (·.verified)) [] modelName
  rw [List.lookup_nil, Go.foldl_some] at grouped
  refine grouped.trans ?_
  cases verified : modelVerified targets modelName with
  | false => exact if_pos ((modelVerified_eq_false_iff _).mp verified)
  | true => exact if_neg fun none => by simp [(modelVerified_eq_false_iff _).mpr none] at verified

theorem modelKinds_lookup : (modelKinds targets modelName).lookup kind = probeVerdict targets modelName kind := by
  have grouped := Go.lookup_foldl_put (fun target : HubSupplyGroupProbeTarget => target.probeKind)
    (fun found target => found.getD true && hubSupplyProbeTargetRoutable target)
    ((targets.filter (·.verified)).filter fun target => target.modelName = modelName) [] kind
  have all := Go.foldl_some (fun all target => all && hubSupplyProbeTargetRoutable target) true
    (verifiedTargets targets modelName kind)
  rw [Go.foldl_and, Bool.true_and] at all
  exact grouped.trans all

theorem modelKinds_keyed : Go.Keyed (modelKinds targets modelName) :=
  Go.Keyed.foldl_put (fun target : HubSupplyGroupProbeTarget => target.probeKind)
    (fun kinds target => (kinds.lookup target.probeKind).getD true && hubSupplyProbeTargetRoutable target) _ Go.keyed_nil

theorem build_getD : (((buildHubSupplyModelProbeKinds targets).lookup modelName).getD []).lookup kind =
    probeVerdict targets modelName kind := by
  rw [build_lookup]
  cases verified : modelVerified targets modelName with
  | false =>
    rw [probeVerdict, verifiedTargets, (modelVerified_eq_false_iff _).mp verified]
    rfl
  | true => exact modelKinds_lookup targets kind

theorem disabledKinds_lookup : (hubSupplyAutoProbeDisabledModelKinds modelName targets).lookup kind =
    (probeVerdict targets modelName kind).map fun _ => true := by
  have grouped := Go.lookup_foldl_put_of_key (fun target : HubSupplyGroupProbeTarget => target.probeKind)
    (fun _ => true) ((targets.filter (·.verified)).filter fun target => target.modelName = modelName) [] kind
  rw [hubSupplyAutoProbeDisabledModelKinds, ← List.filter_filter]
  refine grouped.trans ?_
  have listed : kind ∈ ((targets.filter (·.verified)).filter fun target => target.modelName = modelName).map
      (·.probeKind) ↔ verifiedTargets targets modelName kind ≠ [] := by
    rw [ne_eq, verifiedTargets, List.filter_eq_nil_iff, List.mem_map]
    push Not
    exact exists_congr fun target => and_congr_right fun _ => (decide_eq_true_iff).symm
  by_cases seen : verifiedTargets targets modelName kind = []
  · rw [probeVerdict, if_pos seen, if_neg fun inside => listed.mp inside seen]
    rfl
  · rw [probeVerdict, if_neg seen, if_pos (listed.mpr seen)]
    rfl

theorem disabledKinds_keyed : Go.Keyed (hubSupplyAutoProbeDisabledModelKinds modelName targets) :=
  Go.Keyed.foldl_put (fun target : HubSupplyGroupProbeTarget => target.probeKind) (fun _ _ => true) _ Go.keyed_nil

theorem disabledKinds_eq_nil_iff :
    hubSupplyAutoProbeDisabledModelKinds modelName targets = [] ↔ modelVerified targets modelName = false := by
  rw [modelVerified_eq_false_iff]
  constructor
  · intro empty
    by_contra some
    obtain ⟨target, inside⟩ := List.exists_mem_of_ne_nil _ some
    have seen : verifiedTargets targets modelName target.probeKind ≠ [] :=
      List.ne_nil_of_mem (List.mem_filter.mpr ⟨inside, decide_eq_true rfl⟩)
    have found := @disabledKinds_lookup targets modelName target.probeKind
    rw [empty, probeVerdict, if_neg seen] at found
    cases found
  · intro none
    rw [hubSupplyAutoProbeDisabledModelKinds, ← List.filter_filter, none]
    rfl

end Kinds

/-- The other name under which the kinds of a model are looked up. -/
def fallbackName (modelName : String) : Option String :=
  let normalized := formatMatchingModelName modelName
  if normalized ≠ "" ∧ normalized ≠ modelName then some normalized else none

theorem kindsForModel_eq (kinds : HubSupplyModelProbeKinds) (modelName : String) :
    hubSupplyModelProbeKindsForModel kinds modelName =
      ((kinds.lookup modelName).or ((fallbackName modelName).bind (List.lookup · kinds))).getD [] := by
  unfold hubSupplyModelProbeKindsForModel fallbackName
  cases kinds.lookup modelName with
  | some _ => rfl
  | none =>
    by_cases usable : formatMatchingModelName modelName ≠ "" ∧ formatMatchingModelName modelName ≠ modelName
    · simp [usable]
    · simp [if_neg usable]

variable {channelModels : String}

namespace SuppliedChannel

section Loaded
variable (supplied : SuppliedChannel) (modelName : String) (kind : HubSupplyProbeKind)

/-- What the loaded kinds hold under a name. -/
def loadedProbe : Option Bool :=
  if modelName ∈ supplied.autoProbeDisabledModels then
    (probeVerdict supplied.currentTargets modelName kind).map fun _ => true
  else probeVerdict supplied.currentTargets modelName kind

/-- What a request reads of a probe kind. -/
def servedProbe : Option Bool :=
  if modelName ∈ supplied.autoProbeDisabledModels ∨ modelVerified supplied.currentTargets modelName then
    supplied.loadedProbe modelName kind
  else (fallbackName modelName).bind fun name => supplied.loadedProbe name kind

/-- Every target that shares the health key of a model and a kind is reported
routable, those never verified and those of another spelling too. -/
def keyRoutable : Bool :=
  supplied.currentTargets.all fun target =>
    let key := (supplied.report target).key
    !(key.complete && key = hubRoutingRuntimeKey supplied.channelID modelName (probeKindPath kind)) ||
      supplied.targetRoutable target

theorem loadedProbeKinds_lookup : supplied.loadedProbeKinds.lookup modelName =
    if modelName ∈ supplied.autoProbeDisabledModels then
      some (hubSupplyAutoProbeDisabledModelKinds modelName supplied.currentTargets)
    else (buildHubSupplyModelProbeKinds supplied.currentTargets).lookup modelName := by
  have grouped := Go.lookup_foldl_put_of_key id
    (fun name => hubSupplyAutoProbeDisabledModelKinds name supplied.currentTargets) supplied.autoProbeDisabledModels
    (buildHubSupplyModelProbeKinds supplied.currentTargets) modelName
  rwa [List.map_id] at grouped

theorem loadedProbeKinds_getD :
    ((supplied.loadedProbeKinds.lookup modelName).getD []).lookup kind = supplied.loadedProbe modelName kind := by
  rw [loadedProbeKinds_lookup, loadedProbe]
  split
  · exact disabledKinds_lookup _ _
  · exact build_getD _ _

theorem loadedProbeKinds_keyed : Go.Keyed ((supplied.loadedProbeKinds.lookup modelName).getD []) := by
  rw [loadedProbeKinds_lookup, build_lookup]
  split
  · exact disabledKinds_keyed _
  · split
    · exact modelKinds_keyed _
    · exact Go.keyed_nil

theorem servedProbe_eq : (hubSupplyModelProbeKindsForModel supplied.loadedProbeKinds modelName).lookup kind =
    supplied.servedProbe modelName kind := by
  rw [kindsForModel_eq, servedProbe]
  by_cases own : modelName ∈ supplied.autoProbeDisabledModels ∨ modelVerified supplied.currentTargets modelName
  · obtain ⟨kinds, found⟩ : ∃ kinds, supplied.loadedProbeKinds.lookup modelName = some kinds := by
      rw [loadedProbeKinds_lookup, build_lookup]
      split
      · exact ⟨_, rfl⟩
      · exact ⟨_, if_pos (own.resolve_left ‹_›)⟩
    rw [if_pos own, ← loadedProbeKinds_getD, found]
    rfl
  · have missing : supplied.loadedProbeKinds.lookup modelName = none := by
      rw [loadedProbeKinds_lookup, build_lookup, if_neg fun disabled => own (.inl disabled),
        if_neg fun verified => own (.inr verified)]
    rw [if_neg own, missing]
    cases fallbackName modelName with
    | none => rfl
    | some name => exact loadedProbeKinds_getD _ _ _

end Loaded

def kindHealth (runtime : List (HubRoutingRuntimeKey × HubRoutingRuntimeSignal)) (channelID : Nat) (modelName : String)
    (kind : HubSupplyProbeKind) : Option HubRoutingRealHealth :=
  realHealth (runtime.lookup (hubRoutingRuntimeKey channelID modelName (probeKindPath kind)))

/-- A name of the channel's models list is free of blanks around it. -/
theorem trimSpace_of_listed {modelName modelsCSV : String} (listed : modelName ∈ normalizeHubSupplyModelNames modelsCSV) :
    Go.trimSpace modelName = modelName ∧ modelName ≠ "" := by
  rw [normalizeHubSupplyModelNames, List.mem_eraseDups] at listed
  obtain ⟨part, named⟩ := List.mem_filter.mp listed
  obtain ⟨text, -, rfl⟩ := List.mem_map.mp part
  exact ⟨Go.trimSpace_trimSpace _, of_decide_eq_true named⟩

theorem normalize_blank {modelsCSV : String} (blank : Go.trimSpace modelsCSV = "") :
    normalizeHubSupplyModelNames modelsCSV = [] := by
  have single : ∀ part ∈ [modelsCSV.toList], ',' ∉ part := by
    rintro part inside comma
    cases List.mem_singleton.mp inside
    exact absurd ((Go.trimSpace_eq_nil_iff modelsCSV).mp blank ',' comma) (by decide)
  have whole : modelsCSV.toList.splitOn ',' = [modelsCSV.toList] := by
    simpa using List.splitOn_intercalate ',' single (List.cons_ne_nil _ _)
  simp [normalizeHubSupplyModelNames, whole, blank]

theorem isAutoProbeDisabled_iff (supplied : SuppliedChannel) {modelName : String}
    (listed : modelName ∈ normalizeHubSupplyModelNames channelModels) :
    supplied.group.isAutoProbeDisabled modelName channelModels = true ↔ modelName ∈ supplied.autoProbeDisabledModels := by
  rw [HubSupplyGroup.isAutoProbeDisabled, decide_eq_true_iff, HubSupplyGroup.getAutoProbeDisabledModels,
    (trimSpace_of_listed listed).1]
  by_cases unset : Go.trimSpace supplied.group.autoProbeDisabledModels = ""
  · simp [autoProbeDisabledModels, normalize_blank unset]
  · rw [if_neg unset, List.mem_filter, decide_eq_true_iff]
    exact and_iff_right listed

/-- The public check loops over the kinds that are loaded under the model's own
name. -/
theorem shownKinds_eq (supplied : SuppliedChannel) {modelName : String}
    (listed : modelName ∈ normalizeHubSupplyModelNames channelModels) :
    let modelTargets := supplied.currentTargets.filter fun target => target.modelName = modelName
    let kinds := if supplied.group.isAutoProbeDisabled modelName channelModels then
      hubSupplyAutoProbeDisabledModelKinds modelName modelTargets else []
    hubSupplyModelProbeKindsForModel (if kinds = [] then buildHubSupplyModelProbeKinds modelTargets
        else Go.put (buildHubSupplyModelProbeKinds modelTargets) modelName kinds) modelName =
      (supplied.loadedProbeKinds.lookup modelName).getD [] := by
  have sameKinds : hubSupplyAutoProbeDisabledModelKinds modelName
      (supplied.currentTargets.filter fun target => target.modelName = modelName) =
        hubSupplyAutoProbeDisabledModelKinds modelName supplied.currentTargets := by
    simp only [hubSupplyAutoProbeDisabledModelKinds, ← List.filter_filter, filter_own_verified]
  simp only [kindsForModel_eq, isAutoProbeDisabled_iff supplied listed, sameKinds, loadedProbeKinds_lookup]
  cases verified : modelVerified supplied.currentTargets modelName with
  | false =>
    have unset := (disabledKinds_eq_nil_iff _).mpr verified
    have fallback : ((fallbackName modelName).bind fun name => (buildHubSupplyModelProbeKinds
        (supplied.currentTargets.filter fun target => target.modelName = modelName)).lookup name) = none := by
      refine Option.bind_eq_none_iff.mpr fun name _ => ?_
      rw [build_lookup, modelVerified_own, verified, Bool.and_false]
      rfl
    rw [unset, ite_self, if_pos rfl, fallback, build_lookup, modelVerified_own, build_lookup, verified, Bool.and_false,
      if_neg Bool.false_ne_true, if_neg Bool.false_ne_true]
    split <;> rfl
  | true =>
    by_cases disabled : modelName ∈ supplied.autoProbeDisabledModels
    · have kept : hubSupplyAutoProbeDisabledModelKinds modelName supplied.currentTargets ≠ [] := fun empty => by
        simp [(disabledKinds_eq_nil_iff _).mp empty] at verified
      rw [if_pos disabled, if_pos disabled, if_neg kept, Go.lookup_put, if_pos rfl]
      rfl
    · rw [if_neg disabled, if_neg disabled, if_pos rfl, build_lookup, modelVerified_own, build_lookup, verified,
        modelKinds, filter_own_verified]
      simp [modelKinds]

/-- A probe kind that is shown under a state of its real traffic. -/
def Shows (verdict : Option Bool) (health : Option HubRoutingRealHealth) : Prop :=
  ∃ routable, verdict = some routable ∧ health ≠ some .quarantined ∧ (routable = true ∨ health = some .healthy)

theorem publicModelRoutable_iff (supplied : SuppliedChannel) (signals : HubRoutingSignals) {modelName : String}
    (listed : modelName ∈ normalizeHubSupplyModelNames channelModels) :
    supplied.publicModelRoutable signals modelName channelModels = true ↔
      ∃ kind, Shows (supplied.loadedProbe modelName kind)
        (kindHealth signals.runtime supplied.channelID modelName kind) := by
  have shown := shownKinds_eq supplied listed
  dsimp only at shown
  simp only [publicModelRoutable, hubSupplyPublicModelRoutable, shown, List.any_eq_true, Prod.exists,
    (supplied.loadedProbeKinds_keyed modelName).mem_iff, loadedProbeKinds_getD]
  refine exists₂_congr fun kind routable => and_congr_right fun _ => ?_
  simp [kindHealth]

end SuppliedChannel

theorem publish_unroutable (reports : List HubRoutingProbeReport) (key : HubRoutingRuntimeKey) :
    ((publishHubRoutingProbeSignals reports).lookup key).any (!·.routable) =
      reports.any fun report => report.key.complete && (report.key = key && !report.routable) := by
  have spelled : publishHubRoutingProbeSignals reports = (reports.filter (·.key.complete)).foldl
      (fun published report => Go.put published report.key ((published.lookup report.key).elim
        report.toHubRoutingProbeSignal (·.join report.toHubRoutingProbeSignal))) [] := by
    unfold publishHubRoutingProbeSignals
    congr
    funext published report
    cases published.lookup report.key <;> rfl
  have grouped := Go.lookup_foldl_put HubRoutingProbeReport.key
    (fun found report => found.elim report.toHubRoutingProbeSignal (·.join report.toHubRoutingProbeSignal))
    (reports.filter (·.key.complete)) [] key
  have joined : ∀ (items : List HubRoutingProbeReport) (found : Option HubRoutingProbeSignal),
      (items.foldl (fun found report => some (found.elim report.toHubRoutingProbeSignal
        (·.join report.toHubRoutingProbeSignal))) found).any (!·.routable) =
        (found.any (!·.routable) || items.any (!·.routable)) := by
    intro items
    induction items with
    | nil => simp
    | cons item rest ih =>
      intro found
      rw [List.foldl_cons, ih, List.any_cons, ← Bool.or_assoc]
      cases found with
      | none => rfl
      | some current => simp [HubRoutingProbeSignal.join, Bool.not_and]
  rw [spelled, grouped, joined, List.lookup_nil, Option.any_none, Bool.false_or, List.any_filter, List.any_filter]

namespace SuppliedChannel

variable {all : List SuppliedChannel} {supplied : SuppliedChannel}

theorem loaded_lookup (distinct : (all.map (·.channelID)).Nodup) (member : supplied ∈ all) :
    (loadHubSupplyChannelProbeKinds all).1.lookup supplied.channelID = some supplied.loadedProbeKinds := by
  have keyed : Go.Keyed (loadHubSupplyChannelProbeKinds all).1 := by
    rw [Go.Keyed, loadHubSupplyChannelProbeKinds, List.map_map]
    exact distinct
  exact (keyed.mem_iff _ _).mp (List.mem_map.mpr ⟨supplied, member, rfl⟩)

/-- The published signal of a model and a kind is routable while every target
under its key is. -/
theorem published_unroutable (distinct : (all.map (·.channelID)).Nodup) (member : supplied ∈ all)
    (modelName : String) (kind : HubSupplyProbeKind) :
    ((publishHubRoutingProbeSignals (loadHubSupplyChannelProbeKinds all).2).lookup
        (hubRoutingRuntimeKey supplied.channelID modelName (probeKindPath kind))).any (!·.routable) =
      !supplied.keyRoutable modelName kind := by
  rw [publish_unroutable, Bool.eq_iff_iff]
  simp only [loadHubSupplyChannelProbeKinds, keyRoutable, List.any_eq_true, List.mem_flatMap, List.mem_map,
    Bool.and_eq_true, decide_eq_true_eq, Bool.not_eq_true', List.all_eq_false, Bool.or_eq_true, not_or]
  constructor
  · rintro ⟨report, ⟨channel, among, target, inside, rfl⟩, complete, same, unroutable⟩
    have one : channel = supplied :=
      List.inj_on_of_nodup_map distinct among member (congrArg HubRoutingRuntimeKey.channelID same)
    subst one
    rw [same] at complete
    exact ⟨target, inside, by simp [complete, same], by simpa [report] using unroutable⟩
  · rintro ⟨target, inside, shared, unroutable⟩
    have shared : (supplied.report target).key.complete = true ∧ (supplied.report target).key =
        hubRoutingRuntimeKey supplied.channelID modelName (probeKindPath kind) := by simpa using shared
    exact ⟨_, ⟨supplied, member, target, inside, rfl⟩, shared.1, shared.2, by simpa [report] using unroutable⟩

def cacheOf (cache : RoutingCache) (all : List SuppliedChannel)
    (runtime : List (HubRoutingRuntimeKey × HubRoutingRuntimeSignal)) : RoutingCache :=
  { cache with signals := ⟨publishHubRoutingProbeSignals (loadHubSupplyChannelProbeKinds all).2, runtime⟩ }

theorem supports_iff {cache : RoutingCache} (distinct : (all.map (·.channelID)).Nodup) (member : supplied ∈ all)
    (published : cache.isHubSupplyChannelTenantPublished supplied.channelID = true)
    (runtime : List (HubRoutingRuntimeKey × HubRoutingRuntimeSignal)) (modelName : String)
    {kind : HubSupplyProbeKind} (requested : hubSupplyProbeKindForRequest (probeKindPath kind) = kind) :
    (cacheOf cache all runtime).hubSupplyChannelSupportsRequest (loadHubSupplyChannelProbeKinds all).1
        supplied.channelID modelName (probeKindPath kind) = true ↔
      Shows ((supplied.servedProbe modelName kind).map (· && supplied.keyRoutable modelName kind))
        (kindHealth runtime supplied.channelID modelName kind) := by
  have open_ : (cacheOf cache all runtime).isHubSupplyChannelTenantPublished supplied.channelID = true := published
  have blocked : ((cacheOf cache all runtime).signals.probes.lookup
      (hubRoutingRuntimeKey supplied.channelID modelName (probeKindPath kind))).any (!·.routable) =
      !supplied.keyRoutable modelName kind := published_unroutable distinct member modelName kind
  unfold RoutingCache.hubSupplyChannelSupportsRequest getHubRoutingDecision kindHealth
  have snapshot : (cacheOf cache all runtime).signals.runtime = runtime := rfl
  simp only [loaded_lookup distinct member, open_, requested, servedProbe_eq, blocked, snapshot]
  generalize realHealth (runtime.lookup (hubRoutingRuntimeKey supplied.channelID modelName (probeKindPath kind))) = health
  cases supplied.servedProbe modelName kind with
  | none => simp [Shows]
  | some available =>
    by_cases quarantined : health = some .quarantined
    · simp [Shows, quarantined]
    · by_cases healthy : health = some .healthy
      · simp [Shows, healthy]
      · cases supplied.keyRoutable modelName kind <;> simp [Shows, quarantined, healthy]

end SuppliedChannel

def HubSupplyGroupProbeTarget.Verified (target : HubSupplyGroupProbeTarget) : Prop :=
  target.status = .available ∨ 0 < target.lastSuccessAt

/-- The last probe succeeded, or one did before and fewer than two failed since. -/
def HubSupplyGroupProbeTarget.Up (target : HubSupplyGroupProbeTarget) : Prop :=
  target.status = .available ∨
    (target.status ∈ [HubSupplyProbeStatus.pending, .testing, .error] ∧ 0 < target.lastSuccessAt ∧
      target.consecutiveFailures < 2)

variable {target : HubSupplyGroupProbeTarget}

theorem verified_iff : target.verified = true ↔ target.Verified := by
  simp [HubSupplyGroupProbeTarget.verified, HubSupplyGroupProbeTarget.Verified, or_comm]

theorem probeTargetRoutable_iff : hubSupplyProbeTargetRoutable target = true ↔ target.Up := by
  unfold hubSupplyProbeTargetRoutable HubSupplyGroupProbeTarget.Up hubSupplyProbeFailureThreshold
  cases target.status <;> simp

namespace SuppliedChannel

section Condition
variable (supplied : SuppliedChannel)

/-- A target of the name and kind is verified. -/
def Probed (name : String) (kind : HubSupplyProbeKind) : Prop :=
  ∃ target ∈ supplied.currentTargets, target.modelName = name ∧ target.probeKind = kind ∧ target.Verified

/-- No verified target of the name and kind is down, or they are not probed any
more. -/
def Answers (name : String) (kind : HubSupplyProbeKind) : Prop :=
  name ∈ supplied.autoProbeDisabledModels ∨
    ∀ target ∈ supplied.currentTargets, target.modelName = name → target.probeKind = kind → target.Verified → target.Up

/-- A target of the kind is down whose name, maybe another one, is normalised to
the same. -/
def KeyDown (modelName : String) (kind : HubSupplyProbeKind) : Prop :=
  ∃ target ∈ supplied.currentTargets, target.probeKind = kind ∧
    normalizeHubRoutingRuntimeModelName target.modelName = normalizeHubRoutingRuntimeModelName modelName ∧
    ¬if supplied.group.isAutoProbeDisabled target.modelName target.modelName then target.Verified else target.Up

/-- Of a kind, the targets under one name speak for a model: its traffic is
healthy, or they are up and so is every target under its key. -/
def Carries (health : HubSupplyProbeKind → Option HubRoutingRealHealth) (modelName name : String)
    (kind : HubSupplyProbeKind) : Prop :=
  supplied.Probed name kind ∧ health kind ≠ some .quarantined ∧
    (health kind = some .healthy ∨ (supplied.Answers name kind ∧ ¬supplied.KeyDown modelName kind))

/-- The targets and the traffic under which what is shown is served. -/
structure Consistent (health : HubSupplyProbeKind → Option HubRoutingRealHealth) (modelName : String) : Prop where
  /-- Where probes alone speak for a kind while a target under its key is down,
  another kind carries the model. -/
  carried : ∀ kind ∈ [HubSupplyProbeKind.text, .image], supplied.Probed modelName kind → supplied.Answers modelName kind →
    health kind ≠ some .quarantined → health kind ≠ some .healthy → supplied.KeyDown modelName kind →
      ∃ other ∈ [HubSupplyProbeKind.text, .image], supplied.Carries health modelName modelName other
  /-- A model that no target verifies is not carried by its normalised name. -/
  unserved : modelName ∉ supplied.autoProbeDisabledModels →
    (∀ target ∈ supplied.currentTargets, target.modelName = modelName → ¬target.Verified) →
      formatMatchingModelName modelName ≠ "" → formatMatchingModelName modelName ≠ modelName →
        ∀ kind ∈ [HubSupplyProbeKind.text, .image], ¬supplied.Carries health modelName (formatMatchingModelName modelName) kind

end Condition

variable {supplied : SuppliedChannel}

theorem mem_verifiedTargets {targets : List HubSupplyGroupProbeTarget} {name : String} {kind : HubSupplyProbeKind} :
    target ∈ verifiedTargets targets name kind ↔
      target ∈ targets ∧ target.modelName = name ∧ target.probeKind = kind ∧ target.Verified := by
  simp only [verifiedTargets, List.mem_filter, decide_eq_true_eq, verified_iff]
  tauto

theorem probed_iff {name : String} {kind : HubSupplyProbeKind} :
    supplied.Probed name kind ↔ verifiedTargets supplied.currentTargets name kind ≠ [] := by
  constructor
  · rintro ⟨target, verified⟩
    exact List.ne_nil_of_mem (mem_verifiedTargets.mpr verified)
  · intro some
    obtain ⟨target, inside⟩ := List.exists_mem_of_ne_nil _ some
    exact ⟨target, mem_verifiedTargets.mp inside⟩

theorem shows_loadedProbe {name : String} {kind : HubSupplyProbeKind} {keyRoutable : Bool}
    {health : Option HubRoutingRealHealth} :
    Shows ((supplied.loadedProbe name kind).map (· && keyRoutable)) health ↔ supplied.Probed name kind ∧
      health ≠ some .quarantined ∧ (health = some .healthy ∨ (supplied.Answers name kind ∧ keyRoutable = true)) := by
  have all : (verifiedTargets supplied.currentTargets name kind).all hubSupplyProbeTargetRoutable = true ↔
      ∀ target ∈ supplied.currentTargets, target.modelName = name → target.probeKind = kind → target.Verified →
        target.Up := by
    simp only [List.all_eq_true, mem_verifiedTargets, probeTargetRoutable_iff, and_imp]
  rw [probed_iff, Answers, loadedProbe, probeVerdict, ← all]
  by_cases seen : verifiedTargets supplied.currentTargets name kind = []
  · simp [Shows, seen]
  · by_cases disabled : name ∈ supplied.autoProbeDisabledModels <;> simp [Shows, seen, disabled, or_comm]

theorem keyRoutable_iff {modelName : String} (positive : 0 < supplied.channelID)
    (named : Go.trimSpace modelName = modelName ∧ modelName ≠ "")
    (kinds : ∀ target ∈ supplied.currentTargets, target.probeKind ∈ [HubSupplyProbeKind.text, .image])
    {kind : HubSupplyProbeKind} (requested : hubSupplyProbeKindForRequest (probeKindPath kind) = kind) :
    supplied.keyRoutable modelName kind = true ↔ ¬supplied.KeyDown modelName kind := by
  have spelled : normalizeHubRoutingRuntimeModelName modelName ≠ "" := by
    unfold normalizeHubRoutingRuntimeModelName
    simp only [named.1]
    split
    · assumption
    · exact named.2
  simp only [keyRoutable, KeyDown, List.all_eq_true, not_exists, not_and, not_not]
  refine forall₂_congr fun target inside => ?_
  have kept : target.probeKind.trimmed = target.probeKind ∧ target.probeKind ≠ .other "" := by
    have known := kinds target inside
    simp only [List.mem_cons, List.not_mem_nil, or_false] at known
    rcases known with same | same <;> simp [same, HubSupplyProbeKind.trimmed]
  have routable : supplied.targetRoutable target = true ↔
      if supplied.group.isAutoProbeDisabled target.modelName target.modelName then target.Verified else target.Up := by
    unfold targetRoutable
    split
    · exact verified_iff
    · exact probeTargetRoutable_iff
  rw [← routable]
  simp only [report, HubRoutingProbeReport.key, HubRoutingRuntimeKey.complete, hubRoutingRuntimeKey, requested, kept.1]
  by_cases same : normalizeHubRoutingRuntimeModelName target.modelName = normalizeHubRoutingRuntimeModelName modelName
  · simp [same, positive, spelled, kept.2]
    exact imp_iff_not_or.symm
  · simp [same]

theorem modelVerified_iff {modelName : String} : modelVerified supplied.currentTargets modelName = true ↔
    ∃ target ∈ supplied.currentTargets, target.modelName = modelName ∧ target.Verified := by
  simp [modelVerified, verified_iff, and_comm]

/-- The request check in terms of the targets. -/
theorem shows_servedProbe {health : HubSupplyProbeKind → Option HubRoutingRealHealth} {modelName : String}
    {kind : HubSupplyProbeKind} (key : supplied.keyRoutable modelName kind = true ↔ ¬supplied.KeyDown modelName kind) :
    Shows ((supplied.servedProbe modelName kind).map (· && supplied.keyRoutable modelName kind)) (health kind) ↔
      if modelName ∈ supplied.autoProbeDisabledModels ∨ modelVerified supplied.currentTargets modelName then
        supplied.Carries health modelName modelName kind
      else (formatMatchingModelName modelName ≠ "" ∧ formatMatchingModelName modelName ≠ modelName) ∧
        supplied.Carries health modelName (formatMatchingModelName modelName) kind := by
  unfold servedProbe Carries
  rw [← key]
  split
  · exact shows_loadedProbe
  · by_cases usable : formatMatchingModelName modelName ≠ "" ∧ formatMatchingModelName modelName ≠ modelName
    · rw [fallbackName, if_pos usable, Option.bind_some, and_iff_right usable]
      exact shows_loadedProbe
    · simp [fallbackName, usable, Shows]

/-- The public check in terms of the targets. -/
theorem shown_iff {signals : HubRoutingSignals} {modelName : String}
    (listed : modelName ∈ normalizeHubSupplyModelNames channelModels)
    (kinds : ∀ target ∈ supplied.currentTargets, target.probeKind ∈ [HubSupplyProbeKind.text, .image]) :
    supplied.publicModelRoutable signals modelName channelModels = true ↔
      ∃ kind ∈ [HubSupplyProbeKind.text, .image], supplied.Probed modelName kind ∧
        kindHealth signals.runtime supplied.channelID modelName kind ≠ some .quarantined ∧
          (kindHealth signals.runtime supplied.channelID modelName kind = some .healthy ∨
            supplied.Answers modelName kind) := by
  have alone : ∀ kind health, Shows (supplied.loadedProbe modelName kind) health ↔ supplied.Probed modelName kind ∧
      health ≠ some .quarantined ∧ (health = some .healthy ∨ supplied.Answers modelName kind) := by
    intro kind health
    have same : supplied.loadedProbe modelName kind = (supplied.loadedProbe modelName kind).map (· && true) := by simp
    rw [same, shows_loadedProbe]
    simp
  rw [publicModelRoutable_iff supplied _ listed]
  simp only [alone]
  refine exists_congr fun kind => ⟨fun shows => ⟨?_, shows⟩, And.right⟩
  obtain ⟨target, inside, -, rfl, -⟩ := shows.1
  exact kinds target inside

variable {health : HubSupplyProbeKind → Option HubRoutingRealHealth} {modelName : String}

/-- A request looks the model up under its own name, and only the key can tell
the two checks apart. -/
theorem consistent_own (own : modelName ∈ supplied.autoProbeDisabledModels ∨ modelVerified supplied.currentTargets modelName) :
    ((∃ kind ∈ [HubSupplyProbeKind.text, .image], supplied.Probed modelName kind ∧ health kind ≠ some .quarantined ∧
        (health kind = some .healthy ∨ supplied.Answers modelName kind)) ↔
      ∃ kind ∈ [HubSupplyProbeKind.text, .image], supplied.Carries health modelName modelName kind) ↔
      supplied.Consistent health modelName := by
  constructor
  · refine fun same => ⟨fun kind inside probed answers allowed _ _ => ?_, fun probing unverified => ?_⟩
    · exact same.mp ⟨kind, inside, probed, allowed, .inr answers⟩
    · obtain ⟨target, inside, named, verified⟩ := modelVerified_iff.mp (own.resolve_left probing)
      exact absurd verified (unverified target inside named)
  · intro consistent
    constructor
    · rintro ⟨kind, inside, probed, allowed, speaks⟩
      by_cases direct : health kind = some .healthy ∨ (supplied.Answers modelName kind ∧ ¬supplied.KeyDown modelName kind)
      · exact ⟨kind, inside, probed, allowed, direct⟩
      · rw [not_or, not_and, not_not] at direct
        have answers := speaks.resolve_left direct.1
        exact consistent.carried kind inside probed answers allowed direct.1 (direct.2 answers)
    · rintro ⟨kind, inside, probed, allowed, rest⟩
      exact ⟨kind, inside, probed, allowed, rest.imp_right And.left⟩

/-- Only a request looks further, under the normalised name. -/
theorem consistent_fallback
    (own : ¬(modelName ∈ supplied.autoProbeDisabledModels ∨ modelVerified supplied.currentTargets modelName)) :
    ((∃ kind ∈ [HubSupplyProbeKind.text, .image], supplied.Probed modelName kind ∧ health kind ≠ some .quarantined ∧
        (health kind = some .healthy ∨ supplied.Answers modelName kind)) ↔
      ∃ kind ∈ [HubSupplyProbeKind.text, .image],
        (formatMatchingModelName modelName ≠ "" ∧ formatMatchingModelName modelName ≠ modelName) ∧
          supplied.Carries health modelName (formatMatchingModelName modelName) kind) ↔
      supplied.Consistent health modelName := by
  rw [not_or, modelVerified_iff] at own
  have unverified : ∀ target ∈ supplied.currentTargets, target.modelName = modelName → ¬target.Verified :=
    fun target inside named verified => own.2 ⟨target, inside, named, verified⟩
  have unprobed : ∀ kind, ¬supplied.Probed modelName kind := fun _ ⟨target, inside, named, _, verified⟩ =>
    unverified target inside named verified
  constructor
  · refine fun same => ⟨fun kind _ probed => absurd probed (unprobed kind), fun _ _ named apart kind inside carries => ?_⟩
    obtain ⟨other, -, probed, -⟩ := same.mpr ⟨kind, inside, ⟨named, apart⟩, carries⟩
    exact unprobed other probed
  · intro consistent
    constructor
    · rintro ⟨kind, -, probed, -⟩
      exact absurd probed (unprobed kind)
    · rintro ⟨kind, inside, ⟨named, apart⟩, carries⟩
      exact absurd carries (consistent.unserved own.1 unverified named apart kind inside)

end SuppliedChannel

open SuppliedChannel in
/-- Under a snapshot of the real traffic a model is shown as routable exactly if a
request of one of the probe kinds is accepted, where the targets and the
snapshot are consistent and nowhere else. -/
theorem public_routable_iff_servable (all : List SuppliedChannel) (supplied : SuppliedChannel) (cache : RoutingCache)
    (runtime : List (HubRoutingRuntimeKey × HubRoutingRuntimeSignal)) (modelName channelModels : String)
    (distinct : (all.map (·.channelID)).Nodup) (member : supplied ∈ all)
    (published : cache.isHubSupplyChannelTenantPublished supplied.channelID = true)
    (listed : modelName ∈ normalizeHubSupplyModelNames channelModels)
    (kinds : ∀ target ∈ supplied.currentTargets, target.probeKind ∈ [HubSupplyProbeKind.text, .image]) :
    (supplied.publicModelRoutable (cacheOf cache all runtime).signals modelName channelModels = true ↔
        ∃ kind ∈ [HubSupplyProbeKind.text, .image],
          (cacheOf cache all runtime).hubSupplyChannelSupportsRequest (loadHubSupplyChannelProbeKinds all).1
            supplied.channelID modelName (probeKindPath kind) = true) ↔
      supplied.Consistent (kindHealth runtime supplied.channelID modelName) modelName := by
  have requested : ∀ kind ∈ [HubSupplyProbeKind.text, .image],
      hubSupplyProbeKindForRequest (probeKindPath kind) = kind := by decide +kernel
  have positive : 0 < supplied.channelID := by
    by_contra zero
    simp [RoutingCache.isHubSupplyChannelTenantPublished, Nat.eq_zero_of_not_pos zero] at published
  have served := fun kind inside => (supports_iff distinct member published runtime modelName (requested kind inside)).trans
    (shows_servedProbe (keyRoutable_iff positive (trimSpace_of_listed listed) kinds (requested kind inside)))
  have snapshot : (cacheOf cache all runtime).signals.runtime = runtime := rfl
  rw [shown_iff listed kinds, snapshot, exists_congr fun kind => and_congr_right (served kind)]
  by_cases own : modelName ∈ supplied.autoProbeDisabledModels ∨ modelVerified supplied.currentTargets modelName
  · simp only [if_pos own]
    exact consistent_own own
  · simp only [if_neg own]
    exact consistent_fallback own

/-- Two spellings of one health key: the first was verified, the second is new. -/
def twoSpellings : SuppliedChannel where
  channelID := 1
  group := { id := 1 }
  targets := [
    { id := 1, groupId := 1, configVersion := 1, modelName := "gemini-2.5-pro-thinking-128", endpointType := "openai",
      probeKind := .text, status := .available, lastProbeAt := 100, lastSuccessAt := 100, nextProbeAt := 700 },
    { id := 2, groupId := 1, configVersion := 1, modelName := "gemini-2.5-pro-thinking-1024", endpointType := "openai",
      probeKind := .text, status := .pending, nextProbeAt := 100 }]

/-- The first model is shown as routable while no request for it is accepted. -/
theorem twoSpellings_shown_not_served :
    twoSpellings.publicModelRoutable (SuppliedChannel.cacheOf {} [twoSpellings] []).signals
        "gemini-2.5-pro-thinking-128" "gemini-2.5-pro-thinking-128,gemini-2.5-pro-thinking-1024" = true ∧
      ∀ kind ∈ [HubSupplyProbeKind.text, .image],
        (SuppliedChannel.cacheOf {} [twoSpellings] []).hubSupplyChannelSupportsRequest
          (loadHubSupplyChannelProbeKinds [twoSpellings]).1 1 "gemini-2.5-pro-thinking-128" (probeKindPath kind) =
            false := by
  decide +kernel

def oneSpelling : SuppliedChannel := { twoSpellings with targets := twoSpellings.targets.take 1 }

theorem oneSpelling_shown_iff_served :
    oneSpelling.publicModelRoutable (SuppliedChannel.cacheOf {} [oneSpelling] []).signals
        "gemini-2.5-pro-thinking-128" "gemini-2.5-pro-thinking-128" = true ↔
      ∃ kind ∈ [HubSupplyProbeKind.text, .image],
        (SuppliedChannel.cacheOf {} [oneSpelling] []).hubSupplyChannelSupportsRequest
          (loadHubSupplyChannelProbeKinds [oneSpelling]).1 1 "gemini-2.5-pro-thinking-128" (probeKindPath kind) =
            true :=
  (public_routable_iff_servable [oneSpelling] oneSpelling {} [] "gemini-2.5-pro-thinking-128"
    "gemini-2.5-pro-thinking-128" (by decide) (List.mem_singleton.mpr rfl) (by decide +kernel) (by decide +kernel)
    (by decide +kernel)).mpr <| by
      have available : ∀ target ∈ oneSpelling.currentTargets,
          target.modelName = "gemini-2.5-pro-thinking-128" ∧ target.status = .available := by decide +kernel
      obtain ⟨one, inside⟩ := List.exists_mem_of_ne_nil oneSpelling.currentTargets (by decide +kernel)
      refine ⟨fun _ _ _ _ _ _ ⟨target, inside, _, _, down⟩ => absurd ?_ down, fun _ unverified => ?_⟩
      · split <;> exact .inl (available target inside).2
      · exact absurd (.inl (available one inside).2) (unverified one inside (available one inside).1)

end LLMHub
