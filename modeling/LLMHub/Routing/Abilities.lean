import LLMHub.Routing.GroupSelect

namespace LLMHub

/-- A row of `abilities`. -/
structure Ability where
  group : String
  model : String
  channelId : Nat
  enabled : Bool := true
  priority : Option Int := none
  weight : Nat := 0
  deriving DecidableEq, Repr

def Ability.getPriority (ability : Ability) : Int := ability.priority.getD 0

/-- `int(ability.Weight)`. -/
def Ability.getWeight (ability : Ability) : Int := Go.int64 ability.weight

/-- What routing reads from the database where the memory cache is off. -/
structure RoutingTables where
  abilities : List Ability := []
  channels : List RoutedChannel := []
  advancedCustomConfigs : AdvancedCustomConfigs := []
  hubSupplyProbeKinds : List (Nat × HubSupplyModelProbeKinds) := []

/-- The routing state of a server. -/
structure RoutingState where
  cache : RoutingCache
  tables : RoutingTables := {}

namespace RoutingState

/-- `DB.First(&channel, "id = ? AND status = ?", …)` with an enabled status. -/
def enabledChannel (state : RoutingState) (channelID : Nat) : Option RoutedChannel :=
  state.tables.channels.find? fun channel => decide (channel.id = channelID) && channel.status = .enabled

/-- `priority DESC, weight DESC`. -/
def strongerAbility (a b : Ability) : Bool :=
  a.getPriority > b.getPriority || (a.getPriority = b.getPriority && b.weight ≤ a.weight)

def groupAbilities (state : RoutingState) (group model requestPath : String) (filter : ChannelProviderFilter) :
    List Ability :=
  let rows (name : String) := (state.tables.abilities.filter fun ability =>
    ability.enabled && ability.group = group && ability.model = name).insertionSort (strongerAbility · ·)
  let found := if (rows model).isEmpty then rows (formatMatchingModelName model) else rows model
  found.filter fun ability =>
    state.cache.channelMatchesProviderFilter ability.channelId filter &&
      state.cache.isHubSupplyChannelTenantPublished ability.channelId &&
      state.cache.hubSupplyChannelSupportsRequest state.tables.hubSupplyProbeKinds ability.channelId model requestPath &&
      (state.tables.channels.find? fun channel => channel.id = ability.channelId).all fun channel =>
        supportsPath state.tables.advancedCustomConfigs channel model requestPath

/-- Walks the abilities until their weights use up the draw; the source stops
at zero, not below it. -/
def weightedAbility : Int → List Ability → Nat
  | _, [] => 0
  | weight, ability :: rest =>
    let remaining := Go.int64 (weight - (ability.getWeight + 10))
    if remaining ≤ 0 then ability.channelId else weightedAbility remaining rest

def targetAbilities (abilities : List Ability) (retry : Nat) : List Ability :=
  let priorities := (abilities.map (·.getPriority)).dedup.insertionSort (· ≥ ·)
  abilities.filter fun ability => ability.getPriority = priorities.getD (min retry (priorities.length - 1)) 0

/-- A channel without an enabled row is no channel. -/
def storedSelection (state : RoutingState) (channelID : Nat) : ChannelSelection :=
  .ok ((state.enabledChannel channelID).map fun channel =>
    (channel, state.cache.captureHubSupplyPricingSnapshot channel.id))

def getChannelWithFilter (state : RoutingState) (draw : GroupDraw) (group model : String) (retry : Nat)
    (requestPath : String) (excluded : Finset Nat) (filter : ChannelProviderFilter) : Option ChannelSelection := do
  let abilities := state.groupAbilities group model requestPath filter
  if abilities.isEmpty then pure (.ok none)
  else if isServiceTier group then do
    let candidates := abilities.filterMap fun ability =>
      (state.cache.hubTierProviderForChannel ability.channelId filter).map fun provider =>
        decorateHubTierCandidateWithRuntimeHealth state.cache.signals
          { channelID := ability.channelId, priority := ability.getPriority, weight := ability.getWeight, provider }
          model requestPath
    let channelID ← selectHubTierChannel draw.tier candidates excluded
    if channelID = 0 then pure (.ok none) else pure (state.storedSelection channelID)
  else do
    let targets := preferUntried (·.channelId) (targetAbilities abilities retry) excluded filter.strictExcludedChannels
    if targets.isEmpty then pure (.ok none)
    else do
      let weightSum : Nat := targets.foldl (fun sum ability => (sum + (ability.weight + 10)) % 2 ^ 64) 0
      let weight ← Go.intn (Go.int64 weightSum) draw.channel
      pure (state.storedSelection (weightedAbility weight targets))

end RoutingState

end LLMHub
