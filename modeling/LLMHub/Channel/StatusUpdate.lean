import LLMHub.Channel.MultiKey

namespace LLMHub

/-- Both places that hold a channel: the memory cache with its routing lists,
and the tables with its abilities. -/
structure ChannelStores where
  cached : KeyedChannel
  listed : Bool := true
  stored : KeyedChannel
  abilitiesEnabled : Bool := true
  deriving DecidableEq, Repr

/-- One call of `UpdateChannelStatus`. -/
structure StatusCall where
  usingKey : String
  status : ChannelStatus
  reason : String := ""
  time : Int := 0
  deriving DecidableEq, Repr

def hasEnabledMultiKey (keys : List String) (info : ChannelInfo) : Bool := (List.range keys.length).any info.keyEnabled

def KeyedChannel.setStatus (channel : KeyedChannel) (status : ChannelStatus) (reason : String) (time : Int) : KeyedChannel :=
  { channel with status, statusReason := some reason, statusTime := some time }

/-- The key states after a single key got a status. -/
def ChannelInfo.setKeyStatus (info : ChannelInfo) (index : Nat) (call : StatusCall) : ChannelInfo :=
  if call.status = .enabled then
    { info with multiKeyStatusList := info.multiKeyStatusList.filter fun entry => entry.1 ≠ index }
  else
    { info with
      multiKeyStatusList := Go.put info.multiKeyStatusList index call.status
      multiKeyDisabledReason := Go.put info.multiKeyDisabledReason index call.reason
      multiKeyDisabledTime := Go.put info.multiKeyDisabledTime index call.time }

section Updates

variable (jsonArray : String → Option (List String))

def handlerMultiKeyUpdate (channel : KeyedChannel) (call : StatusCall) : KeyedChannel :=
  let keys := channel.getKeys jsonArray
  if keys.isEmpty then { channel with status := call.status }
  else
    match keys.findIdx? (· = call.usingKey) with
    | none => if call.usingKey ≠ "" then channel else channel.setStatus call.status call.reason call.time
    | some keyIndex =>
      let channel := { channel with channelInfo := channel.channelInfo.setKeyStatus keyIndex call }
      if !hasEnabledMultiKey keys channel.channelInfo then
        channel.setStatus .autoDisabled "All keys are disabled" call.time
      else if call.status = .enabled then { channel with status := .enabled }
      else channel

/-- A channel that is not enabled leaves the routing lists. -/
def cacheUpdateChannelStatus (stores : ChannelStores) (status : ChannelStatus) : ChannelStores :=
  { stores with cached := { stores.cached with status }, listed := stores.listed && status = .enabled }

/-- The part of the update that works on the memory cache; `none` where it
returns early. -/
def updateCachedStatus (stores : ChannelStores) (call : StatusCall) : Option ChannelStores :=
  if stores.cached.channelInfo.isMultiKey then
    let updated := handlerMultiKeyUpdate jsonArray stores.cached call
    let stores' := { stores with cached := updated }
    some (if stores.cached.status ≠ updated.status then cacheUpdateChannelStatus stores' updated.status else stores')
  else if stores.cached.status = call.status then none
  else some (cacheUpdateChannelStatus stores call.status)

/-- The part that works on the tables. -/
def updateStoredStatus (stores : ChannelStores) (call : StatusCall) : ChannelStores × Bool :=
  if stores.stored.status = call.status then (stores, false)
  else
    let updated :=
      if stores.stored.channelInfo.isMultiKey then handlerMultiKeyUpdate jsonArray stores.stored call
      else stores.stored.setStatus call.status call.reason call.time
    let shouldUpdateAbilities := !stores.stored.channelInfo.isMultiKey || stores.stored.status ≠ updated.status
    ({ stores with
        stored := updated
        abilitiesEnabled := if shouldUpdateAbilities then call.status = .enabled else stores.abilitiesEnabled }, true)

/-- `UpdateChannelStatus` with the memory cache on. -/
def updateChannelStatus (stores : ChannelStores) (call : StatusCall) : ChannelStores × Bool :=
  match updateCachedStatus jsonArray stores call with
  | none => (stores, false)
  | some stores => updateStoredStatus jsonArray stores call

end Updates

def KeyedChannel.keyIndex (jsonArray : String → Option (List String)) (channel : KeyedChannel) (call : StatusCall) :
    Option Nat :=
  (channel.getKeys jsonArray).findIdx? (· = call.usingKey)

/-- Two copies of a channel with the same keys, status and disabled keys. -/
structure KeyedChannel.InStep (jsonArray : String → Option (List String)) (first second : KeyedChannel) : Prop where
  keys : first.getKeys jsonArray = second.getKeys jsonArray
  status : first.status = second.status
  enabled : ∀ index < (second.getKeys jsonArray).length,
    first.channelInfo.keyEnabled index = second.channelInfo.keyEnabled index

variable {channel : KeyedChannel} {call : StatusCall}

section Handler

variable {jsonArray : String → Option (List String)}

/-- A key that is not among the keys leaves the key states alone. The status
changes when the channel has no keys or the call is for the whole channel. -/
theorem handler_unknown (unknown : channel.keyIndex jsonArray call = none) :
    (handlerMultiKeyUpdate jsonArray channel call).channelInfo = channel.channelInfo ∧
      (handlerMultiKeyUpdate jsonArray channel call).status =
        if (channel.getKeys jsonArray).isEmpty ∨ call.usingKey = "" then call.status else channel.status := by
  unfold KeyedChannel.keyIndex at unknown
  unfold handlerMultiKeyUpdate
  dsimp only
  rw [unknown]
  by_cases empty : (channel.getKeys jsonArray).isEmpty
  · simp [empty]
  · by_cases whole : call.usingKey = ""
    · simp [empty, whole, KeyedChannel.setStatus]
    · simp [empty, whole]

theorem handler_found {index : Nat} (found : channel.keyIndex jsonArray call = some index) :
    (handlerMultiKeyUpdate jsonArray channel call).channelInfo = channel.channelInfo.setKeyStatus index call ∧
      (handlerMultiKeyUpdate jsonArray channel call).status =
        if !hasEnabledMultiKey (channel.getKeys jsonArray) (channel.channelInfo.setKeyStatus index call) then .autoDisabled
        else if call.status = .enabled then .enabled else channel.status := by
  unfold KeyedChannel.keyIndex at found
  have some_ : ¬ (channel.getKeys jsonArray).isEmpty := by
    intro empty
    rw [List.isEmpty_iff.mp empty] at found
    cases found
  unfold handlerMultiKeyUpdate
  dsimp only
  rw [if_neg some_, found]
  dsimp only
  by_cases none_ : (!hasEnabledMultiKey (channel.getKeys jsonArray) (channel.channelInfo.setKeyStatus index call)) = true
  · rw [if_pos none_, if_pos none_]
    exact ⟨rfl, rfl⟩
  · rw [if_neg none_, if_neg none_]
    split
    · exact ⟨rfl, rfl⟩
    · exact ⟨rfl, rfl⟩

theorem handler_key (channel : KeyedChannel) (call : StatusCall) :
    (handlerMultiKeyUpdate jsonArray channel call).key = channel.key ∧
      (handlerMultiKeyUpdate jsonArray channel call).keys = channel.keys := by
  unfold handlerMultiKeyUpdate
  dsimp only
  split
  · exact ⟨rfl, rfl⟩
  · split
    · split
      · exact ⟨rfl, rfl⟩
      · exact ⟨rfl, rfl⟩
    · split
      · exact ⟨rfl, rfl⟩
      · split
        · exact ⟨rfl, rfl⟩
        · exact ⟨rfl, rfl⟩

theorem handler_keys (channel : KeyedChannel) (call : StatusCall) :
    (handlerMultiKeyUpdate jsonArray channel call).getKeys jsonArray = channel.getKeys jsonArray :=
  getKeys_congr jsonArray (handler_key channel call).1 (handler_key channel call).2

theorem setKeyStatus_multi (info : ChannelInfo) (index : Nat) (call : StatusCall) :
    (info.setKeyStatus index call).isMultiKey = info.isMultiKey := by
  unfold ChannelInfo.setKeyStatus
  split
  · rfl
  · rfl

theorem handler_multi (channel : KeyedChannel) (call : StatusCall) :
    (handlerMultiKeyUpdate jsonArray channel call).channelInfo.isMultiKey = channel.channelInfo.isMultiKey := by
  cases at_ : channel.keyIndex jsonArray call with
  | none => rw [(handler_unknown at_).1]
  | some index => rw [(handler_found at_).1, setKeyStatus_multi]

theorem keyEnabled_setKeyStatus (info : ChannelInfo) (index : Nat) (call : StatusCall) (other : Nat) :
    (info.setKeyStatus index call).keyEnabled other =
      if other = index then decide (call.status = .enabled) else info.keyEnabled other := by
  unfold ChannelInfo.setKeyStatus ChannelInfo.keyEnabled ChannelInfo.getStatus
  by_cases enabling : call.status = .enabled
  · rw [if_pos enabling]
    dsimp only
    by_cases same : other = index
    · have gone : (info.multiKeyStatusList.filter fun entry => entry.1 ≠ index).lookup other = none := by
        rw [List.lookup_eq_none_iff]
        intro entry member
        have different : entry.1 ≠ index := by simpa using List.of_mem_filter member
        rw [same]
        exact bne_iff_ne.mpr different.symm
      rw [gone, if_pos same, enabling]
      rfl
    · rw [Go.lookup_filter_ne _ same, if_neg same]
  · rw [if_neg enabling]
    dsimp only
    rw [Go.lookup_put]
    by_cases same : other = index
    · rw [if_pos same, if_pos same]
      rfl
    · rw [if_neg same, if_neg same]

theorem hasEnabledMultiKey_congr {keys : List String} {first second : ChannelInfo}
    (same : ∀ index < keys.length, first.keyEnabled index = second.keyEnabled index) :
    hasEnabledMultiKey keys first = hasEnabledMultiKey keys second := by
  unfold hasEnabledMultiKey
  rw [Bool.eq_iff_iff, List.any_eq_true, List.any_eq_true]
  constructor
  · rintro ⟨index, member, enabled⟩
    exact ⟨index, member, (same index (List.mem_range.mp member)).symm.trans enabled⟩
  · rintro ⟨index, member, enabled⟩
    exact ⟨index, member, (same index (List.mem_range.mp member)).trans enabled⟩

theorem keyIndex_lt {index : Nat}
    (found : channel.keyIndex jsonArray call = some index) : index < (channel.getKeys jsonArray).length :=
  (List.findIdx?_eq_some_iff_findIdx_eq.mp found).1

end Handler

namespace KeyedChannel.InStep

variable {jsonArray : String → Option (List String)} {first second third : KeyedChannel}

theorem symm (same : first.InStep jsonArray second) : second.InStep jsonArray first :=
  ⟨same.keys.symm, same.status.symm, fun index inside => (same.enabled index (same.keys ▸ inside)).symm⟩

theorem trans (left : first.InStep jsonArray second) (right : second.InStep jsonArray third) :
    first.InStep jsonArray third :=
  ⟨left.keys.trans right.keys, left.status.trans right.status,
    fun index inside => (left.enabled index (right.keys ▸ inside)).trans (right.enabled index inside)⟩

theorem keyIndex (same : first.InStep jsonArray second) (call : StatusCall) :
    first.keyIndex jsonArray call = second.keyIndex jsonArray call := by
  unfold KeyedChannel.keyIndex
  rw [same.keys]

/-- The handler does the same to two copies that are in step. -/
theorem handled (same : first.InStep jsonArray second) (call : StatusCall) :
    (handlerMultiKeyUpdate jsonArray first call).InStep jsonArray (handlerMultiKeyUpdate jsonArray second call) := by
  have keys : (handlerMultiKeyUpdate jsonArray first call).getKeys jsonArray =
      (handlerMultiKeyUpdate jsonArray second call).getKeys jsonArray := by
    rw [handler_keys, handler_keys, same.keys]
  cases at_ : second.keyIndex jsonArray call with
  | none =>
    have first_at := (same.keyIndex call).trans at_
    refine ⟨keys, ?_, ?_⟩
    · rw [(handler_unknown first_at).2, (handler_unknown at_).2, same.keys, same.status]
    · rw [(handler_unknown first_at).1, (handler_unknown at_).1, handler_keys]
      exact same.enabled
  | some index =>
    have first_at := (same.keyIndex call).trans at_
    have enabled : ∀ other < (second.getKeys jsonArray).length,
        (first.channelInfo.setKeyStatus index call).keyEnabled other =
          (second.channelInfo.setKeyStatus index call).keyEnabled other := by
      intro other inside
      rw [keyEnabled_setKeyStatus, keyEnabled_setKeyStatus, same.enabled other inside]
    refine ⟨keys, ?_, ?_⟩
    · rw [(handler_found first_at).2, (handler_found at_).2, same.keys, same.status, hasEnabledMultiKey_congr enabled]
    · rw [(handler_found first_at).1, (handler_found at_).1, handler_keys]
      exact enabled

end KeyedChannel.InStep

/-- The call changes something in the tables, or there is nothing to change: the
key is not among the keys, or it already is as the call wants it and, where no
key is enabled, the channel is auto-disabled. -/
def CallApplies (jsonArray : String → Option (List String)) (stored : KeyedChannel) (call : StatusCall) : Prop :=
  stored.status ≠ call.status ∨
    ∀ index, stored.keyIndex jsonArray call = some index →
      stored.channelInfo.keyEnabled index = decide (call.status = .enabled) ∧
        (hasEnabledMultiKey (stored.getKeys jsonArray) stored.channelInfo ∨ call.status = .autoDisabled)

section Skipped

variable {jsonArray : String → Option (List String)}

/-- What the handler does to a channel that already has the status of the call. -/
theorem handler_inStep_iff (held : channel.status = call.status) :
    (handlerMultiKeyUpdate jsonArray channel call).InStep jsonArray channel ↔ CallApplies jsonArray channel call := by
  have skipped : CallApplies jsonArray channel call ↔ ∀ index, channel.keyIndex jsonArray call = some index →
      channel.channelInfo.keyEnabled index = decide (call.status = .enabled) ∧
        (hasEnabledMultiKey (channel.getKeys jsonArray) channel.channelInfo ∨ call.status = .autoDisabled) :=
    or_iff_right (not_not_intro held)
  rw [skipped]
  cases at_ : channel.keyIndex jsonArray call with
  | none =>
    refine iff_of_true ⟨handler_keys channel call, ?_, ?_⟩ (by simp)
    · rw [(handler_unknown at_).2, held, ite_self]
    · rw [(handler_unknown at_).1]
      exact fun _ _ => rfl
  | some index =>
    have inside := keyIndex_lt at_
    constructor
    · intro same other at_other
      obtain rfl := Option.some.inj at_other
      have enabled := same.enabled index inside
      rw [(handler_found at_).1, keyEnabled_setKeyStatus, if_pos rfl] at enabled
      refine ⟨enabled.symm, ?_⟩
      have unchanged : ∀ other < (channel.getKeys jsonArray).length,
          (channel.channelInfo.setKeyStatus index call).keyEnabled other = channel.channelInfo.keyEnabled other := by
        have kept := same.enabled
        rwa [(handler_found at_).1] at kept
      have status := same.status
      rw [(handler_found at_).2, hasEnabledMultiKey_congr unchanged, held] at status
      by_cases some_ : hasEnabledMultiKey (channel.getKeys jsonArray) channel.channelInfo = true
      · exact .inl some_
      · rw [if_pos (by simpa using some_)] at status
        exact .inr status.symm
    · intro settled
      obtain ⟨key, channel_⟩ := settled index rfl
      have unchanged : ∀ other < (channel.getKeys jsonArray).length,
          (channel.channelInfo.setKeyStatus index call).keyEnabled other = channel.channelInfo.keyEnabled other := by
        intro other _
        rw [keyEnabled_setKeyStatus]
        split
        · rename_i same
          rw [same, key]
        · rfl
      refine ⟨handler_keys channel call, ?_, ?_⟩
      · rw [(handler_found at_).2, hasEnabledMultiKey_congr unchanged]
        split
        · rename_i none_
          rw [held]
          exact (channel_.resolve_left (by simpa using none_)).symm
        · split
          · rename_i enabling
            rw [held, enabling]
          · rfl
      · rw [(handler_found at_).1]
        exact unchanged

end Skipped

/-- A channel with several keys whose cached and stored copies are in step. -/
structure ChannelStores.InStep (jsonArray : String → Option (List String)) (stores : ChannelStores) : Prop where
  cachedMulti : stores.cached.channelInfo.isMultiKey = true
  storedMulti : stores.stored.channelInfo.isMultiKey = true
  copies : stores.cached.InStep jsonArray stores.stored

/-- The call disables the only key that is enabled. -/
def DisablesLastKey (jsonArray : String → Option (List String)) (channel : KeyedChannel) (call : StatusCall) : Prop :=
  call.status ≠ .enabled ∧ ∃ index, channel.keyIndex jsonArray call = some index ∧
    channel.channelInfo.keyEnabled index = true ∧
      ∀ other < (channel.getKeys jsonArray).length, channel.channelInfo.keyEnabled other = true → other = index

/-- What a call has to leave: both copies in step, and auto-disabled when their
last enabled key was disabled. -/
def CallAgrees (jsonArray : String → Option (List String)) (stores : ChannelStores) (call : StatusCall) : Prop :=
  (updateChannelStatus jsonArray stores call).1.InStep jsonArray ∧
    (DisablesLastKey jsonArray stores.stored call →
      (updateChannelStatus jsonArray stores call).1.cached.status = .autoDisabled ∧
        (updateChannelStatus jsonArray stores call).1.stored.status = .autoDisabled)

def runStatusCalls (jsonArray : String → Option (List String)) (stores : ChannelStores) (calls : List StatusCall) :
    ChannelStores :=
  calls.foldl (fun stores call => (updateChannelStatus jsonArray stores call).1) stores

section Stores

variable {jsonArray : String → Option (List String)} {stores : ChannelStores}

theorem updateCachedStatus_multi (multi : stores.cached.channelInfo.isMultiKey = true) (call : StatusCall) :
    ∃ listed, updateCachedStatus jsonArray stores call =
      some { stores with cached := handlerMultiKeyUpdate jsonArray stores.cached call, listed } := by
  unfold updateCachedStatus
  rw [if_pos multi]
  dsimp only
  split
  · exact ⟨_, rfl⟩
  · exact ⟨_, rfl⟩

/-- The cached copy always gets the update, the stored one only when its status
differs from the status of the call. -/
theorem updateChannelStatus_copies (inStep : stores.InStep jsonArray) (call : StatusCall) :
    (updateChannelStatus jsonArray stores call).1.cached = handlerMultiKeyUpdate jsonArray stores.cached call ∧
      (updateChannelStatus jsonArray stores call).1.stored =
        if stores.stored.status = call.status then stores.stored
        else handlerMultiKeyUpdate jsonArray stores.stored call := by
  obtain ⟨listed, cached⟩ := updateCachedStatus_multi inStep.cachedMulti call
  unfold updateChannelStatus
  rw [cached]
  dsimp only
  unfold updateStoredStatus
  dsimp only
  by_cases held : stores.stored.status = call.status
  · rw [if_pos held, if_pos held]
    exact ⟨rfl, rfl⟩
  · rw [if_neg held, if_neg held, if_pos inStep.storedMulti]
    exact ⟨rfl, rfl⟩

theorem updateChannelStatus_inStep_iff (inStep : stores.InStep jsonArray) (call : StatusCall) :
    (updateChannelStatus jsonArray stores call).1.InStep jsonArray ↔ CallApplies jsonArray stores.stored call := by
  obtain ⟨cached, stored⟩ := updateChannelStatus_copies inStep call
  have cachedMulti : (handlerMultiKeyUpdate jsonArray stores.cached call).channelInfo.isMultiKey = true :=
    (handler_multi _ _).trans inStep.cachedMulti
  have both := inStep.copies.handled call
  by_cases held : stores.stored.status = call.status
  · rw [if_pos held] at stored
    rw [← handler_inStep_iff held]
    constructor
    · intro after
      have copies := after.copies
      rw [cached, stored] at copies
      exact both.symm.trans copies
    · intro same
      refine ⟨cached ▸ cachedMulti, stored ▸ inStep.storedMulti, ?_⟩
      rw [cached, stored]
      exact both.trans same
  · rw [if_neg held] at stored
    refine iff_of_true ⟨cached ▸ cachedMulti, ?_, ?_⟩ (.inl held)
    · rw [stored]
      exact (handler_multi _ _).trans inStep.storedMulti
    · rw [cached, stored]
      exact both

/-- Disabling the last enabled key auto-disables the channel. -/
theorem handler_disablesLast (last : DisablesLastKey jsonArray channel call) :
    (handlerMultiKeyUpdate jsonArray channel call).status = .autoDisabled := by
  obtain ⟨disabling, index, at_, -, only⟩ := last
  have none_ : hasEnabledMultiKey (channel.getKeys jsonArray) (channel.channelInfo.setKeyStatus index call) = false := by
    unfold hasEnabledMultiKey
    rw [List.any_eq_false]
    intro other member
    rw [keyEnabled_setKeyStatus]
    split
    · simpa using disabling
    · rename_i different
      exact fun enabled => different (only other (List.mem_range.mp member) enabled)
  rw [(handler_found at_).2, none_]
  rfl

theorem callAgrees_iff (inStep : stores.InStep jsonArray) (call : StatusCall) :
    CallAgrees jsonArray stores call ↔ CallApplies jsonArray stores.stored call := by
  rw [← updateChannelStatus_inStep_iff inStep]
  refine ⟨And.left, fun after => ⟨after, fun last => ?_⟩⟩
  have cached : (updateChannelStatus jsonArray stores call).1.cached.status = .autoDisabled := by
    rw [(updateChannelStatus_copies inStep call).1, (inStep.copies.handled call).status]
    exact handler_disablesLast last
  exact ⟨cached, after.copies.status.symm.trans cached⟩

/-- A run whose calls all apply keeps the copies in step. -/
theorem runStatusCalls_inStep (inStep : stores.InStep jsonArray) (calls : List StatusCall)
    (applies : ∀ done call, done ++ [call] <+: calls →
      CallApplies jsonArray (runStatusCalls jsonArray stores done).stored call) :
    (runStatusCalls jsonArray stores calls).InStep jsonArray := by
  induction calls using List.reverseRecOn with
  | nil => exact inStep
  | append_singleton done call ih =>
    have before : (runStatusCalls jsonArray stores done).InStep jsonArray :=
      ih fun earlier next within => applies earlier next (within.trans (List.prefix_append done [call]))
    have next := (updateChannelStatus_inStep_iff before call).mpr (applies done call List.prefix_rfl)
    unfold runStatusCalls at next ⊢
    rw [List.foldl_append]
    exact next

/-- A call on copies in step leaves what it has to exactly when it applies, and
a run of calls that all apply leaves it after every call. -/
theorem multi_key_status_agrees_iff (inStep : stores.InStep jsonArray) :
    (∀ call, CallAgrees jsonArray stores call ↔ CallApplies jsonArray stores.stored call) ∧
      ∀ calls,
        (∀ done call, done ++ [call] <+: calls →
          CallApplies jsonArray (runStatusCalls jsonArray stores done).stored call) →
        ∀ done call, done ++ [call] <+: calls →
          (runStatusCalls jsonArray stores done).InStep jsonArray ∧
            CallAgrees jsonArray (runStatusCalls jsonArray stores done) call := by
  refine ⟨callAgrees_iff inStep, ?_⟩
  intro calls applies done call within
  have before : (runStatusCalls jsonArray stores done).InStep jsonArray := by
    refine runStatusCalls_inStep inStep done fun earlier next inside => ?_
    exact applies earlier next (inside.trans ((List.prefix_append done [call]).trans within))
  exact ⟨before, (callAgrees_iff before call).mpr (applies done call within)⟩

end Stores

def twoKeys (status : ChannelStatus) (states : List (Nat × ChannelStatus)) : ChannelStores :=
  let stored : KeyedChannel :=
    { id := 1, key := "a\nb", status, channelInfo := { isMultiKey := true, multiKeyStatusList := states } }
  { cached := { stored with keys := ["a", "b"] }, listed := status = .enabled, stored,
    abilitiesEnabled := status = .enabled }

theorem twoKeys_inStep (status : ChannelStatus) (states : List (Nat × ChannelStatus)) :
    (twoKeys status states).InStep fun _ => none := by
  have cached : (twoKeys status states).cached.getKeys (fun _ => none) = ["a", "b"] := by
    have keys : (twoKeys status states).cached.getKeys (fun _ => none) =
        (twoKeys .enabled []).cached.getKeys (fun _ => none) := getKeys_congr _ rfl rfl
    rw [keys]
    decide +kernel
  have stored : (twoKeys status states).stored.getKeys (fun _ => none) = ["a", "b"] := by
    have keys : (twoKeys status states).stored.getKeys (fun _ => none) =
        (twoKeys .enabled []).stored.getKeys (fun _ => none) := getKeys_congr _ rfl rfl
    rw [keys]
    decide +kernel
  exact ⟨rfl, rfl, cached.trans stored.symm, rfl, fun _ _ => rfl⟩

theorem twoKeys_disabled_in_turn :
    CallAgrees (fun _ => none) (runStatusCalls (fun _ => none) (twoKeys .enabled []) [⟨"a", .autoDisabled, "401", 10⟩])
        ⟨"b", .autoDisabled, "401", 11⟩ ∧ (runStatusCalls (fun _ => none) (twoKeys .enabled [])
        [⟨"a", .autoDisabled, "401", 10⟩, ⟨"b", .autoDisabled, "401", 11⟩]).stored.status = .autoDisabled := by
  refine ⟨?_, by decide +kernel⟩
  refine ((multi_key_status_agrees_iff (twoKeys_inStep .enabled [])).2
    [⟨"a", .autoDisabled, "401", 10⟩, ⟨"b", .autoDisabled, "401", 11⟩] ?_ _ _ List.prefix_rfl).2
  intro done call within
  match done with
  | [] =>
    left
    rw [List.nil_append, List.cons_prefix_cons] at within
    rw [within.1]
    decide +kernel
  | [first] =>
    left
    rw [List.singleton_append, List.cons_prefix_cons, List.cons_prefix_cons] at within
    rw [within.1, within.2.1]
    decide +kernel
  | first :: second :: rest =>
    have long := within.length_le
    simp at long

/-- An auto-disabled channel with one enabled key: disabling that key reaches the
cache but not the tables. -/
theorem auto_disabled_key_skipped :
    (twoKeys .autoDisabled [(1, .autoDisabled)]).InStep (fun _ => none) ∧
      ¬ CallAgrees (fun _ => none) (twoKeys .autoDisabled [(1, .autoDisabled)]) ⟨"a", .autoDisabled, "401", 10⟩ ∧
      (let after := updateChannelStatus (fun _ => none) (twoKeys .autoDisabled [(1, .autoDisabled)])
        ⟨"a", .autoDisabled, "401", 10⟩
      after.1.cached.channelInfo.keyEnabled 0 = false ∧ after.1.stored.channelInfo.keyEnabled 0 = true) := by
  have split : (updateChannelStatus (fun _ => none) (twoKeys .autoDisabled [(1, .autoDisabled)])
        ⟨"a", .autoDisabled, "401", 10⟩).1.cached.channelInfo.keyEnabled 0 = false ∧
      (updateChannelStatus (fun _ => none) (twoKeys .autoDisabled [(1, .autoDisabled)])
        ⟨"a", .autoDisabled, "401", 10⟩).1.stored.channelInfo.keyEnabled 0 = true := by decide +kernel
  refine ⟨twoKeys_inStep _ _, fun agrees => ?_, split⟩
  have same := agrees.1.copies.enabled 0 (by decide +kernel)
  rw [split.1, split.2] at same
  exact Bool.false_ne_true same

end LLMHub
