import LLMHub.Channel.MultiKey
import LLMHub.Sampling.Rotation

namespace LLMHub

namespace KeyedChannel

def polls (jsonArray : String → Option (List String)) : Nat → KeyedChannel →
    List (Except ChannelKeyError (String × Nat))
  | 0, _ => []
  | calls + 1, channel =>
    let selection := channel.getNextEnabledKey jsonArray (.ok channel.channelInfo) 0
    selection.result :: polls jsonArray calls selection.channel

section Turns

variable (jsonArray : String → Option (List String)) (channel : KeyedChannel)

def enabledKeys : List Nat :=
  Sampling.allowedBelow channel.channelInfo.keyEnabled (channel.getKeys jsonArray).length

def pollingStart : Nat :=
  if channel.channelInfo.multiKeyPollingIndex < 0 ∨
      channel.channelInfo.multiKeyPollingIndex ≥ (channel.getKeys jsonArray).length then 0
  else channel.channelInfo.multiKeyPollingIndex.toNat

/-- The number of enabled keys before that. -/
def pollingTurn : Nat :=
  (Sampling.allowedBelow channel.channelInfo.keyEnabled (channel.pollingStart jsonArray)).length

def turnIndex (turn : Nat) : Nat :=
  (channel.enabledKeys jsonArray).getD (turn % (channel.enabledKeys jsonArray).length) 0

def turnKey (turn : Nat) : String × Nat :=
  ((channel.getKeys jsonArray).getD (channel.turnIndex jsonArray turn) "", channel.turnIndex jsonArray turn)

def withPollingIndex (index : Nat) : KeyedChannel :=
  { channel with channelInfo := { channel.channelInfo with multiKeyPollingIndex := index } }

end Turns

variable {jsonArray : String → Option (List String)} {channel : KeyedChannel}

theorem keys_withPollingIndex (index : Nat) :
    (channel.withPollingIndex index).getKeys jsonArray = channel.getKeys jsonArray := getKeys_congr jsonArray rfl rfl

theorem enabledKeys_withPollingIndex (index : Nat) :
    (channel.withPollingIndex index).enabledKeys jsonArray = channel.enabledKeys jsonArray := by
  unfold enabledKeys
  rw [keys_withPollingIndex]
  rfl

theorem turnKey_withPollingIndex (index turn : Nat) :
    (channel.withPollingIndex index).turnKey jsonArray turn = channel.turnKey jsonArray turn := by
  rw [turnKey, turnKey, turnIndex, turnIndex, keys_withPollingIndex, enabledKeys_withPollingIndex]

theorem turnKey_congr {first second : Nat}
    (same : first % (channel.enabledKeys jsonArray).length = second % (channel.enabledKeys jsonArray).length) :
    channel.turnKey jsonArray first = channel.turnKey jsonArray second := by
  rw [turnKey, turnKey, turnIndex, turnIndex, same]

theorem turn_inside (some : channel.enabledKeys jsonArray ≠ []) (turn : Nat) :
    turn % (channel.enabledKeys jsonArray).length < (channel.enabledKeys jsonArray).length :=
  Nat.mod_lt _ (List.length_pos_of_ne_nil some)

theorem turnIndex_eq (some : channel.enabledKeys jsonArray ≠ []) (turn : Nat) :
    (channel.enabledKeys jsonArray)[turn % (channel.enabledKeys jsonArray).length]? =
      Option.some (channel.turnIndex jsonArray turn) := by
  rw [turnIndex, List.getD_eq_getElem?_getD, List.getElem?_eq_getElem (turn_inside some turn), Option.getD_some]

theorem turnIndex_lt (some : channel.enabledKeys jsonArray ≠ []) (turn : Nat) :
    channel.turnIndex jsonArray turn < (channel.getKeys jsonArray).length :=
  (Sampling.mem_allowedBelow.mp (List.mem_of_getElem? (turnIndex_eq some turn))).1

/-- A call takes the enabled key of its turn. -/
theorem getNextEnabledKey_polling (multi : channel.channelInfo.isMultiKey = true)
    (polling : channel.channelInfo.multiKeyMode = .polling) (some : channel.enabledKeys jsonArray ≠ []) (draw : Nat) :
    channel.getNextEnabledKey jsonArray (.ok channel.channelInfo) draw =
      ⟨.ok (channel.turnKey jsonArray (channel.pollingTurn jsonArray)),
        channel.withPollingIndex ((channel.turnIndex jsonArray (channel.pollingTurn jsonArray) + 1) %
          (channel.getKeys jsonArray).length)⟩ := by
  have start : channel.pollingStart jsonArray ≤ (channel.getKeys jsonArray).length := by
    unfold pollingStart
    split <;> omega
  have found := (Sampling.find?_turn start some).trans (turnIndex_eq some (channel.pollingTurn jsonArray))
  have keyed : (channel.getKeys jsonArray).isEmpty = false := by
    rw [List.isEmpty_eq_false_iff]
    rintro none
    exact some (by rw [enabledKeys, none]; rfl)
  obtain ⟨first, rest, list⟩ := List.exists_cons_of_ne_nil some
  have enabled : (List.range (channel.getKeys jsonArray).length).filter channel.channelInfo.keyEnabled = first :: rest :=
    list
  unfold getNextEnabledKey
  dsimp only
  rw [multi, keyed, enabled, polling]
  simp only [Bool.not_true, Bool.false_eq_true, if_false]
  unfold pollingStart at found
  rw [found]
  simp only [turnKey, withPollingIndex, multi, polling]

/-- After a turn the next call takes the next enabled key. -/
theorem pollingTurn_next (some : channel.enabledKeys jsonArray ≠ []) (turn : Nat) :
    (channel.withPollingIndex ((channel.turnIndex jsonArray turn + 1) % (channel.getKeys jsonArray).length)).pollingTurn
        jsonArray % (channel.enabledKeys jsonArray).length =
      (turn + 1) % (channel.enabledKeys jsonArray).length := by
  have inside := turn_inside some turn
  have index := turnIndex_eq some turn
  rw [List.getElem?_eq_getElem inside, Option.some.injEq] at index
  have within : (channel.turnIndex jsonArray turn + 1) % (channel.getKeys jsonArray).length <
      (channel.getKeys jsonArray).length := Nat.mod_lt _ (Nat.zero_lt_of_lt (turnIndex_lt some turn))
  have next := Sampling.rank_succ inside
  have start : (channel.withPollingIndex ((channel.turnIndex jsonArray turn + 1) %
      (channel.getKeys jsonArray).length)).pollingStart jsonArray =
        (channel.turnIndex jsonArray turn + 1) % (channel.getKeys jsonArray).length := by
    rw [pollingStart, keys_withPollingIndex]
    generalize (channel.turnIndex jsonArray turn + 1) % (channel.getKeys jsonArray).length = position at within
    exact if_neg (by change ¬((position : Int) < 0 ∨ (position : Int) ≥ _); omega)
  rw [pollingTurn, start, ← index]
  exact next.trans (Nat.mod_add_mod _ _ _)

theorem polls_eq (jsonArray : String → Option (List String)) (calls : Nat) : ∀ channel : KeyedChannel,
    channel.channelInfo.isMultiKey = true → channel.channelInfo.multiKeyMode = .polling →
    channel.enabledKeys jsonArray ≠ [] →
    channel.polls jsonArray calls = (List.range calls).map fun call =>
      .ok (channel.turnKey jsonArray (channel.pollingTurn jsonArray + call)) := by
  induction calls with
  | zero => exact fun _ _ _ _ => rfl
  | succ calls ih =>
    intro channel multi polling some
    have moved := pollingTurn_next some (channel.pollingTurn jsonArray)
    have later := ih (channel.withPollingIndex ((channel.turnIndex jsonArray (channel.pollingTurn jsonArray) + 1) %
      (channel.getKeys jsonArray).length)) multi polling (by rwa [enabledKeys_withPollingIndex])
    rw [polls, getNextEnabledKey_polling multi polling some]
    dsimp only
    rw [later, List.range_succ_eq_map, List.map_cons, List.map_map, Nat.add_zero]
    refine congrArg _ (List.map_congr_left fun call _ => congrArg Except.ok ?_)
    rw [turnKey_withPollingIndex]
    refine turnKey_congr ?_
    rw [← Nat.mod_add_mod, moved, Nat.mod_add_mod, Nat.succ_eq_add_one]
    congr 1
    omega

/-- Polling goes around the enabled keys in the order of their indexes, so that
any calls in a row, as many as there are enabled keys, use each of them once. -/
theorem polling_round_robin (jsonArray : String → Option (List String)) (channel : KeyedChannel)
    (multi : channel.channelInfo.isMultiKey = true) (polling : channel.channelInfo.multiKeyMode = .polling)
    (some : channel.enabledKeys jsonArray ≠ []) :
    (channel.enabledKeys jsonArray).Pairwise (· < ·) ∧
      (∀ index, index ∈ channel.enabledKeys jsonArray ↔
        index < (channel.getKeys jsonArray).length ∧ channel.channelInfo.keyEnabled index = true) ∧
      ∃ start, (∀ calls, channel.polls jsonArray calls =
          (List.range calls).map fun call => .ok (channel.turnKey jsonArray (start + call))) ∧
        ∀ first, ((List.range (channel.enabledKeys jsonArray).length).map fun call =>
            channel.turnKey jsonArray (start + (first + call))).Perm
          ((channel.enabledKeys jsonArray).map fun index => ((channel.getKeys jsonArray).getD index "", index)) := by
  refine ⟨Sampling.allowedBelow_increasing _, fun index => Sampling.mem_allowedBelow, channel.pollingTurn jsonArray,
    fun calls => polls_eq jsonArray calls channel multi polling some, ?_⟩
  intro first
  have window : ((List.range (channel.enabledKeys jsonArray).length).map fun call =>
      channel.turnIndex jsonArray (channel.pollingTurn jsonArray + (first + call))) =
        (channel.enabledKeys jsonArray).rotate (channel.pollingTurn jsonArray + first) := by
    refine List.ext_getElem (by simp) fun i inside _ => ?_
    have index := turnIndex_eq some (channel.pollingTurn jsonArray + (first + i))
    rw [List.getElem?_eq_getElem (turn_inside some _), Option.some.injEq] at index
    rw [List.getElem_map, List.getElem_range, List.getElem_rotate, ← index]
    congr 1
    congr 1
    omega
  have pairs : ((List.range (channel.enabledKeys jsonArray).length).map fun call =>
      channel.turnKey jsonArray (channel.pollingTurn jsonArray + (first + call))) =
        ((channel.enabledKeys jsonArray).rotate (channel.pollingTurn jsonArray + first)).map
          fun index => ((channel.getKeys jsonArray).getD index "", index) := by
    rw [← window, List.map_map]
    rfl
  rw [pairs]
  exact (List.rotate_perm _ _).map _

def fourKeys : KeyedChannel where
  id := 1
  key := "a\nb\nc\nd"
  keys := ["a", "b", "c", "d"]
  channelInfo :=
    { isMultiKey := true, multiKeyMode := .polling, multiKeyPollingIndex := 9
      multiKeyStatusList := [(0, .autoDisabled), (3, .manuallyDisabled)] }

theorem fourKeys_turns : ∃ start, ∀ calls, fourKeys.polls (fun _ => none) calls =
    (List.range calls).map fun call => .ok (fourKeys.turnKey (fun _ => none) (start + call)) := by
  obtain ⟨-, -, start, turns, -⟩ := polling_round_robin (fun _ => none) fourKeys rfl rfl (by decide +kernel)
  exact ⟨start, turns⟩

end KeyedChannel

end LLMHub
