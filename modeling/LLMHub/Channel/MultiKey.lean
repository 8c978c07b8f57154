import LLMHub.Go.Entries
import LLMHub.Routing.Cache
import Mathlib.Data.List.SplitOn

namespace LLMHub

inductive MultiKeyMode
  | random
  | polling
  | other
  deriving DecidableEq, Repr

/-- The key states of a channel with several keys. A key without a status is
enabled. -/
structure ChannelInfo where
  isMultiKey : Bool := false
  multiKeyStatusList : List (Nat × ChannelStatus) := []
  multiKeyDisabledReason : List (Nat × String) := []
  multiKeyDisabledTime : List (Nat × Int) := []
  multiKeyPollingIndex : Int := 0
  multiKeyMode : MultiKeyMode := .random
  deriving DecidableEq, Repr

/-- The columns of `channels` that key selection and status updates use. `keys`
is filled in the cache only. -/
structure KeyedChannel where
  id : Nat
  key : String
  status : ChannelStatus := .enabled
  statusReason : Option String := none
  statusTime : Option Int := none
  channelInfo : ChannelInfo := {}
  keys : List String := []
  deriving DecidableEq, Repr

inductive ChannelKeyErrorCode
  | channelNoAvailableKey
  | getChannelFailed
  deriving DecidableEq, Repr

structure ChannelKeyError where
  message : String
  code : ChannelKeyErrorCode
  skipRetry : Bool := false
  deriving DecidableEq, Repr

def ChannelInfo.getStatus (info : ChannelInfo) (index : Nat) : ChannelStatus :=
  (info.multiKeyStatusList.lookup index).getD .enabled

def ChannelInfo.keyEnabled (info : ChannelInfo) (index : Nat) : Bool := info.getStatus index = .enabled

section Keys

-- The elements of a text that is a JSON array, each as its own text.
variable (jsonArray : String → Option (List String))

/-- `strings.Split(strings.Trim(key, "\n"), "\n")`. -/
def splitKeys (key : String) : List String :=
  (((key.toList.dropWhile (· = '\n')).rdropWhile (· = '\n')).splitOn '\n').map String.ofList

def KeyedChannel.getKeys (channel : KeyedChannel) : List String :=
  if channel.key = "" then []
  else if !channel.keys.isEmpty then channel.keys
  else
    let trimmed := Go.trimSpace channel.key
    match if Go.startsWith trimmed "[" then jsonArray trimmed else none with
    | some elements => elements
    | none => splitKeys channel.key

/-- A returned key with its index, or an error, and the channel after the
call. -/
structure KeySelection where
  result : Except ChannelKeyError (String × Nat)
  channel : KeyedChannel

/-- `GetNextEnabledKey`, with what the cache says about the channel. -/
def KeyedChannel.getNextEnabledKey (cached : Except String ChannelInfo) (draw : Nat) (channel : KeyedChannel) :
    KeySelection :=
  if !channel.channelInfo.isMultiKey then ⟨.ok (channel.key, 0), channel⟩
  else
    let keys := channel.getKeys jsonArray
    if keys.isEmpty then ⟨.error ⟨"no keys available", .channelNoAvailableKey, false⟩, channel⟩
    else
      let enabledIdx := (List.range keys.length).filter channel.channelInfo.keyEnabled
      match enabledIdx with
      | [] => ⟨.error ⟨"no enabled keys", .channelNoAvailableKey, false⟩, channel⟩
      | first :: _ =>
        match channel.channelInfo.multiKeyMode with
        | .random =>
          let selectedIdx := enabledIdx.getD (draw % enabledIdx.length) 0
          ⟨.ok (keys.getD selectedIdx "", selectedIdx), channel⟩
        | .polling =>
          match cached with
          | .error message => ⟨.error ⟨message, .getChannelFailed, true⟩, channel⟩
          | .ok channelInfo =>
            let start : Nat :=
              if channelInfo.multiKeyPollingIndex < 0 ∨ channelInfo.multiKeyPollingIndex ≥ keys.length then 0
              else channelInfo.multiKeyPollingIndex.toNat
            match ((List.range keys.length).map fun i => (start + i) % keys.length).find? channel.channelInfo.keyEnabled with
            | some idx =>
              ⟨.ok (keys.getD idx "", idx),
                { channel with channelInfo :=
                    { channel.channelInfo with multiKeyPollingIndex := ((idx + 1) % keys.length : Nat) } }⟩
            | none => ⟨.ok (keys.getD first "", first), channel⟩
        | .other => ⟨.ok (keys.getD first "", first), channel⟩

theorem getKeys_congr {first second : KeyedChannel} (key : first.key = second.key) (keys : first.keys = second.keys) :
    first.getKeys jsonArray = second.getKeys jsonArray := by
  unfold KeyedChannel.getKeys
  rw [key, keys]

end Keys

end LLMHub
