import LLMHub.Go.Strconv
import LLMHub.PerfMetrics.Window

namespace LLMHub
open HubRoutingWindowCounters

/-- A Redis hash, with the texts of its fields. -/
abbrev RedisHash := List (String × String)

/-- The hashes of a Redis database. -/
abbrev RedisHashes := List (String × RedisHash)

/-- `HINCRBY` on the 64-bit integer that a field prints. -/
def RedisHash.hIncrBy (hash : RedisHash) (field : String) (increment : Int) : RedisHash :=
  Go.put hash field (toString (Go.int64 ((Go.parseInt ((hash.lookup field).getD "0")).value + increment)))

def RedisHashes.hIncrBy (hashes : RedisHashes) (key field : String) (increment : Int) : RedisHashes :=
  Go.put hashes key (RedisHash.hIncrBy ((hashes.lookup key).getD []) field increment)

def parseRedisInt (value : String) : Int := if value = "" then 0 else (Go.parseInt value).value

def hubRoutingHistogramRedisField (start : String) (index : Fin 16) : String := start ++ "_" ++ toString index.val

def hubRoutingFailureRedisField (failureClass : String) : String :=
  "failure_" ++ hubRoutingFailureClasses (hubRoutingFailureClassIndex failureClass)

section Keys

variable (escaping : Go.QueryEscaping)

def hubRoutingWindowRedisBucketKey (key : HubRoutingWindowBucketKey) : String :=
  "hub-routing-window:" ++ toString key.providerID ++ ":" ++ toString key.channelID ++ ":" ++ toString key.bucketTs ++ ":" ++
    escaping.escape key.modelName ++ ":" ++ escaping.escape key.endpointType

def parseHubRoutingWindowRedisBucketKey (raw : String) : Option HubRoutingWindowBucketKey :=
  match Go.splitN raw ':' 6 with
  | [start, provider, channel, bucket, model, endpoint] =>
    if start ≠ "hub-routing-window" then none
    else
      match Go.parseInt provider, Go.parseInt channel, Go.parseInt bucket, escaping.unescape model,
        escaping.unescape endpoint with
      | ⟨providerID, true⟩, ⟨.ofNat channelID, true⟩, ⟨bucketTs, true⟩, some modelName, some endpointType =>
        if modelName = "" ∨ endpointType = "" then none
        else some { modelName, endpointType, providerID, channelID, bucketTs }
      | _, _, _, _, _ => none
  | _ => none

/-- The fields that an attempt raises by one. -/
def hubRoutingWindowRedisFields (sample : HubRoutingOutcome) : List String :=
  "req" ::
    if sample.success then
      ["ok", "switchable_req", "switchable_ok"] ++
        (if 0 ≤ sample.latencyMS then [hubRoutingHistogramRedisField "lat" (hubRoutingHistogramIndex sample.latencyMS)]
          else []) ++
        match sample.firstTokenMS with
        | some ms => if 0 ≤ ms then [hubRoutingHistogramRedisField "ttft" (hubRoutingHistogramIndex ms)] else []
        | none => []
    else hubRoutingFailureRedisField sample.failureClass :: if sample.healthEligible then ["switchable_req"] else []

/-- The pipelined increments of one attempt. -/
def appendHubRoutingWindowRedis (hashes : RedisHashes) (sample : HubRoutingAttempt) (nowTs : Int) : RedisHashes :=
  (hubRoutingWindowRedisFields sample.toHubRoutingOutcome).foldl
    (fun hashes field =>
      hashes.hIncrBy (hubRoutingWindowRedisBucketKey escaping (hubRoutingWindowBucketKey sample nowTs)) field 1)
    hashes

def appendAttempts (samples : List RecordedAttempt) : RedisHashes :=
  samples.foldl (fun hashes sample => appendHubRoutingWindowRedis escaping hashes sample.attempt sample.time) []

end Keys

def hubRoutingWindowRedisCounters (values : RedisHash) : HubRoutingWindowCounters :=
  let read (field : String) : Int := parseRedisInt ((values.lookup field).getD "")
  { requestCount := read "req"
    successCount := read "ok"
    switchableRequestCount := read "switchable_req"
    switchableSuccessCount := read "switchable_ok"
    failureCounts := fun index => read (hubRoutingFailureRedisField (hubRoutingFailureClasses index))
    latencyHistogram := fun index => read (hubRoutingHistogramRedisField "lat" index)
    ttftHistogram := fun index => read (hubRoutingHistogramRedisField "ttft" index) }

structure HubRoutingMetricQueryParams where
  model : String := ""
  endpointType : String := ""
  providerID : Option Int := none
  channelID : Option Nat := none
  deriving DecidableEq, Repr

def matchesHubRoutingWindowQuery (key : HubRoutingWindowBucketKey) (params : HubRoutingMetricQueryParams) : Bool :=
  (params.model = "" || key.modelName = params.model) &&
    (params.endpointType = "" || key.endpointType = params.endpointType) &&
    params.providerID.all (key.providerID = ·) && params.channelID.all (key.channelID = ·)

/-- The buckets of the scanned keys replace the local ones. -/
def mergeHubRoutingWindowRedis (escaping : Go.QueryEscaping) (hashes : RedisHashes) (scanned : List String)
    (merged : List (HubRoutingWindowBucketKey × HubRoutingWindowCounters)) (params : HubRoutingMetricQueryParams)
    (startTs endTs : Int) : List (HubRoutingWindowBucketKey × HubRoutingWindowCounters) :=
  scanned.foldl
    (fun merged rawKey =>
      match parseHubRoutingWindowRedisBucketKey escaping rawKey with
      | none => merged
      | some key =>
        if key.bucketTs < startTs ∨ key.bucketTs > endTs ∨ !matchesHubRoutingWindowQuery key params then merged
        else Go.put merged key (hubRoutingWindowRedisCounters ((hashes.lookup rawKey).getD [])))
    merged

/-- A key whose numbers are machine words and whose names are not empty. -/
structure HubRoutingWindowBucketKey.Recordable (key : HubRoutingWindowBucketKey) : Prop where
  model : key.modelName ≠ ""
  endpoint : key.endpointType ≠ ""
  provider : Go.Fits key.providerID
  channel : Go.Fits key.channelID
  bucket : Go.Fits key.bucketTs

theorem colon_not_mem_decimal (n : Int) : ':' ∉ (toString n).toList := by
  intro member
  rcases Go.mem_decimal member with digit | sign
  · exact absurd digit (by decide)
  · exact absurd sign (by decide)

theorem natDecimal_eq (n : Nat) : toString n = toString (n : Int) := rfl

theorem toList_colon (first second : String) : (first ++ ":" ++ second).toList = first.toList ++ ':' :: second.toList := by
  have colon : ":".toList = [':'] := by decide +kernel
  rw [String.toList_append, String.toList_append, colon, List.append_assoc, List.singleton_append]

theorem toList_start (rest : String) :
    ("hub-routing-window:" ++ rest).toList = "hub-routing-window".toList ++ ':' :: rest.toList := by
  have start : "hub-routing-window:".toList = "hub-routing-window".toList ++ [':'] := by decide +kernel
  rw [String.toList_append, start, List.append_assoc, List.singleton_append]

theorem splitN_joined {provider channel bucket model : String} (freeProvider : ':' ∉ provider.toList)
    (freeChannel : ':' ∉ channel.toList) (freeBucket : ':' ∉ bucket.toList) (freeModel : ':' ∉ model.toList)
    (endpoint : String) :
    Go.splitN ("hub-routing-window:" ++ provider ++ ":" ++ channel ++ ":" ++ bucket ++ ":" ++ model ++ ":" ++ endpoint)
      ':' 6 = ["hub-routing-window", provider, channel, bucket, model, endpoint] := by
  have free : ':' ∉ "hub-routing-window".toList := by decide +kernel
  rw [Go.splitN, toList_colon, toList_colon, toList_colon, toList_colon, toList_start]
  simp only [List.append_assoc, List.cons_append]
  rw [Go.splitChars_joined free 4, Go.splitChars_joined freeProvider 3, Go.splitChars_joined freeChannel 2,
    Go.splitChars_joined freeBucket 1, Go.splitChars_joined freeModel 0, Go.splitChars]
  simp only [List.map_cons, List.map_nil, String.ofList_toList]

theorem splitN_bucketKey (escaping : Go.QueryEscaping) (key : HubRoutingWindowBucketKey) :
    Go.splitN (hubRoutingWindowRedisBucketKey escaping key) ':' 6 =
      ["hub-routing-window", toString key.providerID, toString key.channelID, toString key.bucketTs,
        escaping.escape key.modelName, escaping.escape key.endpointType] :=
  splitN_joined (colon_not_mem_decimal key.providerID) (colon_not_mem_decimal key.channelID)
    (colon_not_mem_decimal key.bucketTs) (escaping.colon_free key.modelName) _

/-- A bucket key is read back from Redis as it was written. -/
theorem parse_bucketKey (escaping : Go.QueryEscaping) {key : HubRoutingWindowBucketKey} (recordable : key.Recordable) :
    parseHubRoutingWindowRedisBucketKey escaping (hubRoutingWindowRedisBucketKey escaping key) = some key := by
  have named : ¬(key.modelName = "" ∨ key.endpointType = "") := not_or.mpr ⟨recordable.model, recordable.endpoint⟩
  unfold parseHubRoutingWindowRedisBucketKey
  rw [splitN_bucketKey, natDecimal_eq]
  dsimp only
  rw [if_neg (not_not.mpr rfl), Go.parseInt_decimal recordable.provider, Go.parseInt_decimal recordable.channel,
    Go.parseInt_decimal recordable.bucket, escaping.unescape_escape, escaping.unescape_escape]
  exact if_neg named

theorem bucketKey_injective (escaping : Go.QueryEscaping) {key other : HubRoutingWindowBucketKey}
    (recordable : key.Recordable) (recordable' : other.Recordable)
    (same : hubRoutingWindowRedisBucketKey escaping key = hubRoutingWindowRedisBucketKey escaping other) : key = other := by
  have parsed := parse_bucketKey escaping recordable
  rw [same, parse_bucketKey escaping recordable'] at parsed
  exact (Option.some.inj parsed).symm

/-- One of the numbers of a minute. -/
inductive HubRoutingWindowField
  | requests
  | successes
  | switchableRequests
  | switchableSuccesses
  | latency (index : Fin 16)
  | firstToken (index : Fin 16)
  | failure (index : Fin 6)
  deriving DecidableEq, Repr

namespace HubRoutingWindowField

/-- The name of the hash field. -/
def name : HubRoutingWindowField → String
  | requests => "req"
  | successes => "ok"
  | switchableRequests => "switchable_req"
  | switchableSuccesses => "switchable_ok"
  | latency index => hubRoutingHistogramRedisField "lat" index
  | firstToken index => hubRoutingHistogramRedisField "ttft" index
  | failure index => "failure_" ++ hubRoutingFailureClasses index

def all : List HubRoutingWindowField :=
  [requests, successes, switchableRequests, switchableSuccesses] ++ (List.finRange 16).map latency ++
    (List.finRange 16).map firstToken ++ (List.finRange 6).map failure

theorem mem_all (field : HubRoutingWindowField) : field ∈ all := by
  cases field <;> simp [all]

theorem name_injective {field other : HubRoutingWindowField} (same : field.name = other.name) : field = other := by
  have distinct : (all.map name).Nodup := by decide +kernel
  exact List.inj_on_of_nodup_map distinct (mem_all field) (mem_all other) same

end HubRoutingWindowField

theorem hubRoutingFailureClassIndex_classes (index : Fin 6) :
    hubRoutingFailureClassIndex (hubRoutingFailureClasses index) = index := by
  revert index
  decide

def HubRoutingWindowCounters.read (counters : HubRoutingWindowCounters) : HubRoutingWindowField → Int
  | .requests => counters.requestCount
  | .successes => counters.successCount
  | .switchableRequests => counters.switchableRequestCount
  | .switchableSuccesses => counters.switchableSuccessCount
  | .latency index => counters.latencyHistogram index
  | .firstToken index => counters.ttftHistogram index
  | .failure index => counters.failureCounts index

theorem HubRoutingWindowCounters.ext_read {counters other : HubRoutingWindowCounters}
    (same : ∀ field, counters.read field = other.read field) : counters = other := by
  have requests := same .requests
  have successes := same .successes
  have switchableRequests := same .switchableRequests
  have switchableSuccesses := same .switchableSuccesses
  have latency : counters.latencyHistogram = other.latencyHistogram := funext fun index => same (.latency index)
  have firstToken : counters.ttftHistogram = other.ttftHistogram := funext fun index => same (.firstToken index)
  have failure : counters.failureCounts = other.failureCounts := funext fun index => same (.failure index)
  obtain ⟨⟩ := counters
  obtain ⟨⟩ := other
  simp only [HubRoutingWindowCounters.read] at requests successes switchableRequests switchableSuccesses
  simp_all

def HubRoutingOutcome.fields (sample : HubRoutingOutcome) : List HubRoutingWindowField :=
  .requests ::
    if sample.success then
      [.successes, .switchableRequests, .switchableSuccesses] ++
        (if 0 ≤ sample.latencyMS then [.latency (hubRoutingHistogramIndex sample.latencyMS)] else []) ++
        match sample.firstTokenMS with
        | some ms => if 0 ≤ ms then [.firstToken (hubRoutingHistogramIndex ms)] else []
        | none => []
    else .failure (hubRoutingFailureClassIndex sample.failureClass) ::
      if sample.healthEligible then [.switchableRequests] else []

theorem hubRoutingWindowRedisFields_eq (sample : HubRoutingOutcome) :
    hubRoutingWindowRedisFields sample = sample.fields.map HubRoutingWindowField.name := by
  unfold hubRoutingWindowRedisFields HubRoutingOutcome.fields
  by_cases success : sample.success = true
  · by_cases latency : 0 ≤ sample.latencyMS
    · cases sample.firstTokenMS with
      | none => simp [success, latency, HubRoutingWindowField.name]
      | some ms => by_cases known : 0 ≤ ms <;> simp [success, latency, known, HubRoutingWindowField.name]
    · cases sample.firstTokenMS with
      | none => simp [success, latency, HubRoutingWindowField.name]
      | some ms => by_cases known : 0 ≤ ms <;> simp [success, latency, known, HubRoutingWindowField.name]
  · by_cases eligible : sample.healthEligible = true <;>
      simp [success, eligible, HubRoutingWindowField.name, hubRoutingFailureRedisField]

theorem HubRoutingOutcome.fields_nodup (sample : HubRoutingOutcome) : sample.fields.Nodup := by
  unfold HubRoutingOutcome.fields
  by_cases success : sample.success = true
  · by_cases latency : 0 ≤ sample.latencyMS
    · cases sample.firstTokenMS with
      | none => simp [success, latency]
      | some ms => by_cases known : 0 ≤ ms <;> simp [success, latency, known]
    · cases sample.firstTokenMS with
      | none => simp [success, latency]
      | some ms => by_cases known : 0 ≤ ms <;> simp [success, latency, known]
  · by_cases eligible : sample.healthEligible = true <;> simp [success, eligible]

theorem bumpCount_apply {n : Nat} (counts : Fin n → Int) (index other : Fin n) :
    bumpCount counts index other = if other = index then Go.int64 (counts other + 1) else counts other := by
  by_cases same : other = index
  · rw [bumpCount, same, Function.update_self, if_pos rfl]
  · rw [bumpCount, Function.update_of_ne same, if_neg same]

/-- An attempt raises its numbers by one in memory. -/
theorem HubRoutingWindowCounters.read_add (counters : HubRoutingWindowCounters) (sample : HubRoutingOutcome)
    (field : HubRoutingWindowField) :
    (counters.add sample).read field =
      if field ∈ sample.fields then Go.int64 (counters.read field + 1) else counters.read field := by
  unfold HubRoutingWindowCounters.add HubRoutingOutcome.fields
  cases sample.success with
  | true =>
    change (counters.addSuccess sample).read field = _
    unfold addSuccess
    cases field with
    | latency index =>
      by_cases known : 0 ≤ sample.latencyMS
      · cases sample.firstTokenMS <;> simp [read, known, bumpCount_apply]
      · cases sample.firstTokenMS <;> simp [read, known]
    | firstToken index =>
      cases sample.firstTokenMS with
      | none => simp [read]
      | some ms => by_cases known : 0 ≤ ms <;> simp [read, known, bumpCount_apply]
    | failure index => cases sample.firstTokenMS <;> simp [read]
    | requests | successes | switchableRequests | switchableSuccesses => simp [read]
  | false =>
    change (counters.addFailure sample).read field = _
    unfold addFailure
    cases field <;> cases sample.healthEligible <;> simp [read, bumpCount_apply]

theorem parseRedisInt_eq (value : String) : parseRedisInt value = (Go.parseInt value).value := by
  unfold parseRedisInt
  split
  · next empty =>
    rw [empty]
    decide +kernel
  · rfl

theorem RedisHash.read_hIncrBy (hash : RedisHash) (field other : String) :
    parseRedisInt (((hash.hIncrBy field 1).lookup other).getD "") =
      if other = field then Go.int64 (parseRedisInt ((hash.lookup other).getD "") + 1)
      else parseRedisInt ((hash.lookup other).getD "") := by
  unfold RedisHash.hIncrBy
  rw [Go.lookup_put]
  by_cases same : other = field
  · have missing : (Go.parseInt "0").value = parseRedisInt "" := by decide +kernel
    have old : (Go.parseInt ((hash.lookup field).getD "0")).value = parseRedisInt ((hash.lookup field).getD "") := by
      cases hash.lookup field with
      | none => exact missing
      | some value => exact (parseRedisInt_eq value).symm
    rw [if_pos same, if_pos same, same, old, Option.getD_some, parseRedisInt_eq, Go.parseInt_decimal (Go.fits_int64 _)]
  · rw [if_neg same, if_neg same]

theorem read_redisCounters (values : RedisHash) (field : HubRoutingWindowField) :
    (hubRoutingWindowRedisCounters values).read field = parseRedisInt ((values.lookup field.name).getD "") := by
  cases field with
  | failure index =>
    change parseRedisInt ((values.lookup (hubRoutingFailureRedisField (hubRoutingFailureClasses index))).getD "") = _
    rw [hubRoutingFailureRedisField, hubRoutingFailureClassIndex_classes]
    rfl
  | _ => rfl

/-- An attempt raises its numbers by one in Redis. -/
theorem read_foldl_hIncrBy {fields : List HubRoutingWindowField} (distinct : fields.Nodup) (values : RedisHash)
    (field : HubRoutingWindowField) :
    (hubRoutingWindowRedisCounters
        ((fields.map HubRoutingWindowField.name).foldl (fun values name => values.hIncrBy name 1) values)).read field =
      if field ∈ fields then Go.int64 ((hubRoutingWindowRedisCounters values).read field + 1)
      else (hubRoutingWindowRedisCounters values).read field := by
  induction fields generalizing values with
  | nil => rfl
  | cons first rest ih =>
    obtain ⟨fresh, distinct⟩ := List.nodup_cons.mp distinct
    have raised : (hubRoutingWindowRedisCounters (values.hIncrBy first.name 1)).read field =
        if field = first then Go.int64 ((hubRoutingWindowRedisCounters values).read field + 1)
        else (hubRoutingWindowRedisCounters values).read field := by
      rw [read_redisCounters, read_redisCounters, RedisHash.read_hIncrBy]
      exact if_congr ⟨HubRoutingWindowField.name_injective, congrArg _⟩ rfl rfl
    rw [List.map_cons, List.foldl_cons, ih distinct, raised]
    by_cases same : field = first
    · rw [if_neg (same ▸ fresh), if_pos same, if_pos (same ▸ List.mem_cons_self)]
    · simp only [same, if_false, List.mem_cons, false_or]

/-- The hash and the bucket of a minute count an attempt alike. -/
theorem redisCounters_add (values : RedisHash) (sample : HubRoutingOutcome) :
    hubRoutingWindowRedisCounters
        ((hubRoutingWindowRedisFields sample).foldl (fun values name => values.hIncrBy name 1) values) =
      (hubRoutingWindowRedisCounters values).add sample := by
  refine ext_read fun field => ?_
  rw [hubRoutingWindowRedisFields_eq, read_foldl_hIncrBy sample.fields_nodup, read_add]

theorem RedisHashes.lookup_foldl_hIncrBy (key field : String) (rest : List String) (hashes : RedisHashes) (other : String) :
    ((field :: rest).foldl (fun hashes field => hashes.hIncrBy key field 1) hashes).lookup other =
      if other = key then
        some ((field :: rest).foldl (fun values field => RedisHash.hIncrBy values field 1) ((hashes.lookup key).getD []))
      else hashes.lookup other := by
  induction rest generalizing field hashes with
  | nil => exact Go.lookup_put _ _ _ _
  | cons next rest ih =>
    rw [List.foldl_cons, ih]
    have stored : (hashes.hIncrBy key field 1).lookup key =
        some (RedisHash.hIncrBy ((hashes.lookup key).getD []) field 1) := by
      rw [RedisHashes.hIncrBy, Go.lookup_put, if_pos rfl]
    by_cases same : other = key
    · rw [if_pos same, if_pos same, stored]
      rfl
    · rw [if_neg same, if_neg same, RedisHashes.hIncrBy, Go.lookup_put, if_neg same]

theorem appendHubRoutingWindowRedis_lookup (escaping : Go.QueryEscaping) (hashes : RedisHashes) (sample : RecordedAttempt)
    (raw : String) :
    ((appendHubRoutingWindowRedis escaping hashes sample.attempt sample.time).lookup raw).map hubRoutingWindowRedisCounters =
      if raw = hubRoutingWindowRedisBucketKey escaping sample.bucketKey then
        some ((((hashes.lookup raw).map hubRoutingWindowRedisCounters).getD {}).add sample.outcome)
      else (hashes.lookup raw).map hubRoutingWindowRedisCounters := by
  have empty : hubRoutingWindowRedisCounters [] = {} := by
    refine ext_read fun field => ?_
    cases field <;> rfl
  have stored := RedisHashes.lookup_foldl_hIncrBy (hubRoutingWindowRedisBucketKey escaping sample.bucketKey) "req"
    (hubRoutingWindowRedisFields sample.outcome).tail hashes raw
  change ((List.foldl _ hashes (hubRoutingWindowRedisFields sample.outcome)).lookup raw).map _ = _
  rw [show hubRoutingWindowRedisFields sample.outcome = "req" :: (hubRoutingWindowRedisFields sample.outcome).tail from rfl]
  refine (congrArg (Option.map hubRoutingWindowRedisCounters) stored).trans ?_
  by_cases same : raw = hubRoutingWindowRedisBucketKey escaping sample.bucketKey
  · have old : hubRoutingWindowRedisCounters ((hashes.lookup raw).getD []) =
        ((hashes.lookup raw).map hubRoutingWindowRedisCounters).getD {} := by
      cases hashes.lookup raw with
      | none => exact empty
      | some values => rfl
    rw [if_pos same, if_pos same, Option.map_some, ← same, ← old]
    exact congrArg some (redisCounters_add _ sample.outcome)
  · rw [if_neg same, if_neg same]

/-- The names of a recorded attempt are not empty, and its numbers are machine
words. -/
structure RecordedAttempt.Recordable (sample : RecordedAttempt) : Prop where
  model : sample.attempt.model ≠ ""
  endpoint : sample.attempt.endpointType ≠ ""
  provider : Go.Fits sample.attempt.providerID
  channel : Go.Fits sample.attempt.channelID
  time : Go.Fits sample.time

theorem fits_bucketStart {ts : Int} (fits : Go.Fits ts) : Go.Fits (hubRoutingWindowBucketStart ts) := by
  obtain ⟨low, high⟩ := fits
  unfold hubRoutingWindowBucketStart hubRoutingWindowBucketSeconds Go.Fits
  rcases le_total 0 ts with nonneg | nonpos
  · rw [Int.tmod_eq_emod_of_nonneg nonneg]
    omega
  · have remainder : ts.tmod 60 = -((-ts) % 60) := by
      rw [← Int.tmod_eq_emod_of_nonneg (by omega), Int.neg_tmod, neg_neg]
    omega

theorem RecordedAttempt.Recordable.bucketKey {sample : RecordedAttempt} (recordable : sample.Recordable) :
    sample.bucketKey.Recordable := by
  refine ⟨recordable.model, recordable.endpoint, recordable.provider, recordable.channel, ?_⟩
  exact fits_bucketStart recordable.time

/-- Redis holds the hash of each local bucket and no other. -/
structure RedisMirrors (escaping : Go.QueryEscaping) (window : HubRoutingWindow) (hashes : RedisHashes) : Prop where
  counters : ∀ key : HubRoutingWindowBucketKey, key.Recordable →
    (hashes.lookup (hubRoutingWindowRedisBucketKey escaping key)).map hubRoutingWindowRedisCounters =
      window.buckets.lookup key
  known : ∀ raw, (hashes.lookup raw).isSome → ∃ key : HubRoutingWindowBucketKey, key.Recordable ∧
    raw = hubRoutingWindowRedisBucketKey escaping key
  recordable : ∀ key, (window.buckets.lookup key).isSome → key.Recordable

theorem RedisMirrors.append {escaping : Go.QueryEscaping} {window : HubRoutingWindow} {hashes : RedisHashes}
    (mirrors : RedisMirrors escaping window hashes) {sample : RecordedAttempt} (recordable : sample.Recordable) :
    RedisMirrors escaping (recordHubRoutingWindow window sample.attempt sample.time)
      (appendHubRoutingWindowRedis escaping hashes sample.attempt sample.time) := by
  have local_ : ∀ key, (recordHubRoutingWindow window sample.attempt sample.time).buckets.lookup key =
      if key = sample.bucketKey then some (((window.buckets.lookup sample.bucketKey).getD {}).add sample.outcome)
      else window.buckets.lookup key := fun key => Go.lookup_put _ _ _ _
  have stored := appendHubRoutingWindowRedis_lookup escaping hashes sample
  refine ⟨fun key own => ?_, fun raw found => ?_, fun key found => ?_⟩
  · rw [stored, local_]
    by_cases same : key = sample.bucketKey
    · rw [if_pos (congrArg _ same), if_pos same, mirrors.counters key own, same]
    · have other : hubRoutingWindowRedisBucketKey escaping key ≠ hubRoutingWindowRedisBucketKey escaping sample.bucketKey :=
        fun equal => same (bucketKey_injective escaping own recordable.bucketKey equal)
      rw [if_neg other, if_neg same, mirrors.counters key own]
  · by_cases same : raw = hubRoutingWindowRedisBucketKey escaping sample.bucketKey
    · exact ⟨sample.bucketKey, recordable.bucketKey, same⟩
    · have before := stored raw
      rw [if_neg same] at before
      rw [← Option.isSome_map (f := hubRoutingWindowRedisCounters), before, Option.isSome_map] at found
      exact mirrors.known raw found
  · rw [local_] at found
    by_cases same : key = sample.bucketKey
    · rw [same]
      exact recordable.bucketKey
    · rw [if_neg same] at found
      exact mirrors.recordable key found

theorem redisMirrors_attempts (escaping : Go.QueryEscaping) {samples : List RecordedAttempt}
    (recordable : ∀ sample ∈ samples, sample.Recordable) :
    RedisMirrors escaping (recordAttempts samples) (appendAttempts escaping samples) := by
  have run : ∀ (rest : List RecordedAttempt) (window : HubRoutingWindow) (hashes : RedisHashes),
      (∀ sample ∈ rest, sample.Recordable) → RedisMirrors escaping window hashes →
      RedisMirrors escaping
        (rest.foldl (fun window sample => recordHubRoutingWindow window sample.attempt sample.time) window)
        (rest.foldl (fun hashes sample => appendHubRoutingWindowRedis escaping hashes sample.attempt sample.time)
          hashes) := by
    intro rest
    induction rest with
    | nil => exact fun _ _ _ mirrors => mirrors
    | cons sample rest ih =>
      intro window hashes all mirrors
      obtain ⟨first, later⟩ := List.forall_mem_cons.mp all
      exact ih _ _ later (mirrors.append first)
  refine run samples {} [] recordable ⟨fun _ _ => rfl, fun raw found => ?_, fun key found => ?_⟩
  · exact absurd found (by simp)
  · exact absurd found (by simp)

def HubRoutingMetricQueryParams.wants (params : HubRoutingMetricQueryParams) (startTs endTs : Int)
    (key : HubRoutingWindowBucketKey) : Bool :=
  startTs ≤ key.bucketTs && key.bucketTs ≤ endTs && matchesHubRoutingWindowQuery key params

/-- A merge stores the wanted ones of the scanned buckets. -/
theorem mergeHubRoutingWindowRedis_eq (escaping : Go.QueryEscaping) (hashes : RedisHashes) {scanned : List String}
    (known : ∀ raw ∈ scanned, ∃ key : HubRoutingWindowBucketKey, key.Recordable ∧
      raw = hubRoutingWindowRedisBucketKey escaping key)
    (merged : List (HubRoutingWindowBucketKey × HubRoutingWindowCounters)) (params : HubRoutingMetricQueryParams)
    (startTs endTs : Int) :
    mergeHubRoutingWindowRedis escaping hashes scanned merged params startTs endTs =
      ((scanned.filterMap (parseHubRoutingWindowRedisBucketKey escaping)).filter (params.wants startTs endTs)).foldl
        (fun merged key => Go.put merged key
          (hubRoutingWindowRedisCounters ((hashes.lookup (hubRoutingWindowRedisBucketKey escaping key)).getD [])))
        merged := by
  induction scanned generalizing merged with
  | nil => rfl
  | cons raw rest ih =>
    obtain ⟨⟨key, recordable, rfl⟩, later⟩ := List.forall_mem_cons.mp known
    have parsed := parse_bucketKey escaping recordable
    rw [mergeHubRoutingWindowRedis, List.foldl_cons, List.filterMap_cons, parsed]
    refine (ih later _).trans ?_
    dsimp only
    by_cases wanted : params.wants startTs endTs key = true
    · rw [List.filter_cons_of_pos wanted, List.foldl_cons, if_neg]
      simpa [HubRoutingMetricQueryParams.wants, and_assoc] using wanted
    · rw [List.filter_cons_of_neg wanted, if_pos]
      by_contra kept
      exact wanted (by simpa [HubRoutingMetricQueryParams.wants, and_assoc] using kept)

/-- For any attempts, what Redis gives back for a query is what the instance
holds itself, and every key is read back as it was written. -/
theorem redis_window_agrees (escaping : Go.QueryEscaping) :
    (∀ key : HubRoutingWindowBucketKey, key.Recordable →
      parseHubRoutingWindowRedisBucketKey escaping (hubRoutingWindowRedisBucketKey escaping key) = some key) ∧
    ∀ samples : List RecordedAttempt, (∀ sample ∈ samples, sample.Recordable) →
      ∀ scanned : List String, (∀ raw, raw ∈ scanned ↔ ((appendAttempts escaping samples).lookup raw).isSome) →
      ∀ params startTs endTs key,
        (mergeHubRoutingWindowRedis escaping (appendAttempts escaping samples) scanned [] params startTs endTs).lookup key =
          if params.wants startTs endTs key then (recordAttempts samples).buckets.lookup key else none := by
  refine ⟨fun key recordable => parse_bucketKey escaping recordable, ?_⟩
  intro samples recordable scanned complete params startTs endTs key
  have mirrors := redisMirrors_attempts escaping recordable
  have known := fun raw member => mirrors.known raw ((complete raw).mp member)
  rw [mergeHubRoutingWindowRedis_eq escaping _ known]
  refine (Go.lookup_foldl_put_of_key (id : HubRoutingWindowBucketKey → HubRoutingWindowBucketKey)
    (fun key => hubRoutingWindowRedisCounters (((appendAttempts escaping samples).lookup
      (hubRoutingWindowRedisBucketKey escaping key)).getD [])) _ [] key).trans ?_
  rw [List.map_id]
  by_cases wanted : params.wants startTs endTs key = true
  · rw [if_pos wanted]
    cases held : (recordAttempts samples).buckets.lookup key with
    | some counters =>
      have own := mirrors.recordable key (by rw [held]; rfl)
      have stored := mirrors.counters key own
      rw [held] at stored
      obtain ⟨values, found, same⟩ := Option.map_eq_some_iff.mp stored
      have listed := (complete _).mpr (by rw [found]; rfl)
      have merged := List.mem_filterMap.mpr ⟨_, listed, parse_bucketKey escaping own⟩
      rw [if_pos (List.mem_filter.mpr ⟨merged, wanted⟩), found]
      exact congrArg some same
    | none =>
      refine if_neg fun merged => ?_
      obtain ⟨raw, listed, parsed⟩ := List.mem_filterMap.mp (List.mem_of_mem_filter merged)
      obtain ⟨other, own, rfl⟩ := known raw listed
      obtain rfl := Option.some.inj ((parse_bucketKey escaping own).symm.trans parsed)
      have stored := mirrors.counters other own
      rw [held, Option.map_eq_none_iff] at stored
      have found := (complete _).mp listed
      rw [stored] at found
      exact absurd found (by simp)
  · rw [if_neg wanted, if_neg fun merged => wanted (List.mem_filter.mp merged).2]
    rfl

/-- Escapes nothing but the separator and the escape character, as `url.QueryEscape`
does. -/
def colonEscape : List Char → List Char
  | [] => []
  | ':' :: rest => '%' :: '3' :: 'A' :: colonEscape rest
  | '%' :: rest => '%' :: '2' :: '5' :: colonEscape rest
  | c :: rest => c :: colonEscape rest

def colonUnescape : List Char → Option (List Char)
  | [] => some []
  | '%' :: '3' :: 'A' :: rest => (colonUnescape rest).map (':' :: ·)
  | '%' :: '2' :: '5' :: rest => (colonUnescape rest).map ('%' :: ·)
  | '%' :: _ => none
  | c :: rest => (colonUnescape rest).map (c :: ·)

theorem colonUnescape_colonEscape (l : List Char) : colonUnescape (colonEscape l) = some l := by
  fun_induction colonEscape l with
  | case1 => rfl
  | case2 rest ih => rw [colonUnescape, ih, Option.map_some]
  | case3 rest ih => rw [colonUnescape, ih, Option.map_some]
  | case4 c rest colon percent ih =>
    have plain : ∀ tail, colonUnescape (c :: tail) = (colonUnescape tail).map (c :: ·) := by
      intro tail
      rw [colonUnescape] <;> intro <;> simp_all
    rw [plain, ih, Option.map_some]

def colonEscaping : Go.QueryEscaping where
  escape s := String.ofList (colonEscape s.toList)
  unescape s := (colonUnescape s.toList).map String.ofList
  unescape_escape s := by
    rw [String.toList_ofList, colonUnescape_colonEscape, Option.map_some, String.ofList_toList]
  colon_free s := by
    rw [String.toList_ofList]
    generalize s.toList = l
    fun_induction colonEscape l with
    | case1 => simp
    | case2 rest ih => simpa using ih
    | case3 rest ih => simpa using ih
    | case4 c rest colon percent ih =>
      rw [List.mem_cons, not_or]
      exact ⟨fun same => colon same.symm, ih⟩

def tunedAttempt : RecordedAttempt :=
  ⟨{ success := true, latencyMS := 120, firstTokenMS := some 40, model := "ft:gpt", endpointType := "openai",
     providerID := 3, channelID := 7 }, 125⟩

theorem tuned_attempt_agrees :
    (mergeHubRoutingWindowRedis colonEscaping (appendAttempts colonEscaping [tunedAttempt])
        ["hub-routing-window:3:7:120:ft%3Agpt:openai"] [] {} 60 180).lookup tunedAttempt.bucketKey =
      (recordAttempts [tunedAttempt]).buckets.lookup tunedAttempt.bucketKey := by
  have recordable : ∀ sample ∈ [tunedAttempt], sample.Recordable := by
    intro sample member
    obtain rfl := List.mem_singleton.mp member
    exact ⟨by decide +kernel, by decide +kernel, by decide +kernel, by decide +kernel, by decide +kernel⟩
  have stored : (appendAttempts colonEscaping [tunedAttempt]).map Prod.fst =
      ["hub-routing-window:3:7:120:ft%3Agpt:openai"] := by decide +kernel
  have complete : ∀ raw, raw ∈ ["hub-routing-window:3:7:120:ft%3Agpt:openai"] ↔
      ((appendAttempts colonEscaping [tunedAttempt]).lookup raw).isSome := by
    intro raw
    rw [← stored, List.lookup_isSome_iff]
    simp
  rw [(redis_window_agrees colonEscaping).2 [tunedAttempt] recordable _ complete {} 60 180 tunedAttempt.bucketKey,
    if_pos (by decide +kernel)]

end LLMHub
