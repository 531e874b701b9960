import RedisCache.Cacheable
import RedisCache.ReadPath
import RedisCache.SetupBounds

set_option autoImplicit false

/- The write side: the response writer that stores upstream replies. -/

namespace RedisCache

/-- The arguments of `Add`, as the goroutine of one `WriteMsg` call holds them. -/
structure SetJob where
  key : Key
  wire : Bytes
  duration : Int
deriving DecidableEq, Repr

/-- What one `WriteMsg` call does: the message for the client, the SET it starts
and the counters it increments. -/
structure WriteResult where
  client : Msg
  set : Option SetJob
  metrics : List Metric
deriving DecidableEq, Repr

def isDenial (mt : ResponseType) : Prop := mt = .nameError ∨ mt = .noData

instance (mt : ResponseType) : Decidable (isDenial mt) :=
  inferInstanceAs (Decidable (_ ∨ _))

def Redis.maxDur (re : Redis) (mt : ResponseType) : Int :=
  if isDenial mt then re.nMaxTTL else re.pMaxTTL

def Redis.minDur (re : Redis) (mt : ResponseType) : Int :=
  if isDenial mt then re.nMinTTL else re.pMinTTL

/-- The clamp in `WriteMsg`. -/
def clamp (maxDur minDur msgTTL : Int) : Int :=
  let duration := if msgTTL < maxDur then msgTTL else maxDur
  if duration < minDur then minDur else duration

def storeDuration (d : Deps) (re : Redis) (res : Msg) (mt : ResponseType) : Int :=
  clamp (re.maxDur mt) (re.minDur mt) (minMsgTTL d res mt)

/-- The bytes to store, taken before the TTLs of the reply are rewritten. -/
def snapshot (d : Deps) (r res : Msg) (k : Key) (duration : Int) :
    Go (Option Bytes × List Metric) :=
  if k ≠ "" ∧ 0 < duration then do
    let same ← responseMatchesRequest d r res
    if !same then .ok (none, [.responseMismatches])
    else
      match toBytes d res with
      | .error _ => .ok (none, [.encodeErrors])
      | .ok b => .ok (some b, [])
  else .ok (none, [])

/-- `ResponseWriter.WriteMsg` at a time of day. -/
def writeMsg (d : Deps) (re : Redis) (r : Msg) (now : Nat) (res : Msg) : Go WriteResult := do
  let (mt, opt) := d.typify res now
  let doBit := opt.any d.optDo
  let store ← cacheable res mt
  let k := if store then re.keyer.key d (tupleFor d r doBit) else ""
  let duration := storeDuration d re res mt
  let (wire, metrics) ← snapshot d r res k duration
  .ok {
    client := setMsgTTL res (secondsU32 d.castU32 duration)
    set := wire.map fun b => ⟨k, b, duration⟩
    metrics := metrics }

theorem clamp_eq (maxDur minDur msgTTL : Int) :
    clamp maxDur minDur msgTTL = max minDur (min maxDur msgTTL) := by
  unfold clamp
  dsimp only
  split <;> split <;> omega

theorem storeDuration_eq (d : Deps) (re : Redis) (res : Msg) (mt : ResponseType) :
    storeDuration d re res mt = max (re.minDur mt) (min (re.maxDur mt) (minMsgTTL d res mt)) :=
  clamp_eq _ _ _

theorem storeDuration_of_denial (d : Deps) (re : Redis) (res : Msg) {mt : ResponseType}
    (denial : isDenial mt) :
    storeDuration d re res mt = max re.nMinTTL (min re.nMaxTTL (minMsgTTL d res mt)) := by
  rw [storeDuration_eq, Redis.minDur, if_pos denial, Redis.maxDur, if_pos denial]

theorem storeDuration_of_not_denial (d : Deps) (re : Redis) (res : Msg) {mt : ResponseType}
    (affirmative : ¬ isDenial mt) :
    storeDuration d re res mt = max re.pMinTTL (min re.pMaxTTL (minMsgTTL d res mt)) := by
  rw [storeDuration_eq, Redis.minDur, if_neg affirmative, Redis.maxDur, if_neg affirmative]

section Bounds

variable {re : Redis} (bounds : re.TTLBounds) (mt : ResponseType)

include bounds

theorem minDur_range : 0 ≤ re.minDur mt ∧ second ∣ re.minDur mt := by
  unfold Redis.minDur
  split
  · exact ⟨bounds.nMinNonneg, bounds.nMinWhole⟩
  · exact ⟨bounds.pMinNonneg, bounds.pMinWhole⟩

theorem maxDur_whole : second ∣ re.maxDur mt := by
  unfold Redis.maxDur
  split
  · exact bounds.nMaxWhole
  · exact bounds.pMaxWhole

/-- Whatever the reply, the duration is a whole number of seconds and not negative. -/
theorem storeDuration_range (d : Deps) (res : Msg) :
    0 ≤ storeDuration d re res mt ∧ second ∣ storeDuration d re res mt := by
  obtain ⟨floor, floorWhole⟩ := minDur_range bounds mt
  have ceilingWhole := maxDur_whole bounds mt
  obtain ⟨seconds, ttl⟩ := minMsgTTL_seconds d res mt
  rw [storeDuration_eq, ttl]
  unfold second at *
  omega

end Bounds

/-- What a SET that `WriteMsg` starts says about the reply it is made from. -/
structure Stores (d : Deps) (re : Redis) (r : Msg) (now : Nat) (res : Msg)
    (job : SetJob) : Prop where
  admitted : cacheable res (d.typify res now).1 = .ok true
  answers : ∃ q, Answers d r res q
  encoded : toBytes d res = .ok job.wire
  key : job.key = re.keyer.key d (tupleFor d r ((d.typify res now).2.any d.optDo))
  duration : job.duration = storeDuration d re res (d.typify res now).1
  positive : 0 < job.duration

theorem snapshot_returns {d : Deps} (spec : d.MatchSpec) (r res : Msg) (k : Key)
    (duration : Int) : ∃ out, snapshot d r res k duration = .ok out := by
  unfold snapshot
  split
  · obtain ⟨same, value⟩ := responseMatchesRequest_returns spec r res
    rw [value]
    cases same with
    | false => exact ⟨_, rfl⟩
    | true =>
        cases encoded : toBytes d res with
        | error err => exact ⟨_, rfl⟩
        | ok b => exact ⟨_, rfl⟩
  · exact ⟨_, rfl⟩

theorem snapshot_wire_iff {d : Deps} (spec : d.MatchSpec) {r res : Msg} {k : Key}
    {duration : Int} {out : Option Bytes × List Metric}
    (ran : snapshot d r res k duration = .ok out) (b : Bytes) :
    out.1 = some b ↔ k ≠ "" ∧ 0 < duration ∧ (∃ q, Answers d r res q) ∧
      toBytes d res = .ok b := by
  rw [← responseMatchesRequest_iff spec]
  unfold snapshot at ran
  split at ran
  · rename_i wanted
    obtain ⟨same, value⟩ := responseMatchesRequest_returns spec r res
    rw [value] at ran
    cases same with
    | false =>
        cases ran
        simp [value]
    | true =>
        cases encoded : toBytes d res with
        | error err =>
            simp only [encoded, bind, Except.bind] at ran
            cases ran
            simp
        | ok wire =>
            simp only [encoded, bind, Except.bind] at ran
            cases ran
            simp [value, wanted.1, wanted.2]
  · rename_i unwanted
    cases ran
    constructor
    · intro absent
      cases absent
    · intro wanted
      exact absurd ⟨wanted.1, wanted.2.1⟩ unwanted

/-- `WriteMsg` ends without a fault on every reply. -/
theorem writeMsg_returns {d : Deps} (spec : d.MatchSpec) (re : Redis) (r : Msg) (now : Nat)
    (res : Msg) : ∃ out, writeMsg d re r now res = .ok out := by
  obtain ⟨store, decided⟩ := cacheable_returns res (d.typify res now).1
  obtain ⟨snap, taken⟩ := snapshot_returns spec r res
    (if store then re.keyer.key d (tupleFor d r ((d.typify res now).2.any d.optDo)) else "")
    (storeDuration d re res (d.typify res now).1)
  simp only [writeMsg, decided, taken, bind, Except.bind]
  exact ⟨_, rfl⟩

/-- The client's copy has every TTL set, whether or not the reply is stored. -/
theorem writeMsg_client {d : Deps} {re : Redis} {r : Msg} {now : Nat} {res : Msg}
    {out : WriteResult} (ran : writeMsg d re r now res = .ok out) :
    out.client = setMsgTTL res
      (secondsU32 d.castU32 (storeDuration d re res (d.typify res now).1)) := by
  obtain ⟨store, _, ran⟩ := Checked.bind_ok ran
  obtain ⟨snap, _, ran⟩ := Checked.bind_ok ran
  cases ran
  rfl

theorem snapshot_no_key (d : Deps) (r res : Msg) (duration : Int) :
    snapshot d r res "" duration = .ok (none, []) := by
  rw [snapshot, if_neg (by simp)]

/-- The key of a SET is that of the request, with the DO bit of the reply. -/
theorem writeMsg_set_key {d : Deps} {re : Redis} {r : Msg} {now : Nat} {res : Msg}
    {out : WriteResult} {job : SetJob} (ran : writeMsg d re r now res = .ok out)
    (started : out.set = some job) :
    job.key = re.keyer.key d (tupleFor d r ((d.typify res now).2.any d.optDo)) := by
  obtain ⟨store, _, ran⟩ := Checked.bind_ok ran
  obtain ⟨⟨wire, metrics⟩, taken, ran⟩ := Checked.bind_ok ran
  cases ran
  obtain ⟨b, found, rfl⟩ := Option.map_eq_some_iff.mp started
  cases store with
  | true => rfl
  | false =>
      rw [if_neg (by decide), snapshot_no_key] at taken
      cases taken
      cases found

theorem writeMsg_set_iff {d : Deps} (spec : d.MatchSpec) {re : Redis} {r : Msg} {now : Nat}
    {res : Msg} {out : WriteResult} (ran : writeMsg d re r now res = .ok out) (job : SetJob) :
    out.set = some job ↔ Stores d re r now res job := by
  obtain ⟨store, decided, ran⟩ := Checked.bind_ok ran
  obtain ⟨⟨wire, metrics⟩, taken, ran⟩ := Checked.bind_ok ran
  cases ran
  have exactly := snapshot_wire_iff spec taken
  constructor
  · intro started
    obtain ⟨b, found, rfl⟩ := Option.map_eq_some_iff.mp started
    obtain ⟨keyed, positive, answers, encoded⟩ := (exactly b).mp found
    cases store with
    | false => exact absurd rfl keyed
    | true => exact ⟨decided, answers, encoded, rfl, rfl, positive⟩
  · intro stores
    have admitted : store = true := by
      have same := decided.symm.trans stores.admitted
      exact Except.ok.inj same
    subst admitted
    have found : wire = some job.wire := by
      apply (exactly job.wire).mpr
      refine ⟨key_ne_empty d _ _, ?_, stores.answers, stores.encoded⟩
      rw [← stores.duration]
      exact stores.positive
    simp only [found, Option.map_some, ↓reduceIte, ← stores.key, ← stores.duration]

end RedisCache
