import RedisCache.Handler

set_option autoImplicit false

/- The numbers that `WriteMsg` computes with: nanoseconds in 64 bits, and the seconds of
the result in 32. -/

namespace RedisCache

/-- All arithmetic of one `WriteMsg` call is exact: no product wraps, the duration is a
number of seconds that fits the TTL field, the client's records carry that number, and
a SET has an expiry. -/
structure ExactTTL (d : Deps) (re : Redis) (r : Msg) (now : Nat) (res : Msg) : Prop where
  products : ∀ p ∈ minMsgTTLProducts d (d.typify res now).1 res.records maxTTL,
    -(2 ^ 63) ≤ p ∧ p < 2 ^ 63
  unwrapped : minMsgTTLLoop d (d.typify res now).1 res.records maxTTL =
    (minMsgTTLProducts d (d.typify res now).1 res.records maxTTL).getLastD maxTTL
  nonneg : 0 ≤ storeDuration d re res (d.typify res now).1
  whole : second ∣ storeDuration d re res (d.typify res now).1
  fits : storeDuration d re res (d.typify res now).1 < 2 ^ 32 * second
  written : ∃ out, writeMsg d re r now res = .ok out ∧
    (∀ rr ∈ out.client.records, rr.isOPT = false →
      (rr.ttl.toNat : Int) * second = storeDuration d re res (d.typify res now).1) ∧
    ∀ job, out.set = some job → second ≤ job.duration

theorem minMsgTTLProducts_range {d : Deps} {mt : ResponseType} {records : List RR} {start p : Int}
    (member : p ∈ minMsgTTLProducts d mt records start) : -(2 ^ 63) ≤ p ∧ p < 2 ^ 63 := by
  obtain ⟨seconds, rfl⟩ := mem_minMsgTTLProducts member
  have bound := seconds.toNat_lt
  unfold second
  omega

/-- A message alone never makes the duration too long for the TTL field: the floor does. -/
theorem storeDuration_lt_iff (d : Deps) (re : Redis) (res : Msg) (mt : ResponseType) :
    storeDuration d re res mt < ttlLimit ↔ re.minDur mt < ttlLimit := by
  obtain ⟨seconds, ttl⟩ := minMsgTTL_seconds d res mt
  have bound := seconds.toNat_lt
  rw [storeDuration_eq, ttl]
  unfold ttlLimit second
  omega

/-- A SET has a duration of at least one second, whatever the floor is. -/
theorem second_le_duration {d : Deps} {re : Redis} (bounds : re.TTLBounds) (spec : d.MatchSpec)
    {r : Msg} {now : Nat} {res : Msg} {out : WriteResult}
    (ran : writeMsg d re r now res = .ok out) {job : SetJob} (started : out.set = some job) :
    second ≤ job.duration := by
  have stores := (writeMsg_set_iff spec ran job).mp started
  have whole := (storeDuration_range bounds (d.typify res now).1 d res).2
  rw [← stores.duration] at whole
  exact Int.le_of_dvd stores.positive whole

/-- The arithmetic is exact on every reply whose floor is below `2 ^ 32` seconds, and on
no other. -/
theorem exactTTL_iff {std : Std} {d : Deps} {re : Redis} (accepted : Accepted std re)
    (spec : d.MatchSpec) (r : Msg) (now : Nat) (res : Msg) :
    ExactTTL d re r now res ↔ re.minDur (d.typify res now).1 < 2 ^ 32 * second := by
  have bounds := accepted_bounds accepted
  have exactly := storeDuration_lt_iff d re res (d.typify res now).1
  constructor
  · intro exact
    exact exactly.mp exact.fits
  · intro low
    obtain ⟨nonneg, whole⟩ := storeDuration_range bounds (d.typify res now).1 d res
    have fits := exactly.mpr low
    obtain ⟨out, ran⟩ := writeMsg_returns spec re r now res
    refine ⟨fun p member => minMsgTTLProducts_range member, minMsgTTLLoop_eq_last d _ _ _, nonneg,
      whole, fits, out, ran, ?_, ?_⟩
    · intro rr member plain
      rw [client_ttl ran member plain, secondsU32_mul d.castU32 nonneg whole fits]
    · intro job started
      exact second_le_duration bounds spec ran started

/-- A floor of five thousand million seconds is accepted, and the client's record shows
another number. -/
theorem centuries_not_exact :
    Accepted plainStd centuries ∧
      storeDuration sampleDeps centuries sampleReply .noError = 5000000000 * second ∧
      (∃ out, writeMsg sampleDeps centuries sampleQuery 0 sampleReply = .ok out ∧
        ∃ rr ∈ out.client.records, rr.isOPT = false ∧ rr.ttl.toNat = 705032704) ∧
      ¬ ExactTTL sampleDeps centuries sampleQuery 0 sampleReply := by
  have long : storeDuration sampleDeps centuries sampleReply .noError = 5000000000 * second := by
    decide
  obtain ⟨out, ran⟩ := writeMsg_returns sample_match centuries sampleQuery 0 sampleReply
  refine ⟨centuries_accepted, long, ⟨out, ran, ?_⟩, ?_⟩
  · rw [writeMsg_client ran]
    exact ⟨_, List.mem_singleton_self _, rfl, by decide⟩
  · intro exact
    have fits : storeDuration sampleDeps centuries sampleReply .noError < 2 ^ 32 * second :=
      exact.fits
    rw [long] at fits
    revert fits
    decide

theorem sampleReply_exact :
    Accepted plainStd Redis.new ∧ ExactTTL sampleDeps Redis.new sampleQuery 0 sampleReply :=
  ⟨new_accepted, (exactTTL_iff new_accepted sample_match sampleQuery 0 sampleReply).mpr
    (by decide)⟩

end RedisCache
