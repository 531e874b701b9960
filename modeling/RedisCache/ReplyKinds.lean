import Mathlib.Order.MinMax
import RedisCache.TtlLaw

set_option autoImplicit false

/- Replies that `Typify` and the rest of the code take for different things: a CNAME
chain without data, and what is never stored. -/

namespace RedisCache

/-- `Typify` looks at data before anything else but transfers, updates and expired
signatures. -/
def Deps.TypifyAnswer (d : Deps) : Prop :=
  ∀ m now, m.rcode = 0 → m.answer ≠ [] →
    (d.typify m now).1 = .noError ∨ (d.typify m now).1 = .metaMsg ∨
      (d.typify m now).1 = .update ∨ (d.typify m now).1 = .otherError

/-- A denial by `isNODATA`: a chain that ends without data, and an SOA. -/
structure NodataAnswer (res : Msg) (smallest : Nat) : Prop where
  rcode : res.rcode = 0
  data : res.answer ≠ []
  nodata : isNODATA res = .ok true
  soa : hasSOA res = true
  least : (plainTTLs res.records).min? = some smallest

theorem exists_soa {m : Msg} (soa : hasSOA m = true) : ∃ rr ∈ m.ns, rr.isOPT = false := by
  obtain ⟨rr, member, type⟩ := List.any_eq_true.mp soa
  refine ⟨rr, member, ?_⟩
  rw [RR.isOPT, beq_iff_eq.mp type]
  rfl

/-- A stored chain without data is a positive reply. -/
theorem NodataAnswer.positive {d : Deps} (kinds : d.TypifyAnswer) {re : Redis} {r : Msg}
    {now : Nat} {res : Msg} {smallest : Nat} {job : SetJob} (reply : NodataAnswer res smallest)
    (stores : Stores d re r now res job) : PositiveReply d r now res smallest where
  admitted := stores.admitted
  answers := stores.answers
  packs := ⟨job.wire, stores.encoded⟩
  kind := by
    obtain ⟨_, _, notOther, notMeta, notUpdate⟩ := cacheable_true stores.admitted
    rcases kinds res now reply.rcode reply.data with kind | kind | kind | kind
    · exact Or.inl kind
    · exact absurd kind notMeta
    · exact absurd kind notUpdate
    · exact absurd kind notOther
  data := by
    obtain ⟨rr, member, plain⟩ := exists_soa reply.soa
    exact ⟨rr, List.mem_append_right _ member, plain⟩
  least := reply.least

/-- The positive bounds and the TTLs of a reply happen to lie within the bounds for
denials. -/
def WithinDenialBounds (re : Redis) (smallest : Nat) : Prop :=
  (re.nMinTTL ≤ re.pMinTTL ∨
    (re.nMinTTL ≤ re.pMaxTTL ∧ re.nMinTTL ≤ maxTTL ∧ re.nMinTTL ≤ smallest * second)) ∧
  re.pMinTTL ≤ max re.nMinTTL re.nMaxTTL ∧
  (re.pMaxTTL ≤ max re.nMinTTL re.nMaxTTL ∨ maxTTL ≤ max re.nMinTTL re.nMaxTTL ∨
    smallest * second ≤ max re.nMinTTL re.nMaxTTL)

instance (re : Redis) (smallest : Nat) : Decidable (WithinDenialBounds re smallest) :=
  inferInstanceAs (Decidable (_ ∧ _ ∧ _))

/-- A chain without data is stored within the bounds for denials only where the bounds
for positive replies lead there. -/
theorem nodata_bounds_iff {d : Deps} (spec : d.MatchSpec) (kinds : d.TypifyAnswer) {re : Redis}
    {r : Msg} {now : Nat} {res : Msg} {smallest : Nat} (reply : NodataAnswer res smallest)
    {out : WriteResult} {job : SetJob} (ran : writeMsg d re r now res = .ok out)
    (stored : out.set = some job) :
    (re.nMinTTL ≤ job.duration ∧ job.duration ≤ max re.nMinTTL re.nMaxTTL) ↔
      WithinDenialBounds re smallest := by
  have stores := (writeMsg_set_iff spec ran job).mp stored
  rw [stores.duration, storeDuration_positive re (reply.positive kinds stores), le_max_iff,
    le_min_iff, le_min_iff, max_le_iff, min_le_iff, min_le_iff]
  rfl

/-- The reply to `a. IN A` that ends at `b.`, which has no address. -/
def nodataReply (ttl : UInt32) : Msg :=
  { sampleReply with
    answer := [⟨⟨[97, 46], ascii_a⟩, typeCNAME, 1, ttl, .cname ⟨[98, 46], rfl⟩, rfl⟩]
    ns := [sampleSOA ttl] }

/-- `nodataReply`, with the two lower octets of its TTL. -/
def nodataWire (high low : UInt8) : Bytes :=
  [0, 1, 129, 128, 0, 1, 0, 1, 0, 1, 0, 0,
    1, 97, 0, 0, 1, 0, 1,
    1, 97, 0, 0, 5, 0, 1, 0, 0, high, low, 0, 3, 1, 98, 0,
    0, 0, 6, 0, 1, 0, 0, high, low, 0, 22] ++ List.replicate 18 0 ++ [0, 0, 1, 44]

def nodataDeps (ttl : UInt32) (high low : UInt8) : Deps :=
  instanceFor (nodataReply ttl) (nodataWire high low)

theorem instance_typifyAnswer (known : Msg) (wire : Bytes) :
    (instanceFor known wire).TypifyAnswer := by
  intro m now success data
  show typifyMsg m = _ ∨ typifyMsg m = _ ∨ typifyMsg m = _ ∨ typifyMsg m = _
  by_cases update : m.opcode = 5
  · exact Or.inr (Or.inr (Or.inl (if_pos update)))
  · by_cases notify : m.opcode = 4
    · exact Or.inr (Or.inl ((if_neg update).trans (if_pos notify)))
    · by_cases transfer : (m.question.head?.any fun q => q.qtype == 252 || q.qtype == 251) = true
      · exact Or.inr (Or.inl ((if_neg update).trans ((if_neg notify).trans (if_pos transfer))))
      · exact Or.inl ((if_neg update).trans ((if_neg notify).trans ((if_neg transfer).trans
          (if_pos ⟨data, success⟩))))

theorem nodataReply_nodata (ttl : UInt32) : NodataAnswer (nodataReply ttl) ttl.toNat where
  rcode := rfl
  data := List.cons_ne_nil _ _
  nodata := rfl
  soa := rfl
  least := by
    show some (min ttl.toNat ttl.toNat) = some ttl.toNat
    rw [Nat.min_self]

/-- `nodataReply` is stored under the default bounds for the duration of its type. -/
theorem nodataReply_stored (ttl : UInt32) (high low : UInt8)
    (positive : 0 < storeDuration (nodataDeps ttl high low) Redis.new (nodataReply ttl) .noError) :
    ∃ out job, writeMsg (nodataDeps ttl high low) Redis.new sampleQuery 0 (nodataReply ttl) =
        .ok out ∧ out.set = some job ∧
      job.duration =
        storeDuration (nodataDeps ttl high low) Redis.new (nodataReply ttl) .noError := by
  have spec : (nodataDeps ttl high low).MatchSpec := instance_match _ _
  obtain ⟨out, ran⟩ := writeMsg_returns spec Redis.new sampleQuery 0 (nodataReply ttl)
  have packs : toBytes (nodataDeps ttl high low) (nodataReply ttl) =
      .ok (cachePayloadPrefix ++ [0] ++ nodataWire high low) := by
    have stripped : msgWithoutOPT (nodataReply ttl) = nodataReply ttl := rfl
    have packed : (nodataDeps ttl high low).pack (nodataReply ttl) = .ok (nodataWire high low) :=
      if_pos rfl
    rw [toBytes, stripped, packed]
    rfl
  have stored := (writeMsg_set_iff spec ran
    ⟨_, cachePayloadPrefix ++ [0] ++ nodataWire high low, _⟩).mpr
      ⟨rfl, ⟨sampleQuestion, rfl, rfl, rfl, rfl, rfl, rfl⟩, packs, rfl, rfl, positive⟩
  exact ⟨out, _, ran, stored, rfl⟩

/-- Under the default bounds a denial of an hour is stored for an hour, where the
ceiling for denials is half of that. -/
theorem nodataReply_exceeds_bound :
    Accepted plainStd Redis.new ∧ NodataAnswer (nodataReply 3600) 3600 ∧
      ∃ out job, writeMsg (nodataDeps 3600 14 16) Redis.new sampleQuery 0 (nodataReply 3600) =
          .ok out ∧
        out.set = some job ∧ job.duration = 3600 * second ∧
        ¬ job.duration ≤ max Redis.new.nMinTTL Redis.new.nMaxTTL := by
  obtain ⟨out, job, ran, stored, duration⟩ := nodataReply_stored 3600 14 16 (by decide)
  have hour : job.duration = 3600 * second := duration
  refine ⟨new_accepted, nodataReply_nodata 3600, out, job, ran, stored, hour, ?_⟩
  rw [hour]
  decide

/-- A denial of a minute is within the bounds of both kinds. -/
theorem nodataReply_within_bounds :
    ∃ out job, writeMsg (nodataDeps 60 0 60) Redis.new sampleQuery 0 (nodataReply 60) = .ok out ∧
      out.set = some job ∧ Redis.new.nMinTTL ≤ job.duration ∧
      job.duration ≤ max Redis.new.nMinTTL Redis.new.nMaxTTL := by
  obtain ⟨out, job, ran, stored, _⟩ := nodataReply_stored 60 0 60 (by decide)
  exact ⟨out, job, ran, stored, (nodata_bounds_iff (instance_match _ _)
    (instance_typifyAnswer _ _) (nodataReply_nodata 60) ran stored).mpr (by decide)⟩

/-- The types whose replies are never stored. -/
def isUncacheable (mt : ResponseType) : Prop :=
  mt = .metaMsg ∨ mt = .update ∨ mt = .otherError

theorem cacheable_uncacheable {m : Msg} {mt : ResponseType} (kind : isUncacheable mt) :
    cacheable m mt = .ok false := by
  obtain ⟨verdict, decided⟩ := cacheable_returns m mt
  cases verdict with
  | false => exact decided
  | true =>
      obtain ⟨_, _, notOther, notMeta, notUpdate⟩ := cacheable_true decided
      rcases kind with kind | kind | kind
      · exact absurd kind notMeta
      · exact absurd kind notUpdate
      · exact absurd kind notOther

/-- A reply that is not stored still has its TTLs rewritten. -/
theorem writeMsg_uncacheable {d : Deps} {re : Redis} (bounds : re.TTLBounds) (r : Msg)
    {now : Nat} {res : Msg} (kind : isUncacheable (d.typify res now).1) :
    writeMsg d re r now res =
      .ok ⟨setMsgTTL res (secondsU32 d.castU32 re.pMinTTL), none, []⟩ := by
  have other : ¬ isAnswer (d.typify res now).1 := by
    rcases kind with kind | kind | kind <;> simp [isAnswer, kind]
  have duration := storeDuration_other d bounds res other
  simp only [writeMsg, cacheable_uncacheable kind, duration, Bool.false_eq_true, ↓reduceIte,
    snapshot_no_key, bind, Except.bind]
  rfl

/-- `WriteMsg` stores nothing and hands on every record as it came. -/
def PassesIntact (d : Deps) (re : Redis) (r : Msg) (now : Nat) (res : Msg) : Prop :=
  ∃ out, writeMsg d re r now res = .ok out ∧ out.set = none ∧
    out.client.answer = res.answer ∧ out.client.ns = res.ns ∧ out.client.extra = res.extra

theorem setTTL_eq_self_iff {ttl : UInt32} {rr : RR} : rr.setTTL ttl = rr ↔ rr.ttl = ttl := by
  constructor
  · intro same
    rw [← same]
    rfl
  · rintro rfl
    rfl

theorem map_eq_self_iff {f : RR → RR} {records : List RR} :
    records.map f = records ↔ ∀ rr ∈ records, f rr = rr := by
  have pointwise : records.map f = records.map id ↔ ∀ rr ∈ records, f rr = id rr :=
    List.map_inj_left
  rwa [List.map_id] at pointwise

/-- A reply of an uncacheable type keeps its records only if all of them have the
floor for positive replies as their TTL. -/
theorem passes_intact_iff {std : Std} {d : Deps} {re : Redis} (accepted : Accepted std re)
    (r : Msg) {now : Nat} {res : Msg} (kind : isUncacheable (d.typify res now).1) :
    PassesIntact d re r now res ↔
      (∀ rr ∈ res.answer ++ res.ns, rr.ttl = secondsU32 d.castU32 re.pMinTTL) ∧
        ∀ rr ∈ res.extra, rr.isOPT = false → rr.ttl = secondsU32 d.castU32 re.pMinTTL := by
  have ran := writeMsg_uncacheable (accepted_bounds accepted) r kind
  generalize secondsU32 d.castU32 re.pMinTTL = stamp at *
  have kept : ∀ rr : RR, (if rr.isOPT then rr else rr.setTTL stamp) = rr ↔
      (rr.isOPT = false → rr.ttl = stamp) := by
    intro rr
    cases opt : rr.isOPT with
    | true => simp
    | false => simpa using setTTL_eq_self_iff
  have whole : PassesIntact d re r now res ↔ (setMsgTTL res stamp).answer = res.answer ∧
      (setMsgTTL res stamp).ns = res.ns ∧ (setMsgTTL res stamp).extra = res.extra := by
    constructor
    · rintro ⟨out, again, _, same⟩
      rw [ran] at again
      cases again
      exact same
    · intro same
      exact ⟨_, ran, rfl, same⟩
  rw [whole]
  simp only [setMsgTTL, map_eq_self_iff, setTTL_eq_self_iff, kept, List.forall_mem_append,
    and_assoc]

/-- A request to transfer the zone `a.` -/
def transferQuery : Msg := { sampleQuery with question := [⟨⟨[97, 46], ascii_a⟩, 252, 1⟩] }

/-- Its reply, which `Typify` takes to be Meta. -/
def transferReply : Msg := { sampleReply with question := transferQuery.question }

/-- The TTLs of a zone transfer arrive as zeros. -/
theorem transferReply_rewritten :
    Accepted plainStd Redis.new ∧ isUncacheable (sampleDeps.typify transferReply 0).1 ∧
      (∃ out, writeMsg sampleDeps Redis.new transferQuery 0 transferReply = .ok out ∧
        out.set = none ∧ out.client.answer = [sampleRecord.setTTL 0]) ∧
      ¬ PassesIntact sampleDeps Redis.new transferQuery 0 transferReply := by
  have kind : isUncacheable (sampleDeps.typify transferReply 0).1 := Or.inl rfl
  have ran := writeMsg_uncacheable (accepted_bounds new_accepted) transferQuery kind
  refine ⟨new_accepted, kind, ⟨_, ran, rfl, rfl⟩, ?_⟩
  rintro ⟨out, again, _, same, _⟩
  rw [ran] at again
  cases again
  revert same
  decide

/-- `transferReply` with the TTL that it is stamped with below. -/
def stampedReply : Msg := { transferReply with answer := [sampleRecord.setTTL 30] }

theorem stampedReply_intact :
    PassesIntact sampleDeps halfMinute transferQuery 0 stampedReply := by
  apply (passes_intact_iff halfMinute_accepted transferQuery (Or.inl rfl)).mpr
  decide

end RedisCache
