import RedisCache.ResponseWriter

set_option autoImplicit false

/- How long a reply is stored and what TTL its client sees, against what the
documentation says: `max(min, min(record_TTL, max))`. -/

namespace RedisCache

/-- The largest duration whose seconds fit the TTL field, plus one second. -/
def ttlLimit : Int := 2 ^ 32 * second

/-- One `WriteMsg` call stores the reply for a duration, unless that is zero, and
hands it to the client with the same duration in every TTL. -/
def WritesFor (d : Deps) (re : Redis) (r : Msg) (now : Nat) (res : Msg) (duration : Int) :
    Prop :=
  ∃ out, writeMsg d re r now res = .ok out ∧
    out.set.map SetJob.duration = (if 0 < duration then some duration else none) ∧
    ∀ rr ∈ out.client.records, rr.isOPT = false → (rr.ttl.toNat : Int) * second = duration

/-- A reply that nothing but its duration can keep out of the store. -/
structure Storable (d : Deps) (r : Msg) (now : Nat) (res : Msg) : Prop where
  admitted : cacheable res (d.typify res now).1 = .ok true
  answers : ∃ q, Answers d r res q
  packs : ∃ wire, toBytes d res = .ok wire

section Writing

variable {d : Deps} {r : Msg} {now : Nat} {res : Msg}

theorem writeMsg_set_duration {re : Redis} (spec : d.MatchSpec) (storable : Storable d r now res)
    {out : WriteResult} (ran : writeMsg d re r now res = .ok out) :
    out.set.map SetJob.duration =
      (if 0 < storeDuration d re res (d.typify res now).1 then
        some (storeDuration d re res (d.typify res now).1) else none) := by
  obtain ⟨wire, packs⟩ := storable.packs
  split
  · rename_i positive
    have started := (writeMsg_set_iff spec ran ⟨_, wire, _⟩).mpr
      ⟨storable.admitted, storable.answers, packs, rfl, rfl, positive⟩
    rw [started]
    rfl
  · rename_i nonpositive
    cases started : out.set with
    | none => rfl
    | some job =>
        have stores := (writeMsg_set_iff spec ran job).mp started
        have positive := stores.positive
        rw [stores.duration] at positive
        exact absurd positive nonpositive

/-- The TTL that a whole number of seconds is turned into says that number,
provided it fits. -/
theorem secondsU32_mul (outOfRange : Int → UInt32) {duration : Int} (lower : 0 ≤ duration)
    (whole : second ∣ duration) (fits : duration < ttlLimit) :
    ((secondsU32 outOfRange duration).toNat : Int) * second = duration := by
  rw [secondsU32_toNat outOfRange lower fits]
  exact Int.ediv_mul_cancel whole

/-- Every record of the client's copy carries the duration computed for the reply. -/
theorem client_ttl {re : Redis} {out : WriteResult} (ran : writeMsg d re r now res = .ok out)
    {rr : RR} (member : rr ∈ out.client.records) (plain : rr.isOPT = false) :
    rr.ttl = secondsU32 d.castU32 (storeDuration d re res (d.typify res now).1) := by
  rw [writeMsg_client ran] at member
  exact setMsgTTL_ttl member plain

theorem exists_client_record {re : Redis} {out : WriteResult}
    (ran : writeMsg d re r now res = .ok out) (data : ∃ rr ∈ res.records, rr.isOPT = false) :
    ∃ rr ∈ out.client.records, rr.isOPT = false := by
  obtain ⟨rr, member, plain⟩ := data
  rw [writeMsg_client ran]
  exact ⟨_, mem_setMsgTTL _ member plain, plain⟩

/-- Storing and stamping agree on a duration exactly when it is the one computed
and its seconds fit the TTL field. -/
theorem writesFor_iff (re : Redis) (spec : d.MatchSpec) (storable : Storable d r now res)
    (data : ∃ rr ∈ res.records, rr.isOPT = false)
    (lower : 0 ≤ storeDuration d re res (d.typify res now).1)
    (whole : second ∣ storeDuration d re res (d.typify res now).1) (duration : Int) :
    WritesFor d re r now res duration ↔
      storeDuration d re res (d.typify res now).1 = duration ∧ duration < ttlLimit := by
  obtain ⟨out, ran⟩ := writeMsg_returns spec re r now res
  have stored := writeMsg_set_duration spec storable ran
  have carried : ∀ rr ∈ out.client.records, rr.isOPT = false →
      rr.ttl = secondsU32 d.castU32 (storeDuration d re res (d.typify res now).1) :=
    fun _ member plain => client_ttl ran member plain
  generalize storeDuration d re res (d.typify res now).1 = computed at *
  constructor
  · intro ⟨other, again, set, stamped⟩
    rw [ran] at again
    cases again
    obtain ⟨rr, member, plain⟩ := exists_client_record ran data
    have stamp := stamped rr member plain
    rw [carried rr member plain] at stamp
    by_cases fits : computed < ttlLimit
    · rw [secondsU32_mul d.castU32 lower whole fits] at stamp
      exact ⟨stamp, stamp ▸ fits⟩
    · have large : 0 < computed := by
        unfold ttlLimit second at fits
        omega
      have bound := (secondsU32 d.castU32 computed).toNat_lt
      rw [stored, if_pos large] at set
      split at set
      · have same := Option.some.inj set
        unfold ttlLimit second at *
        omega
      · cases set
  · intro ⟨same, fits⟩
    subst same
    refine ⟨out, ran, stored, ?_⟩
    intro rr member plain
    rw [carried rr member plain, secondsU32_mul d.castU32 lower whole fits]

end Writing

/-- The duration that the documentation gives a positive reply. -/
def documentedTTL (re : Redis) (smallest : Nat) : Int :=
  max re.pMinTTL (min re.pMaxTTL (smallest * second))

/-- A positive reply with data whose smallest TTL is given. -/
structure PositiveReply (d : Deps) (r : Msg) (now : Nat) (res : Msg) (smallest : Nat) : Prop
    extends Storable d r now res where
  kind : (d.typify res now).1 = .noError ∨ (d.typify res now).1 = .delegation
  data : ∃ rr ∈ res.answer ++ res.ns, rr.isOPT = false
  least : (plainTTLs res.records).min? = some smallest

theorem length_of_mem_sections {res : Msg} {rr : RR} (member : rr ∈ res.answer ++ res.ns) :
    res.answer.length + res.ns.length ≠ 0 := by
  have bound := List.length_pos_of_mem member
  rw [List.length_append] at bound
  omega

theorem storeDuration_positive {d : Deps} (re : Redis) {r : Msg} {now : Nat} {res : Msg}
    {smallest : Nat} (reply : PositiveReply d r now res smallest) :
    storeDuration d re res (d.typify res now).1 =
      max re.pMinTTL (min re.pMaxTTL (min maxTTL (smallest * second))) := by
  obtain ⟨rr, member, _⟩ := reply.data
  have affirmative : ¬ isDenial (d.typify res now).1 := by
    rcases reply.kind with kind | kind <;> rw [kind] <;> decide
  rw [storeDuration_of_not_denial d re res affirmative,
    minMsgTTL_positive d res _ reply.kind (length_of_mem_sections member) smallest reply.least]

theorem maxTTL_lt_ttlLimit : maxTTL < ttlLimit := by decide

theorem ttl_lt_ttlLimit {d : Deps} {r : Msg} {now : Nat} {res : Msg} {smallest : Nat}
    (reply : PositiveReply d r now res smallest) : smallest * second < ttlLimit := by
  obtain ⟨rr, _, _, value⟩ := mem_plainTTLs.mp (List.min?_mem reply.least)
  have bound := rr.ttl.toNat_lt
  unfold ttlLimit second
  omega

/-- When a ceiling on the TTL that the law does not know changes nothing. -/
theorem capped_eq_iff {low high ttl cap limit : Int} (capFits : cap < limit)
    (ttlFits : ttl < limit) :
    (max low (min high (min cap ttl)) = max low (min high ttl) ∧
        max low (min high ttl) < limit) ↔
      (ttl ≤ cap ∨ high ≤ cap ∨ min high ttl ≤ low) ∧ low < limit := by
  omega

/-- The TTL law for positive replies holds up to the hour that the minimum starts
from, and for floors that fit the TTL field. -/
theorem positive_ttl_law_iff {std : Std} {d : Deps} {re : Redis} {r : Msg} {now : Nat}
    {res : Msg} {smallest : Nat} (accepted : Accepted std re) (spec : d.MatchSpec)
    (reply : PositiveReply d r now res smallest) :
    WritesFor d re r now res (documentedTTL re smallest) ↔
      (smallest * second ≤ maxTTL ∨ re.pMaxTTL ≤ maxTTL ∨
        min re.pMaxTTL (smallest * second) ≤ re.pMinTTL) ∧ re.pMinTTL < ttlLimit := by
  have computed := storeDuration_positive re reply
  obtain ⟨lower, whole⟩ :=
    storeDuration_range (accepted_bounds accepted) (d.typify res now).1 d res
  have data : ∃ rr ∈ res.records, rr.isOPT = false := by
    obtain ⟨rr, member, plain⟩ := reply.data
    exact ⟨rr, List.mem_append_left _ member, plain⟩
  rw [writesFor_iff re spec reply.toStorable data lower whole, computed, documentedTTL]
  exact capped_eq_iff maxTTL_lt_ttlLimit (ttl_lt_ttlLimit reply)

/-- The standard library on the arguments used below: integers without a unit. -/
def plainStd : Std where
  parseDuration s := .error ("time: missing unit in duration " ++ s)
  showDuration d := toString (d / second) ++ "s"
  quote s := "\"" ++ s ++ "\""
  normalizeExact s := [s]

/-- The configuration `success 7200`. -/
def twoHours : Redis := { Redis.new with pMaxTTL := 7200 * second }

theorem twoHours_accepted : Accepted plainStd twoHours :=
  ⟨⟨["."], [], [.success ["7200"]], false⟩, by decide +kernel⟩

/-- `sampleReply` with a TTL of two hours. -/
def longReply : Msg := { sampleReply with answer := [{ sampleRecord with ttl := 7200 }] }

def longWire : Bytes :=
  [0, 1, 129, 128, 0, 1, 0, 1, 0, 0, 0, 0,
    1, 97, 0, 0, 1, 0, 1,
    1, 97, 0, 0, 1, 0, 1, 0, 0, 28, 32, 0, 4, 192, 0, 2, 1]

def longDeps : Deps := instanceFor longReply longWire

theorem longReply_positive : PositiveReply longDeps sampleQuery 0 longReply 7200 where
  admitted := rfl
  answers := ⟨sampleQuestion, rfl, rfl, rfl, rfl, rfl, rfl⟩
  packs := ⟨_, rfl⟩
  kind := Or.inl rfl
  data := ⟨_, List.mem_singleton_self _, rfl⟩
  least := rfl

/-- A reply of two hours under a ceiling of two hours is stored for one. -/
theorem longReply_breaks_law :
    Accepted plainStd twoHours ∧ PositiveReply longDeps sampleQuery 0 longReply 7200 ∧
      documentedTTL twoHours 7200 = 7200 * second ∧
      WritesFor longDeps twoHours sampleQuery 0 longReply (3600 * second) ∧
      ¬ WritesFor longDeps twoHours sampleQuery 0 longReply (documentedTTL twoHours 7200) := by
  have exactly := writesFor_iff twoHours (instance_match longReply longWire)
    longReply_positive.toStorable ⟨_, List.mem_singleton_self _, rfl⟩ (by decide) (by decide)
  refine ⟨twoHours_accepted, longReply_positive, by decide, ?_, ?_⟩
  · exact (exactly _).mpr ⟨by decide, by decide⟩
  · intro law
    have same := ((exactly _).mp law).1
    revert same
    decide

theorem sampleReply_positive : PositiveReply sampleDeps sampleQuery 0 sampleReply 60 where
  admitted := rfl
  answers := ⟨sampleQuestion, rfl, rfl, rfl, rfl, rfl, rfl⟩
  packs := ⟨_, rfl⟩
  kind := Or.inl rfl
  data := ⟨_, List.mem_singleton_self _, rfl⟩
  least := rfl

/-- Below the hour the law holds. -/
theorem sampleReply_keeps_law :
    Accepted plainStd twoHours ∧ PositiveReply sampleDeps sampleQuery 0 sampleReply 60 ∧
      WritesFor sampleDeps twoHours sampleQuery 0 sampleReply (documentedTTL twoHours 60) :=
  ⟨twoHours_accepted, sampleReply_positive,
    (positive_ttl_law_iff twoHours_accepted sample_match sampleReply_positive).mpr
      (by decide)⟩

/-- No copy of the reply lives longer than a bound: not the stored one and not
that of the client. -/
def LifeBounded (d : Deps) (re : Redis) (r : Msg) (now : Nat) (res : Msg) (bound : Int) :
    Prop :=
  ∃ out, writeMsg d re r now res = .ok out ∧
    (∀ job, out.set = some job → job.duration ≤ bound) ∧
    ∀ rr ∈ out.client.records, rr.isOPT = false → (rr.ttl.toNat : Int) * second ≤ bound

/-- No record reaches the client with a larger TTL than upstream gave it. -/
def TTLsNotRaised (d : Deps) (re : Redis) (r : Msg) (now : Nat) (res : Msg) : Prop :=
  ∃ out, writeMsg d re r now res = .ok out ∧
    List.Forall₂ (fun old new => old.isOPT = false → new.ttl ≤ old.ttl)
      res.records out.client.records

/-- What a denial must not outlive, in seconds: the MINIMUM of its authority SOA, where it
has one, and the TTL of every record but OPT. -/
def denialLimits (res : Msg) : List Nat := (soaMinimum res.ns).toList ++ plainTTLs res.records

/-- The bound on the life of a denial: the smallest of its limits, between the bounds of
the configuration. -/
def denialBound (re : Redis) (res : Msg) : Int :=
  match (denialLimits res).min? with
  | some smallest => max re.nMinTTL (min re.nMaxTTL (smallest * second))
  | none => max re.nMinTTL re.nMaxTTL

section Life

variable {d : Deps} {re : Redis} {r : Msg} {now : Nat} {res : Msg}

theorem lifeBounded_of_le (re : Redis) (r : Msg) (now : Nat) (res : Msg) (spec : d.MatchSpec)
    (lower : 0 ≤ storeDuration d re res (d.typify res now).1) {bound : Int}
    (short : storeDuration d re res (d.typify res now).1 ≤ bound) :
    LifeBounded d re r now res bound := by
  obtain ⟨out, ran⟩ := writeMsg_returns spec re r now res
  refine ⟨out, ran, ?_, ?_⟩
  · intro job started
    rw [((writeMsg_set_iff spec ran job).mp started).duration]
    exact short
  · intro rr member plain
    rw [client_ttl ran member plain]
    exact Int.le_trans (secondsU32_le d.castU32 lower) short

theorem lifeBounded_iff (re : Redis) (r : Msg) (now : Nat) (res : Msg) (spec : d.MatchSpec)
    (data : ∃ rr ∈ res.records, rr.isOPT = false)
    (lower : 0 ≤ storeDuration d re res (d.typify res now).1)
    (whole : second ∣ storeDuration d re res (d.typify res now).1) (bound : Int)
    (fits : storeDuration d re res (d.typify res now).1 < ttlLimit ∨
      storeDuration d re res (d.typify res now).1 ≤ bound) :
    LifeBounded d re r now res bound ↔
      storeDuration d re res (d.typify res now).1 ≤ bound := by
  constructor
  · intro ⟨out, ran, _, stamped⟩
    rcases fits with fits | settled
    · obtain ⟨rr, member, plain⟩ := exists_client_record ran data
      have stamp := stamped rr member plain
      rwa [client_ttl ran member plain, secondsU32_mul d.castU32 lower whole fits] at stamp
    · exact settled
  · exact lifeBounded_of_le re r now res spec lower

/-- A bound by every TTL of the reply keeps each record from being raised. -/
theorem not_raised_of_bounded {bound : Int} (bounded : LifeBounded d re r now res bound)
    (below : ∀ rr ∈ res.records, rr.isOPT = false → bound ≤ (rr.ttl.toNat : Int) * second) :
    TTLsNotRaised d re r now res := by
  obtain ⟨out, ran, _, stamped⟩ := bounded
  refine ⟨out, ran, ?_⟩
  rw [writeMsg_client ran] at stamped ⊢
  generalize secondsU32 d.castU32 (storeDuration d re res (d.typify res now).1) = ttl at *
  have kept : ∀ rr ∈ res.records, rr.isOPT = false → ttl ≤ rr.ttl := by
    intro rr member plain
    have stamp := stamped _ (mem_setMsgTTL ttl member plain) plain
    have room := below rr member plain
    rw [setTTL_ttl] at stamp
    rw [UInt32.le_iff_toNat_le]
    unfold second at *
    omega
  simp only [Msg.records, List.mem_append] at kept
  refine List.rel_append (List.rel_append ?_ ?_) ?_ <;>
    apply List.forall₂_map_right_iff.mpr <;> apply List.forall₂_same.mpr
  · exact fun rr member plain => kept rr (Or.inl (Or.inl member)) plain
  · exact fun rr member plain => kept rr (Or.inl (Or.inr member)) plain
  · intro rr member plain
    rw [if_neg (by simp [plain])]
    exact kept rr (Or.inr member) plain

theorem storeDuration_denial (re : Redis) (denial : isDenial (d.typify res now).1) :
    storeDuration d re res (d.typify res now).1 =
      max re.nMinTTL (min re.nMaxTTL (denialSeconds res * second)) := by
  rw [storeDuration_of_denial d re res denial, minMsgTTL_denial d res denial]

theorem denialSeconds_fits (res : Msg) : denialSeconds res * second < ttlLimit := by
  unfold denialSeconds
  split
  · decide
  · cases found : soaMinimum res.records with
    | none => decide
    | some minimum =>
        have bound := soaMinimum_lt found
        rw [Option.getD_some]
        unfold ttlLimit second
        omega

/-- Where there is a limit there is a record that carries a TTL. -/
theorem exists_plain_of_limit {limit : Nat} (member : limit ∈ denialLimits res) :
    ∃ rr ∈ res.records, rr.isOPT = false := by
  rcases List.mem_append.mp member with minimum | ttl
  · obtain ⟨soa, inside, kind⟩ := soa_of_soaMinimum (Option.mem_toList.mp minimum)
    refine ⟨soa, List.mem_append_left _ (List.mem_append_right _ inside), ?_⟩
    rw [RR.isOPT, kind]
    rfl
  · obtain ⟨rr, inside, plain, _⟩ := mem_plainTTLs.mp ttl
    exact ⟨rr, inside, plain⟩

/-- What a denial is kept for is never a TTL of the reply, so that its life is bounded
exactly where the seconds it is worth, or the ceiling, are below all limits. -/
theorem denial_lifeBounded_iff (bounds : re.TTLBounds) (spec : d.MatchSpec)
    (denial : isDenial (d.typify res now).1) :
    LifeBounded d re r now res (denialBound re res) ↔
      min re.nMaxTTL (denialSeconds res * second) ≤ re.nMinTTL ∨
        ∀ limit ∈ denialLimits res,
          min re.nMaxTTL (denialSeconds res * second) ≤ limit * second := by
  have computed := storeDuration_denial re denial
  have fits := denialSeconds_fits res
  obtain ⟨lower, whole⟩ := storeDuration_range bounds (d.typify res now).1 d res
  unfold denialBound
  cases least : (denialLimits res).min? with
  | none =>
      have unlimited : denialLimits res = [] := List.min?_eq_none_iff.mp least
      have bounded : LifeBounded d re r now res (max re.nMinTTL re.nMaxTTL) :=
        lifeBounded_of_le re r now res spec lower (by rw [computed]; omega)
      simp only [unlimited, bounded, List.not_mem_nil, false_implies, implies_true, or_true]
  | some smallest =>
      obtain ⟨member, low⟩ := List.min?_eq_some_iff.mp least
      have all : (∀ limit ∈ denialLimits res,
          min re.nMaxTTL (denialSeconds res * second) ≤ limit * second) ↔
          min re.nMaxTTL (denialSeconds res * second) ≤ smallest * second := by
        constructor
        · intro below
          exact below smallest member
        · intro below limit inside
          have least := low limit inside
          unfold second at below ⊢
          omega
      dsimp only
      rw [all, lifeBounded_iff re r now res spec (exists_plain_of_limit member) lower whole,
        computed]
      · omega
      · rw [computed]
        omega

theorem denialBound_le (floor : re.nMinTTL = 0) :
    ∀ rr ∈ res.records, rr.isOPT = false →
      denialBound re res ≤ (rr.ttl.toNat : Int) * second := by
  intro rr member plain
  have listed : rr.ttl.toNat ∈ denialLimits res :=
    List.mem_append_right _ (mem_plainTTLs.mpr ⟨rr, member, plain, rfl⟩)
  obtain ⟨smallest, least⟩ := Option.isSome_iff_exists.mp (List.isSome_min?_of_mem listed)
  have low := (List.min?_eq_some_iff.mp least).2 _ listed
  simp only [denialBound, least, floor]
  unfold second
  omega

end Life

/-- No denial outlives its SOA's MINIMUM or any of its records, and without a
floor no TTL is raised. -/
def NoLifeExtension (d : Deps) (re : Redis) (r : Msg) (now : Nat) (res : Msg) : Prop :=
  LifeBounded d re r now res (denialBound re res) ∧
    (re.nMinTTL = 0 → TTLsNotRaised d re r now res)

/-- The exact denials, with or without an SOA, whose life is not extended: those for which
the seconds they are worth, or the ceiling, are below the floor or below all limits. -/
theorem denial_life_iff {std : Std} {d : Deps} {re : Redis} (accepted : Accepted std re)
    (spec : d.MatchSpec) (r : Msg) (now : Nat) (res : Msg)
    (denial : isDenial (d.typify res now).1) :
    NoLifeExtension d re r now res ↔
      min re.nMaxTTL (denialSeconds res * second) ≤ re.nMinTTL ∨
        ∀ limit ∈ denialLimits res,
          min re.nMaxTTL (denialSeconds res * second) ≤ limit * second := by
  have exactly := denial_lifeBounded_iff (r := r) (accepted_bounds accepted) spec denial
  constructor
  · intro kept
    exact exactly.mp kept.1
  · intro below
    have bounded := exactly.mpr below
    refine ⟨bounded, ?_⟩
    intro floor
    exact not_raised_of_bounded bounded (denialBound_le floor)

/-- The authority record `. IN SOA` with a MINIMUM of 300. -/
def sampleSOA (ttl : UInt32) : RR :=
  ⟨⟨[46], ascii_root⟩, typeSOA, 1, ttl, .soa 300 (List.replicate 18 0), rfl⟩

/-- `a.` does not exist. -/
def denialReply (ttl : UInt32) : Msg :=
  { sampleReply with rcode := 3, answer := [], ns := [sampleSOA ttl] }

/-- `denialReply`, with the two lower octets of its TTL. -/
def denialWire (high low : UInt8) : Bytes :=
  [0, 1, 129, 131, 0, 1, 0, 0, 0, 1, 0, 0,
    1, 97, 0, 0, 1, 0, 1,
    0, 0, 6, 0, 1, 0, 0, high, low, 0, 22] ++ List.replicate 18 0 ++ [0, 0, 1, 44]

def denialDeps (ttl : UInt32) (high low : UInt8) : Deps :=
  instanceFor (denialReply ttl) (denialWire high low)

theorem new_accepted : Accepted plainStd Redis.new :=
  ⟨⟨["."], [], [], false⟩, by decide +kernel⟩

/-- An SOA that upstream has counted down to ten seconds is raised to 300, in the
store and for the client. -/
theorem denialReply_extends_life :
    Accepted plainStd Redis.new ∧
      ((denialDeps 10 0 10).typify (denialReply 10) 0).1 = .nameError ∧
      hasSOA (denialReply 10) = true ∧ denialLimits (denialReply 10) = [300, 10] ∧
      denialBound Redis.new (denialReply 10) = 10 * second ∧
      WritesFor (denialDeps 10 0 10) Redis.new sampleQuery 0 (denialReply 10) (300 * second) ∧
      ¬ NoLifeExtension (denialDeps 10 0 10) Redis.new sampleQuery 0 (denialReply 10) := by
  have data : ∃ rr ∈ (denialReply 10).records, rr.isOPT = false :=
    ⟨_, List.mem_singleton_self _, rfl⟩
  have storable : Storable (denialDeps 10 0 10) sampleQuery 0 (denialReply 10) :=
    ⟨rfl, ⟨sampleQuestion, rfl, rfl, rfl, rfl, rfl, rfl⟩, _, rfl⟩
  have stamped := writesFor_iff Redis.new (instance_match (denialReply 10) (denialWire 0 10))
    storable data (by decide) (by decide)
  have exactly := lifeBounded_iff Redis.new sampleQuery 0 (denialReply 10)
    (instance_match (denialReply 10) (denialWire 0 10)) data (by decide) (by decide)
  refine ⟨new_accepted, rfl, rfl, rfl, by decide, ?_, ?_⟩
  · exact (stamped _).mpr ⟨by decide, by decide⟩
  · intro kept
    have short := (exactly _ (Or.inl (by decide))).mp kept.1
    revert short
    decide

/-- An SOA that still has more than its MINIMUM left is not raised. -/
theorem denialReply_keeps_life :
    Accepted plainStd Redis.new ∧
      isDenial ((denialDeps 400 1 144).typify (denialReply 400) 0).1 ∧
      denialBound Redis.new (denialReply 400) = 300 * second ∧
      NoLifeExtension (denialDeps 400 1 144) Redis.new sampleQuery 0 (denialReply 400) := by
  have denial : isDenial ((denialDeps 400 1 144).typify (denialReply 400) 0).1 := Or.inl rfl
  refine ⟨new_accepted, denial, by decide, ?_⟩
  exact (denial_life_iff new_accepted (instance_match _ _) sampleQuery 0 (denialReply 400)
    denial).mpr (by decide)

/-- The reply types that the documentation lets into the cache. -/
def isAnswer (mt : ResponseType) : Prop :=
  mt = .noError ∨ mt = .delegation ∨ mt = .nameError ∨ mt = .noData

/-- A SET is issued only for an answer that is not truncated. -/
def OnlyAnswersStored (d : Deps) (re : Redis) (r : Msg) (now : Nat) (res : Msg) : Prop :=
  ∃ out, writeMsg d re r now res = .ok out ∧
    ∀ job, out.set = some job → isAnswer (d.typify res now).1 ∧ res.truncated = false

/-- What is no answer has a zero duration, which the floor for positive replies lifts. -/
theorem storeDuration_other (d : Deps) {re : Redis} (bounds : re.TTLBounds) (res : Msg)
    {mt : ResponseType} (other : ¬ isAnswer mt) : storeDuration d re res mt = re.pMinTTL := by
  have kinds : mt ≠ .noError ∧ mt ≠ .delegation ∧ mt ≠ .nameError ∧ mt ≠ .noData := by
    simpa only [isAnswer, not_or] using other
  have affirmative : ¬ isDenial mt := by
    rintro (denied | empty)
    · exact kinds.2.2.1 denied
    · exact kinds.2.2.2 empty
  have floor := bounds.pMinNonneg
  have ceiling := bounds.pMaxPos
  rw [storeDuration_of_not_denial d re res affirmative, minMsgTTL_other d res kinds]
  omega

theorem isAnswer_of_cacheable {m : Msg} {mt : ResponseType} (accepted : cacheable m mt = .ok true)
    (other : mt ≠ .serverError) : isAnswer mt := by
  obtain ⟨_, _, notOther, notMeta, notUpdate⟩ := cacheable_true accepted
  unfold isAnswer
  cases mt <;> simp_all

/-- Only a server failure can slip in, and it does so exactly when the floor for
positive replies lifts its zero duration. -/
theorem only_answers_stored_iff {std : Std} {d : Deps} {re : Redis} (accepted : Accepted std re)
    (spec : d.MatchSpec) (r : Msg) (now : Nat) (res : Msg) :
    OnlyAnswersStored d re r now res ↔
      ¬ ((d.typify res now).1 = .serverError ∧ 0 < re.pMinTTL ∧ res.truncated = false ∧
        (∃ q, Answers d r res q) ∧ ∃ wire, toBytes d res = .ok wire) := by
  have failure : storeDuration d re res .serverError = re.pMinTTL :=
    storeDuration_other d (accepted_bounds accepted) res (by simp [isAnswer])
  obtain ⟨out, ran⟩ := writeMsg_returns spec re r now res
  have started := writeMsg_set_iff spec ran
  constructor
  · intro ⟨other, again, answers⟩ ⟨kind, floor, whole, ⟨q, matched⟩, wire, packs⟩
    rw [ran] at again
    cases again
    have admitted : cacheable res (d.typify res now).1 = .ok true := by
      rw [kind, cacheable_serverError, matched.single, whole]
      rfl
    have positive : 0 < storeDuration d re res (d.typify res now).1 := by
      rw [kind, failure]
      exact floor
    have stored := (started ⟨_, wire, _⟩).mpr
      ⟨admitted, ⟨q, matched⟩, packs, rfl, rfl, positive⟩
    have answer := (answers _ stored).1
    rw [kind] at answer
    rcases answer with wrong | wrong | wrong | wrong <;> cases wrong
  · intro outside
    refine ⟨out, ran, ?_⟩
    intro job stored
    have stores := (started job).mp stored
    have whole := (cacheable_true stores.admitted).2.1
    refine ⟨isAnswer_of_cacheable stores.admitted ?_, whole⟩
    intro kind
    have positive := stores.positive
    rw [stores.duration, kind, failure] at positive
    exact outside ⟨kind, positive, whole, stores.answers, _, stores.encoded⟩

/-- The configuration `success 3600 30`. -/
def halfMinute : Redis := { Redis.new with pMinTTL := 30 * second }

theorem halfMinute_accepted : Accepted plainStd halfMinute :=
  ⟨⟨["."], [], [.success ["3600", "30"]], false⟩, by decide +kernel⟩

/-- A SERVFAIL reply to `sampleQuery`. -/
def servfailReply : Msg := { sampleReply with rcode := 2, answer := [] }

def servfailWire : Bytes :=
  [0, 1, 129, 130, 0, 1, 0, 0, 0, 0, 0, 0,
    1, 97, 0, 0, 1, 0, 1]

def servfailDeps : Deps := instanceFor servfailReply servfailWire

/-- With a floor for positive replies a server failure is stored for that long. -/
theorem servfailReply_stored :
    Accepted plainStd halfMinute ∧
      (servfailDeps.typify servfailReply 0).1 = .serverError ∧
      (∃ out job, writeMsg servfailDeps halfMinute sampleQuery 0 servfailReply = .ok out ∧
        out.set = some job ∧ job.duration = 30 * second) ∧
      ¬ OnlyAnswersStored servfailDeps halfMinute sampleQuery 0 servfailReply := by
  obtain ⟨out, ran⟩ := writeMsg_returns (instance_match servfailReply servfailWire) halfMinute
    sampleQuery 0 servfailReply
  have stored := (writeMsg_set_iff (instance_match servfailReply servfailWire) ran
    ⟨_, cachePayloadPrefix ++ [0] ++ servfailWire, 30 * second⟩).mpr
      ⟨rfl, ⟨sampleQuestion, rfl, rfl, rfl, rfl, rfl, rfl⟩, rfl, rfl, by decide, by decide⟩
  refine ⟨halfMinute_accepted, rfl, ⟨out, _, ran, stored, rfl⟩, ?_⟩
  intro ⟨other, again, answers⟩
  have same : other = out := Except.ok.inj (again.symm.trans ran)
  subst same
  have answer := (answers _ stored).1
  revert answer
  unfold isAnswer
  decide

/-- Without a floor it is not. -/
theorem servfailReply_refused :
    Accepted plainStd Redis.new ∧
      OnlyAnswersStored servfailDeps Redis.new sampleQuery 0 servfailReply := by
  refine ⟨new_accepted,
    (only_answers_stored_iff new_accepted (instance_match _ _) sampleQuery 0 servfailReply).mpr ?_⟩
  intro ⟨_, floor, _⟩
  revert floor
  decide

end RedisCache
