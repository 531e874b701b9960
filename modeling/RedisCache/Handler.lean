import RedisCache.StoredReply
import RedisCache.TtlLaw

set_option autoImplicit false

/- The plugin's handler, and what a client sees of a cached reply. -/

namespace RedisCache

/-- How `ServeDNS` ends: with a message written to the client and the values it
returns, or with plugin.NextOrFailure, given the response writer that stores
replies or the one it was called with. -/
inductive Ending
  | answered (m : Msg) (rcode : Nat) (err : Option GoError)
  | nextOrFailure (storing : Bool)
deriving DecidableEq, Repr

structure ServeResult where
  ending : Ending
  evicted : List Key
  metrics : List Metric
deriving DecidableEq, Repr

/-- The fix-ups of `ServeDNS` on a fetched message. -/
def hitReply (d : Deps) (r m : Msg) : Msg :=
  let rcode := m.rcode
  let replied := d.setReply m r
  let restored := { replied with rcode := rcode, authoritative := true }
  if !d.reqDo r && !r.authenticatedData then { restored with authenticatedData := false }
  else restored

/-- `Redis.ServeDNS`, given what the two Redis commands returned. `write` is the
WriteMsg of the client's response writer. -/
def serveDNS (d : Deps) (re : Redis) (r : Msg) (write : Msg → Option GoError)
    (getCmd : Except GoError Bytes) (ttlCmd : Except GoError Int) : Go ServeResult :=
  if d.zonesMatches re.zones (d.reqName r) = "" then .ok ⟨.nextOrFailure false, [], []⟩
  else do
    let found ← Redis.get d re r getCmd ttlCmd
    match found.hit with
    | some m =>
        let reply := hitReply d r m
        .ok ⟨.answered reply reply.rcode (write reply), found.evicted, found.metrics⟩
    | none => .ok ⟨.nextOrFailure true, found.evicted, found.metrics⟩

/-- The reply a client is due from a stored one: the header fields of its own
request, AA set, AD only if it asked for it, no OPT, and one TTL throughout. -/
def transparentReply (d : Deps) (res r : Msg) (ttl : UInt32) : Msg :=
  { res with
    id := r.id
    opcode := r.opcode
    question := if r.question = [] then res.question else r.question.take 1
    recursionDesired := r.recursionDesired
    checkingDisabled := r.checkingDisabled
    authoritative := true
    authenticatedData := res.authenticatedData && (d.reqDo r || r.authenticatedData)
    answer := res.answer.map (RR.setTTL ttl)
    ns := res.ns.map (RR.setTTL ttl)
    extra := (res.extra.filter fun rr => !rr.isOPT).map (RR.setTTL ttl) }

theorem decodedReply_extra (res : Msg) (ttl : UInt32) : (decodedReply res ttl).extra =
    (res.extra.filter fun rr => !rr.isOPT).map (RR.setTTL ttl) := by
  apply List.map_congr_left
  intro rr member
  rw [if_neg (by simp [msgWithoutOPT_noOPT res rr member])]

/-- The fix-ups touch no record. -/
theorem hitReply_sections {d : Deps} (copies : d.SetReplySpec) (r m : Msg) :
    (hitReply d r m).answer = m.answer ∧ (hitReply d r m).ns = m.ns ∧
      (hitReply d r m).extra = m.extra := by
  unfold hitReply
  dsimp only
  rw [copies]
  split
  · exact ⟨rfl, rfl, rfl⟩
  · exact ⟨rfl, rfl, rfl⟩

/-- What a client gets of a stored message: the header of its own request, AA set, AD only
if it asked for it, and one TTL on all records but an OPT of Extra. -/
def servedReply (d : Deps) (u r : Msg) (ttl : UInt32) : Msg :=
  { u with
    id := r.id
    response := true
    opcode := r.opcode
    question := if r.question = [] then u.question else r.question.take 1
    recursionDesired := if r.opcode = opcodeQuery then r.recursionDesired else u.recursionDesired
    checkingDisabled := if r.opcode = opcodeQuery then r.checkingDisabled else u.checkingDisabled
    authoritative := true
    authenticatedData := u.authenticatedData && (d.reqDo r || r.authenticatedData)
    answer := u.answer.map (RR.setTTL ttl)
    ns := u.ns.map (RR.setTTL ttl)
    extra := u.extra.map fun rr => if rr.isOPT then rr else rr.setTTL ttl }

theorem hitReply_eq_servedReply {d : Deps} (copies : d.SetReplySpec) (u r : Msg) (ttl : UInt32) :
    hitReply d r (setMsgTTL u ttl) = servedReply d u r ttl := by
  unfold hitReply servedReply
  dsimp only
  rw [copies]
  cases d.reqDo r <;> cases r.authenticatedData <;> simp [replyTo, setMsgTTL]

/-- A reply that was stored and decoded, under the fix-ups. -/
theorem hitReply_decoded {d : Deps} (copies : d.SetReplySpec) (res r : Msg) (ttl : UInt32) :
    hitReply d r (decodedReply res ttl) = { transparentReply d res r ttl with
      response := true
      recursionDesired :=
        if r.opcode = opcodeQuery then r.recursionDesired else res.recursionDesired
      checkingDisabled :=
        if r.opcode = opcodeQuery then r.checkingDisabled else res.checkingDisabled } := by
  have extra := decodedReply_extra res ttl
  rw [decodedReply, hitReply_eq_servedReply copies]
  simp only [servedReply, transparentReply, ← extra]
  rfl

/-- For a QUERY it is the transparent one. -/
theorem hitReply_decodedReply {d : Deps} (copies : d.SetReplySpec) {res r : Msg}
    (response : res.response = true) (query : r.opcode = opcodeQuery) (ttl : UInt32) :
    hitReply d r (decodedReply res ttl) = transparentReply d res r ttl := by
  rw [hitReply_decoded copies, if_pos query, if_pos query, ← response]
  rfl

theorem serveDNS_answered {d : Deps} {re : Redis} {r : Msg} {write : Msg → Option GoError}
    {getCmd : Except GoError Bytes} {ttlCmd : Except GoError Int} {result : ServeResult}
    {m : Msg} {rcode : Nat} {err : Option GoError}
    (ran : serveDNS d re r write getCmd ttlCmd = .ok result)
    (answered : result.ending = .answered m rcode err) :
    ∃ out fetched, Redis.get d re r getCmd ttlCmd = .ok out ∧ out.hit = some fetched ∧
      m = hitReply d r fetched ∧ rcode = m.rcode := by
  unfold serveDNS at ran
  split at ran
  · cases ran
    cases answered
  · obtain ⟨out, looked, ran⟩ := Checked.bind_ok ran
    split at ran
    · rename_i fetched hit
      cases ran
      cases answered
      exact ⟨out, fetched, looked, hit, rfl, rfl⟩
    · cases ran
      cases answered

theorem serveDNS_evicted {d : Deps} {re : Redis} {r : Msg} {write : Msg → Option GoError}
    {getCmd : Except GoError Bytes} {ttlCmd : Except GoError Int} {result : ServeResult} {k : Key}
    (ran : serveDNS d re r write getCmd ttlCmd = .ok result) (member : k ∈ result.evicted) :
    ∃ out, Redis.get d re r getCmd ttlCmd = .ok out ∧ k ∈ out.evicted := by
  unfold serveDNS at ran
  split at ran
  · cases ran
    cases member
  · obtain ⟨out, looked, ran⟩ := Checked.bind_ok ran
    split at ran
    · cases ran
      exact ⟨out, looked, member⟩
    · cases ran
      exact ⟨out, looked, member⟩

/-- A reply served from the cache is the stored one, seen through the request. -/
theorem serveDNS_transparent {d : Deps} (spec : d.MatchSpec) (undo : d.UnpackPack)
    (codes : d.PackRcode) (copies : d.SetReplySpec) {writer reader : Redis} {first later : Msg}
    {now : Nat} {res : Msg} {out : WriteResult} {job : SetJob}
    {write : Msg → Option GoError} {seconds : Nat} {result : ServeResult} {m : Msg} {rcode : Nat}
    {err : Option GoError} (wrote : writeMsg d writer first now res = .ok out)
    (stored : out.set = some job) (query : later.opcode = opcodeQuery)
    (fits : seconds < 2 ^ 32)
    (ran : serveDNS d reader later write (.ok job.wire) (.ok (seconds * second)) = .ok result)
    (answered : result.ending = .answered m rcode err) :
    ∃ ttl : UInt32, ttl.toNat = seconds ∧ m = transparentReply d res later ttl ∧
      rcode = res.rcode := by
  have stores := (writeMsg_set_iff spec wrote job).mp stored
  obtain ⟨looked, fetched, got, hit, message, code⟩ := serveDNS_answered ran answered
  have same := stores.hit_eq spec undo codes got hit
  have response : res.response = true := by
    obtain ⟨q, answers⟩ := stores.answers
    exact answers.response
  rw [same, hitReply_decodedReply copies response query] at message
  refine ⟨_, ?_, message, ?_⟩
  · exact replyTTL_seconds d fits
  · rw [code, message]
    rfl

theorem serveDNS_hit {d : Deps} {re : Redis} {r : Msg} (write : Msg → Option GoError)
    {getCmd : Except GoError Bytes} {ttlCmd : Except GoError Int} {m : Msg}
    {evicted : List Key} {metrics : List Metric}
    (served : d.zonesMatches re.zones (d.reqName r) ≠ "")
    (got : Redis.get d re r getCmd ttlCmd = .ok ⟨some m, evicted, metrics⟩) :
    serveDNS d re r write getCmd ttlCmd =
      .ok ⟨.answered (hitReply d r m) (hitReply d r m).rcode (write (hitReply d r m)),
        evicted, metrics⟩ := by
  rw [serveDNS, if_neg served, got]
  rfl

theorem serveDNS_miss {d : Deps} {re : Redis} {r : Msg} (write : Msg → Option GoError)
    {getCmd : Except GoError Bytes} {ttlCmd : Except GoError Int} {out : LookupResult}
    (got : Redis.get d re r getCmd ttlCmd = .ok out) (missed : out.hit = none) :
    ∃ storing evicted metrics, serveDNS d re r write getCmd ttlCmd =
      .ok ⟨.nextOrFailure storing, evicted, metrics⟩ := by
  unfold serveDNS
  split
  · exact ⟨_, _, _, rfl⟩
  · simp only [got, missed, bind, Except.bind]
    exact ⟨_, _, _, rfl⟩

/-- The reply to the sample query is stored under any configuration whose
duration for it is positive. -/
theorem sampleReply_stored (re : Redis) {duration : Int}
    (computed : storeDuration sampleDeps re sampleReply .noError = duration)
    (positive : 0 < duration) :
    ∃ out job, writeMsg sampleDeps re sampleQuery 0 sampleReply = .ok out ∧
      out.set = some job ∧ job.duration = duration ∧
      Stores sampleDeps re sampleQuery 0 sampleReply job := by
  obtain ⟨wire, packs⟩ := sampleReply_positive.packs
  obtain ⟨out, ran⟩ := writeMsg_returns sample_match re sampleQuery 0 sampleReply
  have stores : Stores sampleDeps re sampleQuery 0 sampleReply ⟨_, wire, duration⟩ :=
    ⟨sampleReply_positive.admitted, sampleReply_positive.answers, packs, rfl, computed.symm,
      positive⟩
  exact ⟨out, _, ran, (writeMsg_set_iff sample_match ran _).mpr stores, rfl, stores⟩

theorem sampleReply_get {re : Redis} {job : SetJob}
    (stores : Stores sampleDeps re sampleQuery 0 sampleReply job)
    (ttlCmd : Except GoError Int) :
    Redis.get sampleDeps re sampleQuery (.ok job.wire) ttlCmd =
      .ok ⟨some (decodedReply sampleReply (replyTTL sampleDeps ttlCmd)), [], [.hits]⟩ :=
  stores.get_hit sample_match sample_unpackPack sample_packRcode rfl re sampleQuery rfl ttlCmd

/-- The configuration `success 5000000000 5000000000`. -/
def centuries : Redis :=
  { Redis.new with pMaxTTL := 5000000000 * second, pMinTTL := 5000000000 * second }

theorem centuries_accepted : Accepted plainStd centuries :=
  ⟨⟨["."], [], [.success ["5000000000", "5000000000"]], false⟩, by decide +kernel⟩

/-- A remaining life of more than 32 bits of seconds is not what the client sees. -/
theorem serveDNS_ttl_truncated :
    Accepted plainStd centuries ∧
    ∃ out job result m, writeMsg sampleDeps centuries sampleQuery 0 sampleReply = .ok out ∧
      out.set = some job ∧ job.duration = 5000000000 * second ∧
      serveDNS sampleDeps centuries sampleQuery (fun _ => none) (.ok job.wire)
        (.ok (5000000000 * second)) = .ok result ∧
      result.ending = .answered m 0 none ∧
      ∃ rr ∈ m.answer, rr.ttl = 705032704 ∧ rr.ttl.toNat ≠ 5000000000 := by
  obtain ⟨out, job, ran, stored, duration, stores⟩ :=
    sampleReply_stored centuries rfl (by decide)
  have got := sampleReply_get stores (.ok (5000000000 * second))
  refine ⟨centuries_accepted, out, job, _, _, ran, stored, duration,
    serveDNS_hit (fun _ => none) (by decide) got, rfl, ?_⟩
  exact ⟨_, List.mem_singleton_self _, by decide, by decide⟩

theorem serveDNS_sample_transparent :
    ∃ out job result m rcode err,
      writeMsg sampleDeps Redis.new sampleQuery 0 sampleReply = .ok out ∧ out.set = some job ∧
      serveDNS sampleDeps Redis.new sampleQuery (fun _ => none) (.ok job.wire)
        (.ok ((42 : Nat) * second)) = .ok result ∧
      result.ending = .answered m rcode err ∧
      ∃ ttl : UInt32, ttl.toNat = 42 ∧ m = transparentReply sampleDeps sampleReply sampleQuery ttl ∧
        rcode = sampleReply.rcode := by
  obtain ⟨out, job, ran, stored, _, stores⟩ :=
    sampleReply_stored Redis.new rfl (by decide)
  have got := sampleReply_get stores (.ok ((42 : Nat) * second))
  have served := serveDNS_hit (fun _ => none) (by decide) got
  exact ⟨out, job, _, _, _, _, ran, stored, served, rfl,
    serveDNS_transparent sample_match sample_unpackPack sample_packRcode sample_setReply ran
      stored rfl (by decide) served rfl⟩

end RedisCache
