import RedisCache.ResponseWriter

set_option autoImplicit false

/- What a lookup makes of a value that `WriteMsg` stored. -/

namespace RedisCache

/-- The key tuple of a reply, from its own question and its own DO and CD bits. -/
def ownTuple (d : Deps) (q : Question) (res : Msg) : Tuple where
  qname := q.name.toLower
  qclass := q.qclass
  qtype := q.qtype
  doBit := d.msgDo res
  cd := res.checkingDisabled

/-- What a lookup serves from a stored reply. -/
def decodedReply (res : Msg) (ttl : UInt32) : Msg := setMsgTTL (msgWithoutOPT res) ttl

section Stored

variable {d : Deps} {re : Redis} {r : Msg} {now : Nat} {res : Msg} {job : SetJob}

/-- `Typify` and `IsEdns0` agree on the DO bit of the reply. -/
theorem Deps.TypifyOpt.msgDo (spec : d.TypifyOpt) (m : Msg) (now : Nat) :
    (d.typify m now).2.any d.optDo = d.msgDo m := by
  rw [spec, Deps.msgDo]
  cases d.isEdns0 m <;> rfl

/-- A stored reply lies under the key of its own question and bits. -/
theorem Stores.own_key (stores : Stores d re r now res job) (opts : d.TypifyOpt) :
    ∃ q, res.question = [q] ∧ Answers d r res q ∧
      tupleFor d r ((d.typify res now).2.any d.optDo) = ownTuple d q res ∧
      job.key = re.keyer.key d (ownTuple d q res) := by
  obtain ⟨q, answers⟩ := stores.answers
  have tuple : tupleFor d r ((d.typify res now).2.any d.optDo) = ownTuple d q res := by
    rw [opts.msgDo]
    exact answers.tuple _
  refine ⟨q, answers.single, answers, tuple, ?_⟩
  rw [← tuple]
  exact stores.key

theorem Stores.decodes (stores : Stores d re r now res job) (undo : d.UnpackPack)
    (codes : d.PackRcode) (ttl : UInt32) :
    fromBytes d job.wire ttl = .ok (.ok (decodedReply res ttl, d.msgDo res)) :=
  fromBytes_toBytes undo codes stores.encoded ttl

/-- A request with the tuple of a stored reply is answered from it. -/
theorem Stores.get_hit (stores : Stores d re r now res job) (spec : d.MatchSpec)
    (undo : d.UnpackPack) (codes : d.PackRcode) {q : Question} (single : res.question = [q])
    (reader : Redis) (later : Msg) (same : requestTuple d later = ownTuple d q res)
    (ttlCmd : Except GoError Int) :
    Redis.get d reader later (.ok job.wire) ttlCmd =
      .ok ⟨some (decodedReply res (replyTTL d ttlCmd)), [], [.hits]⟩ := by
  have decoded := stores.decodes undo codes (replyTTL d ttlCmd)
  have response : res.response = true := by
    obtain ⟨other, answers⟩ := stores.answers
    exact answers.response
  have answers : Answers d later (decodedReply res (replyTTL d ttlCmd)) q :=
    { response := response
      single := single
      name := (congrArg Tuple.qname same).symm
      qtype := (congrArg Tuple.qtype same).symm
      qclass := (congrArg Tuple.qclass same).symm
      cd := (congrArg Tuple.cd same).symm }
  have doBit : d.msgDo res = d.reqDo later := (congrArg Tuple.doBit same).symm
  have accepted := (verified_iff spec later _ _).mpr ⟨⟨q, answers⟩, doBit⟩
  rw [get_decoded d reader later ttlCmd (toBytes_ne_nil stores.encoded) decoded, accepted,
    answers.single]
  rfl

/-- Whatever is served from a stored value is the stored reply. -/
theorem Stores.hit_eq (stores : Stores d re r now res job) (spec : d.MatchSpec)
    (undo : d.UnpackPack) (codes : d.PackRcode) {reader : Redis} {later : Msg}
    {ttlCmd : Except GoError Int} {out : LookupResult} {m : Msg}
    (ran : Redis.get d reader later (.ok job.wire) ttlCmd = .ok out) (hit : out.hit = some m) :
    m = decodedReply res (replyTTL d ttlCmd) := by
  have decoded := stores.decodes undo codes (replyTTL d ttlCmd)
  cases get_outcome d reader later ttlCmd spec ran with
  | served other q storedDO metrics fetched answers doBit =>
      rw [decoded] at fetched
      cases fetched
      cases hit
      rfl
  | evicted metrics => cases hit

/-- No lookup faults on a value that was stored. -/
theorem Stores.get_returns (stores : Stores d re r now res job) (spec : d.MatchSpec)
    (undo : d.UnpackPack) (codes : d.PackRcode) (reader : Redis) (later : Msg)
    (ttlCmd : Except GoError Int) :
    ∃ out, Redis.get d reader later (.ok job.wire) ttlCmd = .ok out := by
  obtain ⟨q, answers⟩ := stores.answers
  have asked : (decodedReply res (replyTTL d ttlCmd)).question ≠ [] := by
    show res.question ≠ []
    simp [answers.single]
  obtain ⟨out, ran, _⟩ := get_question d reader later ttlCmd spec (toBytes_ne_nil stores.encoded)
    (stores.decodes undo codes _) asked
  exact ⟨out, ran⟩

/-- A request served from a stored value has the tuple of the reply. -/
theorem Stores.hit_tuple (stores : Stores d re r now res job) (spec : d.MatchSpec)
    (undo : d.UnpackPack) (codes : d.PackRcode) {reader : Redis} {later : Msg}
    {ttlCmd : Except GoError Int} {out : LookupResult} {m : Msg}
    (ran : Redis.get d reader later (.ok job.wire) ttlCmd = .ok out) (hit : out.hit = some m) :
    ∃ q, res.question = [q] ∧ requestTuple d later = ownTuple d q res := by
  have decoded := stores.decodes undo codes (replyTTL d ttlCmd)
  cases get_outcome d reader later ttlCmd spec ran with
  | served other q storedDO metrics fetched answers doBit =>
      rw [decoded] at fetched
      cases fetched
      refine ⟨q, answers.single, ?_⟩
      rw [requestTuple, answers.tuple, ← doBit]
      rfl
  | evicted metrics => cases hit

end Stored

end RedisCache
