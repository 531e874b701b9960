import RedisCache.Handler

set_option autoImplicit false

/- The two payload formats, and the EDNS record that travels in one of them. -/

namespace RedisCache

/-- Dropping the OPT records leaves a message packable whose Rcode fits four bits. -/
def Deps.PackStripped (d : Deps) : Prop :=
  ∀ m wire, m.rcode ≤ 15 → d.pack m = .ok wire →
    ∃ shorter, d.pack (msgWithoutOPT m) = .ok shorter

/-- The DO bit of the last OPT record, clear when there is none. -/
def doBit (d : Deps) (m : Msg) : Bool := (lastOPT m).any d.optDo

theorem msgDo_eq {d : Deps} (edns : d.EdnsSpec) (m : Msg) : d.msgDo m = doBit d m := by
  unfold Deps.msgDo doBit
  rw [edns m]
  cases lastOPT m <;> rfl

/-- The DO bit sits in the TTL field of an OPT record, which the rewriting skips. -/
theorem lastOPT_setMsgTTL (m : Msg) (ttl : UInt32) : lastOPT (setMsgTTL m ttl) = lastOPT m := by
  unfold lastOPT setMsgTTL
  dsimp only
  rw [← List.map_reverse]
  induction m.extra.reverse with
  | nil => rfl
  | cons rr rest ih =>
      by_cases opt : rr.isOPT = true
      · simp [opt]
      · have kept : (rr.setTTL ttl).isOPT = rr.isOPT := rfl
        simpa [opt, kept] using ih

/-- The DO bit that is stored with a value: in the flags byte, or in a legacy message. -/
def payloadDO (d : Deps) (b : Bytes) (m : Msg) : Bool :=
  if cachePayloadPrefix.isPrefixOf b then
    b.getD cachePayloadPrefix.length 0 &&& cachePayloadFlagDO != 0
  else doBit d m

/-- A value that holds a message decodes to it and to its DO bit. -/
theorem fromBytes_unpacked {d : Deps} (edns : d.EdnsSpec) {b wire : Bytes} {m : Msg}
    (payload : dnsPayload b = some wire) (unpacked : d.unpack wire = .ok m) (ttl : UInt32) :
    fromBytes d b ttl = .ok (.ok (setMsgTTL m ttl, payloadDO d b m)) := by
  unfold dnsPayload at payload
  unfold fromBytes payloadDO
  split
  · rename_i marked
    rw [if_pos marked] at payload
    split at payload
    · cases payload
    · rename_i more
      cases payload
      have long : cachePayloadPrefix.length + 1 ≤ b.length := by
        have bound := (List.isPrefixOf_iff_prefix.mp marked).length_le
        omega
      simp only [more, ↓reduceIte, index_of_lt b _ (Nat.lt_of_succ_le long), sliceFrom, long,
        decodePayload, unpacked, Option.getD_some, bind, Except.bind, List.getD_eq_getElem?_getD,
        List.getElem?_eq_getElem (Nat.lt_of_succ_le long)]
  · rename_i unmarked
    rw [if_neg unmarked] at payload
    cases payload
    simp only [decodePayload, unpacked, Option.getD_none, msgDo_eq edns, doBit, lastOPT_setMsgTTL]

/-- A stored value that answers a request: the message in it has the request's question and
CD bit, and the request's DO bit was stored with it. -/
structure Usable (d : Deps) (r : Msg) (b : Bytes) (u : Msg) : Prop where
  present : b ≠ []
  unpacked : ∃ wire, dnsPayload b = some wire ∧ d.unpack wire = .ok u
  answers : ∃ q, Answers d r u q
  doBit : payloadDO d b u = d.reqDo r

section Usable

variable {d : Deps} {re : Redis} {r u m : Msg} {b : Bytes} {ttlCmd : Except GoError Int}

theorem answers_setMsgTTL_iff {q : Question} {ttl : UInt32} :
    Answers d r (setMsgTTL u ttl) q ↔ Answers d r u q :=
  ⟨fun h => ⟨h.response, h.single, h.name, h.qtype, h.qclass, h.cd⟩,
    fun h => ⟨h.response, h.single, h.name, h.qtype, h.qclass, h.cd⟩⟩

/-- A lookup that finds such a value is a hit. -/
theorem Usable.get (spec : d.MatchSpec) (edns : d.EdnsSpec) (usable : Usable d r b u)
    (re : Redis) (ttlCmd : Except GoError Int) :
    Redis.get d re r (.ok b) ttlCmd =
      .ok ⟨some (setMsgTTL u (replyTTL d ttlCmd)), [], [.hits]⟩ := by
  obtain ⟨wire, payload, unpacked⟩ := usable.unpacked
  obtain ⟨q, answers⟩ := usable.answers
  have decoded := fromBytes_unpacked edns payload unpacked (replyTTL d ttlCmd)
  have same : Answers d r (setMsgTTL u (replyTTL d ttlCmd)) q := answers_setMsgTTL_iff.mpr answers
  rw [get_decoded d re r ttlCmd usable.present decoded,
    (verified_iff spec r _ _).mpr ⟨⟨q, same⟩, usable.doBit⟩, same.single]
  rfl

/-- And there is no other hit. -/
theorem usable_of_hit (spec : d.MatchSpec) (edns : d.EdnsSpec) {evicted : List Key}
    {metrics : List Metric}
    (got : Redis.get d re r (.ok b) ttlCmd = .ok ⟨some m, evicted, metrics⟩) :
    ∃ u, Usable d r b u ∧ m = setMsgTTL u (replyTTL d ttlCmd) := by
  have present : b ≠ [] := by
    rintro rfl
    rw [get_empty] at got
    cases got
  cases get_outcome d re r ttlCmd spec got with
  | served _ q storedDO _ decoded answers doBit =>
      obtain ⟨wire, u, payload, unpacked, rfl⟩ := fromBytes_ok decoded
      rw [fromBytes_unpacked edns payload unpacked] at decoded
      cases decoded
      exact ⟨u, ⟨present, ⟨wire, payload, unpacked⟩, ⟨q, answers_setMsgTTL_iff.mp answers⟩, doBit⟩,
        rfl⟩

end Usable

theorem noOPT_setMsgTTL (m : Msg) (ttl : UInt32) : (setMsgTTL m ttl).NoOPT ↔ m.NoOPT := by
  have kept : ∀ rr : RR, (if rr.isOPT then rr else rr.setTTL ttl).isOPT = rr.isOPT := by
    intro rr
    split <;> rfl
  simp [Msg.NoOPT, setMsgTTL, kept]

/-- The third byte of the prefix has a clear top bit, which in a message is the
Response bit. -/
theorem legacy_unmarked {d : Deps} (header : d.PackHeader) {m : Msg} {wire : Bytes}
    (response : m.response = true) (packed : d.pack m = .ok wire) :
    cachePayloadPrefix.isPrefixOf wire = false := by
  obtain ⟨high, low, flags, rest, rfl, top⟩ := header m wire packed
  rw [response] at top
  cases marked : cachePayloadPrefix.isPrefixOf (high :: low :: flags :: rest) with
  | false => rfl
  | true =>
      have third : flags = 68 := by
        simp only [cachePayloadPrefix, List.isPrefixOf, Bool.and_eq_true, beq_iff_eq] at marked
        exact marked.2.2.1.symm
      rw [third] at top
      exact absurd top (by decide)

/-- What the decoder makes of a payload of either format: the current one comes back
without OPT, the legacy one with it, and both with the DO bit of the message. -/
theorem fromBytes_both_formats {d : Deps} (edns : d.EdnsSpec) (header : d.PackHeader)
    (strip : d.PackStripped) {m : Msg} {wire : Bytes} (response : m.response = true)
    (packed : d.pack m = .ok wire) (undo : d.RoundTrips m)
    (undoStripped : d.RoundTrips (msgWithoutOPT m)) (ttl : UInt32) :
    (m.rcode ≤ 15 → ∃ b, toBytes d m = .ok b ∧
      fromBytes d b ttl = .ok (.ok
        ({ m with
          answer := m.answer.map (RR.setTTL ttl)
          ns := m.ns.map (RR.setTTL ttl)
          extra := (m.extra.filter fun rr => !rr.isOPT).map (RR.setTTL ttl) }, doBit d m))) ∧
    cachePayloadPrefix.isPrefixOf wire = false ∧
    fromBytes d wire ttl = .ok (.ok
      ({ m with
        answer := m.answer.map (RR.setTTL ttl)
        ns := m.ns.map (RR.setTTL ttl)
        extra := m.extra.map fun rr => if rr.isOPT then rr else rr.setTTL ttl }, doBit d m)) := by
  have unmarked := legacy_unmarked header response packed
  refine ⟨?_, unmarked, ?_⟩
  · intro small
    obtain ⟨shorter, stripped⟩ := strip m wire small packed
    have encoded : toBytes d m = .ok
        (cachePayloadPrefix ++ [if d.msgDo m then cachePayloadFlagDO else 0] ++ shorter) := by
      rw [toBytes, stripped]
    refine ⟨_, encoded, ?_⟩
    rw [fromBytes_of_roundTrips undoStripped encoded, msgDo_eq edns, ← decodedReply_extra]
    rfl
  · rw [fromBytes, if_neg (by simp [unmarked]), decodePayload, undo wire packed]
    simp only [Option.getD_none, msgDo_eq edns, doBit, lastOPT_setMsgTTL]
    rfl

/-- An OPT record with the DO bit and a payload size of 1232. -/
def doRecord : RR := ⟨⟨[46], ascii_root⟩, typeOPT, 1232, 0x8000, .opt [], rfl⟩

/-- `sampleReply` as it came from an upstream that speaks EDNS. -/
def ednsReply : Msg := { sampleReply with extra := [doRecord] }

def ednsWire : Bytes :=
  [0, 1, 129, 128, 0, 1, 0, 1, 0, 0, 0, 1,
    1, 97, 0, 0, 1, 0, 1,
    1, 97, 0, 0, 1, 0, 1, 0, 0, 0, 60, 0, 4, 192, 0, 2, 1,
    0, 0, 41, 4, 208, 0, 0, 128, 0, 0, 0]

/-- The packages, with a codec for `ednsReply` and `sampleReply`. -/
def ednsDeps : Deps :=
  { sampleDeps with
    pack := fun m => if m = ednsReply then .ok ednsWire else sampleDeps.pack m
    unpack := fun b => if b = ednsWire then .ok ednsReply else sampleDeps.unpack b }

theorem edns_pack_cases {m : Msg} {wire : Bytes} (packed : ednsDeps.pack m = .ok wire) :
    (m = ednsReply ∧ wire = ednsWire) ∨ (m = sampleReply ∧ wire = sampleWire) := by
  simp only [ednsDeps] at packed
  split at packed
  · rename_i same
    cases packed
    exact Or.inl ⟨same, rfl⟩
  · simp only [sampleDeps, instanceFor] at packed
    split at packed
    · rename_i same
      cases packed
      exact Or.inr ⟨same, rfl⟩
    · cases packed

theorem edns_match : ednsDeps.MatchSpec := ⟨sample_match.sound, sample_match.complete⟩

theorem edns_setReply : ednsDeps.SetReplySpec := sample_setReply

theorem edns_roundTrips (m : Msg) : ednsDeps.RoundTrips m := by
  intro wire packed
  rcases edns_pack_cases packed with ⟨rfl, rfl⟩ | ⟨rfl, rfl⟩ <;> rfl

theorem edns_packHeader : ednsDeps.PackHeader := by
  intro m wire packed
  rcases edns_pack_cases packed with ⟨rfl, rfl⟩ | ⟨rfl, rfl⟩
  · exact ⟨_, _, _, _, rfl, by decide⟩
  · exact ⟨_, _, _, _, rfl, by decide⟩

theorem edns_packStripped : ednsDeps.PackStripped := by
  intro m wire _ packed
  rcases edns_pack_cases packed with ⟨rfl, rfl⟩ | ⟨rfl, rfl⟩
  · exact ⟨sampleWire, by decide⟩
  · exact ⟨sampleWire, by decide⟩

/-- Both formats of `ednsReply` decode, and both say that DO is set. -/
theorem ednsReply_both_formats :
    (∃ b, toBytes ednsDeps ednsReply = .ok b ∧
      fromBytes ednsDeps b 7 = .ok (.ok
        ({ sampleReply with answer := [sampleRecord.setTTL 7] }, true))) ∧
    cachePayloadPrefix.isPrefixOf ednsWire = false ∧
    fromBytes ednsDeps ednsWire 7 = .ok (.ok
      ({ ednsReply with answer := [sampleRecord.setTTL 7] }, true)) := by
  have both := fromBytes_both_formats (m := ednsReply) (fun _ => rfl) edns_packHeader
    edns_packStripped rfl rfl (edns_roundTrips _) (edns_roundTrips _) 7
  exact ⟨both.1 (by decide), both.2⟩

section Replay

variable {d : Deps} {re : Redis} {r : Msg} {write : Msg → Option GoError} {b : Bytes}
  {ttlCmd : Except GoError Int} {result : ServeResult} {m : Msg} {rcode : Nat}
  {err : Option GoError}

/-- An answer from a stored value is the message unpacked from it, with its TTLs set
and the fix-ups of the handler. -/
theorem serveDNS_unpacked (spec : d.MatchSpec)
    (ran : serveDNS d re r write (.ok b) ttlCmd = .ok result)
    (answered : result.ending = .answered m rcode err) :
    ∃ wire u, dnsPayload b = some wire ∧ d.unpack wire = .ok u ∧
      m = hitReply d r (setMsgTTL u (replyTTL d ttlCmd)) := by
  obtain ⟨out, fetched, got, hit, rfl, _⟩ := serveDNS_answered ran answered
  cases get_outcome d re r ttlCmd spec got with
  | evicted metrics => cases hit
  | served found q storedDO metrics decoded answers same =>
      cases hit
      obtain ⟨wire, u, payload, unpacked, rfl⟩ := fromBytes_ok decoded
      exact ⟨wire, u, payload, unpacked, rfl⟩

/-- The answer from a stored value replays no OPT record exactly if the message in
the value has none. -/
theorem served_noOPT_iff (spec : d.MatchSpec) (copies : d.SetReplySpec)
    (ran : serveDNS d re r write (.ok b) ttlCmd = .ok result)
    (answered : result.ending = .answered m rcode err) :
    m.NoOPT ↔ ∀ wire u, dnsPayload b = some wire → d.unpack wire = .ok u → u.NoOPT := by
  obtain ⟨wire, u, payload, unpacked, rfl⟩ := serveDNS_unpacked spec ran answered
  have same : (hitReply d r (setMsgTTL u (replyTTL d ttlCmd))).NoOPT ↔ u.NoOPT := by
    rw [← noOPT_setMsgTTL u (replyTTL d ttlCmd), Msg.NoOPT, (hitReply_sections copies _ _).2.2]
    rfl
  rw [same]
  constructor
  · intro plain other v found opened
    rw [payload] at found
    cases found
    rw [unpacked] at opened
    cases opened
    exact plain
  · intro plain
    exact plain wire u payload unpacked

end Replay

/-- The query `a. IN A` with the DO bit. -/
def doQuery : Msg := { sampleQuery with extra := [doRecord] }

/-- A legacy payload is answered from with the OPT record of another hop. -/
theorem legacy_replays_OPT :
    ednsDeps.MatchSpec ∧ ednsDeps.SetReplySpec ∧ ednsDeps.pack ednsReply = .ok ednsWire ∧
    ∃ result m, serveDNS ednsDeps Redis.new doQuery (fun _ => none) (.ok ednsWire)
        (.ok (60 * second)) = .ok result ∧
      result.ending = .answered m 0 none ∧ ¬ m.NoOPT := by
  refine ⟨edns_match, edns_setReply, rfl, _, _, rfl, rfl, ?_⟩
  intro plain
  exact absurd (plain doRecord (List.mem_singleton_self _)) (by decide)

/-- The same reply stored in the current format is served without it. -/
theorem current_payload_replays_nothing :
    ∃ b result m, toBytes ednsDeps ednsReply = .ok b ∧
      serveDNS ednsDeps Redis.new doQuery (fun _ => none) (.ok b) (.ok (60 * second)) =
        .ok result ∧
      result.ending = .answered m 0 none ∧ m.NoOPT := by
  have ran : serveDNS ednsDeps Redis.new doQuery (fun _ => none)
      (.ok (cachePayloadPrefix ++ [1] ++ sampleWire)) (.ok (60 * second)) =
      .ok ⟨.answered (hitReply ednsDeps doQuery (setMsgTTL sampleReply 60)) 0 none, [],
        [.hits]⟩ := rfl
  refine ⟨_, _, _, rfl, ran, rfl, ?_⟩
  apply (served_noOPT_iff edns_match edns_setReply ran rfl).mpr
  intro wire u payload unpacked
  cases payload
  cases unpacked
  intro rr member
  cases member

end RedisCache
