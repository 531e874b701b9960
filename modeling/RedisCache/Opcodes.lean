import RedisCache.StoreInvariant

set_option autoImplicit false

/- Requests of one question and another opcode. The key has no opcode in it, and no
check on the read side looks at one. -/

namespace RedisCache

open SingleFlight Versions

def opcodeNotify : Nat := 4
def opcodeUpdate : Nat := 5

/-- `Typify` takes a NOTIFY to be Meta and an UPDATE to be Update. -/
def Deps.TypifyOpcode (d : Deps) : Prop :=
  ∀ m now, (m.opcode = opcodeNotify → (d.typify m now).1 = .metaMsg) ∧
    (m.opcode = opcodeUpdate → (d.typify m now).1 = .update)

/-- The write side refuses replies of both opcodes. -/
theorem cacheable_opcode {d : Deps} (types : d.TypifyOpcode) {m : Msg} {now : Nat}
    (admitted : cacheable m (d.typify m now).1 = .ok true) :
    m.opcode ≠ opcodeNotify ∧ m.opcode ≠ opcodeUpdate := by
  constructor
  · intro notify
    rw [(types m now).1 notify] at admitted
    simp [cacheable_true_iff] at admitted
  · intro update
    rw [(types m now).2 update] at admitted
    simp [cacheable_true_iff] at admitted

/-- A request of the trace and a cacheable reply of the trace with the same question,
DO bit and CD bit have one opcode. -/
def OpcodesAgree (d : Deps) (acts : List Action) : Prop :=
  ∀ i r source, .get i r source ∈ acts → ∀ j first time res, .reply j first time res ∈ acts →
    cacheable res (d.typify res time).1 = .ok true →
    ∀ q, res.question = [q] → requestTuple d r = ownTuple d q res → r.opcode = res.opcode

section Runs

variable {d : Deps} {fleet : Fleet} {w after : World} {a : Action} {past acts : List Action}

/-- A request that is a hit on a stored reply has its opcode, if the trace agrees. -/
theorem hit_opcode (spec : d.MatchSpec) (undo : d.UnpackPack) (codes : d.PackRcode)
    (agree : OpcodesAgree d acts) {t : SetTask} (call : t.CallIn d fleet acts)
    {i : Nat} {r : Msg} {source : Source} (asked : .get i r source ∈ acts) {reader : Redis}
    {ttlCmd : Except GoError Int} {out : LookupResult} {m : Msg}
    (got : Redis.get d reader r (.ok t.job.wire) ttlCmd = .ok out) (hit : out.hit = some m) :
    r.opcode = t.reply.opcode := by
  obtain ⟨called, stores⟩ := call
  obtain ⟨q, single, same⟩ := stores.hit_tuple spec undo codes got hit
  exact agree _ _ _ asked _ _ _ _ called stores.admitted q single same

end Runs

/-- An event whose request was answered from the bytes of a `WriteMsg` call. -/
def Event.AnsweredFrom (d : Deps) (fleet : Fleet) (ev : Event) (t : SetTask) : Prop :=
  ev.lookup.reply = .ok t.job.wire ∧ t.job.key = fleet.lookupKey d ev.lookup.request

section EmptyStart

variable {d : Deps} {fleet : Fleet} {now : Nat} {acts : List Action} {w : World} {ev : Event}

theorem answered_source (spec : d.MatchSpec)
    (ran : run d fleet (World.start (fun _ => []) now) acts = some w) (logged : ev ∈ w.log)
    {result : ServeResult} {m : Msg} {rcode : Nat} {err : Option GoError}
    (finished : ev.result = .ok result) (answered : result.ending = .answered m rcode err) :
    ∃ t : SetTask, t.CallIn d fleet acts ∧ ev.AnsweredFrom d fleet t := by
  rw [((run_consistent ran).log ev logged).result] at finished
  obtain ⟨out, fetched, got, hit, _, _⟩ := serveDNS_answered finished answered
  cases found : ev.lookup.reply with
  | error failure =>
      obtain ⟨metrics, missed⟩ := get_unread d (fleet.config ev.lookup.inst)
        ev.lookup.request ev.ttlCmd failure
      rw [found, missed] at got
      cases got
      cases hit
  | ok b =>
      obtain ⟨t, call, rfl, key⟩ := read_callIn spec ran logged found
      exact ⟨t, call, found, key⟩

theorem answered_opcode (spec : d.MatchSpec) (undo : d.UnpackPack) (codes : d.PackRcode)
    (agree : OpcodesAgree d acts)
    (ran : run d fleet (World.start (fun _ => []) now) acts = some w) (logged : ev ∈ w.log)
    {result : ServeResult} {m : Msg} {rcode : Nat} {err : Option GoError}
    (finished : ev.result = .ok result) (answered : result.ending = .answered m rcode err)
    {t : SetTask} (call : t.CallIn d fleet acts) (source : ev.AnsweredFrom d fleet t) :
    ev.lookup.request.opcode = t.reply.opcode := by
  rw [((run_consistent ran).log ev logged).result] at finished
  obtain ⟨out, fetched, got, hit, _, _⟩ := serveDNS_answered finished answered
  rw [source.1] at got
  exact hit_opcode spec undo codes agree call ((run_fromGets ran).log ev logged).mem got hit

/-- What was read for a request of the two opcodes is no hit for it, so it is passed on. -/
theorem refused_opcode_passed_on (spec : d.MatchSpec) (undo : d.UnpackPack)
    (codes : d.PackRcode) (types : d.TypifyOpcode) (agree : OpcodesAgree d acts)
    (ran : run d fleet (World.start (fun _ => []) now) acts = some w) (logged : ev ∈ w.log)
    (refused : ev.lookup.request.opcode = opcodeNotify ∨
      ev.lookup.request.opcode = opcodeUpdate) :
    ∃ storing evicted metrics, ev.result = .ok ⟨.nextOrFailure storing, evicted, metrics⟩ := by
  rw [((run_consistent ran).log ev logged).result]
  cases found : ev.lookup.reply with
  | error failure =>
      obtain ⟨metrics, missed⟩ := get_unread d (fleet.config ev.lookup.inst)
        ev.lookup.request ev.ttlCmd failure
      exact serveDNS_miss _ missed rfl
  | ok b =>
      obtain ⟨t, call, rfl, _⟩ := read_callIn spec ran logged found
      obtain ⟨out, got⟩ := call.2.get_returns spec undo codes (fleet.config ev.lookup.inst)
        ev.lookup.request ev.ttlCmd
      apply serveDNS_miss _ got
      cases hit : out.hit with
      | none => rfl
      | some m =>
          have same := hit_opcode spec undo codes agree call
            ((run_fromGets ran).log ev logged).mem got hit
          have admitted := cacheable_opcode types call.2.admitted
          rcases refused with notify | update
          · exact absurd (same.symm.trans notify) admitted.1
          · exact absurd (same.symm.trans update) admitted.2

end EmptyStart

/-- Over every run from an empty store whose requests and cacheable replies agree in
their opcodes, a request is answered only from a reply of its own opcode, and a
NOTIFY or UPDATE always reaches the next plugin. -/
theorem opcode_isolation {d : Deps} (spec : d.MatchSpec) (undo : d.UnpackPack)
    (codes : d.PackRcode) (types : d.TypifyOpcode) (fleet : Fleet) {now : Nat}
    {acts : List Action} (agree : OpcodesAgree d acts) {w : World}
    (ran : run d fleet (World.start (fun _ => []) now) acts = some w) :
    (∀ ev ∈ w.log, ∀ result m rcode err, ev.result = .ok result →
      result.ending = .answered m rcode err →
        (∃ t : SetTask, t.CallIn d fleet acts ∧ ev.AnsweredFrom d fleet t) ∧
        ∀ t : SetTask, t.CallIn d fleet acts → ev.AnsweredFrom d fleet t →
          ev.lookup.request.opcode = t.reply.opcode) ∧
    ∀ ev ∈ w.log,
      ev.lookup.request.opcode = opcodeNotify ∨ ev.lookup.request.opcode = opcodeUpdate →
        ∃ storing evicted metrics, ev.result = .ok ⟨.nextOrFailure storing, evicted, metrics⟩ := by
  constructor
  · intro ev logged result m rcode err finished answered
    constructor
    · exact answered_source spec ran logged finished answered
    · intro t call source
      exact answered_opcode spec undo codes agree ran logged finished answered call source
  · intro ev logged refused
    exact refused_opcode_passed_on spec undo codes types agree ran logged refused

theorem sample_typifyOpcode : sampleDeps.TypifyOpcode := by
  intro m now
  constructor
  · intro notify
    simp [sampleDeps, instanceFor, typifyMsg, notify, opcodeNotify]
  · intro update
    simp [sampleDeps, instanceFor, typifyMsg, update, opcodeUpdate]

/-- A NOTIFY with the question of `sampleQuery`. -/
def notifyQuery : Msg := { sampleQuery with opcode := opcodeNotify }

/-- A QUERY is stored, and a NOTIFY follows. -/
def notifyRun : List Action := storeRun ++
  [.get 0 notifyQuery (.version 1),
    .ttl ⟨0, notifyQuery, .version 1, 0, 1, .ok storedWire⟩ (.version 1)]

/-- The NOTIFY is answered with the reply to the QUERY. -/
theorem notifyRun_answered :
    sampleReply.opcode = opcodeQuery ∧
    ∃ w, run sampleDeps sampleFleet (World.start (fun _ => []) 0) notifyRun = some w ∧
      ∃ ev ∈ w.log, ev.lookup.request = notifyQuery ∧
        ev.AnsweredFrom sampleDeps sampleFleet (sampleTask 0) ∧
        ∃ evicted metrics, ev.result = .ok ⟨.answered
          (hitReply sampleDeps notifyQuery (setMsgTTL sampleReply 60)) 0 none,
          evicted, metrics⟩ := by
  have computed : (run sampleDeps sampleFleet (World.start (fun _ => []) 0) notifyRun).any
      (fun w => decide (w.log.head? =
        some ⟨⟨0, notifyQuery, .version 1, 0, 1, .ok storedWire⟩, .version 1, 0,
          .ok (60 * second), .ok ⟨.answered
            (hitReply sampleDeps notifyQuery (setMsgTTL sampleReply 60)) 0 none, [],
            [.hits]⟩⟩)) = true := by
    decide +kernel
  obtain ⟨w, ran, newest⟩ := Transition.exists_of_any computed
  refine ⟨rfl, w, ran, _, List.mem_of_mem_head? newest, rfl, ⟨rfl, rfl⟩, [], [.hits], rfl⟩

theorem hitRun_opcodes : OpcodesAgree sampleDeps hitRun := by
  intro i r source asked j first time res called _ q _ _
  have query : r = sampleQuery := by
    simp [hitRun, storeRun] at asked
    tauto
  have reply : res = sampleReply := by
    simp [hitRun, storeRun] at called
    tauto
  rw [query, reply]
  rfl

/-- The hit of `hitRun` is one on a reply of the opcode of its request. -/
theorem hitRun_isolated :
    ∃ w, run sampleDeps sampleFleet (World.start (fun _ => []) 0) hitRun = some w ∧
      ∃ ev ∈ w.log, ∃ evicted metrics, ev.result = .ok ⟨.answered
        (hitReply sampleDeps sampleQuery (setMsgTTL sampleReply 42)) 0 none, evicted, metrics⟩ ∧
        ∃ t : SetTask, t.CallIn sampleDeps sampleFleet hitRun ∧
          ev.AnsweredFrom sampleDeps sampleFleet t ∧
          ev.lookup.request.opcode = t.reply.opcode := by
  have computed : (run sampleDeps sampleFleet (World.start (fun _ => []) 0) hitRun).any
      (fun w => decide (w.log.head?.map Event.result = some (.ok ⟨.answered
        (hitReply sampleDeps sampleQuery (setMsgTTL sampleReply 42)) 0 none, [],
        [.hits]⟩))) = true := by
    decide +kernel
  obtain ⟨w, ran, newest⟩ := Transition.exists_of_any computed
  obtain ⟨ev, first, served⟩ := Option.map_eq_some_iff.mp newest
  have logged := List.mem_of_mem_head? first
  obtain ⟨⟨t, call, source⟩, same⟩ := (opcode_isolation sample_match sample_unpackPack
    sample_packRcode sample_typifyOpcode sampleFleet hitRun_opcodes ran).1 ev logged _ _ _ _
    served rfl
  exact ⟨w, ran, ev, logged, [], [.hits], served, t, call, source, same t call source⟩

end RedisCache
