import RedisCache.AnswerCache
import RedisCache.SelfHeal

set_option autoImplicit false

/- Runs from any contents of Redis, broken ones among them. What a key held at the start
is out of reach for every server that has seen one write or one eviction of it since. -/

namespace RedisCache

open SingleFlight Versions

/-- The store is what was there at the start and, behind it, what the steps wrote. -/
structure World.Founded (d : Deps) (fleet : Fleet) (store : Store) (past : List Action)
    (w : World) : Prop where
  writes : ∀ t ∈ w.writes.calls, t.CallIn d fleet past
  store : ∀ k, ∃ newer, w.store k = store k ++ newer ∧
    ∀ e, some e ∈ newer → ∃ t : SetTask, t.CallIn d fleet past ∧ t.job = ⟨k, e.wire, e.duration⟩

section Runs

variable {d : Deps} {fleet : Fleet} {store : Store} {past acts : List Action} {now : Nat}
  {w after : World} {a : Action} {ev : Event} {n : Nat}

theorem step_founded (spec : d.MatchSpec) (valid : w.Founded d fleet store past)
    (stepped : step d fleet w a = some after) : after.Founded d fleet store (past ++ [a]) where
  writes := by
    intro t member
    rcases step_writes stepped member with old | ⟨i, r, time, res, rfl, new⟩
    · exact (valid.writes t old).mono a
    · have call := started_callIn spec new
      exact ⟨List.mem_append_right _ call.1, call.2⟩
  store := by
    intro k
    obtain ⟨newer, shape, known⟩ := valid.store k
    have kept : ∃ newer, w.store k = store k ++ newer ∧ ∀ e, some e ∈ newer →
        ∃ t : SetTask, t.CallIn d fleet (past ++ [a]) ∧ t.job = ⟨k, e.wire, e.duration⟩ := by
      refine ⟨newer, shape, fun e member => ?_⟩
      obtain ⟨t, call, job⟩ := known e member
      exact ⟨t, call.mono a, job⟩
    rcases step_store stepped with same | ⟨t, sent, _, wrote⟩ | ⟨t, _, _, wrote⟩
    · rw [same]
      exact kept
    · rw [wrote]
      refine write_newer kept ?_
      rintro e rfl new
      cases new
      exact ⟨t, (valid.writes t (mem_calls_of_sent sent)).mono a, rfl⟩
    · rw [wrote]
      refine write_newer kept ?_
      rintro e rfl new
      cases new

theorem run_founded (spec : d.MatchSpec)
    (ran : run d fleet (World.start store now) acts = some w) : w.Founded d fleet store acts :=
  Transition.run_invariant (step d fleet) (World.Founded d fleet store)
    (fun _ _ _ _ valid stepped => step_founded spec valid stepped)
    ⟨by simp [World.start, Pool.calls, Pool.empty],
      fun k => ⟨[], (List.append_nil _).symm, by simp⟩⟩ ran

/-- Bytes from beyond the contents at the start are those of a `WriteMsg` call. -/
theorem newer_callIn (spec : d.MatchSpec)
    (ran : run d fleet (World.start store now) acts = some w) (logged : ev ∈ w.log)
    (source : ev.lookup.source = .version n)
    (newer : (store (fleet.lookupKey d ev.lookup.request)).length < n) {b : Bytes}
    (found : ev.lookup.reply = .ok b) :
    ∃ t : SetTask, t.CallIn d fleet acts ∧ t.job.wire = b := by
  have read := ((run_consistent ran).log ev logged).lookup.reply
  rw [found, source] at read
  obtain ⟨_, e, same, shown, rfl⟩ := getReply_ok read.symm
  cases same
  obtain ⟨more, shape, known⟩ := (run_founded spec ran).store (fleet.lookupKey d ev.lookup.request)
  have held := (visible_asOf shown).1
  rw [shape] at held
  obtain ⟨t, call, job⟩ := known e (asOf_append_newer newer held)
  exact ⟨t, call, by rw [job]⟩

/-- What a lookup makes of a reply that was stored: the reply that is due, or a miss. -/
theorem Stores.serveDNS_cases {writer : Redis} {r : Msg} {time : Nat} {res : Msg} {job : SetJob}
    (stores : Stores d writer r time res job) (spec : d.MatchSpec) (undo : d.UnpackPack)
    (codes : d.PackRcode) (copies : d.SetReplySpec) (reader : Redis) (later : Msg)
    (ttlCmd : Except GoError Int) :
    ∃ result, serveDNS d reader later (fun _ => none) (.ok job.wire) ttlCmd = .ok result ∧
      ((∃ storing, result.ending = .nextOrFailure storing) ∨
        ∃ m rcode, result.ending = .answered m rcode none ∧
          m = dueReply d res later (replyTTL d ttlCmd)) := by
  obtain ⟨⟨hit, evicted, metrics⟩, got⟩ := stores.get_returns spec undo codes reader later ttlCmd
  cases hit with
  | none =>
      obtain ⟨storing, evicted, metrics, missed⟩ :=
        serveDNS_miss (fun _ => none) got rfl
      exact ⟨_, missed, Or.inl ⟨storing, rfl⟩⟩
  | some fetched =>
      by_cases zone : d.zonesMatches reader.zones (d.reqName later) = ""
      · exact ⟨⟨.nextOrFailure false, [], []⟩, by rw [serveDNS, if_pos zone], Or.inl ⟨false, rfl⟩⟩
      · refine ⟨_, serveDNS_hit (fun _ => none) zone got, Or.inr ⟨_, _, rfl, ?_⟩⟩
        obtain ⟨q, single, tuple⟩ := stores.hit_tuple spec undo codes got rfl
        obtain ⟨_, answers⟩ := stores.answers
        rw [stores.hit_eq spec undo codes got rfl]
        exact hitReply_due copies answers.response (congrArg Tuple.cd tuple) _

/-- Redis may hold anything at the start. A lookup whose server has seen one write or one
eviction of the key since then returns, and what it serves is a reply of this run. -/
theorem newer_reads_genuine (spec : d.MatchSpec) (undo : d.UnpackPack) (codes : d.PackRcode)
    (copies : d.SetReplySpec) (ran : run d fleet (World.start store now) acts = some w)
    (logged : ev ∈ w.log) (source : ev.lookup.source = .version n)
    (newer : (store (fleet.lookupKey d ev.lookup.request)).length < n) :
    ∃ result, ev.result = .ok result ∧
      ((∃ storing, result.ending = .nextOrFailure storing) ∨
        ∃ (task : SetTask) (m : Msg) (rcode : Nat), task.CallIn d fleet acts ∧
          result.ending = .answered m rcode none ∧
          m = dueReply d task.reply ev.lookup.request (replyTTL d ev.ttlCmd)) := by
  have read := (run_consistent ran).log ev logged
  rw [read.result]
  cases reply : ev.lookup.reply with
  | error err =>
      obtain ⟨metrics, missed⟩ := get_unread d (fleet.config ev.lookup.inst) ev.lookup.request
        ev.ttlCmd err
      obtain ⟨storing, evicted, metrics, ended⟩ := serveDNS_miss (fun _ => none) missed rfl
      exact ⟨_, ended, Or.inl ⟨storing, rfl⟩⟩
  | ok b =>
      obtain ⟨task, call, rfl⟩ := newer_callIn spec ran logged source newer reply
      obtain ⟨result, ended, outcome⟩ := call.2.serveDNS_cases spec undo codes copies
        (fleet.config ev.lookup.inst) ev.lookup.request ev.ttlCmd
      refine ⟨result, ended, outcome.imp_right ?_⟩
      rintro ⟨m, rcode, answered, due⟩
      exact ⟨task, m, rcode, call, answered, due⟩

end Runs

/-- The broken value is evicted, and the reply of the next plugin is stored and read. -/
def healedRun : List Action := healingRun ++
  [.applyEvict brokenTask, .reply 0 sampleQuery 0 sampleReply, .enterSet (sampleTask 0),
    .applySet (sampleTask 0), .get 0 sampleQuery (.version 3),
    .ttl ⟨0, sampleQuery, .version 3, 0, 3, .ok storedWire⟩ (.version 3)]

theorem healedRun_genuine :
    ∃ w ev m, run sampleDeps sampleFleet (World.start brokenStore 0) healedRun = some w ∧
      ev ∈ w.log ∧ ev.result = .ok ⟨.answered m 0 none, [], [.hits]⟩ ∧
      ∃ task : SetTask, task.CallIn sampleDeps sampleFleet healedRun ∧
        m = dueReply sampleDeps task.reply ev.lookup.request (replyTTL sampleDeps ev.ttlCmd) := by
  have computed : (run sampleDeps sampleFleet (World.start brokenStore 0) healedRun).any (fun w =>
      decide (∃ ev ∈ w.log, ev.lookup.request = sampleQuery ∧ ev.lookup.source = .version 3 ∧
        ev.result = .ok ⟨.answered (transparentReply sampleDeps sampleReply sampleQuery 60) 0 none,
          [], [.hits]⟩)) = true := by
    decide +kernel
  obtain ⟨w, ran, ev, logged, request, source, ended⟩ := Transition.exists_of_any computed
  have newer : (brokenStore (sampleFleet.lookupKey sampleDeps ev.lookup.request)).length < 3 := by
    rw [request]
    decide +kernel
  obtain ⟨result, same, outcome⟩ := newer_reads_genuine sample_match sample_unpackPack
    sample_packRcode sample_setReply ran logged source newer
  rw [ended] at same
  cases same
  rcases outcome with ⟨storing, missed⟩ | ⟨task, m, rcode, call, answered, due⟩
  · cases missed
  · cases answered
    exact ⟨w, ev, _, ran, logged, ended, task, call, due⟩

end RedisCache
