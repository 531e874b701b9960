import RedisCache.AnswerCache
import RedisCache.ServedTtl

set_option autoImplicit false

/- Where an answer from the cache comes from and how old it may be, over every run from
an empty Redis. Nothing here assumes that the keys of different tuples differ: the check
behind the GET refuses what a collision would bring. -/

namespace RedisCache

open SingleFlight Versions

/-- What the source of a lookup held was stored before the lookup. -/
def Lookup.Timely (d : Deps) (fleet : Fleet) (w : World) (l : Lookup) : Prop :=
  ∀ n e, l.source = .version n → asOf (w.store (fleet.lookupKey d l.request)) n = some e →
    e.storedAt ≤ l.time

/-- No entry and no lookup is ahead of the clock. -/
structure World.Timely (d : Deps) (fleet : Fleet) (w : World) : Prop where
  store : ∀ k e, some e ∈ w.store k → e.storedAt ≤ w.now
  lookups : ∀ l ∈ w.lookups, l.Timely d fleet w
  log : ∀ ev ∈ w.log, ev.lookup.Timely d fleet w

section Clock

variable {d : Deps} {fleet : Fleet} {w after : World} {a : Action}

theorem Lookup.Timely.mono {l : Lookup} (timely : l.Timely d fleet w) (read : l.Read d fleet w)
    (stepped : step d fleet w a = some after) : l.Timely d fleet after := by
  intro n e source found
  have inside : n ≤ (w.store (fleet.lookupKey d l.request)).length := by
    have within := read.within
    rw [source] at within
    exact within
  obtain ⟨more, grown⟩ := step_isPrefix stepped (fleet.lookupKey d l.request)
  rw [← grown, asOf_append inside] at found
  exact timely n e source found

theorem step_now (stepped : step d fleet w a = some after) : w.now ≤ after.now := by
  obtain ⟨_, rfl⟩ := step_iff.mp stepped
  cases a with
  | tick ms => exact Nat.le_add_right _ _
  | _ => exact Nat.le_refl _

theorem step_timely (read : w.Consistent d fleet) (valid : w.Timely d fleet)
    (stepped : step d fleet w a = some after) : after.Timely d fleet where
  store := by
    intro k e member
    have forward := step_now stepped
    have kept : some e ∈ w.store k → e.storedAt ≤ after.now :=
      fun old => Nat.le_trans (valid.store k e old) forward
    rcases step_store stepped with same | ⟨t, _, _, wrote⟩ | ⟨t, _, _, wrote⟩
    · rw [same] at member
      exact kept member
    · rw [wrote] at member
      rcases mem_write member with old | ⟨_, new⟩
      · exact kept old
      · cases new
        exact forward
    · rw [wrote] at member
      rcases mem_write member with old | ⟨_, new⟩
      · exact kept old
      · cases new
  lookups := by
    intro l member
    rcases step_lookups stepped member with old | ⟨i, r, source, _, rfl, inside⟩
    · exact (valid.lookups l old).mono (read.lookups l old) stepped
    · have timely : (fetched d fleet w i r source).Timely d fleet w := by
        intro n e _ found
        exact valid.store _ e (asOf_mem found)
      exact timely.mono (fetched_read inside) stepped
  log := by
    intro ev member
    rcases step_log stepped member with old | ⟨l, source, _, looked, _, rfl⟩
    · exact (valid.log ev old).mono (read.log ev old).lookup stepped
    · exact Lookup.Timely.mono (l := l) (valid.lookups l looked) (read.lookups l looked) stepped

theorem run_timely {now : Nat} {acts : List Action}
    (ran : run d fleet (World.start (fun _ => []) now) acts = some w) : w.Timely d fleet := by
  have both := Transition.run_invariant (step d fleet)
    (fun _ state => state.Consistent d fleet ∧ state.Timely d fleet)
    (fun _ _ _ _ valid stepped =>
      ⟨step_consistent valid.1 stepped, step_timely valid.1 valid.2 stepped⟩)
    ⟨start_consistent d fleet _ now, by constructor <;> simp [World.start]⟩ ran
  exact both.2

end Clock

/-- The origin of an answer from the cache: an upstream reply of the run, to a request
with the same question and CD bit, whose DO bit is that of the client's request. Its bytes
are those of the entry, which was stored before it was read and read before it expired, and
nothing but its header, its OPT records and its TTLs differs from what the client gets. -/
structure Genuine (d : Deps) (fleet : Fleet) (acts : List Action) (ev : Event) (m : Msg)
    (task : SetTask) (e : Entry) : Prop where
  upstream : .reply task.inst task.request task.time task.reply ∈ acts
  stores : Stores d (fleet.config task.inst) task.request task.time task.reply task.job
  wire : e.wire = task.job.wire
  question : ∃ q, task.reply.question = [q] ∧
    requestTuple d ev.lookup.request = ownTuple d q task.reply
  duration : e.duration = storeDuration d (fleet.config task.inst) task.reply
    (d.typify task.reply task.time).1
  stored : e.storedAt ≤ ev.lookup.time
  fresh : ev.lookup.time < e.storedAt + (e.duration / 1000000).toNat
  message : m = dueReply d task.reply ev.lookup.request (replyTTL d ev.ttlCmd)

section Answers

variable {d : Deps} {fleet : Fleet} {now : Nat} {acts : List Action} {w : World} {ev : Event}
  {result : ServeResult} {m : Msg} {rcode : Nat} {err : Option GoError}

/-- The entry behind an answer, and the call that wrote it. -/
theorem answered_entry (spec : d.MatchSpec) (undo : d.UnpackPack) (codes : d.PackRcode)
    (copies : d.SetReplySpec) (ran : run d fleet (World.start (fun _ => []) now) acts = some w)
    (logged : ev ∈ w.log) (ended : ev.result = .ok result)
    (answered : result.ending = .answered m rcode err) :
    ∃ n e task, ev.lookup.source = .version n ∧
      asOf (w.store (fleet.lookupKey d ev.lookup.request)) n = some e ∧
      Genuine d fleet acts ev m task e := by
  have read := (run_consistent ran).log ev logged
  obtain ⟨n, e, source, shown, _, _⟩ := read.servedFrom spec copies ended answered
  obtain ⟨found, fresh⟩ := visible_asOf shown
  obtain ⟨task, ⟨called, stores⟩, job⟩ :=
    (run_sourced spec ran).store _ e (asOf_mem found)
  have bytes : ev.lookup.reply = .ok task.job.wire := by
    rw [read.lookup.reply, source, getReply, shown, job]
  have served := read.result
  rw [ended, bytes] at served
  obtain ⟨out, fetched, got, hit, message, _⟩ := serveDNS_answered served.symm answered
  obtain ⟨q, single, tuple⟩ := stores.hit_tuple spec undo codes got hit
  have response : task.reply.response = true := by
    obtain ⟨_, answers⟩ := stores.answers
    exact answers.response
  refine ⟨n, e, task, source, found, called, stores, ?_, ⟨q, single, tuple⟩, ?_, ?_, fresh, ?_⟩
  · rw [job]
  · rw [← stores.duration, job]
  · exact (run_timely ran).log ev logged n e source found
  · rw [message, stores.hit_eq spec undo codes got hit]
    exact hitReply_due copies response (congrArg Tuple.cd tuple) _

/-- Every answer from the cache is a genuine one, whatever the hash does and whatever
server was read. -/
theorem answered_genuine (spec : d.MatchSpec) (undo : d.UnpackPack) (codes : d.PackRcode)
    (copies : d.SetReplySpec) (ran : run d fleet (World.start (fun _ => []) now) acts = some w)
    (logged : ev ∈ w.log) (ended : ev.result = .ok result)
    (answered : result.ending = .answered m rcode err) :
    ∃ task e, some e ∈ w.store (fleet.lookupKey d ev.lookup.request) ∧
      Genuine d fleet acts ev m task e := by
  obtain ⟨n, e, task, _, found, genuine⟩ :=
    answered_entry spec undo codes copies ran logged ended answered
  exact ⟨task, e, asOf_mem found, genuine⟩

end Answers

/-- The answer of `hitRun` comes from the reply that was stored eighteen seconds before. -/
theorem hitRun_genuine :
    ∃ w ev m, run sampleDeps sampleFleet (World.start (fun _ => []) 0) hitRun = some w ∧
      ev ∈ w.log ∧ ev.result = .ok ⟨.answered m 0 none, [], [.hits]⟩ ∧
      ∃ task e, some e ∈ w.store (sampleFleet.lookupKey sampleDeps ev.lookup.request) ∧
        Genuine sampleDeps sampleFleet hitRun ev m task e := by
  have computed : (run sampleDeps sampleFleet (World.start (fun _ => []) 0) hitRun).any (fun w =>
      decide (∃ ev ∈ w.log, ev.result =
        .ok ⟨.answered (transparentReply sampleDeps sampleReply sampleQuery 42) 0 none,
          [], [.hits]⟩)) = true := by
    decide +kernel
  obtain ⟨w, ran, ev, logged, ended⟩ := Transition.exists_of_any computed
  exact ⟨w, ev, _, ran, logged, ended, answered_genuine sample_match sample_unpackPack
    sample_packRcode sample_setReply ran logged ended rfl⟩

/-- A positive reply with data whose TTLs the configured floor does not raise. -/
structure Unraised (d : Deps) (fleet : Fleet) (task : SetTask) : Prop where
  positive : (d.typify task.reply task.time).1 = .noError ∨
    (d.typify task.reply task.time).1 = .delegation
  data : task.reply.answer.length + task.reply.ns.length ≠ 0
  floor : ∀ rr ∈ task.reply.records, rr.isOPT = false →
    (fleet.config task.inst).pMinTTL ≤ rr.ttl.toNat * second

/-- A positive reply is stored no longer than any of its records lives. -/
theorem minMsgTTL_le_ttl (d : Deps) {m : Msg} {mt : ResponseType}
    (positive : mt = .noError ∨ mt = .delegation) (data : m.answer.length + m.ns.length ≠ 0)
    {rr : RR} (member : rr ∈ m.records) (plain : rr.isOPT = false) :
    minMsgTTL d m mt ≤ rr.ttl.toNat * second := by
  have listed : rr.ttl.toNat ∈ plainTTLs m.records := mem_plainTTLs.mpr ⟨rr, member, plain, rfl⟩
  obtain ⟨smallest, least⟩ := Option.isSome_iff_exists.mp (List.isSome_min?_of_mem listed)
  have low := (List.min?_eq_some_iff.mp least).2 _ listed
  rw [minMsgTTL_positive d m mt positive data smallest least]
  unfold second
  omega

theorem Unraised.storeDuration_le {d : Deps} {fleet : Fleet} {task : SetTask}
    (unraised : Unraised d fleet task) {rr : RR} (member : rr ∈ task.reply.records)
    (plain : rr.isOPT = false) :
    storeDuration d (fleet.config task.inst) task.reply (d.typify task.reply task.time).1 ≤
      rr.ttl.toNat * second := by
  have affirmative : ¬ isDenial (d.typify task.reply task.time).1 := by
    rcases unraised.positive with positive | positive <;> simp [isDenial, positive]
  have low := minMsgTTL_le_ttl d unraised.positive unraised.data member plain
  have floor := unraised.floor rr member plain
  rw [storeDuration_of_not_denial d _ _ affirmative]
  omega

section Lives

variable {d : Deps} {fleet : Fleet} {now : Nat} {acts : List Action} {w : World} {ev : Event}
  {result : ServeResult} {m : Msg} {rcode : Nat} {err : Option GoError}

/-- A reply is handed on with no more life than it had: where both commands of a lookup
saw the same write, the TTL of an answer and its age are at most the TTL of every record
of the upstream reply, up to the half second by which Redis rounds. -/
theorem answered_counts_down (spec : d.MatchSpec) (undo : d.UnpackPack) (codes : d.PackRcode)
    (copies : d.SetReplySpec) (ran : run d fleet (World.start (fun _ => []) now) acts = some w)
    (logged : ev ∈ w.log) (ended : ev.result = .ok result)
    (answered : result.ending = .answered m rcode err) (same : ev.source = ev.lookup.source) :
    ∃ task e, some e ∈ w.store (fleet.lookupKey d ev.lookup.request) ∧
      Genuine d fleet acts ev m task e ∧
      (Unraised d fleet task →
        ∀ rr ∈ m.records, rr.isOPT = false → rr.ttl = 0 ∨
          ∀ old ∈ task.reply.records, old.isOPT = false →
            1000 * rr.ttl.toNat + ev.time ≤ 1000 * old.ttl.toNat + e.storedAt + 500) := by
  have read := (run_consistent ran).log ev logged
  obtain ⟨n, e, task, source, found, genuine⟩ :=
    answered_entry spec undo codes copies ran logged ended answered
  refine ⟨task, e, asOf_mem found, genuine, ?_⟩
  intro unraised rr member plain
  obtain ⟨_, _, servedFrom⟩ := read.servedFrom spec copies ended answered
  rw [servedFrom.stamped rr member plain, read.ttlCmd]
  rcases replyTTL_ttlReply d (w.store (fleet.lookupKey d ev.lookup.request)) ev.time ev.source with
    zero | ⟨later, entry, version, shown, bound⟩
  · exact Or.inl zero
  · refine Or.inr ?_
    intro old inside bare
    -- Both commands name one version of the key, and a version is one entry.
    have versions : later = n := by
      rw [version, source] at same
      exact Source.version.inj same
    obtain ⟨again, alive⟩ := visible_asOf shown
    rw [versions, found] at again
    cases again
    have rounded := reported_le e ev.time
    have life := unraised.storeDuration_le inside bare
    rw [← genuine.duration] at life
    unfold Entry.deadline at rounded alive
    unfold second at life
    omega

end Lives

/-- In `hitRun` a TTL of 42 seconds and an age of 18 make the 60 seconds of the reply. -/
theorem hitRun_counts_down :
    ∃ w ev m, run sampleDeps sampleFleet (World.start (fun _ => []) 0) hitRun = some w ∧
      ev ∈ w.log ∧ ev.result = .ok ⟨.answered m 0 none, [], [.hits]⟩ ∧
      ∃ task e, Unraised sampleDeps sampleFleet task ∧
        Genuine sampleDeps sampleFleet hitRun ev m task e ∧
        ∀ rr ∈ m.records, rr.ttl = 42 ∧ ∀ old ∈ task.reply.records,
          1000 * rr.ttl.toNat + ev.time ≤ 1000 * old.ttl.toNat + e.storedAt + 500 := by
  have computed : (run sampleDeps sampleFleet (World.start (fun _ => []) 0) hitRun).any (fun w =>
      decide (∃ ev ∈ w.log, ev.result =
        .ok ⟨.answered (transparentReply sampleDeps sampleReply sampleQuery 42) 0 none,
          [], [.hits]⟩ ∧ ev.source = ev.lookup.source)) = true := by
    decide +kernel
  obtain ⟨w, ran, ev, logged, ended, same⟩ := Transition.exists_of_any computed
  obtain ⟨⟨inst, request, time, reply, job⟩, e, _, genuine, bound⟩ :=
    answered_counts_down sample_match sample_unpackPack sample_packRcode sample_setReply ran
      logged ended rfl same
  have only : inst = 0 ∧ request = sampleQuery ∧ time = 0 ∧ reply = sampleReply := by
    simpa [hitRun, storeRun] using genuine.upstream
  obtain ⟨rfl, rfl, rfl, rfl⟩ := only
  have unraised : Unraised sampleDeps sampleFleet ⟨0, sampleQuery, 0, sampleReply, job⟩ :=
    ⟨Or.inl rfl, show sampleReply.answer.length + sampleReply.ns.length ≠ 0 by decide,
      show ∀ rr ∈ sampleReply.records, rr.isOPT = false → (0 : Int) ≤ rr.ttl.toNat * second
        by decide⟩
  refine ⟨w, ev, _, ran, logged, ended, _, e, unraised, genuine, ?_⟩
  intro rr member
  obtain rfl := List.mem_singleton.mp member
  refine ⟨rfl, ?_⟩
  intro old inside
  rcases bound unraised _ member rfl with zero | low
  · exact absurd zero (by decide)
  · obtain rfl := List.mem_singleton.mp inside
    exact low _ inside rfl

end RedisCache
