import RedisCache.Reads

set_option autoImplicit false

/- Where the contents of Redis come from, over whole runs. -/

namespace RedisCache

open SingleFlight Versions

/-- The tuples whose keys a step computes. -/
def Action.tuples (d : Deps) : Action → List Tuple
  | .get _ r _ => [requestTuple d r]
  | .reply _ r time res => [storeTuple d r time res]
  | _ => []

def occurring (d : Deps) (acts : List Action) : List Tuple := acts.flatMap (Action.tuples d)

/-- A goroutine of a `WriteMsg` call among the given steps. -/
def SetTask.CallIn (d : Deps) (fleet : Fleet) (past : List Action) (t : SetTask) : Prop :=
  .reply t.inst t.request t.time t.reply ∈ past ∧
    Stores d (fleet.config t.inst) t.request t.time t.reply t.job

theorem SetTask.CallIn.mono {d : Deps} {fleet : Fleet} {past : List Action} {t : SetTask}
    (call : t.CallIn d fleet past) (a : Action) : t.CallIn d fleet (past ++ [a]) :=
  ⟨List.mem_append_left _ call.1, call.2⟩

theorem started_callIn {d : Deps} (spec : d.MatchSpec) {fleet : Fleet} {i : Nat} {r : Msg}
    {time : Nat} {res : Msg} {t : SetTask} (member : t ∈ started d fleet i r time res) :
    t.CallIn d fleet [.reply i r time res] := by
  unfold started at member
  split at member
  · rename_i out ran
    rw [Option.mem_toList, Option.map_eq_some_iff] at member
    obtain ⟨job, set, rfl⟩ := member
    exact ⟨List.mem_singleton_self _, (writeMsg_set_iff spec ran job).mp set⟩
  · cases member

/-- Every goroutine, every entry and every lookup stems from the steps so far. -/
structure World.Sourced (d : Deps) (fleet : Fleet) (past : List Action) (w : World) : Prop where
  writes : ∀ t ∈ w.writes.calls, t.CallIn d fleet past
  store : ∀ k e, some e ∈ w.store k →
    ∃ t : SetTask, t.CallIn d fleet past ∧ t.job = ⟨k, e.wire, e.duration⟩
  lookups : ∀ l ∈ w.lookups, requestTuple d l.request ∈ occurring d past
  log : ∀ ev ∈ w.log, requestTuple d ev.lookup.request ∈ occurring d past

theorem occurring_mono {d : Deps} {past : List Action} {t : Tuple} (a : Action)
    (member : t ∈ occurring d past) : t ∈ occurring d (past ++ [a]) := by
  rw [occurring, List.flatMap_append]
  exact List.mem_append_left _ member

section Runs

variable {d : Deps} {fleet : Fleet} {past : List Action} {w after : World} {a : Action}

theorem mem_write {store : Store} {k other : Key} {value : Option Entry} {e : Entry}
    (member : some e ∈ store.write k value other) :
    some e ∈ store other ∨ (other = k ∧ value = some e) := by
  by_cases same : other = k
  · subst same
    rw [write_self] at member
    rcases List.mem_append.mp member with old | new
    · exact Or.inl old
    · exact Or.inr ⟨rfl, (List.mem_singleton.mp new).symm⟩
  · rw [write_of_ne store same] at member
    exact Or.inl member

theorem step_sourced (spec : d.MatchSpec) (valid : w.Sourced d fleet past)
    (stepped : step d fleet w a = some after) : after.Sourced d fleet (past ++ [a]) where
  writes := by
    intro t member
    rcases step_writes stepped member with old | ⟨i, r, time, res, rfl, new⟩
    · exact (valid.writes t old).mono a
    · have call := started_callIn spec new
      exact ⟨List.mem_append_right _ call.1, call.2⟩
  store := by
    intro k e member
    have kept : some e ∈ w.store k →
        ∃ t : SetTask, t.CallIn d fleet (past ++ [a]) ∧ t.job = ⟨k, e.wire, e.duration⟩ := by
      intro old
      obtain ⟨t, call, job⟩ := valid.store k e old
      exact ⟨t, call.mono a, job⟩
    rcases step_store stepped with same | ⟨t, sent, _, wrote⟩ | ⟨t, _, _, wrote⟩
    · rw [same] at member
      exact kept member
    · rw [wrote] at member
      rcases mem_write member with old | ⟨rfl, new⟩
      · exact kept old
      · have call := valid.writes t (mem_calls_of_sent sent)
        cases new
        exact ⟨t, call.mono a, rfl⟩
    · rw [wrote] at member
      rcases mem_write member with old | ⟨_, new⟩
      · exact kept old
      · cases new
  lookups := by
    intro l member
    rcases step_lookups stepped member with old | ⟨i, r, source, rfl, rfl, _⟩
    · exact occurring_mono a (valid.lookups l old)
    · rw [occurring, List.flatMap_append]
      exact List.mem_append_right _ (List.mem_singleton_self _)
  log := by
    intro ev member
    rcases step_log stepped member with old | ⟨l, source, _, looked, _, rfl⟩
    · exact occurring_mono a (valid.log ev old)
    · exact occurring_mono a (valid.lookups l looked)

theorem start_sourced (d : Deps) (fleet : Fleet) (now : Nat) :
    (World.start (fun _ => []) now).Sourced d fleet [] where
  writes := by simp [World.start, Pool.calls, Pool.empty]
  store := by simp [World.start]
  lookups := by simp [World.start]
  log := by simp [World.start]

theorem run_sourced (spec : d.MatchSpec) {now : Nat} {acts : List Action}
    (ran : run d fleet (World.start (fun _ => []) now) acts = some w) :
    w.Sourced d fleet acts :=
  Transition.run_invariant (step d fleet) (World.Sourced d fleet)
    (fun _ _ _ _ valid stepped => step_sourced spec valid stepped)
    (start_sourced d fleet now) ran

/-- A finished lookup that read bytes read those of a `WriteMsg` call of the run. -/
theorem read_callIn (spec : d.MatchSpec) {now : Nat} {acts : List Action}
    (ran : run d fleet (World.start (fun _ => []) now) acts = some w) {ev : Event}
    (logged : ev ∈ w.log) {b : Bytes} (found : ev.lookup.reply = .ok b) :
    ∃ t : SetTask, t.CallIn d fleet acts ∧ t.job.wire = b ∧
      t.job.key = fleet.lookupKey d ev.lookup.request := by
  have read := ((run_consistent ran).log ev logged).lookup.reply
  rw [found] at read
  obtain ⟨n, e, _, shown, rfl⟩ := getReply_ok read.symm
  obtain ⟨t, call, job⟩ := (run_sourced spec ran).store _ e (asOf_mem (visible_asOf shown).1)
  exact ⟨t, call, by rw [job], by rw [job]⟩

end Runs

/-- An entry is the payload and the duration of one `WriteMsg` call, under the key
of the reply's own question, DO bit and CD bit. -/
def WrittenByOne (d : Deps) (fleet : Fleet) (acts : List Action) (k : Key) (e : Entry) : Prop :=
  ∃ i r time res q, .reply i r time res ∈ acts ∧
    cacheable res (d.typify res time).1 = .ok true ∧
    responseMatchesRequest d r res = .ok true ∧
    toBytes d res = .ok e.wire ∧
    e.duration = storeDuration d (fleet.config i) res (d.typify res time).1 ∧
    res.question = [q] ∧ k = fleet.keyer.key d (ownTuple d q res)

theorem SetTask.CallIn.writtenByOne {d : Deps} (spec : d.MatchSpec) (opts : d.TypifyOpt)
    {fleet : Fleet} {acts : List Action} {t : SetTask} {k : Key} {e : Entry}
    (call : t.CallIn d fleet acts) (job : t.job = ⟨k, e.wire, e.duration⟩) :
    WrittenByOne d fleet acts k e := by
  obtain ⟨called, stores⟩ := call
  rw [job] at stores
  obtain ⟨q, single, answers, _, key⟩ := stores.own_key opts
  rw [fleet.shared] at key
  exact ⟨t.inst, t.request, t.time, t.reply, q, called, stores.admitted,
    (responseMatchesRequest_iff spec _ _).mpr ⟨q, answers⟩, stores.encoded, stores.duration,
    single, key⟩

/-- Where no two tuples share a key, a lookup that finds an entry is a hit. -/
theorem hit_of_callIn {d : Deps} (spec : d.MatchSpec) (opts : d.TypifyOpt) (undo : d.UnpackPack)
    (codes : d.PackRcode) {fleet : Fleet} {acts : List Action}
    (apart : ∀ left ∈ occurring d acts, ∀ right ∈ occurring d acts,
      fleet.keyer.key d left = fleet.keyer.key d right → left = right)
    {t : SetTask} (call : t.CallIn d fleet acts) {r : Msg}
    (asked : requestTuple d r ∈ occurring d acts) (same : t.job.key = fleet.lookupKey d r)
    (reader : Redis) (ttlCmd : Except GoError Int) :
    Redis.get d reader r (.ok t.job.wire) ttlCmd =
      .ok ⟨some (decodedReply t.reply (replyTTL d ttlCmd)), [], [.hits]⟩ := by
  obtain ⟨called, stores⟩ := call
  obtain ⟨q, single, _, tuple, key⟩ := stores.own_key opts
  have stored : ownTuple d q t.reply ∈ occurring d acts := by
    rw [← tuple]
    exact List.mem_flatMap.mpr ⟨_, called, List.mem_singleton_self _⟩
  rw [fleet.shared] at key
  have shared : fleet.keyer.key d (requestTuple d r) = fleet.keyer.key d (ownTuple d q t.reply) :=
    same.symm.trans key
  exact stores.get_hit spec undo codes single reader r (apart _ asked _ stored shared) ttlCmd

/-- Over every run from an empty store, each entry is that of one call; and where
no two tuples of the run share a key, every lookup that finds a value is a hit. -/
theorem store_invariant {d : Deps} (spec : d.MatchSpec) (opts : d.TypifyOpt)
    (undo : d.UnpackPack) (codes : d.PackRcode) (fleet : Fleet) {now : Nat}
    {acts : List Action} {w : World}
    (ran : run d fleet (World.start (fun _ => []) now) acts = some w) :
    (∀ k e, some e ∈ w.store k → WrittenByOne d fleet acts k e) ∧
      ((∀ left ∈ occurring d acts, ∀ right ∈ occurring d acts,
          fleet.keyer.key d left = fleet.keyer.key d right → left = right) →
        ∀ ev ∈ w.log, ∀ b, ev.lookup.reply = .ok b →
          ∃ m, Redis.get d (fleet.config ev.lookup.inst) ev.lookup.request ev.lookup.reply
            ev.ttlCmd = .ok ⟨some m, [], [.hits]⟩) := by
  have sourced := run_sourced spec ran
  constructor
  · intro k e member
    obtain ⟨t, call, job⟩ := sourced.store k e member
    exact call.writtenByOne spec opts job
  · intro apart ev logged b found
    obtain ⟨t, call, rfl, key⟩ := read_callIn spec ran logged found
    rw [found]
    exact ⟨_, hit_of_callIn spec opts undo codes apart call (sourced.log ev logged) key _ _⟩

/-- Instances with the default configuration. -/
def sampleFleet : Fleet := ⟨fun _ => Redis.new, Redis.new.keyer, fun _ => rfl⟩

def sampleKey : Key := sampleFleet.lookupKey sampleDeps sampleQuery

/-- `ToBytes(sampleReply)`. -/
def storedWire : Bytes := cachePayloadPrefix ++ [0] ++ sampleWire

/-- The write of `sampleReply` by an instance. -/
def sampleTask (i : Nat) : SetTask :=
  ⟨i, sampleQuery, 0, sampleReply, ⟨sampleKey, storedWire, 60 * second⟩⟩

/-- A miss of instance 0 at time zero, and the store of the reply. -/
def storeRun : List Action :=
  [.get 0 sampleQuery (.version 0),
    .ttl ⟨0, sampleQuery, .version 0, 0, 0, .error .redisNil⟩ (.version 0),
    .reply 0 sampleQuery 0 sampleReply,
    .enterSet (sampleTask 0), .applySet (sampleTask 0), .endSet (sampleTask 0)]

/-- Eighteen seconds later the entry is read. -/
def hitRun : List Action := storeRun ++
  [.tick 18000, .get 0 sampleQuery (.version 1),
    .ttl ⟨0, sampleQuery, .version 1, 18000, 1, .ok storedWire⟩ (.version 1)]

theorem hitRun_ran : ∃ w, run sampleDeps sampleFleet (World.start (fun _ => []) 0) hitRun = some w ∧
    some ⟨storedWire, 60 * second, 0⟩ ∈ w.store sampleKey ∧
    (w.log.map fun ev => ev.lookup.reply) = [.ok storedWire, .error .redisNil] := by
  have computed : (run sampleDeps sampleFleet (World.start (fun _ => []) 0) hitRun).any (fun w =>
      decide (some ⟨storedWire, 60 * second, 0⟩ ∈ w.store sampleKey ∧
        (w.log.map fun ev => ev.lookup.reply) = [.ok storedWire, .error .redisNil])) = true := by
    decide +kernel
  exact Transition.exists_of_any computed

theorem hitRun_apart : ∀ left ∈ occurring sampleDeps hitRun, ∀ right ∈ occurring sampleDeps hitRun,
    sampleFleet.keyer.key sampleDeps left = sampleFleet.keyer.key sampleDeps right →
      left = right := by
  have one : ∀ t ∈ occurring sampleDeps hitRun, t = requestTuple sampleDeps sampleQuery := by
    decide
  intro left leftIn right rightIn _
  rw [one left leftIn, one right rightIn]

theorem store_invariant_hitRun :
    ∃ w, run sampleDeps sampleFleet (World.start (fun _ => []) 0) hitRun = some w ∧
      WrittenByOne sampleDeps sampleFleet hitRun sampleKey ⟨storedWire, 60 * second, 0⟩ ∧
      ∃ ev ∈ w.log, ev.lookup.reply = .ok storedWire ∧
        ∃ m, Redis.get sampleDeps Redis.new ev.lookup.request (.ok storedWire) ev.ttlCmd =
          .ok ⟨some m, [], [.hits]⟩ := by
  obtain ⟨w, ran, entry, replies⟩ := hitRun_ran
  obtain ⟨written, hits⟩ := store_invariant sample_match sample_typifyOpt sample_unpackPack
    sample_packRcode sampleFleet ran
  have read : .ok storedWire ∈ w.log.map fun ev => ev.lookup.reply := by
    rw [replies]
    exact List.mem_cons_self
  obtain ⟨ev, logged, found⟩ := List.mem_map.mp read
  have hit := hits hitRun_apart ev logged storedWire found
  rw [found] at hit
  exact ⟨w, ran, written _ _ entry, ev, logged, found, hit⟩

end RedisCache
