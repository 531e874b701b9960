import RedisCache.StoreInvariant

set_option autoImplicit false

/- What the counters of the read side add up to. The misses have no counter of their own:
they are to be derived from the number of lookups and the number of hits. -/

namespace RedisCache

/-- A GET that found no key, or an empty value: a miss that no counter shows. -/
def silent (getCmd : Except GoError Bytes) : Bool :=
  decide (getCmd = .error .redisNil ∨ getCmd = .ok [])

def Metric.isReadError : Metric → Bool
  | .readErrors _ => true
  | _ => false

/-- What counts as a failed read: a GET that ends in an error other than redis.Nil, or a
value that is not empty and does not decode. -/
inductive ReadFailed (d : Deps) : Except GoError Bytes → Prop
  | command (err : GoError) (known : err ≠ .redisNil) : ReadFailed d (.error err)
  | bare (b : Bytes) (behind : dnsPayload b = none) : ReadFailed d (.ok b)
  | undecodable (b wire : Bytes) (err : GoError) (present : b ≠ [])
      (payload : dnsPayload b = some wire) (failed : d.unpack wire = .error err) :
      ReadFailed d (.ok b)

theorem not_silent_of_readFailed {d : Deps} {getCmd : Except GoError Bytes}
    (failed : ReadFailed d getCmd) : silent getCmd = false := by
  cases failed with
  | command err known => simp [silent, known]
  | bare b behind =>
      have present : b ≠ [] := by
        rintro rfl
        cases behind
      simp [silent, present]
  | undecodable b wire err present => simp [silent, present]

theorem readFailed_iff (d : Deps) {b : Bytes} (present : b ≠ []) (ttl : UInt32) :
    ReadFailed d (.ok b) ↔ ∃ err, fromBytes d b ttl = .ok (.error err) := by
  obtain ⟨flag, returns⟩ := fromBytes_returns d b
  rw [returns]
  cases payload : dnsPayload b with
  | none => exact ⟨fun _ => ⟨_, rfl⟩, fun _ => .bare b payload⟩
  | some wire =>
      cases unpacked : d.unpack wire with
      | error err =>
          refine ⟨fun _ => ⟨err, ?_⟩, fun _ => .undecodable b wire err present payload unpacked⟩
          simp only [decodePayload, unpacked]
      | ok m =>
          constructor
          · intro failed
            cases failed with
            | bare _ behind =>
                rw [payload] at behind
                cases behind
            | undecodable _ other err _ again failed =>
                rw [payload] at again
                cases again
                rw [unpacked] at failed
                cases failed
          · rintro ⟨err, decoded⟩
            simp only [decodePayload, unpacked] at decoded
            cases decoded

/-- A lookup increments one counter, that of the read errors for a failed read, or none and
then it is a silent miss. -/
inductive Counted (d : Deps) (getCmd : Except GoError Bytes) : LookupResult → Prop
  | hit (m : Msg) (evicted : List Key) (loud : silent getCmd = false)
      (sound : ¬ ReadFailed d getCmd) : Counted d getCmd ⟨some m, evicted, [.hits]⟩
  | readError (evicted : List Key) (reason : String) (failed : ReadFailed d getCmd) :
      Counted d getCmd ⟨none, evicted, [.readErrors reason]⟩
  | collision (evicted : List Key) (loud : silent getCmd = false)
      (sound : ¬ ReadFailed d getCmd) : Counted d getCmd ⟨none, evicted, [.collisions]⟩
  | nothing (evicted : List Key) (quiet : silent getCmd = true) :
      Counted d getCmd ⟨none, evicted, []⟩

theorem get_counted {d : Deps} {re : Redis} {r : Msg} {getCmd : Except GoError Bytes}
    {ttlCmd : Except GoError Int} {out : LookupResult}
    (ran : Redis.get d re r getCmd ttlCmd = .ok out) : Counted d getCmd out := by
  cases getCmd with
  | error err =>
      by_cases absent : err = .redisNil
      · subst absent
        cases ran
        exact .nothing _ (by simp [silent])
      · have failed : Redis.get d re r (.error err) ttlCmd =
            .ok ⟨none, [], [.readErrors (errReason err)]⟩ := by
          cases err with
          | redisNil => exact absurd rfl absent
          | _ => rfl
        rw [failed] at ran
        cases ran
        exact .readError _ _ (.command err absent)
  | ok b =>
      by_cases empty : b = []
      · subst empty
        cases ran
        exact .nothing _ (by simp [silent])
      · have loud : silent (.ok b) = false := by simp [silent, empty]
        have fails := readFailed_iff d empty (replyTTL d ttlCmd)
        cases decoded : fromBytes d b (replyTTL d ttlCmd) with
        | error fault =>
            obtain ⟨_, returns⟩ := fromBytes_returns d b
            rw [returns] at decoded
            cases decoded
        | ok result =>
            cases result with
            | error err =>
                rw [get_undecodable d re r ttlCmd empty decoded] at ran
                cases ran
                exact .readError _ _ (fails.mpr ⟨err, decoded⟩)
            | ok pair =>
                obtain ⟨m, storedDO⟩ := pair
                have sound : ¬ ReadFailed d (.ok b) := by
                  rw [fails, decoded]
                  rintro ⟨err, other⟩
                  cases other
                rw [get_decoded d re r ttlCmd empty decoded] at ran
                obtain ⟨same, _, ran⟩ := Checked.bind_ok ran
                split at ran
                · obtain ⟨_, _, ran⟩ := Checked.bind_ok ran
                  cases ran
                  exact .hit _ _ loud sound
                · obtain ⟨_, _, ran⟩ := Checked.bind_ok ran
                  cases ran
                  exact .collision _ loud sound

theorem get_of_silent (d : Deps) (re : Redis) (r : Msg) {getCmd : Except GoError Bytes}
    (ttlCmd : Except GoError Int) (quiet : silent getCmd = true) :
    ∃ out, Redis.get d re r getCmd ttlCmd = .ok out := by
  rcases of_decide_eq_true quiet with rfl | rfl
  · exact ⟨_, rfl⟩
  · exact ⟨_, rfl⟩

theorem get_of_readFailed (d : Deps) (re : Redis) (r : Msg) {getCmd : Except GoError Bytes}
    (ttlCmd : Except GoError Int) (failed : ReadFailed d getCmd) :
    ∃ out, Redis.get d re r getCmd ttlCmd = .ok out := by
  cases getCmd with
  | error err =>
      obtain ⟨metrics, missed⟩ := get_unread d re r ttlCmd err
      exact ⟨_, missed⟩
  | ok b =>
      have present : b ≠ [] := by
        rintro rfl
        cases not_silent_of_readFailed failed
      obtain ⟨err, decoded⟩ := (readFailed_iff d present (replyTTL d ttlCmd)).mp failed
      exact ⟨_, get_undecodable d re r ttlCmd present decoded⟩

/-- The counters that a finished lookup incremented. -/
def Event.counters (ev : Event) : List Metric :=
  match ev.result with
  | .ok result => result.metrics
  | .error _ => []

def Event.faulted (ev : Event) : Bool :=
  match ev.result with
  | .ok _ => false
  | .error _ => true

/-- How often the counters of a kind were incremented by the lookups of a run. -/
def World.counted (w : World) (kind : Metric → Bool) : Nat :=
  (w.log.flatMap Event.counters).countP kind

/-- One of four things has become of an event: a hit, a miss that is counted, a miss that
is silent, or a fault. -/
structure Event.Classed (ev : Event) : Prop where
  once : ev.counters.countP (· == .hits) + ev.misses.length + ev.faulted.toNat = 1
  cause : ev.misses.length = ev.counters.countP Metric.isReadError +
    ev.counters.countP (· == .collisions) + (silent ev.lookup.reply).toNat

theorem finished_classed {d : Deps} {fleet : Fleet} (w : World) {l : Lookup} (source : Source)
    (zone : d.zonesMatches (fleet.config l.inst).zones (d.reqName l.request) ≠ "") :
    (finished d fleet w l source).Classed := by
  have result : (finished d fleet w l source).result = serveDNS d (fleet.config l.inst) l.request
      (fun _ => none) l.reply (finished d fleet w l source).ttlCmd := rfl
  have reply : (finished d fleet w l source).lookup.reply = l.reply := rfl
  rw [serveDNS, if_neg zone] at result
  cases got : Redis.get d (fleet.config l.inst) l.request l.reply
      (finished d fleet w l source).ttlCmd with
  | error fault =>
      have loud : silent l.reply = false := by
        cases quiet : silent l.reply with
        | false => rfl
        | true =>
            obtain ⟨out, returned⟩ := get_of_silent d (fleet.config l.inst) l.request
              (finished d fleet w l source).ttlCmd quiet
            rw [returned] at got
            cases got
      rw [got] at result
      constructor <;>
        simp [Event.counters, Event.misses, Event.faulted, result, bind, Except.bind, reply, loud]
  | ok out =>
      rw [got] at result
      cases get_counted got with
      | hit m evicted loud sound =>
          constructor <;>
            simp [Event.counters, Event.misses, Event.faulted, result, bind, Except.bind, reply, loud,
              Metric.isReadError]
      | readError evicted reason failed =>
          have loud := not_silent_of_readFailed failed
          constructor <;>
            simp [Event.counters, Event.misses, Event.faulted, result, bind, Except.bind, reply, loud,
              Metric.isReadError]
      | collision evicted loud sound =>
          constructor <;>
            simp [Event.counters, Event.misses, Event.faulted, result, bind, Except.bind, reply, loud,
              Metric.isReadError]
      | nothing evicted quiet =>
          constructor <;>
            simp [Event.counters, Event.misses, Event.faulted, result, bind, Except.bind, reply, quiet]

/-- The sums over all lookups of a run. -/
structure World.Accounted (d : Deps) (fleet : Fleet) (w : World) : Prop where
  zones : ∀ l ∈ w.lookups, d.zonesMatches (fleet.config l.inst).zones (d.reqName l.request) ≠ ""
  once : w.log.length =
    w.counted (· == .hits) + w.misses.length + w.log.countP Event.faulted
  cause : w.misses.length = w.counted Metric.isReadError + w.counted (· == .collisions) +
    w.log.countP fun ev => silent ev.lookup.reply

section Runs

variable {d : Deps} {fleet : Fleet} {store : Store} {now : Nat} {acts : List Action}
  {w after : World} {a : Action}

theorem step_accounted (valid : w.Accounted d fleet) (stepped : step d fleet w a = some after) :
    after.Accounted d fleet := by
  obtain ⟨legal, rfl⟩ := step_iff.mp stepped
  cases a with
  | get i r source =>
      refine { valid with zones := ?_ }
      intro l member
      rcases List.mem_cons.mp member with rfl | old
      · exact legal.1
      · exact valid.zones l old
  | ttl l source =>
      have classed := finished_classed w source (valid.zones l legal.1)
      refine ⟨fun other member => valid.zones other (List.mem_of_mem_erase member), ?_, ?_⟩
      · have before := valid.once
        have one := classed.once
        simp only [effect, World.counted, List.length_cons, List.length_append, List.flatMap_cons,
          List.countP_append, List.countP_cons] at before one ⊢
        cases faulted : (finished d fleet w l source).faulted <;>
          simp only [faulted, Bool.toNat_true, Bool.toNat_false, Bool.false_eq_true,
            ↓reduceIte] at one ⊢ <;>
          omega
      · have before := valid.cause
        have one := classed.cause
        simp only [effect, World.counted, List.length_append, List.flatMap_cons,
          List.countP_append, List.countP_cons] at before one ⊢
        cases quiet : silent (finished d fleet w l source).lookup.reply <;>
          simp only [quiet, Bool.toNat_true, Bool.toNat_false, Bool.false_eq_true,
            ↓reduceIte] at one ⊢ <;>
          omega
  | _ => exact { valid with }

theorem run_accounted (ran : run d fleet (World.start store now) acts = some w) :
    w.Accounted d fleet :=
  Transition.run_invariant (step d fleet) (fun _ state => state.Accounted d fleet)
    (fun _ _ _ _ valid stepped => step_accounted valid stepped)
    ⟨by simp [World.start], rfl, rfl⟩ ran

/-- From an empty Redis no lookup faults. -/
theorem no_faults (spec : d.MatchSpec) (undo : d.UnpackPack) (codes : d.PackRcode)
    (ran : run d fleet (World.start (fun _ => []) now) acts = some w) :
    w.log.countP Event.faulted = 0 := by
  rw [List.countP_eq_zero]
  intro ev logged
  have read := (run_consistent ran).log ev logged
  have returned : ∃ out, Redis.get d (fleet.config ev.lookup.inst) ev.lookup.request
      ev.lookup.reply ev.ttlCmd = .ok out := by
    cases reply : ev.lookup.reply with
    | error err =>
        obtain ⟨metrics, missed⟩ := get_unread d (fleet.config ev.lookup.inst) ev.lookup.request
          ev.ttlCmd err
        exact ⟨_, missed⟩
    | ok b =>
        obtain ⟨t, call, rfl, _⟩ := read_callIn spec ran logged reply
        exact call.2.get_returns spec undo codes _ _ _
  obtain ⟨out, got⟩ := returned
  have result := read.result
  rw [serveDNS, got] at result
  simp only [bind, Except.bind] at result
  unfold Event.faulted
  split at result
  · simp [result]
  · split at result <;> simp [result]

/-- Every lookup is a hit, a miss or a fault, and every miss is an error, a collision or
silent; so the lookups less the hits are the misses, as long as nothing but this fleet
writes to Redis. -/
theorem lookups_accounted (spec : d.MatchSpec) (undo : d.UnpackPack) (codes : d.PackRcode)
    (ran : run d fleet (World.start store now) acts = some w) :
    w.log.length = w.counted (· == .hits) + w.misses.length + w.log.countP Event.faulted ∧
      w.misses.length = w.counted Metric.isReadError + w.counted (· == .collisions) +
        w.log.countP (fun ev => silent ev.lookup.reply) ∧
      ((∀ k, store k = []) → w.misses.length = w.log.length - w.counted (· == .hits)) := by
  obtain ⟨_, once, cause⟩ := run_accounted ran
  refine ⟨once, cause, ?_⟩
  intro empty
  obtain rfl : store = fun _ => [] := funext empty
  have safe := no_faults spec undo codes ran
  omega

end Runs

/-- `hitRun` has a silent miss and a hit. -/
theorem hitRun_accounted :
    ∃ w, run sampleDeps sampleFleet (World.start (fun _ => []) 0) hitRun = some w ∧
      w.log.length = 2 ∧ w.counted (· == .hits) = 1 ∧
      w.misses.length = w.log.length - w.counted (· == .hits) := by
  have computed : (run sampleDeps sampleFleet (World.start (fun _ => []) 0) hitRun).any (fun w =>
      decide (w.log.length = 2 ∧ w.counted (· == .hits) = 1)) = true := by
    decide +kernel
  obtain ⟨w, ran, length, hits⟩ := Transition.exists_of_any computed
  obtain ⟨_, _, derived⟩ := lookups_accounted sample_match sample_unpackPack sample_packRcode ran
  exact ⟨w, ran, length, hits, derived fun _ => rfl⟩

end RedisCache
