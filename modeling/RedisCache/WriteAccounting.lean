import RedisCache.Flights

set_option autoImplicit false

/- What becomes of the replies that go through `WriteMsg`: each of them is left alone, counted
or on its way to Redis. -/

namespace RedisCache

open SingleFlight

/-- A reply that is to be stored: cacheable, and for longer than nothing. -/
def wanted (d : Deps) (re : Redis) (time : Nat) (res : Msg) : Bool :=
  decide (cacheable res (d.typify res time).1 = .ok true ∧
    0 < storeDuration d re res (d.typify res time).1)

/-- What `WriteMsg` does with a reply besides handing it on. -/
inductive WriteOutcome (d : Deps) (r res : Msg) (wants : Bool) : WriteResult → Prop
  | unwanted (client : Msg) (refused : wants = false) : WriteOutcome d r res wants ⟨client, none, []⟩
  | mismatch (client : Msg) (asked : wants = true) (other : ¬ ∃ q, Answers d r res q) :
      WriteOutcome d r res wants ⟨client, none, [.responseMismatches]⟩
  | unencodable (client : Msg) (asked : wants = true) (answers : ∃ q, Answers d r res q)
      (err : GoError) (failed : toBytes d res = .error err) :
      WriteOutcome d r res wants ⟨client, none, [.encodeErrors]⟩
  | started (client : Msg) (job : SetJob) (asked : wants = true) (answers : ∃ q, Answers d r res q)
      (encoded : toBytes d res = .ok job.wire) : WriteOutcome d r res wants ⟨client, some job, []⟩

/-- The test before the bytes are taken is for a reply that is to be stored. -/
theorem wanted_iff {d : Deps} (re : Redis) {time : Nat} {res : Msg} {store : Bool} (t : Tuple)
    (decided : cacheable res (d.typify res time).1 = .ok store) :
    wanted d re time res = true ↔ (if store then re.keyer.key d t else "") ≠ "" ∧
      0 < storeDuration d re res (d.typify res time).1 := by
  rw [wanted, decide_eq_true_iff, decided]
  cases store with
  | true => simp [key_ne_empty]
  | false => simp

theorem writeMsg_outcome {d : Deps} (spec : d.MatchSpec) {re : Redis} {r : Msg} {time : Nat}
    {res : Msg} {out : WriteResult} (ran : writeMsg d re r time res = .ok out) :
    WriteOutcome d r res (wanted d re time res) out := by
  obtain ⟨store, decided, ran⟩ := Checked.bind_ok ran
  obtain ⟨⟨wire, metrics⟩, taken, ran⟩ := Checked.bind_ok ran
  cases ran
  have asks := wanted_iff re (tupleFor d r ((d.typify res time).2.any d.optDo)) decided
  generalize (if store = true then re.keyer.key d (tupleFor d r ((d.typify res time).2.any d.optDo))
    else "") = k at taken asks ⊢
  unfold snapshot at taken
  split at taken
  · rename_i test
    have asked := asks.mpr test
    obtain ⟨same, value⟩ := responseMatchesRequest_returns spec r res
    rw [value] at taken
    cases same with
    | false =>
        cases taken
        refine .mismatch _ asked ?_
        rw [← responseMatchesRequest_iff spec, value]
        simp
    | true =>
        have answers := (responseMatchesRequest_iff spec r res).mp value
        cases encoded : toBytes d res with
        | error err =>
            simp only [encoded, bind, Except.bind] at taken
            cases taken
            exact .unencodable _ asked answers err encoded
        | ok b =>
            simp only [encoded, bind, Except.bind] at taken
            cases taken
            exact .started _ _ asked answers encoded
  · rename_i test
    cases taken
    exact .unwanted _ (Bool.eq_false_iff.mpr fun asked => test (asks.mp asked))

def Action.isReply : Action → Bool
  | .reply _ _ _ _ => true
  | _ => false

def Action.isEnterSet : Action → Bool
  | .enterSet _ => true
  | _ => false

section Runs

variable (d : Deps) (fleet : Fleet)

/-- The counters that a step of the write side increments. -/
def Action.counters : Action → List Metric
  | .reply i r time res =>
      match writeMsg d (fleet.config i) r time res with
      | .ok out => out.metrics
      | .error _ => []
  | _ => []

def Action.isUnwanted : Action → Bool
  | .reply i _ time res => !wanted d (fleet.config i) time res
  | _ => false

def writeCounted (acts : List Action) (kind : Metric) : Nat :=
  (acts.flatMap (Action.counters d fleet)).countP (· == kind)

variable {d fleet} {past : List Action} {w after : World} {a : Action}

/-- One reply is unwanted, counted as a mismatch, counted as an encoding error, or has
started a goroutine. -/
theorem reply_classed (spec : d.MatchSpec) (fleet : Fleet) (i : Nat) (r : Msg) (time : Nat)
    (res : Msg) :
    (Action.isUnwanted d fleet (.reply i r time res)).toNat +
      writeCounted d fleet [.reply i r time res] .responseMismatches +
      writeCounted d fleet [.reply i r time res] .encodeErrors +
      (started d fleet i r time res).length = 1 := by
  obtain ⟨out, ran⟩ := writeMsg_returns spec (fleet.config i) r time res
  have written := writeMsg_outcome spec ran
  simp only [Action.isUnwanted, writeCounted, started, List.flatMap_singleton, Action.counters, ran]
  cases written with
  | unwanted client refused => simp [refused]
  | mismatch client asked other => simp [asked]
  | unencodable client asked answers err failed => simp [asked]
  | started client job asked answers encoded => simp [asked]

/-- The replies so far, and the goroutines that they have become. -/
structure World.WriteAccounted (d : Deps) (fleet : Fleet) (past : List Action) (w : World) :
    Prop where
  once : past.countP Action.isReply = past.countP (Action.isUnwanted d fleet) +
    writeCounted d fleet past .responseMismatches + writeCounted d fleet past .encodeErrors +
    w.writes.waiting.length + past.countP Action.isEnterSet
  sent : w.writes.sent.length ≤ past.countP Action.isEnterSet

theorem writeCounted_snoc (past : List Action) (a : Action) (kind : Metric) :
    writeCounted d fleet (past ++ [a]) kind =
      writeCounted d fleet past kind + writeCounted d fleet [a] kind := by
  simp only [writeCounted, List.flatMap_append, List.countP_append]

theorem step_writeAccounted (spec : d.MatchSpec) (valid : w.WriteAccounted d fleet past)
    (stepped : step d fleet w a = some after) : after.WriteAccounted d fleet (past ++ [a]) := by
  obtain ⟨legal, rfl⟩ := step_iff.mp stepped
  have before := valid.once
  have bounded := valid.sent
  cases a with
  | reply i r time res =>
      have one := reply_classed spec fleet i r time res
      refine ⟨?_, ?_⟩
      · simp only [List.countP_append, List.countP_singleton, writeCounted_snoc, effect, Pool.spawn,
          List.length_append, Action.isReply, Action.isEnterSet, Bool.false_eq_true, if_true, if_false]
        cases unwanted : Action.isUnwanted d fleet (.reply i r time res) <;>
          simp only [unwanted, Bool.toNat_true, Bool.toNat_false, Bool.false_eq_true, if_true,
            if_false] at one ⊢ <;>
          omega
      · simp only [List.countP_append, List.countP_singleton, Action.isEnterSet, Bool.false_eq_true,
          if_false]
        exact bounded
  | enterSet t =>
      obtain ⟨waiting, sent⟩ := enter_lengths d.flight SetTask.flight legal
      refine ⟨?_, ?_⟩
      · simp only [List.countP_append, List.countP_singleton, writeCounted_snoc, effect,
          Action.isReply, Action.isUnwanted, Action.isEnterSet, Bool.false_eq_true, if_true, if_false]
        show _ = _ + (_ + 0) + (_ + 0) + _ + (_ + 1)
        omega
      · simp only [List.countP_append, List.countP_singleton, Action.isEnterSet, if_true, effect]
        omega
  | _ =>
      refine ⟨?_, ?_⟩
      · simp only [List.countP_append, List.countP_singleton, writeCounted_snoc,
          Action.isReply, Action.isUnwanted, Action.isEnterSet, Bool.false_eq_true, if_false]
        exact before
      · simp only [List.countP_append, List.countP_singleton, Action.isEnterSet, Bool.false_eq_true,
          if_false]
        exact bounded

/-- Over every run, the replies that went through `WriteMsg` are those that are not to be
stored, those that the two counters of the write side show, those whose goroutine has not
begun, and those whose goroutine has gone to the single-flight group; and there is at most
one command for each of the last. -/
theorem writes_accounted (spec : d.MatchSpec) {store : Store} {now : Nat} {acts : List Action}
    (ran : run d fleet (World.start store now) acts = some w) :
    acts.countP Action.isReply = acts.countP (Action.isUnwanted d fleet) +
        writeCounted d fleet acts .responseMismatches + writeCounted d fleet acts .encodeErrors +
        w.writes.waiting.length + acts.countP Action.isEnterSet ∧
      w.writes.sent.length ≤ acts.countP Action.isEnterSet := by
  have accounted : w.WriteAccounted d fleet acts :=
    Transition.run_invariant (step d fleet) (World.WriteAccounted d fleet)
      (fun _ _ _ _ valid stepped => step_writeAccounted spec valid stepped) ⟨rfl, Nat.le_refl _⟩ ran
  exact ⟨accounted.once, accounted.sent⟩

end Runs

/-- Two replies to one query: the second SET finds the first one in flight. -/
def herdRun : List Action :=
  [.get 0 sampleQuery (.version 0),
    .ttl ⟨0, sampleQuery, .version 0, 0, 0, .error .redisNil⟩ (.version 0),
    .reply 0 sampleQuery 0 sampleReply, .reply 0 sampleQuery 0 sampleReply,
    .enterSet (sampleTask 0), .enterSet (sampleTask 0)]

/-- Of the two replies in `herdRun` one is sent, and the other finds it in flight. -/
theorem herdRun_accounted :
    ∃ w, run sampleDeps sampleFleet (World.start (fun _ => []) 0) herdRun = some w ∧
      herdRun.countP Action.isReply = 2 ∧ w.writes.sent.length = 1 ∧
      writeCounted sampleDeps sampleFleet herdRun .responseMismatches = 0 ∧
      w.writes.sent.length ≤ herdRun.countP Action.isEnterSet := by
  have computed : (run sampleDeps sampleFleet (World.start (fun _ => []) 0) herdRun).any (fun w =>
      decide (w.writes.sent.length = 1)) = true := by
    decide +kernel
  obtain ⟨w, ran, sent⟩ := Transition.exists_of_any computed
  obtain ⟨once, bounded⟩ := writes_accounted sample_match ran
  refine ⟨w, ran, rfl, sent, ?_, bounded⟩
  have replies : herdRun.countP Action.isReply = 2 := rfl
  have entered : herdRun.countP Action.isEnterSet = 2 := rfl
  omega

end RedisCache
