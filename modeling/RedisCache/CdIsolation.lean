import RedisCache.SelfHeal

set_option autoImplicit false

/- Requests with and without the CD bit do not see each other. The CD=0 part of a
world is a world of its own: CD=1 steps leave it alone, and CD=0 steps go the same
way in it as in the whole. What two runs are compared by is what their surroundings
chose for the CD=0 requests, never what Redis returned to them. -/

namespace RedisCache

open SingleFlight Versions

def Lookup.cd0 (l : Lookup) : Bool := !l.request.checkingDisabled

def Event.cd0 (ev : Event) : Bool := ev.lookup.cd0

def SetTask.cd0 (t : SetTask) : Bool := !t.request.checkingDisabled

def EvictTask.cd0 (t : EvictTask) : Bool := t.lookup.cd0

/-- The steps of CD=0 requests, and the clock, which all requests share. -/
def Action.cd0 : Action → Bool
  | .get _ r _ => !r.checkingDisabled
  | .ttl l _ => l.cd0
  | .reply _ r _ _ => !r.checkingDisabled
  | .enterSet t => t.cd0
  | .applySet t => t.cd0
  | .endSet t => t.cd0
  | .enterEvict t => t.cd0
  | .applyEvict t => t.cd0
  | .endEvict t => t.cd0
  | .tick _ => true

def Store.restrict (keys : Key → Bool) (store : Store) : Store :=
  fun k => if keys k then store k else []

/-- The part of a world that belongs to CD=0 requests and the given keys. -/
def World.cd0 (keys : Key → Bool) (w : World) : World where
  now := w.now
  store := w.store.restrict keys
  lookups := w.lookups.filter Lookup.cd0
  misses := w.misses.filter fun miss => !miss.2.checkingDisabled
  writes := w.writes.filter SetTask.cd0
  evictions := w.evictions.filter EvictTask.cd0
  log := w.log.filter Event.cd0

/-- Everything under way for a CD=0 request is about one of the keys, and nothing
under way for a CD=1 request is. -/
structure World.Placed (d : Deps) (fleet : Fleet) (keys : Key → Bool) (w : World) : Prop where
  lookups : ∀ l ∈ w.lookups, keys (fleet.lookupKey d l.request) = l.cd0
  log : ∀ ev ∈ w.log, keys (fleet.lookupKey d ev.lookup.request) = ev.cd0
  writes : ∀ t ∈ w.writes.calls, keys t.job.key = t.cd0
  evictions : ∀ t ∈ w.evictions.calls, keys t.key = t.cd0

/-- The tuples of a step have their keys on the side of their CD bit. -/
def Action.Placed (d : Deps) (fleet : Fleet) (keys : Key → Bool) (a : Action) : Prop :=
  ∀ t ∈ a.tuples d, keys (fleet.keyer.key d t) = !t.cd

section Restrict

variable {keys : Key → Bool} {store : Store} {k : Key} (value : Option Entry)

theorem restrict_of_pos (inside : keys k = true) : store.restrict keys k = store k := by
  rw [Store.restrict, if_pos inside]

theorem restrict_write_of_pos (inside : keys k = true) :
    (store.write k value).restrict keys = (store.restrict keys).write k value := by
  funext other
  by_cases same : other = k
  · subst same
    rw [restrict_of_pos inside, write_self, write_self, restrict_of_pos inside]
  · rw [write_of_ne _ same, Store.restrict, Store.restrict, write_of_ne _ same]

theorem restrict_write_of_neg (outside : keys k = false) :
    (store.write k value).restrict keys = store.restrict keys := by
  funext other
  by_cases same : other = k
  · subst same
    simp only [Store.restrict, outside, Bool.false_eq_true, ↓reduceIte]
  · rw [Store.restrict, write_of_ne _ same, Store.restrict]

end Restrict

section Origins

variable {d : Deps} {fleet : Fleet}

theorem mem_started {i : Nat} {r : Msg} {time : Nat} {res : Msg} {t : SetTask}
    (member : t ∈ started d fleet i r time res) :
    t.request = r ∧ t.job.key = fleet.keyer.key d (storeTuple d r time res) := by
  unfold started at member
  split at member
  · rename_i out ran
    rw [Option.mem_toList, Option.map_eq_some_iff] at member
    obtain ⟨job, set, rfl⟩ := member
    have key := writeMsg_set_key ran set
    rw [fleet.shared] at key
    exact ⟨rfl, key⟩
  · cases member

theorem Event.Read.evicts_key {w : World} {ev : Event} {t : EvictTask} (read : ev.Read d fleet w)
    (member : t ∈ ev.evicts) :
    t.lookup = ev.lookup ∧ t.key = fleet.lookupKey d ev.lookup.request := by
  obtain ⟨looked, result, ended, listed⟩ := mem_evicts member
  have served := read.result
  rw [ended] at served
  obtain ⟨out, got, evicted⟩ := serveDNS_evicted served.symm listed
  have key := (get_evicted got evicted).1
  rw [fleet.shared] at key
  exact ⟨looked, key⟩

theorem mem_misses {ev : Event} {miss : Nat × Msg} (member : miss ∈ ev.misses) :
    miss.2 = ev.lookup.request := by
  unfold Event.misses at member
  split at member
  · rw [List.mem_singleton.mp member]
  · cases member

theorem misses_filter (ev : Event) :
    ev.misses.filter (fun miss => !miss.2.checkingDisabled) = if ev.cd0 then ev.misses else [] := by
  apply filter_uniform
  intro miss member
  rw [mem_misses member]
  rfl

theorem Event.Read.evicts_filter {w : World} {ev : Event} (read : ev.Read d fleet w) :
    ev.evicts.filter EvictTask.cd0 = if ev.cd0 then ev.evicts else [] := by
  apply filter_uniform
  intro t member
  rw [EvictTask.cd0, (read.evicts_key member).1]
  rfl

theorem started_filter (i : Nat) (r : Msg) (time : Nat) (res : Msg) :
    (started d fleet i r time res).filter SetTask.cd0 =
      if !r.checkingDisabled then started d fleet i r time res else [] := by
  apply filter_uniform
  intro t member
  rw [SetTask.cd0, (mem_started member).1]

end Origins

section Steps

variable {d : Deps} {fleet : Fleet} {keys : Key → Bool} {w after : World} {a : Action}

/-- A call shares its flight with calls of its own side only. -/
theorem World.Placed.writes_complete (valid : w.Placed d fleet keys) {t : SetTask}
    (known : t ∈ w.writes.calls) (shown : t.cd0 = true) :
    ∀ other ∈ w.writes.running, other.flight = t.flight → other.cd0 = true := by
  intro other member same
  have key : other.job.key = t.job.key := congrArg Prod.snd same
  rw [← valid.writes other (mem_calls_of_running member), key, valid.writes t known]
  exact shown

theorem World.Placed.evictions_complete (valid : w.Placed d fleet keys) {t : EvictTask}
    (known : t ∈ w.evictions.calls) (shown : t.cd0 = true) :
    ∀ other ∈ w.evictions.running, other.flight = t.flight → other.cd0 = true := by
  intro other member same
  have key : other.key = t.key := congrArg Prod.snd same
  rw [← valid.evictions other (mem_calls_of_running member), key, valid.evictions t known]
  exact shown

theorem step_placed (read : w.Consistent d fleet) (valid : w.Placed d fleet keys)
    (legal : a.Placed d fleet keys) (stepped : step d fleet w a = some after) :
    after.Placed d fleet keys := by
  have lookups : ∀ l ∈ after.lookups, keys (fleet.lookupKey d l.request) = l.cd0 := by
    intro l member
    rcases step_lookups stepped member with old | ⟨i, r, source, rfl, rfl, _⟩
    · exact valid.lookups l old
    · exact legal _ (List.mem_singleton_self _)
  have log : ∀ ev ∈ after.log, keys (fleet.lookupKey d ev.lookup.request) = ev.cd0 := by
    intro ev member
    rcases step_log stepped member with old | ⟨l, source, _, looked, _, rfl⟩
    · exact valid.log ev old
    · exact valid.lookups l looked
  refine ⟨lookups, log, ?_, ?_⟩
  · intro t member
    rcases step_writes stepped member with old | ⟨i, r, time, res, rfl, new⟩
    · exact valid.writes t old
    · obtain ⟨request, key⟩ := mem_started new
      rw [key, SetTask.cd0, request]
      exact legal _ (List.mem_singleton_self _)
  · intro t member
    rcases step_evictions stepped member with old | ⟨ev, logged, made⟩
    · exact valid.evictions t old
    · obtain ⟨looked, key⟩ := ((step_consistent read stepped).log ev logged).evicts_key made
      rw [key, EvictTask.cd0, looked]
      exact log ev logged

/-- A step of a CD=1 request changes nothing in the CD=0 part. -/
theorem step_quiet (read : w.Consistent d fleet) (valid : w.Placed d fleet keys)
    (hidden : a.cd0 = false) (stepped : step d fleet w a = some after) :
    after.cd0 keys = w.cd0 keys := by
  have grown := step_consistent read stepped
  obtain ⟨legal, rfl⟩ := step_iff.mp stepped
  cases a with
  | get i r source =>
      have outside : (fetched d fleet w i r source).cd0 = false := hidden
      simp only [effect, World.cd0, List.filter_cons, outside, Bool.false_eq_true, ↓reduceIte]
  | ttl l source =>
      have logged := grown.log (finished d fleet w l source) List.mem_cons_self
      have outside : (finished d fleet w l source).cd0 = false := hidden
      simp only [effect, World.cd0, List.filter_cons, outside, Bool.false_eq_true, ↓reduceIte,
        List.filter_append, misses_filter, List.nil_append, spawn_filter, logged.evicts_filter,
        erase_filter_of_neg Lookup.cd0 _ hidden]
      rfl
  | reply i r time res =>
      have outside : (!r.checkingDisabled) = false := hidden
      simp only [effect, World.cd0, spawn_filter, started_filter, outside, Bool.false_eq_true,
        ↓reduceIte]
      rfl
  | enterSet t =>
      simp only [effect, World.cd0, enter_filter_of_neg d.flight SetTask.flight SetTask.cd0 hidden]
  | applySet t =>
      have key : keys t.job.key = false :=
        (valid.writes t (mem_calls_of_sent legal)).trans hidden
      simp only [effect, World.cd0, restrict_write_of_neg _ key]
  | endSet t => simp only [effect, World.cd0, leave_filter_of_neg SetTask.cd0 hidden]
  | enterEvict t =>
      simp only [effect, World.cd0,
        enter_filter_of_neg d.flight EvictTask.flight EvictTask.cd0 hidden]
  | applyEvict t =>
      have key : keys t.key = false :=
        (valid.evictions t (mem_calls_of_sent legal)).trans hidden
      simp only [effect, World.cd0, restrict_write_of_neg _ key]
  | endEvict t => simp only [effect, World.cd0, leave_filter_of_neg EvictTask.cd0 hidden]
  | tick ms => cases hidden

section Shown

variable (i : Nat) (r : Msg) (l : Lookup) (source : Source)

theorem cd0_store {k : Key} (inside : keys k = true) : (w.cd0 keys).store k = w.store k :=
  restrict_of_pos inside

/-- A GET of one of the keys finds in the CD=0 part what it finds in the whole. -/
theorem fetched_cd0 (inside : keys (fleet.lookupKey d r) = true) :
    fetched d fleet (w.cd0 keys) i r source = fetched d fleet w i r source := by
  simp only [fetched, cd0_store inside]
  rfl

theorem finished_cd0 (inside : keys (fleet.lookupKey d l.request) = true) :
    finished d fleet (w.cd0 keys) l source = finished d fleet w l source := by
  simp only [finished, cd0_store inside]
  rfl

end Shown

/-- A step of a CD=0 request goes the same way in the CD=0 part. -/
theorem step_follows (flights : d.FlightSpec) (read : w.Consistent d fleet)
    (valid : w.Placed d fleet keys) (placed : a.Placed d fleet keys) (shown : a.cd0 = true)
    (stepped : step d fleet w a = some after) :
    step d fleet (w.cd0 keys) a = some (after.cd0 keys) := by
  have grown := step_consistent read stepped
  obtain ⟨legal, rfl⟩ := step_iff.mp stepped
  apply step_iff.mpr
  cases a with
  | get i r source =>
      have key : keys (fleet.lookupKey d r) = true :=
        (placed _ (List.mem_singleton_self _)).trans shown
      have inside : (fetched d fleet w i r source).cd0 = true := shown
      refine ⟨⟨legal.1, by rw [cd0_store key]; exact legal.2⟩, ?_⟩
      simp only [effect, fetched_cd0 i r source key]
      simp only [World.cd0, List.filter_cons, inside, ↓reduceIte]
  | ttl l source =>
      have key : keys (fleet.lookupKey d l.request) = true :=
        (valid.lookups l legal.1).trans shown
      have logged := grown.log (finished d fleet w l source) List.mem_cons_self
      have inside : (finished d fleet w l source).cd0 = true := shown
      refine ⟨⟨List.mem_filter.mpr ⟨legal.1, shown⟩, by rw [cd0_store key]; exact legal.2⟩, ?_⟩
      simp only [effect, finished_cd0 l source key]
      simp only [World.cd0, List.filter_cons, inside, ↓reduceIte, List.filter_append,
        misses_filter, spawn_filter, logged.evicts_filter, List.erase_filter]
  | reply i r time res =>
      have inside : (!r.checkingDisabled) = true := shown
      refine ⟨List.mem_filter.mpr ⟨legal, shown⟩, ?_⟩
      simp only [effect, World.cd0, spawn_filter, started_filter, inside, ↓reduceIte]
  | enterSet t =>
      have complete := valid.writes_complete (mem_calls_of_waiting legal) shown
      refine ⟨List.mem_filter.mpr ⟨legal, shown⟩, ?_⟩
      simp only [effect, World.cd0,
        enter_filter_of_pos d.flight SetTask.flight SetTask.cd0 flights.perKey shown complete]
  | applySet t =>
      have key : keys t.job.key = true :=
        (valid.writes t (mem_calls_of_sent legal)).trans shown
      refine ⟨List.mem_filter.mpr ⟨legal, shown⟩, ?_⟩
      simp only [effect, World.cd0, restrict_write_of_pos _ key]
  | endSet t =>
      refine ⟨List.mem_filter.mpr ⟨legal, shown⟩, ?_⟩
      simp only [effect, World.cd0, leave_filter]
  | enterEvict t =>
      have complete := valid.evictions_complete (mem_calls_of_waiting legal) shown
      refine ⟨List.mem_filter.mpr ⟨legal, shown⟩, ?_⟩
      simp only [effect, World.cd0,
        enter_filter_of_pos d.flight EvictTask.flight EvictTask.cd0 flights.perKey shown complete]
  | applyEvict t =>
      have key : keys t.key = true :=
        (valid.evictions t (mem_calls_of_sent legal)).trans shown
      refine ⟨List.mem_filter.mpr ⟨legal, shown⟩, ?_⟩
      simp only [effect, World.cd0, restrict_write_of_pos _ key]
  | endEvict t =>
      refine ⟨List.mem_filter.mpr ⟨legal, shown⟩, ?_⟩
      simp only [effect, World.cd0, leave_filter]
  | tick ms => exact ⟨trivial, rfl⟩

theorem start_placed (d : Deps) (fleet : Fleet) (keys : Key → Bool) (store : Store) (now : Nat) :
    (World.start store now).Placed d fleet keys where
  lookups := by simp [World.start]
  log := by simp [World.start]
  writes := by simp [World.start, Pool.calls, Pool.empty]
  evictions := by simp [World.start, Pool.calls, Pool.empty]

theorem step_placed_consistent (valid : w.Consistent d fleet ∧ w.Placed d fleet keys)
    (legal : a.Placed d fleet keys) (stepped : step d fleet w a = some after) :
    after.Consistent d fleet ∧ after.Placed d fleet keys :=
  ⟨step_consistent valid.1 stepped, step_placed valid.1 valid.2 legal stepped⟩

/-- The CD=0 part of a world unwinds: CD=1 steps do not move it, CD=0 steps go alike in it. -/
theorem cd0_unwinds (flights : d.FlightSpec) (keys : Key → Bool) :
    Transition.Unwinds (step d fleet)
      (fun state => state.Consistent d fleet ∧ state.Placed d fleet keys)
      (Action.Placed d fleet keys) Action.cd0 (World.cd0 keys) where
  kept := fun _ _ _ valid legal stepped => step_placed_consistent valid legal stepped
  quiet := fun _ _ _ valid _ hidden stepped => step_quiet valid.1 valid.2 hidden stepped
  follows := fun _ _ _ valid legal shown stepped =>
    step_follows flights valid.1 valid.2 legal shown stepped

theorem run_placed {store : Store} {now : Nat} {acts : List Action}
    (placed : ∀ a ∈ acts, a.Placed d fleet keys)
    (ran : run d fleet (World.start store now) acts = some w) :
    w.Consistent d fleet ∧ w.Placed d fleet keys := by
  have kept := Transition.run_invariant (step d fleet)
    (fun past state => (∀ a ∈ past, a.Placed d fleet keys) →
      state.Consistent d fleet ∧ state.Placed d fleet keys)
    (fun past _ a _ valid stepped legal => step_placed_consistent
      (valid fun b member => legal b (List.mem_append_left _ member))
      (legal a (List.mem_append_right _ (List.mem_singleton_self _))) stepped)
    (fun _ => ⟨start_consistent d fleet store now, start_placed d fleet keys store now⟩) ran
  exact kept placed

end Steps

/-- What the surroundings choose at a step of a CD=0 request: who acts, which server answers
or how its client fails, and the content of requests and upstream replies. A lookup or a
goroutine that is under way is named by its place among those of CD=0 requests, not by
what it has read. -/
inductive Input
  | get (i : Nat) (r : Msg) (source : Source)
  | ttl (place : Nat) (source : Source)
  | reply (i : Nat) (r : Msg) (time : Nat) (res : Msg)
  | enterSet (place : Nat)
  | applySet (place : Nat)
  | endSet (place : Nat)
  | enterEvict (place : Nat)
  | applyEvict (place : Nat)
  | endEvict (place : Nat)
  | tick (ms : Nat)
deriving DecidableEq

def Action.input (w : World) : Action → Input
  | .get i r source => .get i r source
  | .ttl l source => .ttl ((w.lookups.filter Lookup.cd0).idxOf l) source
  | .reply i r time res => .reply i r time res
  | .enterSet t => .enterSet ((w.writes.waiting.filter SetTask.cd0).idxOf t)
  | .applySet t => .applySet ((w.writes.sent.filter SetTask.cd0).idxOf t)
  | .endSet t => .endSet ((w.writes.running.filter SetTask.cd0).idxOf t)
  | .enterEvict t => .enterEvict ((w.evictions.waiting.filter EvictTask.cd0).idxOf t)
  | .applyEvict t => .applyEvict ((w.evictions.sent.filter EvictTask.cd0).idxOf t)
  | .endEvict t => .endEvict ((w.evictions.running.filter EvictTask.cd0).idxOf t)
  | .tick ms => .tick ms

/-- The inputs of the CD=0 steps of a run, in their order. -/
def cd0Inputs (d : Deps) (fleet : Fleet) : World → List Action → List Input :=
  Transition.trace (step d fleet) Action.cd0 Action.input

section Inputs

variable {d : Deps} {fleet : Fleet} {keys : Key → Bool} {w after : World} {a b : Action}

/-- The input of a step can be read off the CD=0 part. -/
theorem input_cd0 (w : World) (a : Action) : a.input (w.cd0 keys) = a.input w := by
  cases a <;> simp [Action.input, World.cd0, Pool.filter]

/-- Two members of one side of a list are the same if they have the same place there. -/
theorem eq_of_place {τ : Type} [DecidableEq τ] {part : τ → Bool} {calls : List τ} {x y : τ}
    (member : x ∈ calls) (inside : part x = true)
    (same : (calls.filter part).idxOf x = (calls.filter part).idxOf y) : x = y :=
  (List.idxOf_inj (List.mem_filter.mpr ⟨member, inside⟩)).mp same

/-- A step of a CD=0 request is known by its input. -/
theorem input_decides (shown : a.cd0 = true) (stepped : step d fleet w a = some after)
    (same : a.input w = b.input w) : a = b := by
  have legal := (step_iff.mp stepped).1
  cases a with
  | get i r source =>
      cases b with
      | get j q other =>
          cases same
          rfl
      | _ => cases same
  | ttl l source =>
      cases b with
      | ttl other seen =>
          obtain ⟨place, rfl⟩ := Input.ttl.inj same
          rw [eq_of_place legal.1 shown place]
      | _ => cases same
  | reply i r time res =>
      cases b with
      | reply j q later other =>
          cases same
          rfl
      | _ => cases same
  | enterSet t =>
      cases b with
      | enterSet other => rw [eq_of_place legal shown (Input.enterSet.inj same)]
      | _ => cases same
  | applySet t =>
      cases b with
      | applySet other => rw [eq_of_place legal shown (Input.applySet.inj same)]
      | _ => cases same
  | endSet t =>
      cases b with
      | endSet other => rw [eq_of_place legal shown (Input.endSet.inj same)]
      | _ => cases same
  | enterEvict t =>
      cases b with
      | enterEvict other => rw [eq_of_place legal shown (Input.enterEvict.inj same)]
      | _ => cases same
  | applyEvict t =>
      cases b with
      | applyEvict other => rw [eq_of_place legal shown (Input.applyEvict.inj same)]
      | _ => cases same
  | endEvict t =>
      cases b with
      | endEvict other => rw [eq_of_place legal shown (Input.endEvict.inj same)]
      | _ => cases same
  | tick ms =>
      cases b with
      | tick other =>
          cases same
          rfl
      | _ => cases same

end Inputs

/-- No key of a CD=0 tuple among the given steps is that of a CD=1 tuple. -/
def CdApart (d : Deps) (fleet : Fleet) (acts : List Action) : Prop :=
  ∀ zero ∈ occurring d acts, ∀ one ∈ occurring d acts, zero.cd = false → one.cd = true →
    fleet.keyer.key d zero ≠ fleet.keyer.key d one

/-- The keys of the CD=0 tuples of the given steps. -/
def cd0Keys (d : Deps) (fleet : Fleet) (acts : List Action) (k : Key) : Bool :=
  (occurring d acts).any fun t => !t.cd && fleet.keyer.key d t == k

section Apart

variable {d : Deps} {fleet : Fleet} {acts : List Action}

theorem cd0Keys_iff {k : Key} : cd0Keys d fleet acts k = true ↔
    ∃ t ∈ occurring d acts, t.cd = false ∧ fleet.keyer.key d t = k := by
  simp [cd0Keys]

theorem cd0Keys_of_mem {t : Tuple} (member : t ∈ occurring d acts) (clear : t.cd = false) :
    cd0Keys d fleet acts (fleet.keyer.key d t) = true :=
  cd0Keys_iff.mpr ⟨t, member, clear, rfl⟩

/-- Where the keys are apart, every step is on its side of them. -/
theorem placed_of_apart (apart : CdApart d fleet acts) {a : Action} (member : a ∈ acts) :
    a.Placed d fleet (cd0Keys d fleet acts) := by
  intro t inside
  have occurs : t ∈ occurring d acts := List.mem_flatMap.mpr ⟨a, member, inside⟩
  cases bit : t.cd with
  | false => exact cd0Keys_of_mem occurs bit
  | true =>
      rw [Bool.not_true, ← Bool.not_eq_true, cd0Keys_iff]
      intro ⟨zero, present, clear, same⟩
      exact apart zero present t occurs clear bit same

end Apart

/-- Two runs from the same contents with the same inputs to their CD=0 requests, whatever
their CD=1 steps, end every CD=0 request alike; and no CD=1 step of a run writes or evicts
a key of a CD=0 tuple. -/
theorem cd_noninterference {d : Deps} (flights : d.FlightSpec) {fleet : Fleet} {store : Store}
    {now : Nat} {left right : List Action} {first second : World}
    (apart : CdApart d fleet (left ++ right))
    (same : cd0Inputs d fleet (World.start store now) left =
      cd0Inputs d fleet (World.start store now) right)
    (ranLeft : run d fleet (World.start store now) left = some first)
    (ranRight : run d fleet (World.start store now) right = some second) :
    first.log.filter Event.cd0 = second.log.filter Event.cd0 ∧
      (∀ zero ∈ occurring d (left ++ right), zero.cd = false →
        first.store (fleet.keyer.key d zero) = second.store (fleet.keyer.key d zero)) ∧
      ∀ past a rest before after, left = past ++ a :: rest →
        run d fleet (World.start store now) past = some before →
        step d fleet before a = some after → a.cd0 = false →
        ∀ zero ∈ occurring d (left ++ right), zero.cd = false →
          after.store (fleet.keyer.key d zero) = before.store (fleet.keyer.key d zero) := by
  have placedLeft : ∀ a ∈ left, a.Placed d fleet (cd0Keys d fleet (left ++ right)) :=
    fun a member => placed_of_apart apart (List.mem_append_left _ member)
  have placedRight : ∀ a ∈ right, a.Placed d fleet (cd0Keys d fleet (left ++ right)) :=
    fun a member => placed_of_apart apart (List.mem_append_right _ member)
  have start : (World.start store now).Consistent d fleet ∧
      (World.start store now).Placed d fleet (cd0Keys d fleet (left ++ right)) :=
    ⟨start_consistent d fleet store now, start_placed d fleet _ store now⟩
  obtain ⟨_, views⟩ := (cd0_unwinds flights _).noninterference (fun w a _ => input_cd0 w a)
    (fun _ _ _ _ _ shown _ stepped _ inputs => input_decides shown stepped inputs)
    start start rfl placedLeft placedRight ranLeft ranRight same
  have visible : ∀ zero ∈ occurring d (left ++ right), zero.cd = false → ∀ store : Store,
      store.restrict (cd0Keys d fleet (left ++ right)) (fleet.keyer.key d zero) =
        store (fleet.keyer.key d zero) := by
    intro zero member clear store
    exact restrict_of_pos (cd0Keys_of_mem member clear)
  refine ⟨congrArg World.log views, ?_, ?_⟩
  · intro zero member clear
    rw [← visible zero member clear first.store, ← visible zero member clear second.store]
    exact congrFun (congrArg World.store views) _
  · intro past a rest before after split ran stepped hidden zero member clear
    have placedPast : ∀ b ∈ past, b.Placed d fleet (cd0Keys d fleet (left ++ right)) := by
      intro b inside
      apply placedLeft
      rw [split]
      exact List.mem_append_left _ inside
    have valid := run_placed placedPast ran
    have quiet := step_quiet valid.1 valid.2 hidden stepped
    rw [← visible zero member clear after.store, ← visible zero member clear before.store]
    exact congrFun (congrArg World.store quiet) _

/-- `sampleQuery` with checking disabled. -/
def cdQuery : Msg := { sampleQuery with checkingDisabled := true }

/-- The upstream reply to it, with another address. -/
def cdReply : Msg :=
  { sampleReply with
    checkingDisabled := true
    answer := [{ sampleRecord with rdata := .other [198, 51, 100, 7] }] }

def cdWire : Bytes :=
  [0, 1, 129, 144, 0, 1, 0, 1, 0, 0, 0, 0,
    1, 97, 0, 0, 1, 0, 1,
    1, 97, 0, 0, 1, 0, 1, 0, 0, 0, 60, 0, 4, 198, 51, 100, 7]

/-- The sample packages with a codec for `cdReply` as well. -/
def cdDeps : Deps :=
  { sampleDeps with
    pack := fun m => if m = cdReply then .ok cdWire else sampleDeps.pack m
    unpack := fun b => if b = cdWire then .ok cdReply else sampleDeps.unpack b }

def cdKey : Key := sampleFleet.lookupKey cdDeps cdQuery

def cdTask : SetTask :=
  ⟨1, cdQuery, 0, cdReply, ⟨cdKey, cachePayloadPrefix ++ [0] ++ cdWire, 60 * second⟩⟩

/-- `hitRun` after a miss of `cdQuery` and the store of the upstream reply to it. -/
def cdRun : List Action :=
  [.get 1 cdQuery (.version 0),
    .ttl ⟨1, cdQuery, .version 0, 0, 0, .error .redisNil⟩ (.version 0),
    .reply 1 cdQuery 0 cdReply, .enterSet cdTask, .applySet cdTask] ++ hitRun

theorem cdRun_apart : CdApart cdDeps sampleFleet (hitRun ++ cdRun) := by
  unfold CdApart
  decide +kernel

/-- The CD=1 reply is stored, and the CD=0 requests end as they do without it. -/
theorem cd_noninterference_cdRun :
    ∃ first second, run cdDeps sampleFleet (World.start (fun _ => []) 0) hitRun = some first ∧
      run cdDeps sampleFleet (World.start (fun _ => []) 0) cdRun = some second ∧
      first.log.length = 2 ∧ (second.store cdKey).length = 1 ∧
      first.log.filter Event.cd0 = second.log.filter Event.cd0 := by
  have flights : cdDeps.FlightSpec := sample_flight
  have computedLeft : (run cdDeps sampleFleet (World.start (fun _ => []) 0) hitRun).any (fun w =>
      decide (w.log.length = 2)) = true := by
    decide +kernel
  have computedRight : (run cdDeps sampleFleet (World.start (fun _ => []) 0) cdRun).any (fun w =>
      decide ((w.store cdKey).length = 1)) = true := by
    decide +kernel
  obtain ⟨first, ranFirst, length⟩ := Transition.exists_of_any computedLeft
  obtain ⟨second, ranSecond, stored⟩ := Transition.exists_of_any computedRight
  have inputs : cd0Inputs cdDeps sampleFleet (World.start (fun _ => []) 0) hitRun =
      cd0Inputs cdDeps sampleFleet (World.start (fun _ => []) 0) cdRun := by
    decide +kernel
  exact ⟨first, second, ranFirst, ranSecond, length, stored,
    (cd_noninterference flights cdRun_apart inputs ranFirst ranSecond).1⟩

end RedisCache
