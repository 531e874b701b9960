import RedisCache.SelfHeal
import RedisCache.CdIsolation

set_option autoImplicit false

/- Several fleets on one Redis, told apart by `key_prefix` alone. Each has its own keyer,
configurations and requests; the store and the clock are shared. -/

namespace RedisCache

open SingleFlight Versions

/-- The keys of one keyer. -/
def Keyer.Owns (d : Deps) (k : Keyer) (key : Key) : Prop := ∃ t, key = k.key d t

theorem hexsum_length (d : Deps) (k : Keyer) (t : Tuple) :
    (ByteOrder.hexEncode (ByteOrder.putUint64 (d.sum64 k.hashSeed t.preimage))).length = 16 := by
  rw [ByteOrder.hexEncode_length, ByteOrder.putUint64, ByteOrder.bigEndian_length]

theorem key_chars (d : Deps) (k : Keyer) (t : Tuple) :
    (k.key d t).toList =
      (if k.keyPrefix = "" then [] else k.keyPrefix.toList ++ [':']) ++
        ByteOrder.hexEncode (ByteOrder.putUint64 (d.sum64 k.hashSeed t.preimage)) := by
  unfold Keyer.key
  dsimp only
  split
  · rw [String.toList_ofList, List.nil_append]
  · simp only [String.toList_append, String.toList_ofList]
    rfl

/-- The sixteen digits at the end of a key leave its prefix, so that two keyers with
different prefixes share no key, whatever their seeds and the hash are. -/
theorem keyPrefix_of_key_eq {d : Deps} {left right : Keyer} {t u : Tuple}
    (same : left.key d t = right.key d u) : left.keyPrefix = right.keyPrefix := by
  have chars := congrArg String.toList same
  rw [key_chars, key_chars] at chars
  have front := (List.append_inj' chars (by rw [hexsum_length, hexsum_length])).1
  split at front
  · rename_i leftEmpty
    split at front
    · rename_i rightEmpty
      rw [leftEmpty, rightEmpty]
    · simp at front
  · split at front
    · simp at front
    · exact String.toList_inj.mp (List.append_inj' front rfl).1

theorem not_owns_both {d : Deps} {left right : Keyer} {key : Key}
    (apart : left.keyPrefix ≠ right.keyPrefix) (mine : left.Owns d key) : ¬ right.Owns d key := by
  obtain ⟨t, rfl⟩ := mine
  rintro ⟨u, same⟩
  exact apart (keyPrefix_of_key_eq same)

/-- The goroutines of a fleet write and evict keys of its keyer. -/
structure World.Owned (d : Deps) (fleet : Fleet) (w : World) : Prop where
  writes : ∀ t ∈ w.writes.calls, fleet.keyer.Owns d t.job.key
  evictions : ∀ t ∈ w.evictions.calls, fleet.keyer.Owns d t.key

/-- Two worlds that a fleet with the given keys cannot tell apart. -/
structure Agrees (keys : Key → Prop) (w v : World) : Prop where
  now : w.now = v.now
  store : ∀ k, keys k → w.store k = v.store k
  lookups : w.lookups = v.lookups
  misses : w.misses = v.misses
  writes : w.writes = v.writes
  evictions : w.evictions = v.evictions
  log : w.log = v.log

section Steps

variable {d : Deps} {fleet : Fleet} {w v after : World} {a : Action}

theorem finished_evicts_key {l : Lookup} {source : Source} {t : EvictTask}
    (member : t ∈ (finished d fleet w l source).evicts) :
    t.key = fleet.lookupKey d l.request := by
  obtain ⟨_, result, ended, listed⟩ := mem_evicts member
  simp only [finished] at ended
  obtain ⟨out, got, evicted⟩ := serveDNS_evicted ended listed
  have key := (get_evicted got evicted).1
  rw [fleet.shared] at key
  exact key

theorem step_owned (valid : w.Owned d fleet) (stepped : step d fleet w a = some after) :
    after.Owned d fleet where
  writes := by
    intro t member
    rcases step_writes stepped member with old | ⟨i, r, time, res, _, new⟩
    · exact valid.writes t old
    · exact ⟨_, (mem_started new).2⟩
  evictions := by
    intro t member
    obtain ⟨legal, rfl⟩ := step_iff.mp stepped
    cases a with
    | ttl l source =>
        rcases mem_spawn member with new | old
        · exact ⟨_, finished_evicts_key new⟩
        · exact valid.evictions t old
    | enterEvict entering => exact valid.evictions t (mem_enter _ _ legal member)
    | endEvict ending => exact valid.evictions t (mem_leave member)
    | _ => exact valid.evictions t member

/-- A step of a fleet leaves all keys alone that are not of its keyer. -/
theorem step_store_of_not_owns (valid : w.Owned d fleet) (stepped : step d fleet w a = some after)
    {k : Key} (foreign : ¬ fleet.keyer.Owns d k) : after.store k = w.store k := by
  rcases step_store stepped with same | ⟨t, sent, _, wrote⟩ | ⟨t, sent, _, wrote⟩
  · rw [same]
  · rw [wrote, write_of_ne]
    rintro rfl
    exact foreign (valid.writes t (mem_calls_of_sent sent))
  · rw [wrote, write_of_ne]
    rintro rfl
    exact foreign (valid.evictions t (mem_calls_of_sent sent))

theorem Agrees.write {keys : Key → Prop} (same : ∀ k, keys k → w.store k = v.store k) (key : Key)
    (value : Option Entry) (k : Key) (mine : keys k) :
    w.store.write key value k = v.store.write key value k := by
  by_cases own : k = key
  · subst own
    rw [write_self, write_self, same k mine]
  · rw [write_of_ne _ own, write_of_ne _ own, same k mine]

/-- What a fleet does depends on the keys of its keyer alone. -/
theorem step_congr (same : Agrees (fleet.keyer.Owns d) w v)
    (stepped : step d fleet w a = some after) :
    ∃ reached, step d fleet v a = some reached ∧ Agrees (fleet.keyer.Owns d) after reached := by
  have mine : ∀ r, w.store (fleet.lookupKey d r) = v.store (fleet.lookupKey d r) :=
    fun r => same.store _ ⟨_, rfl⟩
  have looked : ∀ i r source, fetched d fleet w i r source = fetched d fleet v i r source := by
    intro i r source
    simp only [fetched, mine, same.now]
  have ended : ∀ l source, finished d fleet w l source = finished d fleet v l source := by
    intro l source
    simp only [finished, mine, same.now]
  obtain ⟨legal, rfl⟩ := step_iff.mp stepped
  have enabledToo : enabled d fleet v a := by
    cases a with
    | get i r source => exact ⟨legal.1, by rw [← mine]; exact legal.2⟩
    | ttl l source => exact ⟨by rw [← same.lookups]; exact legal.1, by rw [← mine]; exact legal.2⟩
    | reply i r time res =>
        rw [enabled, ← same.misses]
        exact legal
    | enterSet t | applySet t | endSet t =>
        rw [enabled, ← same.writes]
        exact legal
    | enterEvict t | applyEvict t | endEvict t =>
        rw [enabled, ← same.evictions]
        exact legal
    | tick ms => trivial
  refine ⟨_, step_iff.mpr ⟨enabledToo, rfl⟩, ?_⟩
  cases a with
  | get i r source =>
      exact { same with
        lookups := by simp only [effect, looked, same.lookups] }
  | ttl l source =>
      exact { same with
        lookups := by simp only [effect, same.lookups]
        misses := by simp only [effect, ended, same.misses]
        evictions := by simp only [effect, ended, same.evictions]
        log := by simp only [effect, ended, same.log] }
  | reply i r time res =>
      exact { same with writes := by simp only [effect, same.writes] }
  | enterSet t => exact { same with writes := by simp only [effect, same.writes] }
  | applySet t =>
      refine { same with store := ?_ }
      simp only [effect, same.now]
      exact Agrees.write same.store _ _
  | endSet t => exact { same with writes := by simp only [effect, same.writes] }
  | enterEvict t => exact { same with evictions := by simp only [effect, same.evictions] }
  | applyEvict t =>
      refine { same with store := ?_ }
      simp only [effect]
      exact Agrees.write same.store _ _
  | endEvict t => exact { same with evictions := by simp only [effect, same.evictions] }
  | tick ms => exact { same with now := by simp only [effect, same.now] }

end Steps

section Sharing

variable {ι : Type} [DecidableEq ι]

/-- One Redis and its clock, and what each tenant has under way. -/
structure Tenancy (ι : Type) where
  now : Nat
  store : Store
  part : ι → World

def Tenancy.start (store : Store) (now : Nat) : Tenancy ι := ⟨now, store, fun _ => .start store now⟩

/-- A tenant as it sees the shared Redis. -/
def Tenancy.view (s : Tenancy ι) (i : ι) : World := { s.part i with now := s.now, store := s.store }

/-- A step of one tenant. -/
def tenantStep (d : Deps) (fleet : ι → Fleet) (s : Tenancy ι) (a : ι × Action) :
    Option (Tenancy ι) :=
  (step d (fleet a.1) (s.view a.1) a.2).map fun w =>
    ⟨w.now, w.store, Function.update s.part a.1 w⟩

/-- The steps of one tenant, and the passing of time, which all tenants share. -/
def ownSteps (i : ι) (a : ι × Action) : List Action :=
  if a.1 = i then [a.2]
  else
    match a.2 with
    | .tick ms => [.tick ms]
    | _ => []

/-- A tenant among others, and the same tenant alone. -/
structure Alone (d : Deps) (fleet : ι → Fleet) (i : ι) (s : Tenancy ι) (w : World) : Prop where
  agrees : Agrees ((fleet i).keyer.Owns d) (s.view i) w
  owned : ∀ j, (s.part j).Owned d (fleet j)

section Steps

variable {d : Deps} {fleet : ι → Fleet} {i : ι} {s after : Tenancy ι} {w : World} {a : ι × Action}

omit [DecidableEq ι] in
theorem view_owned (owned : ∀ j, (s.part j).Owned d (fleet j)) (j : ι) :
    (s.view j).Owned d (fleet j) := ⟨(owned j).writes, (owned j).evictions⟩

theorem tenantStep_owned (owned : ∀ j, (s.part j).Owned d (fleet j))
    (stepped : tenantStep d fleet s a = some after) (j : ι) :
    (after.part j).Owned d (fleet j) := by
  obtain ⟨next, moved, rfl⟩ := Option.map_eq_some_iff.mp stepped
  by_cases own : j = a.1
  · subst own
    simp only [Function.update_self]
    exact step_owned (view_owned owned _) moved
  · simp only [Function.update_of_ne own]
    exact owned j

/-- A step of another tenant is none for this one, but for the clock. -/
theorem Alone.other_step
    (apart : ∀ i j, i ≠ j → (fleet i).keyer.keyPrefix ≠ (fleet j).keyer.keyPrefix)
    (same : Alone d fleet i s w) (other : a.1 ≠ i) (stepped : tenantStep d fleet s a = some after) :
    ∃ reached, run d (fleet i) w (ownSteps i a) = some reached ∧
      Agrees ((fleet i).keyer.Owns d) (after.view i) reached := by
  obtain ⟨next, moved, rfl⟩ := Option.map_eq_some_iff.mp stepped
  have untouched : ∀ k, (fleet i).keyer.Owns d k → next.store k = s.store k := by
    intro k mine
    exact step_store_of_not_owns (view_owned same.owned _) moved
      (not_owns_both (apart i a.1 (Ne.symm other)) mine)
  obtain ⟨j, act⟩ := a
  have view : Tenancy.view ⟨next.now, next.store, Function.update s.part j next⟩ i =
      { s.view i with now := next.now, store := next.store } := by
    simp only [Tenancy.view, Function.update_of_ne (Ne.symm other)]
  have shared : ∀ k, (fleet i).keyer.Owns d k → next.store k = w.store k :=
    fun k mine => (untouched k mine).trans (same.agrees.store k mine)
  rw [view]
  by_cases clock : ∃ ms, act = .tick ms
  · obtain ⟨ms, rfl⟩ := clock
    refine ⟨{ w with now := w.now + ms }, ?_, { same.agrees with now := ?_, store := shared }⟩
    · rw [ownSteps, if_neg other]
      rfl
    · obtain ⟨_, rfl⟩ := step_iff.mp moved
      exact congrArg (· + ms) same.agrees.now
  · have still : next.now = s.now ∧ ownSteps i (j, act) = [] := by
      obtain ⟨_, rfl⟩ := step_iff.mp moved
      rw [ownSteps, if_neg other]
      cases act with
      | tick ms => exact absurd ⟨ms, rfl⟩ clock
      | _ => exact ⟨rfl, rfl⟩
    refine ⟨w, ?_, { same.agrees with now := still.1.trans same.agrees.now, store := shared }⟩
    rw [still.2]
    rfl

theorem Alone.step
    (apart : ∀ i j, i ≠ j → (fleet i).keyer.keyPrefix ≠ (fleet j).keyer.keyPrefix)
    (same : Alone d fleet i s w) (stepped : tenantStep d fleet s a = some after) :
    ∃ reached, run d (fleet i) w (ownSteps i a) = some reached ∧ Alone d fleet i after reached := by
  have owned := tenantStep_owned same.owned stepped
  by_cases own : a.1 = i
  · obtain ⟨next, moved, rfl⟩ := Option.map_eq_some_iff.mp stepped
    subst own
    obtain ⟨reached, followed, agrees⟩ := step_congr same.agrees moved
    refine ⟨reached, ?_, ?_, owned⟩
    · rw [ownSteps, if_pos rfl]
      exact (Transition.run_cons _).mpr ⟨reached, followed, rfl⟩
    · have view : Tenancy.view ⟨next.now, next.store, Function.update s.part a.1 next⟩ a.1 = next := by
        simp only [Tenancy.view, Function.update_self]
      rw [view]
      exact agrees
  · obtain ⟨reached, followed, agrees⟩ := same.other_step apart own stepped
    exact ⟨reached, followed, agrees, owned⟩

end Steps

/-- Fleets with different prefixes on one Redis do not see each other: in every
interleaving each of them ends all its requests, and finds all its keys, as it would
with the Redis to itself. Nothing is assumed of the hash or of the seeds. -/
theorem tenants_apart {d : Deps} {fleet : ι → Fleet}
    (apart : ∀ i j, i ≠ j → (fleet i).keyer.keyPrefix ≠ (fleet j).keyer.keyPrefix)
    {store : Store} {now : Nat} {acts : List (ι × Action)} {s : Tenancy ι}
    (ran : Transition.run (tenantStep d fleet) (Tenancy.start store now) acts = some s) (i : ι) :
    ∃ w, run d (fleet i) (World.start store now) (acts.flatMap (ownSteps i)) = some w ∧
      w.log = (s.part i).log ∧
      ∀ t, w.store ((fleet i).keyer.key d t) = s.store ((fleet i).keyer.key d t) := by
  have start : Alone d fleet i (Tenancy.start store now) (World.start store now) := by
    refine ⟨⟨rfl, fun _ _ => rfl, rfl, rfl, rfl, rfl, rfl⟩, fun j => ?_⟩
    constructor <;> simp [Tenancy.start, World.start, Pool.calls, Pool.empty]
  obtain ⟨w, followed, same⟩ := Transition.run_simulates (tenantStep d fleet) (step d (fleet i))
    (ownSteps i) (fun _ => True) (Alone d fleet i)
    (fun _ _ _ _ same _ stepped => same.step apart stepped) start (fun _ _ => trivial) ran
  exact ⟨w, followed, same.agrees.log.symm, fun t => (same.agrees.store _ ⟨t, rfl⟩).symm⟩

end Sharing

/-- Two fleets of the default configuration, with the prefixes `cdrc` and `spare`. -/
def pairFleet (i : Bool) : Fleet where
  config _ := if i then Redis.new else { Redis.new with keyer := ⟨"spare", 0⟩ }
  keyer := if i then Redis.new.keyer else ⟨"spare", 0⟩
  shared _ := by cases i <;> rfl

theorem pairFleet_apart (i j : Bool) (other : i ≠ j) :
    (pairFleet i).keyer.keyPrefix ≠ (pairFleet j).keyer.keyPrefix := by
  cases i <;> cases j
  · exact absurd rfl other
  · decide
  · decide
  · exact absurd rfl other

/-- One fleet stores a reply, and the other looks for the same question. -/
def pairRun : List (Bool × Action) := storeRun.map (fun a => (true, a)) ++
  [(false, .tick 18000), (false, .get 0 sampleQuery (.version 0)),
    (false, .ttl ⟨0, sampleQuery, .version 0, 18000, 0, .error .redisNil⟩ (.version 0)),
    (true, .get 0 sampleQuery (.version 1)),
    (true, .ttl ⟨0, sampleQuery, .version 1, 18000, 1, .ok storedWire⟩ (.version 1))]

/-- The second fleet misses, and the first one goes through `hitRun`. -/
theorem pairRun_apart :
    ∃ s w, Transition.run (tenantStep sampleDeps pairFleet) (Tenancy.start (fun _ => []) 0)
        pairRun = some s ∧
      run sampleDeps (pairFleet true) (World.start (fun _ => []) 0) hitRun = some w ∧
      w.log = (s.part true).log ∧ (s.part false).log.length = 1 := by
  have computed : (Transition.run (tenantStep sampleDeps pairFleet) (Tenancy.start (fun _ => []) 0)
      pairRun).any (fun s => decide ((s.part false).log.length = 1)) = true := by
    decide +kernel
  obtain ⟨s, ran, other⟩ := Transition.exists_of_any computed
  obtain ⟨w, alone, same, _⟩ := tenants_apart pairFleet_apart ran true
  exact ⟨s, w, ran, alone, same, other⟩

end RedisCache
