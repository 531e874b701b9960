import Mathlib.Logic.Function.Basic
import RedisCache.Handler
import RedisCache.SingleFlight
import RedisCache.Transition
import RedisCache.Versions

set_option autoImplicit false

/- Plugin instances around one Redis. A step is one command at the server, one
decision of a goroutine, or the passing of time; the label of a step says who
acts and which of the possible answers it gets. -/

namespace RedisCache

open SingleFlight Versions

/-- A value in Redis, with the clock of the server, in milliseconds, at its SET. -/
structure Entry where
  wire : Bytes
  duration : Int
  storedAt : Nat
deriving DecidableEq, Repr

def Entry.deadline (e : Entry) : Nat := e.storedAt + (e.duration / 1000000).toNat

/-- All values a key has had at the master, oldest first. -/
abbrev History := List (Option Entry)

abbrev Store := Key → History

def Store.write (store : Store) (k : Key) (value : Option Entry) : Store :=
  Function.update store k (store k ++ [value])

@[simp] theorem write_self (store : Store) (k : Key) (value : Option Entry) :
    store.write k value k = store k ++ [value] :=
  Function.update_self _ _ _

theorem write_of_ne (store : Store) {k other : Key} (apart : other ≠ k) (value : Option Entry) :
    store.write k value other = store other :=
  Function.update_of_ne apart _ _

/-- How a read ends: at a server that has seen the first `n` writes of the key, or
in an error of the client. -/
inductive Source
  | version (n : Nat)
  | failed (err : GoError)
deriving DecidableEq, Repr

def Source.within (history : History) : Source → Prop
  | .version n => n ≤ history.length
  | .failed _ => True

instance (history : History) : (source : Source) → Decidable (source.within history)
  | .version _ => inferInstanceAs (Decidable (_ ≤ _))
  | .failed _ => inferInstanceAs (Decidable True)

/-- The unexpired value after the first `n` writes. -/
def visible (history : History) (now n : Nat) : Option Entry :=
  (asOf history n).filter fun e => now < e.deadline

def getReply (history : History) (now : Nat) : Source → Except GoError Bytes
  | .failed err => .error err
  | .version n =>
      match visible history now n with
      | some e => .ok e.wire
      | none => .error .redisNil

/-- What the TTL command reports, in seconds: Redis rounds to the nearest. -/
def Entry.reported (e : Entry) (now : Nat) : Nat := (e.deadline - now + 500) / 1000

/-- A missing key is reported as -2, which go-redis does not scale to seconds. -/
def ttlReply (history : History) (now : Nat) : Source → Except GoError Int
  | .failed err => .error err
  | .version n =>
      match visible history now n with
      | some e => .ok (e.reported now * second)
      | none => .ok (-2)

/-- The configurations of all instances. They share one keyer. -/
structure Fleet where
  config : Nat → Redis
  keyer : Keyer
  shared : ∀ i, (config i).keyer = keyer

def Fleet.lookupKey (fleet : Fleet) (d : Deps) (r : Msg) : Key :=
  fleet.keyer.key d (requestTuple d r)

/-- The tuple under which `WriteMsg` stores a reply to a request. -/
def storeTuple (d : Deps) (r : Msg) (time : Nat) (res : Msg) : Tuple :=
  tupleFor d r ((d.typify res time).2.any d.optDo)

/-- A request behind its GET and before its TTL. `total` is the number of writes
the master had seen when the GET was answered. -/
structure Lookup where
  inst : Nat
  request : Msg
  source : Source
  time : Nat
  total : Nat
  reply : Except GoError Bytes
deriving DecidableEq

/-- A request that has left `get`, with what its TTL command returned. -/
structure Event where
  lookup : Lookup
  source : Source
  time : Nat
  ttlCmd : Except GoError Int
  result : Go ServeResult
deriving DecidableEq

/-- The goroutine of one `WriteMsg` call. -/
structure SetTask where
  inst : Nat
  request : Msg
  time : Nat
  reply : Msg
  job : SetJob
deriving DecidableEq

/-- The goroutine of one `evictAsync` call, with the lookup that made it. -/
structure EvictTask where
  lookup : Lookup
  key : Key
deriving DecidableEq

def SetTask.flight (t : SetTask) : Nat × Key := (t.inst, t.job.key)

def EvictTask.flight (t : EvictTask) : Nat × Key := (t.lookup.inst, t.key)

/-- The groups of all instances: that of a call sees the calls of its own instance. -/
def Deps.flight (d : Deps) : Gate (Nat × Key) := fun inFlight call =>
  d.flightShares ((inFlight.filter fun other => other.1 == call.1).map Prod.snd) call.2

theorem Deps.FlightSpec.perKey {d : Deps} (spec : d.FlightSpec) : d.flight.PerKey := by
  intro inFlight call
  rw [Deps.flight, spec, List.mem_map]
  constructor
  · rintro ⟨other, member, key⟩
    obtain ⟨inside, inst⟩ := List.mem_filter.mp member
    rwa [← Prod.ext (beq_iff_eq.mp inst) key]
  · intro member
    exact ⟨call, List.mem_filter.mpr ⟨member, beq_self_eq_true _⟩, rfl⟩

/-- The requests handed to the next plugin with the storing response writer. -/
def Event.misses (ev : Event) : List (Nat × Msg) :=
  match ev.result with
  | .ok ⟨.nextOrFailure true, _, _⟩ => [(ev.lookup.inst, ev.lookup.request)]
  | _ => []

def Event.evicts (ev : Event) : List EvictTask :=
  match ev.result with
  | .ok result => result.evicted.map fun k => ⟨ev.lookup, k⟩
  | .error _ => []

structure World where
  now : Nat
  store : Store
  lookups : List Lookup
  misses : List (Nat × Msg)
  writes : Pool SetTask
  evictions : Pool EvictTask
  log : List Event

/-- No request yet, and any contents of Redis. -/
def World.start (store : Store) (now : Nat) : World where
  now := now
  store := store
  lookups := []
  misses := []
  writes := .empty
  evictions := .empty
  log := []

inductive Action
  | get (i : Nat) (r : Msg) (source : Source)
  | ttl (l : Lookup) (source : Source)
  | reply (i : Nat) (r : Msg) (time : Nat) (res : Msg)
  | enterSet (t : SetTask)
  | applySet (t : SetTask)
  | endSet (t : SetTask)
  | enterEvict (t : EvictTask)
  | applyEvict (t : EvictTask)
  | endEvict (t : EvictTask)
  | tick (ms : Nat)
deriving DecidableEq

section Steps

variable (d : Deps) (fleet : Fleet) (w : World)

def fetched (i : Nat) (r : Msg) (source : Source) : Lookup :=
  let history := w.store (fleet.lookupKey d r)
  ⟨i, r, source, w.now, history.length, getReply history w.now source⟩

def finished (l : Lookup) (source : Source) : Event :=
  let ttlCmd := ttlReply (w.store (fleet.lookupKey d l.request)) w.now source
  ⟨l, source, w.now, ttlCmd,
    serveDNS d (fleet.config l.inst) l.request (fun _ => none) l.reply ttlCmd⟩

/-- The goroutine, if any, that a `WriteMsg` call starts. -/
def started (i : Nat) (r : Msg) (time : Nat) (res : Msg) : List SetTask :=
  match writeMsg d (fleet.config i) r time res with
  | .ok out => (out.set.map fun job => ⟨i, r, time, res, job⟩).toList
  | .error _ => []

def enabled : Action → Prop
  | .get i r source =>
      d.zonesMatches (fleet.config i).zones (d.reqName r) ≠ "" ∧
        source.within (w.store (fleet.lookupKey d r))
  | .ttl l source => l ∈ w.lookups ∧ source.within (w.store (fleet.lookupKey d l.request))
  | .reply i r _ _ => (i, r) ∈ w.misses
  | .enterSet t => t ∈ w.writes.waiting
  | .applySet t => t ∈ w.writes.sent
  | .endSet t => t ∈ w.writes.running
  | .enterEvict t => t ∈ w.evictions.waiting
  | .applyEvict t => t ∈ w.evictions.sent
  | .endEvict t => t ∈ w.evictions.running
  | .tick _ => True

instance : (a : Action) → Decidable (enabled d fleet w a)
  | .get _ _ _ => inferInstanceAs (Decidable (_ ∧ _))
  | .ttl _ _ => inferInstanceAs (Decidable (_ ∧ _))
  | .reply _ _ _ _ => inferInstanceAs (Decidable (_ ∈ _))
  | .enterSet _ => inferInstanceAs (Decidable (_ ∈ _))
  | .applySet _ => inferInstanceAs (Decidable (_ ∈ _))
  | .endSet _ => inferInstanceAs (Decidable (_ ∈ _))
  | .enterEvict _ => inferInstanceAs (Decidable (_ ∈ _))
  | .applyEvict _ => inferInstanceAs (Decidable (_ ∈ _))
  | .endEvict _ => inferInstanceAs (Decidable (_ ∈ _))
  | .tick _ => inferInstanceAs (Decidable True)

/-- A next plugin may write more than one reply. A command that has been sent may
reach the server any number of times, also after its caller has given up. -/
def effect : Action → World
  | .get i r source => { w with lookups := fetched d fleet w i r source :: w.lookups }
  | .ttl l source =>
      let ev := finished d fleet w l source
      { w with
        lookups := w.lookups.erase l
        misses := ev.misses ++ w.misses
        evictions := w.evictions.spawn ev.evicts
        log := ev :: w.log }
  | .reply i r time res => { w with writes := w.writes.spawn (started d fleet i r time res) }
  | .enterSet t => { w with writes := w.writes.enter d.flight SetTask.flight t }
  | .applySet t =>
      { w with
        store := w.store.write t.job.key (some ⟨t.job.wire, t.job.duration, w.now⟩) }
  | .endSet t => { w with writes := w.writes.leave t }
  | .enterEvict t => { w with evictions := w.evictions.enter d.flight EvictTask.flight t }
  | .applyEvict t => { w with store := w.store.write t.key none }
  | .endEvict t => { w with evictions := w.evictions.leave t }
  | .tick ms => { w with now := w.now + ms }

def step (a : Action) : Option World :=
  if enabled d fleet w a then some (effect d fleet w a) else none

end Steps

/-- A finite interleaving of steps. -/
abbrev run (d : Deps) (fleet : Fleet) : World → List Action → Option World :=
  Transition.run (step d fleet)

section Effects

variable {d : Deps} {fleet : Fleet} {w after : World} {a : Action}

theorem step_iff :
    step d fleet w a = some after ↔ enabled d fleet w a ∧ effect d fleet w a = after := by
  unfold step
  split
  · rename_i legal
    simp [legal]
  · rename_i illegal
    simp [illegal]

/-- Only the two commands of the write side touch the store. -/
theorem step_store (stepped : step d fleet w a = some after) :
    after.store = w.store ∨
      (∃ t ∈ w.writes.sent, a = .applySet t ∧
        after.store = w.store.write t.job.key (some ⟨t.job.wire, t.job.duration, w.now⟩)) ∨
      ∃ t ∈ w.evictions.sent, a = .applyEvict t ∧ after.store = w.store.write t.key none := by
  obtain ⟨legal, rfl⟩ := step_iff.mp stepped
  cases a with
  | applySet t => exact Or.inr (Or.inl ⟨t, legal, rfl, rfl⟩)
  | applyEvict t => exact Or.inr (Or.inr ⟨t, legal, rfl, rfl⟩)
  | _ => exact Or.inl rfl

theorem step_lookups (stepped : step d fleet w a = some after) {l : Lookup}
    (member : l ∈ after.lookups) :
    l ∈ w.lookups ∨ ∃ i r source, a = .get i r source ∧ l = fetched d fleet w i r source ∧
      source.within (w.store (fleet.lookupKey d r)) := by
  obtain ⟨legal, rfl⟩ := step_iff.mp stepped
  cases a with
  | get i r source =>
      rcases List.mem_cons.mp member with same | before
      · exact Or.inr ⟨i, r, source, rfl, same, legal.2⟩
      · exact Or.inl before
  | ttl other source => exact Or.inl (List.mem_of_mem_erase member)
  | _ => exact Or.inl member

theorem step_log (stepped : step d fleet w a = some after) {ev : Event}
    (member : ev ∈ after.log) :
    ev ∈ w.log ∨ ∃ l source, a = .ttl l source ∧ l ∈ w.lookups ∧
      source.within (w.store (fleet.lookupKey d l.request)) ∧
      ev = finished d fleet w l source := by
  obtain ⟨legal, rfl⟩ := step_iff.mp stepped
  cases a with
  | ttl l source =>
      rcases List.mem_cons.mp member with same | before
      · exact Or.inr ⟨l, source, rfl, legal.1, legal.2, same⟩
      · exact Or.inl before
  | _ => exact Or.inl member

theorem step_log_kept (stepped : step d fleet w a = some after) {ev : Event}
    (member : ev ∈ w.log) : ev ∈ after.log := by
  obtain ⟨_, rfl⟩ := step_iff.mp stepped
  cases a with
  | ttl l source => exact List.mem_cons_of_mem _ member
  | _ => exact member

/-- A goroutine that writes comes from a `WriteMsg` call. -/
theorem step_writes (stepped : step d fleet w a = some after) {t : SetTask}
    (member : t ∈ after.writes.calls) :
    t ∈ w.writes.calls ∨ ∃ i r time res, a = .reply i r time res ∧
      t ∈ started d fleet i r time res := by
  obtain ⟨legal, rfl⟩ := step_iff.mp stepped
  cases a with
  | reply i r time res =>
      rcases mem_spawn member with new | old
      · exact Or.inr ⟨i, r, time, res, rfl, new⟩
      · exact Or.inl old
  | enterSet entering => exact Or.inl (mem_enter _ _ legal member)
  | endSet ending => exact Or.inl (mem_leave member)
  | _ => exact Or.inl member

/-- A goroutine that evicts comes from a lookup that ended in an eviction. -/
theorem step_evictions (stepped : step d fleet w a = some after) {t : EvictTask}
    (member : t ∈ after.evictions.calls) :
    t ∈ w.evictions.calls ∨ ∃ ev ∈ after.log, t ∈ ev.evicts := by
  obtain ⟨legal, rfl⟩ := step_iff.mp stepped
  cases a with
  | ttl l source =>
      rcases mem_spawn member with new | old
      · exact Or.inr ⟨_, List.mem_cons_self, new⟩
      · exact Or.inl old
  | enterEvict entering => exact Or.inl (mem_enter _ _ legal member)
  | endEvict ending => exact Or.inl (mem_leave member)
  | _ => exact Or.inl member

end Effects

end RedisCache
