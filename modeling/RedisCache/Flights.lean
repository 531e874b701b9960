import RedisCache.StoreInvariant

set_option autoImplicit false

/- The single-flight groups of the two background commands. A goroutine that shares a call
in flight sends nothing itself, so the question is whether its write is lost. -/

namespace RedisCache

open SingleFlight Versions

/-- A goroutine came to its group while a SET of its instance and key was in flight. -/
def SetTask.Shared (d : Deps) (fleet : Fleet) (start : World) (acts : List Action)
    (t : SetTask) : Prop :=
  ∃ before rest, Transition.Taken (step d fleet) start acts (.enterSet t) before rest ∧
    ∃ other ∈ before.writes.running, other.inst = t.inst ∧ other.job.key = t.job.key

/-- The same of an EXPIRE. -/
def EvictTask.Shared (d : Deps) (fleet : Fleet) (start : World) (acts : List Action)
    (t : EvictTask) : Prop :=
  ∃ before rest, Transition.Taken (step d fleet) start acts (.enterEvict t) before rest ∧
    ∃ other ∈ before.evictions.running, other.lookup.inst = t.lookup.inst ∧ other.key = t.key

section Runs

variable {d : Deps} {fleet : Fleet} {start : World} {past : List Action} {w after : World}
  {a : Action}

theorem SetTask.Shared.append {t : SetTask} (shared : t.Shared d fleet start past) (a : Action) :
    t.Shared d fleet start (past ++ [a]) := by
  obtain ⟨before, rest, taken, inFlight⟩ := shared
  exact ⟨before, _, taken.append a, inFlight⟩

theorem EvictTask.Shared.append {t : EvictTask} (shared : t.Shared d fleet start past)
    (a : Action) : t.Shared d fleet start (past ++ [a]) := by
  obtain ⟨before, rest, taken, inFlight⟩ := shared
  exact ⟨before, _, taken.append a, inFlight⟩

end Runs

end RedisCache
