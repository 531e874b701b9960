import RedisCache.Accounting
import RedisCache.Sometimes

set_option autoImplicit false

/- The warnings about failed reads. Each instance hands them to its own `readErrLog`, in
the order in which its lookups end. -/

namespace RedisCache

open Sometimes (Throttle)

/-- The field Interval of `readErrLog`, in milliseconds. -/
def readErrInterval : Nat := 1000

def Event.isReadError (ev : Event) : Bool := ev.counters.any Metric.isReadError

/-- The lookups of an instance that increment the counter of read errors, newest first. Each
of them calls the `Do` of its instance's `readErrLog`. -/
def World.readErrors (w : World) (i : Nat) : List Event :=
  w.log.filter fun ev => ev.lookup.inst == i && ev.isReadError

/-- Those about which a warning was logged. -/
def World.warnings (w : World) (sometimes : Nat → Throttle) (i : Nat) : List Event :=
  (sometimes readErrInterval).fired Event.time (w.readErrors i)

/-- The log is in the order of the clock, newest first. -/
structure World.InOrder (w : World) : Prop where
  log : w.log.Pairwise fun late early => early.time ≤ late.time
  past : ∀ ev ∈ w.log, ev.time ≤ w.now

section Runs

variable {d : Deps} {fleet : Fleet} {store : Store} {now : Nat} {acts : List Action}
  {w after : World} {a : Action}

theorem World.InOrder.readErrors (valid : w.InOrder) (i : Nat) :
    (w.readErrors i).Pairwise fun late early => early.time ≤ late.time :=
  valid.log.sublist List.filter_sublist

/-- A finished lookup increments the counter of read errors once if its read failed, and
otherwise not at all. -/
theorem Event.Read.counts {ev : Event} (read : ev.Read d fleet w)
    (zone : d.zonesMatches (fleet.config ev.lookup.inst).zones (d.reqName ev.lookup.request) ≠ "") :
    (ReadFailed d ev.lookup.reply ∧ ev.counters.countP Metric.isReadError = 1) ∨
      (¬ ReadFailed d ev.lookup.reply ∧ ev.counters.countP Metric.isReadError = 0) := by
  have result := read.result
  rw [serveDNS, if_neg zone] at result
  cases got : Redis.get d (fleet.config ev.lookup.inst) ev.lookup.request ev.lookup.reply
      ev.ttlCmd with
  | error fault =>
      refine Or.inr ⟨?_, by rw [Event.counters, result, got]; rfl⟩
      intro failed
      obtain ⟨out, returned⟩ := get_of_readFailed d (fleet.config ev.lookup.inst)
        ev.lookup.request ev.ttlCmd failed
      rw [got] at returned
      cases returned
  | ok out =>
      have counters : ev.counters = out.metrics := by
        simp only [got, bind, Except.bind] at result
        split at result <;> rw [Event.counters, result]
      rw [counters]
      cases get_counted got with
      | hit m evicted loud sound => exact Or.inr ⟨sound, rfl⟩
      | readError evicted reason failed => exact Or.inl ⟨failed, rfl⟩
      | collision evicted loud sound => exact Or.inr ⟨sound, rfl⟩
      | nothing evicted quiet =>
          refine Or.inr ⟨?_, rfl⟩
          intro failed
          rw [not_silent_of_readFailed failed] at quiet
          cases quiet

end Runs

end RedisCache
