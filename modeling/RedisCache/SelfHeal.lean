import RedisCache.Edns
import RedisCache.StoreInvariant

set_option autoImplicit false

/- The eviction of broken values. EXPIRE names a key and not a value, so it races
with every write of that key. -/

namespace RedisCache

open SingleFlight Versions

section Evictions

variable {d : Deps} {fleet : Fleet} {start w after : World} {acts past : List Action}
  {a : Action} {t : EvictTask} {store : Store} {now : Nat}

theorem mem_evicts {ev : Event} (member : t ∈ ev.evicts) :
    t.lookup = ev.lookup ∧ ∃ result, ev.result = .ok result ∧ t.key ∈ result.evicted := by
  unfold Event.evicts at member
  split at member
  · rename_i result ended
    obtain ⟨k, evicted, rfl⟩ := List.mem_map.mp member
    exact ⟨rfl, result, ended, evicted⟩
  · cases member

end Evictions

/-- A value under the sample key that is no DNS message. -/
def brokenStore : Store := fun k => if k = sampleKey then [some ⟨[0, 1, 2], 3600 * second, 0⟩] else []

def brokenLookup : Lookup := ⟨0, sampleQuery, .version 1, 0, 1, .ok [0, 1, 2]⟩

def brokenTask : EvictTask := ⟨brokenLookup, sampleKey⟩

/-- The same, with no write in between. -/
def healingRun : List Action :=
  [.get 0 sampleQuery (.version 1), .ttl brokenLookup (.version 1), .enterEvict brokenTask]

end RedisCache
