import Mathlib.Data.List.Nodup

set_option autoImplicit false

/- Asynchronous calls behind a group that is to let one call per key run at a time. The
group itself is a parameter: it is asked whether a call that comes to it waits for one in
flight, and a call that waits never runs itself. -/

namespace SingleFlight

/-- `waiting` has been started and not yet entered the group, `running` is in it,
and `sent` holds every call that ever ran. -/
structure Pool (τ : Type) where
  waiting : List τ
  running : List τ
  sent : List τ

variable {τ κ : Type}

def Pool.empty : Pool τ := ⟨[], [], []⟩

/-- All calls that can still have an effect. -/
def Pool.calls (pool : Pool τ) : List τ := pool.waiting ++ pool.running ++ pool.sent

def Pool.filter (part : τ → Bool) (pool : Pool τ) : Pool τ :=
  ⟨pool.waiting.filter part, pool.running.filter part, pool.sent.filter part⟩

def Pool.spawn (pool : Pool τ) (fresh : List τ) : Pool τ :=
  { pool with waiting := fresh ++ pool.waiting }

theorem mem_calls {pool : Pool τ} {call : τ} :
    call ∈ pool.calls ↔ call ∈ pool.waiting ∨ call ∈ pool.running ∨ call ∈ pool.sent := by
  simp only [Pool.calls, List.mem_append, or_assoc]

theorem mem_calls_of_waiting {pool : Pool τ} {call : τ} (member : call ∈ pool.waiting) :
    call ∈ pool.calls := mem_calls.mpr (Or.inl member)

theorem mem_calls_of_running {pool : Pool τ} {call : τ} (member : call ∈ pool.running) :
    call ∈ pool.calls := mem_calls.mpr (Or.inr (Or.inl member))

theorem mem_calls_of_sent {pool : Pool τ} {call : τ} (member : call ∈ pool.sent) :
    call ∈ pool.calls := mem_calls.mpr (Or.inr (Or.inr member))

theorem mem_spawn {pool : Pool τ} {fresh : List τ} {call : τ}
    (member : call ∈ (pool.spawn fresh).calls) : call ∈ fresh ∨ call ∈ pool.calls := by
  rw [mem_calls] at member ⊢
  rcases member with inside | rest
  · rcases List.mem_append.mp inside with new | old
    · exact Or.inl new
    · exact Or.inr (Or.inl old)
  · exact Or.inr (Or.inr rest)

/-- A list that lies on one side of a division is kept or dropped as a whole. -/
theorem filter_uniform {part : τ → Bool} {calls : List τ} {side : Bool}
    (uniform : ∀ call ∈ calls, part call = side) :
    calls.filter part = if side then calls else [] := by
  cases side with
  | false => simpa [List.filter_eq_nil_iff] using uniform
  | true => simpa [List.filter_eq_self] using uniform

theorem spawn_filter (part : τ → Bool) (pool : Pool τ) (fresh : List τ) :
    (pool.spawn fresh).filter part = (pool.filter part).spawn (fresh.filter part) := by
  simp only [Pool.spawn, Pool.filter, List.filter_append]

/-- What a group decides at its entry, given the keys in flight, about a further call with a
key: it waits for one of them, or it runs. -/
abbrev Gate (κ : Type) := List κ → κ → Bool

/-- A call waits exactly if one with its key is in flight. -/
def Gate.PerKey (gate : Gate κ) : Prop := ∀ inFlight k, gate inFlight k = true ↔ k ∈ inFlight

variable (gate : Gate κ) (key : τ → κ)

/-- A gate per key decides alike on any part that has all calls of the key. -/
theorem Gate.PerKey.filter (perKey : gate.PerKey) (part : τ → Bool) {running : List τ} {call : τ}
    (complete : ∀ other ∈ running, key other = key call → part other = true) :
    gate ((running.filter part).map key) (key call) = gate (running.map key) (key call) := by
  rw [Bool.eq_iff_iff, perKey, perKey, List.mem_map, List.mem_map]
  constructor
  · rintro ⟨other, member, same⟩
    exact ⟨other, List.mem_of_mem_filter member, same⟩
  · rintro ⟨other, member, same⟩
    exact ⟨other, List.mem_filter.mpr ⟨member, complete other member same⟩, same⟩

variable [DecidableEq τ]

/-- A waiting call comes to the gate, and is dropped or runs. -/
def Pool.enter (pool : Pool τ) (call : τ) : Pool τ :=
  if gate (pool.running.map key) (key call) then
    { pool with waiting := pool.waiting.erase call }
  else ⟨pool.waiting.erase call, call :: pool.running, call :: pool.sent⟩

def Pool.leave (pool : Pool τ) (call : τ) : Pool τ :=
  { pool with running := pool.running.erase call }

theorem mem_leave {pool : Pool τ} {call other : τ} (member : other ∈ (pool.leave call).calls) :
    other ∈ pool.calls := by
  rw [mem_calls] at member ⊢
  rcases member with inside | inside | inside
  · exact Or.inl inside
  · exact Or.inr (Or.inl (List.mem_of_mem_erase inside))
  · exact Or.inr (Or.inr inside)

theorem mem_enter {pool : Pool τ} {call other : τ} (waits : call ∈ pool.waiting)
    (member : other ∈ (pool.enter gate key call).calls) : other ∈ pool.calls := by
  rw [mem_calls] at member ⊢
  unfold Pool.enter at member
  split at member
  · rcases member with inside | rest
    · exact Or.inl (List.mem_of_mem_erase inside)
    · exact Or.inr rest
  · rcases member with inside | inside | inside
    · exact Or.inl (List.mem_of_mem_erase inside)
    · rcases List.mem_cons.mp inside with same | old
      · exact Or.inl (same ▸ waits)
      · exact Or.inr (Or.inl old)
    · rcases List.mem_cons.mp inside with same | old
      · exact Or.inl (same ▸ waits)
      · exact Or.inr (Or.inr old)

/-- A call that enters waits no more, and is sent at most once for it. -/
theorem enter_lengths {pool : Pool τ} {call : τ} (waits : call ∈ pool.waiting) :
    (pool.enter gate key call).waiting.length + 1 = pool.waiting.length ∧
      (pool.enter gate key call).sent.length ≤ pool.sent.length + 1 := by
  have erased : (pool.waiting.erase call).length + 1 = pool.waiting.length := by
    have shorter := List.length_erase_of_mem waits
    have some := List.length_pos_of_mem waits
    omega
  unfold Pool.enter
  split
  · exact ⟨erased, Nat.le_succ _⟩
  · exact ⟨erased, Nat.le_refl _⟩

section Filter

variable {pool : Pool τ} {call : τ} (part : τ → Bool)

theorem leave_filter : (pool.leave call).filter part = (pool.filter part).leave call := by
  simp only [Pool.leave, Pool.filter, List.erase_filter]

theorem erase_filter_of_neg (calls : List τ) (outside : part call = false) :
    (calls.erase call).filter part = calls.filter part := by
  rw [← List.erase_filter, List.erase_of_not_mem]
  intro member
  have inside := (List.mem_filter.mp member).2
  rw [outside] at inside
  cases inside

theorem leave_filter_of_neg (outside : part call = false) :
    (pool.leave call).filter part = pool.filter part := by
  simp only [Pool.leave, Pool.filter, erase_filter_of_neg part _ outside]

theorem enter_filter_of_neg (outside : part call = false) :
    (pool.enter gate key call).filter part = pool.filter part := by
  unfold Pool.enter
  split <;> simp [Pool.filter, outside, erase_filter_of_neg part _ outside]

/-- A part that has all calls of a key sees a call of that key enter. -/
theorem enter_filter_of_pos (perKey : gate.PerKey) (inside : part call = true)
    (complete : ∀ other ∈ pool.running, key other = key call → part other = true) :
    (pool.enter gate key call).filter part = (pool.filter part).enter gate key call := by
  have same : gate ((pool.filter part).running.map key) (key call) =
      gate (pool.running.map key) (key call) := perKey.filter gate key part complete
  rw [Pool.enter, Pool.enter, same]
  split <;> simp [Pool.filter, inside, List.erase_filter]

end Filter

section Delivery

variable {pool : Pool τ} {call other : τ}

end Delivery

end SingleFlight
