import Mathlib.Data.List.Chain
import Mathlib.Data.List.Nodup
import Mathlib.Data.List.Perm.Subperm

set_option autoImplicit false

/- Following pointers from node to node, with a record of the keys passed so far.
Nodes with the same key count as one. -/

namespace Walk

/-- What lies behind a node: nothing, something unusable, or the next node. -/
inductive Step (α : Type)
  | halt
  | stuck
  | go (next : α)

variable {α κ : Type}

/-- A path that meets no key twice, with its first and its last key. -/
structure PathTo (edge : κ → κ → Prop) (path : List κ) (start stop : κ) : Prop where
  head : path.head? = some start
  last : path.getLast? = some stop
  linked : path.IsChain edge
  distinct : path.Nodup

section Paths

variable {edge : κ → κ → Prop} {path : List κ} {start stop : κ}

theorem PathTo.single (edge : κ → κ → Prop) (k : κ) : PathTo edge [k] k k where
  head := rfl
  last := rfl
  linked := List.isChain_singleton k
  distinct := List.nodup_singleton k

theorem PathTo.cons {k : κ} (first : edge k start) (rest : PathTo edge path start stop)
    (fresh : k ∉ path) : PathTo edge (k :: path) k stop where
  head := rfl
  last := by
    rw [List.getLast?_cons, rest.last]
    rfl
  linked := by
    apply List.isChain_cons.mpr
    refine ⟨?_, rest.linked⟩
    intro next isHead
    rw [rest.head] at isHead
    cases isHead
    exact first
  distinct := List.nodup_cons.mpr ⟨fresh, rest.distinct⟩

/-- A path is a single key, or one step and a path that avoids its start. -/
theorem PathTo.cases (found : PathTo edge path start stop) :
    (path = [start] ∧ start = stop) ∨
      ∃ next rest, path = start :: rest ∧ edge start next ∧ PathTo edge rest next stop ∧
        start ∉ rest := by
  cases path with
  | nil => cases found.head
  | cons k rest =>
      have same : k = start := Option.some.inj found.head
      subst same
      cases rest with
      | nil => exact Or.inl ⟨rfl, Option.some.inj found.last⟩
      | cons next rest =>
          have linked := List.isChain_cons_cons.mp found.linked
          have distinct := List.nodup_cons.mp found.distinct
          refine Or.inr ⟨next, next :: rest, rfl, linked.1, ?_, distinct.1⟩
          exact ⟨rfl, found.last, linked.2, distinct.2⟩

theorem PathTo.mono {wider : κ → κ → Prop} (found : PathTo edge path start stop)
    (more : ∀ k ∈ path, ∀ l, edge k l → wider k l) : PathTo wider path start stop where
  head := found.head
  last := found.last
  linked := found.linked.imp_of_mem_imp fun k l member _ => more k member l
  distinct := found.distinct

/-- Every key of a path but the last has a successor. -/
theorem PathTo.edge_of_mem (found : PathTo edge path start stop) {k : κ} (member : k ∈ path)
    (inner : k ≠ stop) : ∃ l, edge k l := by
  induction path generalizing start with
  | nil => cases member
  | cons first path ih =>
      rcases found.cases with ⟨single, same⟩ | ⟨next, rest, split, edge, later, _⟩
      · rw [single] at member
        exact absurd ((List.mem_singleton.mp member).trans same) inner
      · cases split
        rcases List.mem_cons.mp member with same | inside
        · exact ⟨next, same ▸ edge⟩
        · exact ih later inside

/-- Where every key has at most one successor, a start has one path to an end. -/
theorem PathTo.unique (functional : ∀ k l other, edge k l → edge k other → l = other)
    {again : List κ} {halt : κ} (found : PathTo edge path start stop) (ends : ∀ l, ¬ edge stop l)
    (other : PathTo edge again start halt) (halts : ∀ l, ¬ edge halt l) : path = again := by
  induction path generalizing start again with
  | nil => cases found.head
  | cons k path ih =>
      rcases found.cases with ⟨single, same⟩ | ⟨next, rest, split, first, later, _⟩
      · subst same
        rcases other.cases with ⟨alone, _⟩ | ⟨next, _, _, first, _⟩
        · rw [single, alone]
        · exact absurd first (ends next)
      · cases split
        rcases other.cases with ⟨_, same⟩ | ⟨onward, rest, split, second, after, _⟩
        · subst same
          exact absurd first (halts next)
        · have same := functional _ _ _ first second
          subst same
          rw [split, ih later after]

end Paths

variable [DecidableEq κ] (key : α → κ) (next : α → Step α)

/-- The node at which the walk ends, and whether it halted there. No result means
that the rounds were used up. -/
def walk : Nat → List κ → α → Option (α × Bool)
  | 0, _, _ => none
  | rounds + 1, visited, x =>
      if key x ∈ visited then some (x, false)
      else
        match next x with
        | .stuck => some (x, false)
        | .halt => some (x, true)
        | .go y => walk rounds (key x :: visited) y

/-- The relations on keys that the steps of a walk stand for. -/
structure Follows (edge : κ → κ → Prop) (final : κ → Prop) : Prop where
  go : ∀ x l, edge (key x) l ↔ ∃ y, next x = .go y ∧ key y = l
  halt : ∀ x, final (key x) ↔ next x = .halt

/-- Every round passes a new key, so a pool of keys bounds the rounds. -/
theorem walk_returns (pool : List κ) (targets : ∀ x y, next x = .go y → key y ∈ pool)
    (rounds : Nat) (visited : List κ) (x : α) (fresh : visited.Nodup) (inside : visited ⊆ pool)
    (member : key x ∈ pool) (enough : pool.length < visited.length + rounds) :
    ∃ result, walk key next rounds visited x = some result := by
  induction rounds generalizing visited x with
  | zero =>
      have bound := (fresh.subperm inside).length_le
      omega
  | succ rounds ih =>
      rw [walk]
      split
      · exact ⟨_, rfl⟩
      · rename_i unseen
        split
        · exact ⟨_, rfl⟩
        · exact ⟨_, rfl⟩
        · rename_i y moved
          apply ih
          · exact List.nodup_cons.mpr ⟨unseen, fresh⟩
          · exact List.cons_subset.mpr ⟨member, inside⟩
          · exact targets x y moved
          · rw [List.length_cons]
            omega

/-- Rounds of a walk that give no result, from a node and the keys before it to the
node and the keys that the next round starts with. -/
inductive Passes : Nat → List κ → α → List κ → α → Prop
  | start (visited : List κ) (x : α) : Passes 0 visited x visited x
  | round {rounds : Nat} {visited seen : List κ} {x y z : α} (unseen : key x ∉ visited)
      (moved : next x = .go y) (rest : Passes rounds (key x :: visited) y seen z) :
      Passes (rounds + 1) visited x seen z

theorem walk_of_one {visited : List κ} {x : α} {result : α × Bool}
    (ended : walk key next 1 visited x = some result) (more : Nat) :
    walk key next more visited x = if 0 < more then some result else none := by
  cases more with
  | zero => rfl
  | succ more =>
      rw [if_pos (Nat.succ_pos more), ← ended, walk, walk]
      split
      · rfl
      · rename_i unseen
        rw [walk, if_neg unseen] at ended
        split
        · rfl
        · rfl
        · rename_i y moved
          rw [moved] at ended
          cases ended

/-- A walk with a result comes to it in a fixed number of rounds, and a repeated key
is a failure. -/
theorem walk_passes {rounds : Nat} {visited : List κ} {x : α} {result : α × Bool}
    (ran : walk key next rounds visited x = some result) :
    ∃ k seen y, k < rounds ∧ Passes key next k visited x seen y ∧
      (key y ∈ seen → result = (y, false)) ∧
      ∀ more, walk key next more visited x = if k < more then some result else none := by
  induction rounds generalizing visited x with
  | zero => cases ran
  | succ rounds ih =>
      rw [walk] at ran
      split at ran
      · rename_i again
        refine ⟨0, visited, x, Nat.succ_pos _, .start visited x, ?_, walk_of_one key next ?_⟩
        · exact fun _ => (Option.some.inj ran).symm
        · rw [walk, if_pos again, ran]
      · rename_i unseen
        split at ran
        · rename_i stopped
          refine ⟨0, visited, x, Nat.succ_pos _, .start visited x, ?_, walk_of_one key next ?_⟩
          · exact fun again => absurd again unseen
          · rw [walk, if_neg unseen, stopped, ← ran]
        · rename_i stopped
          refine ⟨0, visited, x, Nat.succ_pos _, .start visited x, ?_, walk_of_one key next ?_⟩
          · exact fun again => absurd again unseen
          · rw [walk, if_neg unseen, stopped, ← ran]
        · rename_i y moved
          obtain ⟨k, seen, z, inside, passed, repeated, exactly⟩ := ih ran
          refine ⟨k + 1, seen, z, by omega, .round unseen moved passed, repeated, ?_⟩
          intro more
          cases more with
          | zero => rfl
          | succ more =>
              rw [walk, if_neg unseen, moved]
              simp only [exactly more, Nat.add_lt_add_iff_right]

section Correctness

variable {key next} {edge : κ → κ → Prop} {final : κ → Prop}

/-- A walk that halts has gone along a path of unvisited keys. -/
theorem walk_sound (follows : Follows key next edge final) {rounds : Nat} {visited : List κ}
    {x y : α} (ran : walk key next rounds visited x = some (y, true)) :
    final (key y) ∧ ∃ path, PathTo edge path (key x) (key y) ∧ ∀ k ∈ path, k ∉ visited := by
  induction rounds generalizing visited x with
  | zero => cases ran
  | succ rounds ih =>
      rw [walk] at ran
      split at ran
      · cases ran
      · rename_i unseen
        split at ran
        · cases ran
        · rename_i halted
          cases ran
          refine ⟨(follows.halt y).mpr halted, [key y], .single edge (key y), ?_⟩
          intro k member
          rw [List.mem_singleton.mp member]
          exact unseen
        · rename_i z moved
          obtain ⟨ends, path, found, avoids⟩ := ih ran
          have fresh : key x ∉ path := fun member =>
            avoids _ member List.mem_cons_self
          refine ⟨ends, key x :: path, found.cons ((follows.go x _).mpr ⟨z, moved, rfl⟩) fresh, ?_⟩
          intro k member
          rcases List.mem_cons.mp member with same | later
          · rw [same]
            exact unseen
          · exact fun old => avoids k later (List.mem_cons_of_mem _ old)

/-- Where there is a path to an end, a walk with enough rounds halts at that end. -/
theorem walk_complete (follows : Follows key next edge final) {path : List κ} {stop : κ}
    {rounds : Nat} {visited : List κ} {x : α} {result : α × Bool}
    (found : PathTo edge path (key x) stop) (ends : final stop)
    (avoids : ∀ k ∈ path, k ∉ visited)
    (ran : walk key next rounds visited x = some result) :
    result.2 = true ∧ key result.1 = stop := by
  induction path generalizing rounds visited x with
  | nil => cases found.head
  | cons k path ih =>
      have isHead : k = key x := Option.some.inj found.head
      have unseen : key x ∉ visited := by
        rw [← isHead]
        exact avoids k List.mem_cons_self
      cases rounds with
      | zero => cases ran
      | succ rounds =>
          rw [walk, if_neg unseen] at ran
          rcases found.cases with ⟨_, same⟩ | ⟨onward, rest, split, first, later, fresh⟩
          · subst same
            rw [(follows.halt x).mp ends] at ran
            cases ran
            exact ⟨rfl, rfl⟩
          · cases split
            obtain ⟨y, moved, same⟩ := (follows.go x onward).mp first
            subst same
            rw [moved] at ran
            refine ih later ?_ ran
            intro l member old
            rcases List.mem_cons.mp old with same | before
            · exact fresh (same ▸ member)
            · exact avoids l (List.mem_cons_of_mem _ member) before

end Correctness

end Walk
