import Mathlib.Data.List.Basic
import Mathlib.Logic.Function.Basic

set_option autoImplicit false

/- Slices over arrays that they may share. Arrays have numbers; those below `next` are
allocated. -/

namespace Slices

variable {α : Type}

structure Heap (α : Type) where
  cell : Nat → Nat → α
  next : Nat

/-- A window on an array. Behind its length it has room up to its capacity. -/
structure Slice where
  array : Nat
  offset : Nat
  length : Nat
  capacity : Nat
  fits : length ≤ capacity

def Heap.read (h : Heap α) (s : Slice) : List α :=
  (List.range s.length).map fun i => h.cell s.array (s.offset + i)

def Heap.store (h : Heap α) (array index : Nat) (x : α) : Heap α :=
  { h with cell := Function.update h.cell array (Function.update (h.cell array) index x) }

/-- `s[:0]`. -/
def Slice.none (s : Slice) : Slice := { s with length := 0, fits := Nat.zero_le _ }

/-- `a[offset:offset+length:offset+length]`, a slice without room. -/
def Slice.full (array offset length : Nat) : Slice := ⟨array, offset, length, length, Nat.le_refl _⟩

/-- No cell of one slice is a cell of the other. -/
def Slice.Apart (s other : Slice) : Prop :=
  s.array ≠ other.array ∨ s.offset + s.length ≤ other.offset ∨
    other.offset + other.length ≤ s.offset

/-- `append(s, x)`: in place while there is room, else in a new array. -/
def Heap.append (h : Heap α) (s : Slice) (x : α) : Heap α × Slice :=
  if room : s.length < s.capacity then
    (h.store s.array (s.offset + s.length) x, { s with length := s.length + 1, fits := room })
  else
    ({ cell := Function.update h.cell h.next fun i =>
        if i < s.length then h.cell s.array (s.offset + i) else x
       next := h.next + 1 },
      .full h.next 0 (s.length + 1))

@[simp] theorem read_length (h : Heap α) (s : Slice) : (h.read s).length = s.length := by
  simp [Heap.read]

theorem getElem?_read (h : Heap α) (s : Slice) {i : Nat} (inside : i < s.length) :
    (h.read s)[i]? = some (h.cell s.array (s.offset + i)) := by
  simp [Heap.read, inside]

/-- A slice reads alike in heaps that agree on its cells. -/
theorem read_congr {h k : Heap α} {s : Slice}
    (same : ∀ i, i < s.length → k.cell s.array (s.offset + i) = h.cell s.array (s.offset + i)) :
    k.read s = h.read s := by
  apply List.map_congr_left
  intro i member
  exact same i (List.mem_range.mp member)

@[simp] theorem store_self (h : Heap α) (array index : Nat) (x : α) :
    (h.store array index x).cell array index = x := by
  simp [Heap.store]

theorem store_of_ne (h : Heap α) {array index : Nat} (x : α) {other i : Nat}
    (apart : other ≠ array ∨ i ≠ index) :
    (h.store array index x).cell other i = h.cell other i := by
  by_cases same : other = array
  · subst same
    have elsewhere : i ≠ index := apart.resolve_left fun absent => absent rfl
    simp [Heap.store, elsewhere]
  · simp [Heap.store, same]

theorem read_append_room (h : Heap α) {s : Slice} (room : s.length < s.capacity) (x : α) :
    (h.append s x).1.read (h.append s x).2 = h.read s ++ [x] := by
  simp only [Heap.append, room, ↓reduceDIte]
  rw [Heap.read, List.range_succ, List.map_append]
  have before : ∀ i ∈ List.range s.length,
      (h.store s.array (s.offset + s.length) x).cell s.array (s.offset + i) =
        h.cell s.array (s.offset + i) := by
    intro i member
    have below := List.mem_range.mp member
    apply store_of_ne
    omega
  rw [List.map_congr_left before]
  simp [Heap.read]

section Filter

variable (keep : α → Bool)

/-- One round of `for _, x := range source { if keep(x) { kept = append(kept, x) } }`. -/
def filterStep (source : Slice) (state : Heap α × Slice) (i : Nat) : Heap α × Slice :=
  let x := state.1.cell source.array (source.offset + i)
  if keep x then state.1.append state.2 x else state

/-- The loop with `kept := source[:0]` before it. -/
def filterInPlace (h : Heap α) (source : Slice) : Heap α × Slice :=
  (List.range source.length).foldl (filterStep keep source) (h, source.none)

/-- After some rounds: what was kept stands at the front of the source, nothing that is
still to be read has been written over, and no other cell has changed. -/
structure Filtered (h : Heap α) (source : Slice) (rounds : Nat) (state : Heap α × Slice) :
    Prop where
  array : state.2.array = source.array
  offset : state.2.offset = source.offset
  capacity : state.2.capacity = source.capacity
  behind : state.2.length ≤ rounds
  next : state.1.next = h.next
  kept : state.1.read state.2 = ((h.read source).take rounds).filter keep
  unread : ∀ i, rounds ≤ i →
    state.1.cell source.array (source.offset + i) = h.cell source.array (source.offset + i)
  frame : ∀ array i, array ≠ source.array ∨ i < source.offset ∨ source.offset + source.length ≤ i →
    state.1.cell array i = h.cell array i

variable {keep} {h : Heap α} {source : Slice} {rounds : Nat} {state : Heap α × Slice}

theorem filterStep_filtered (valid : Filtered keep h source rounds state)
    (inside : rounds < source.length) :
    Filtered keep h source (rounds + 1) (filterStep keep source state rounds) := by
  have behind := valid.behind
  have fits := source.fits
  have current : state.1.cell source.array (source.offset + rounds) =
      h.cell source.array (source.offset + rounds) := valid.unread rounds (Nat.le_refl _)
  have taken : (h.read source).take (rounds + 1) =
      (h.read source).take rounds ++ [h.cell source.array (source.offset + rounds)] := by
    rw [List.take_add_one, getElem?_read h source inside]
    rfl
  unfold filterStep
  rw [current]
  by_cases keeps : keep (h.cell source.array (source.offset + rounds)) = true
  · have room : state.2.length < state.2.capacity := by
      have capacity := valid.capacity
      omega
    have appended := read_append_room state.1 room (h.cell source.array (source.offset + rounds))
    rw [if_pos keeps]
    simp only [Heap.append, room, ↓reduceDIte] at appended ⊢
    refine ⟨valid.array, valid.offset, valid.capacity, ?_, valid.next, ?_, ?_, ?_⟩
    · show state.2.length + 1 ≤ rounds + 1
      omega
    · rw [appended, valid.kept, taken, List.filter_append]
      simp [keeps]
    · intro i later
      rw [store_of_ne, valid.unread i (by omega)]
      have offset := valid.offset
      omega
    · intro array i outside
      rw [store_of_ne, valid.frame array i outside]
      have same := valid.array
      have offset := valid.offset
      omega
  · rw [if_neg keeps]
    refine { valid with behind := by omega, kept := ?_, unread := ?_ }
    · rw [valid.kept, taken, List.filter_append]
      simp [keeps]
    · intro i later
      exact valid.unread i (by omega)

theorem filtered_start : Filtered keep h source 0 (h, source.none) :=
  ⟨rfl, rfl, rfl, Nat.le_refl _, rfl, rfl, fun _ _ => rfl, fun _ _ _ => rfl⟩

/-- The loop filters, and touches nothing outside of its slice. -/
theorem filterInPlace_filtered (keep : α → Bool) (h : Heap α) (source : Slice) :
    Filtered keep h source source.length (filterInPlace keep h source) := by
  have each : ∀ n, n ≤ source.length → Filtered keep h source n
      ((List.range n).foldl (filterStep keep source) (h, source.none)) := by
    intro n
    induction n with
    | zero => exact fun _ => filtered_start
    | succ n ih =>
        intro bound
        rw [List.range_succ, List.foldl_append]
        exact filterStep_filtered (ih (by omega)) (by omega)
  exact each _ (Nat.le_refl _)

theorem read_filterInPlace (keep : α → Bool) (h : Heap α) (source : Slice) :
    (filterInPlace keep h source).1.read (filterInPlace keep h source).2 =
      (h.read source).filter keep := by
  have whole : (h.read source).take source.length = h.read source := by
    apply List.take_of_length_le
    exact Nat.le_of_eq (read_length h source)
  rw [(filterInPlace_filtered keep h source).kept, whole]

/-- Another slice reads as before, unless it has a cell of the filtered one. -/
theorem read_filterInPlace_apart (keep : α → Bool) (h : Heap α) {source other : Slice}
    (apart : other.Apart source) : (filterInPlace keep h source).1.read other = h.read other := by
  unfold Slice.Apart at apart
  apply read_congr
  intro i inside
  apply (filterInPlace_filtered keep h source).frame
  omega

end Filter

end Slices
