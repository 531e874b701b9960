import Mathlib.Algebra.Group.Int.Defs
import Mathlib.Algebra.Group.Nat.Defs
import Mathlib.Data.List.Basic

set_option autoImplicit false

/- Run-time faults, error values and durations of the Go code. A fault ends a
goroutine; an error value is returned to the caller like any other value. -/

namespace RedisCache

inductive Fault
  | indexOutOfRange
  | diverges
deriving DecidableEq, Repr

abbrev Go := Except Fault

/-- `xs[i]`. -/
def index {α : Type} (xs : List α) (i : Nat) : Go α :=
  match xs[i]? with
  | some x => .ok x
  | none => .error .indexOutOfRange

@[simp] theorem index_cons_zero {α : Type} (x : α) (rest : List α) :
    index (x :: rest) 0 = .ok x := rfl

@[simp] theorem index_nil {α : Type} (i : Nat) :
    index ([] : List α) i = .error .indexOutOfRange := rfl

theorem index_of_lt {α : Type} (xs : List α) (i : Nat) (inside : i < xs.length) :
    index xs i = .ok xs[i] := by
  simp only [index, List.getElem?_eq_getElem inside]

/-- The error values the code tells apart, after unwrapping. -/
inductive GoError
  | errBuf
  | redisNil
  | deadlineExceeded
  | canceled
  | poolTimeout
  | net (timeout : Bool)
  | eof
  | unexpectedEOF
  | other (text : String)
deriving DecidableEq, Repr

/-- Arithmetic on `time.Duration`, a 64-bit count of nanoseconds, wraps. Durations
are integers here, and every product goes through this function. -/
def wrap64 (n : Int) : Int := n.bmod (2 ^ 64)

def second : Int := 1000000000

/-- `time.Duration(n) * time.Second`. -/
def ofSeconds (n : Int) : Int := wrap64 (n * second)

theorem wrap64_of_range {n : Int} (lower : -(2 ^ 63) ≤ n) (upper : n < 2 ^ 63) :
    wrap64 n = n := by
  unfold wrap64
  rw [Int.bmod_def]
  omega

/-- Wrapping takes a number of turns away and lands in the 64-bit range. -/
theorem wrap64_turns (n : Int) :
    ∃ turns, n = wrap64 n + turns * 2 ^ 64 ∧ -(2 ^ 63) ≤ wrap64 n ∧ wrap64 n < 2 ^ 63 := by
  refine ⟨(n - wrap64 n) / 2 ^ 64, ?_⟩
  unfold wrap64
  rw [Int.bmod_def]
  omega

theorem wrap64_add_turns (n turns : Int) : wrap64 (n + turns * 2 ^ 64) = wrap64 n := by
  unfold wrap64
  rw [Int.bmod_def, Int.bmod_def]
  omega

/-- A 32-bit count of seconds is far from the 64-bit limit. -/
theorem ofSeconds_uint32 (n : UInt32) : ofSeconds n.toNat = n.toNat * second := by
  have bound := n.toNat_lt
  apply wrap64_of_range <;> unfold second <;> omega

/-- `uint32(d.Seconds())`. Division is exact on the whole seconds that occur;
outside the range of `uint32` Go leaves the result to the implementation. -/
def secondsU32 (outOfRange : Int → UInt32) (d : Int) : UInt32 :=
  if 0 ≤ d ∧ d < 2 ^ 32 * second then UInt32.ofNat (d / second).toNat else outOfRange d

theorem secondsU32_toNat (outOfRange : Int → UInt32) {d : Int} (lower : 0 ≤ d)
    (upper : d < 2 ^ 32 * second) : ((secondsU32 outOfRange d).toNat : Int) = d / second := by
  have small : (d / second).toNat < 2 ^ 32 := by
    unfold second at *
    omega
  have floor : 0 ≤ d / second := Int.ediv_nonneg lower (by decide)
  rw [secondsU32, if_pos ⟨lower, upper⟩, UInt32.toNat_ofNat', Nat.mod_eq_of_lt small]
  omega

/-- A conversion never yields more seconds than the duration has. -/
theorem secondsU32_le (outOfRange : Int → UInt32) {d : Int} (lower : 0 ≤ d) :
    ((secondsU32 outOfRange d).toNat : Int) * second ≤ d := by
  by_cases upper : d < 2 ^ 32 * second
  · rw [secondsU32_toNat outOfRange lower upper]
    unfold second
    omega
  · have bound := (secondsU32 outOfRange d).toNat_lt
    unfold second at *
    omega

end RedisCache
