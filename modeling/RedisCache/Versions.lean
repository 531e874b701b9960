import Mathlib.Data.List.Basic

set_option autoImplicit false

/- The history of one replicated register, oldest value first. A replica that has
seen the first `n` writes answers with the last of them. -/

namespace Versions

variable {ν : Type}

/-- The value after the first `n` writes; no value is a deletion. -/
def asOf (history : List (Option ν)) : Nat → Option ν
  | 0 => none
  | n + 1 => history[n]?.join

/-- Later writes do not change what earlier ones left. -/
theorem asOf_append {history : List (Option ν)} {n : Nat} (inside : n ≤ history.length)
    (more : List (Option ν)) : asOf (history ++ more) n = asOf history n := by
  cases n with
  | zero => rfl
  | succ n => rw [asOf, asOf, List.getElem?_append_left (by omega)]

theorem asOf_mem {history : List (Option ν)} {n : Nat} {value : ν}
    (found : asOf history n = some value) : some value ∈ history := by
  cases n with
  | zero => cases found
  | succ n =>
      rw [asOf, Option.join_eq_some_iff] at found
      exact List.mem_of_getElem? found

/-- A reader that has seen more than the older writes finds one of the newer. -/
theorem asOf_append_newer {older newer : List (Option ν)} {n : Nat} {value : ν}
    (later : older.length < n) (found : asOf (older ++ newer) n = some value) :
    some value ∈ newer := by
  cases n with
  | zero => cases found
  | succ n =>
      rw [asOf, List.getElem?_append_right (by omega), Option.join_eq_some_iff] at found
      exact List.mem_of_getElem? found

end Versions
