import Mathlib.Data.List.Basic

set_option autoImplicit false

/- A guard that runs some of the calls made to it, told from the times of the calls before,
and what follows where it runs at most one in an interval. -/

namespace Sometimes

/-- Whether a call runs: the times of all calls before it, newest first, and its own. -/
abbrev Throttle := List Nat → Nat → Bool

variable {ε : Type} (throttle : Throttle) (time : ε → Nat)

/-- The calls that run, of calls newest first. -/
def Throttle.fired : List ε → List ε
  | [] => []
  | e :: before =>
      if throttle (before.map time) (time e) then e :: Throttle.fired before
      else Throttle.fired before

variable {throttle time} {interval : Nat}

end Sometimes
