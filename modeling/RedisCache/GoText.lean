import Mathlib.Algebra.Group.Int.Defs
import Mathlib.Algebra.Group.Nat.Defs
import Mathlib.Data.List.Basic

set_option autoImplicit false

/- `net.SplitHostPort`, `net.JoinHostPort` and the integer parsers of strconv. -/

namespace GoText

def lastIndexOf (c : Char) (s : List Char) : Option Nat :=
  (s.reverse.findIdx? (· == c)).map fun i => s.length - 1 - i

def missingPort : String := "missing port in address"
def tooManyColons : String := "too many colons in address"

/-- The end of `SplitHostPort`: no bracket may stand after the given positions. -/
def splitTail (hostport host : List Char) (i j k : Nat) :
    Except String (List Char × List Char) :=
  if (hostport.drop j).contains '[' then .error "unexpected '[' in address"
  else if (hostport.drop k).contains ']' then .error "unexpected ']' in address"
  else .ok (host, hostport.drop (i + 1))

/-- The error is the reason alone; `addrError` adds the address to its text. -/
def splitHostPort (hostport : List Char) : Except String (List Char × List Char) :=
  match lastIndexOf ':' hostport with
  | none => .error missingPort
  | some i =>
      if hostport.head? = some '[' then
        match hostport.findIdx? (· == ']') with
        | none => .error "missing ']' in address"
        | some stop =>
            if stop + 1 = hostport.length then .error missingPort
            else if stop + 1 = i then
              splitTail hostport ((hostport.take stop).drop 1) i 1 (stop + 1)
            else if hostport[stop + 1]? = some ':' then .error tooManyColons
            else .error missingPort
      else if (hostport.take i).contains ':' then .error tooManyColons
      else splitTail hostport (hostport.take i) i 0 0

/-- `(*net.AddrError).Error`. -/
def addrError (addr why : String) : String :=
  if addr = "" then why else "address " ++ addr ++ ": " ++ why

def joinHostPort (host port : List Char) : List Char :=
  if host.contains ':' then '[' :: host ++ ']' :: ':' :: port else host ++ ':' :: port

/-- `strings.Contains`. -/
def containsText (s sub : List Char) : Bool := s.tails.any fun rest => sub.isPrefixOf rest

/-- `strconv.ErrSyntax` and `strconv.ErrRange`. -/
inductive NumError
  | invalidSyntax
  | valueOutOfRange
deriving DecidableEq, Repr

/-- `(*strconv.NumError).Error`, given the quoted input. -/
def NumError.text (func quoted : String) : NumError → String
  | .invalidSyntax => "strconv." ++ func ++ ": parsing " ++ quoted ++ ": invalid syntax"
  | .valueOutOfRange => "strconv." ++ func ++ ": parsing " ++ quoted ++ ": value out of range"

/-- The digit loop of `strconv.ParseUint` in base 10. It stops at the first digit
that overflows 64 bits, before it looks at what follows. -/
def uintLoop : List Char → Nat → Except NumError Nat
  | [], n => .ok n
  | c :: rest, n =>
      if !c.isDigit then .error .invalidSyntax
      else if 2 ^ 64 ≤ 10 * n + (c.toNat - 48) then .error .valueOutOfRange
      else uintLoop rest (10 * n + (c.toNat - 48))

/-- `strconv.ParseUint(s, 10, 64)`. -/
def parseUint (s : List Char) : Except NumError Nat :=
  if s = [] then .error .invalidSyntax else uintLoop s 0

/-- `strconv.Atoi` where int has 64 bits. -/
def atoi (s : List Char) : Except NumError Int :=
  match s with
  | '-' :: rest =>
      match parseUint rest with
      | .error e => .error e
      | .ok n => if 2 ^ 63 < n then .error .valueOutOfRange else .ok (-n)
  | '+' :: rest => positive rest
  | _ => positive s
where
  positive (s : List Char) : Except NumError Int :=
    match parseUint s with
    | .error e => .error e
    | .ok n => if 2 ^ 63 ≤ n then .error .valueOutOfRange else .ok n

end GoText
