import Mathlib.Algebra.Group.Nat.Defs
import Mathlib.Data.List.Basic

set_option autoImplicit false

/- Big-endian words and their hexadecimal text. -/

namespace ByteOrder

/-- The low `width` bytes of a number, most significant first. -/
def bigEndian : Nat → Nat → List UInt8
  | 0, _ => []
  | width + 1, value => UInt8.ofNat (value / 256 ^ width) :: bigEndian width value

def putUint16 (word : UInt16) : List UInt8 := bigEndian 2 word.toNat

def putUint64 (word : UInt64) : List UInt8 := bigEndian 8 word.toNat

def hexDigit (nibble : Nat) : Char :=
  if nibble < 10 then Char.ofNat (48 + nibble) else Char.ofNat (87 + nibble)

/-- Two lower-case hexadecimal digits for each byte. -/
def hexEncode (bytes : List UInt8) : List Char :=
  bytes.flatMap fun byte => [hexDigit (byte.toNat / 16), hexDigit (byte.toNat % 16)]

theorem bigEndian_length (width value : Nat) : (bigEndian width value).length = width := by
  induction width with
  | zero => rfl
  | succ width ih => simp only [bigEndian, List.length_cons, ih]

theorem bigEndian_mod_eq {width left right : Nat}
    (same : bigEndian width left = bigEndian width right) :
    left % 256 ^ width = right % 256 ^ width := by
  induction width with
  | zero => simp only [Nat.pow_zero, Nat.mod_one]
  | succ width ih =>
      simp only [bigEndian, List.cons.injEq] at same
      have digit := congrArg UInt8.toNat same.1
      simp only [UInt8.toNat_ofNat'] at digit
      rw [Nat.mod_pow_succ, Nat.mod_pow_succ, ih same.2, digit]

theorem hexEncode_length (bytes : List UInt8) :
    (hexEncode bytes).length = 2 * bytes.length := by
  induction bytes with
  | nil => rfl
  | cons byte rest ih =>
      simp only [hexEncode, List.flatMap_cons, List.length_append, List.length_cons,
        List.length_nil] at ih ⊢
      omega

theorem putUint16_injective {left right : UInt16}
    (same : putUint16 left = putUint16 right) : left = right := by
  have residue := bigEndian_mod_eq same
  have leftBound := left.toNat_lt
  have rightBound := right.toNat_lt
  apply UInt16.toNat_inj.mp
  omega

theorem putUint64_injective {left right : UInt64}
    (same : putUint64 left = putUint64 right) : left = right := by
  have residue := bigEndian_mod_eq same
  have leftBound := left.toNat_lt
  have rightBound := right.toNat_lt
  apply UInt64.toNat_inj.mp
  omega

theorem hexDigit_injective : ∀ left < 16, ∀ right < 16,
    hexDigit left = hexDigit right → left = right := by
  decide

theorem hexEncode_injective {left right : List UInt8}
    (same : hexEncode left = hexEncode right) : left = right := by
  induction left generalizing right with
  | nil =>
      cases right with
      | nil => rfl
      | cons byte rest => simp [hexEncode] at same
  | cons byte rest ih =>
      cases right with
      | nil => simp [hexEncode] at same
      | cons other others =>
          simp only [hexEncode, List.flatMap_cons, List.cons_append, List.nil_append,
            List.cons.injEq] at same
          obtain ⟨high, low, tail⟩ := same
          have byteBound := byte.toNat_lt
          have otherBound := other.toNat_lt
          have highEq := hexDigit_injective _ (by omega) _ (by omega) high
          have lowEq := hexDigit_injective _ (by omega) _ (by omega) low
          rw [ih tail, UInt8.toNat_inj.mp (show byte.toNat = other.toNat by omega)]

end ByteOrder
