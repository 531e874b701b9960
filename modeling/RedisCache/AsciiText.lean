import Mathlib.Data.List.Basic

set_option autoImplicit false

/- Byte strings restricted to ASCII, and their case folding. -/

namespace AsciiText

/-- The lower-case form of one byte; only `A` to `Z` change. -/
def lowerByte (byte : UInt8) : UInt8 :=
  if 65 ≤ byte ∧ byte ≤ 90 then byte + 32 else byte

theorem lowerByte_idem (byte : UInt8) : lowerByte (lowerByte byte) = lowerByte byte := by
  unfold lowerByte
  split
  · rename_i upper
    have folded : ¬ (65 ≤ byte + 32 ∧ byte + 32 ≤ 90) := by
      simp only [UInt8.le_iff_toNat_le, UInt8.toNat_add] at *
      simp at *
      omega
    simp only [folded, ↓reduceIte]
  · rfl

theorem lowerByte_lt (byte : UInt8) (small : byte < 128) : lowerByte byte < 128 := by
  unfold lowerByte
  split
  · simp only [UInt8.le_iff_toNat_le, UInt8.lt_iff_toNat_lt, UInt8.toNat_add] at *
    simp at *
    omega
  · exact small

/-- A string whose bytes are all ASCII, so that case folding acts on each byte
by itself and never changes a length. -/
structure Text where
  bytes : List UInt8
  ascii : bytes.all (· < 128) = true
deriving DecidableEq, Repr

namespace Text

theorem ext_bytes {left right : Text} (same : left.bytes = right.bytes) : left = right := by
  cases left
  cases right
  cases same
  rfl

def empty : Text := ⟨[], rfl⟩

def toLower (text : Text) : Text where
  bytes := text.bytes.map lowerByte
  ascii := by
    have small := text.ascii
    simp only [List.all_eq_true, decide_eq_true_eq, List.mem_map] at small ⊢
    rintro _ ⟨byte, member, rfl⟩
    exact lowerByte_lt byte (small byte member)

/-- Equality up to ASCII case. -/
def equalFold (left right : Text) : Bool := left.toLower == right.toLower

@[simp] theorem toLower_bytes (text : Text) :
    text.toLower.bytes = text.bytes.map lowerByte := rfl

@[simp] theorem toLower_idem (text : Text) : text.toLower.toLower = text.toLower := by
  apply ext_bytes
  simp only [toLower_bytes, List.map_map]
  apply List.map_congr_left
  intro byte _
  exact lowerByte_idem byte

@[simp] theorem toLower_eq_empty {text : Text} : text.toLower = empty ↔ text = empty := by
  constructor
  · intro blank
    have none : text.bytes.map lowerByte = [] := congrArg Text.bytes blank
    exact ext_bytes (List.map_eq_nil_iff.mp none)
  · intro blank
    rw [blank]
    rfl

end Text

end AsciiText
