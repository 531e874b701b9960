import Mathlib.Algebra.GroupWithZero.Nat
import RedisCache.ByteOrder
import RedisCache.Deps

set_option autoImplicit false

namespace RedisCache

open AsciiText

abbrev Key := String

structure Keyer where
  keyPrefix : String
  hashSeed : UInt64
deriving DecidableEq, Repr

/-- The arguments of `keyer.key`. -/
structure Tuple where
  qname : Name
  qclass : UInt16
  qtype : UInt16
  doBit : Bool
  cd : Bool
deriving DecidableEq, Repr

/-- The six bytes written to the hash before the name. -/
def Tuple.header (t : Tuple) : Bytes :=
  ByteOrder.putUint16 t.qclass ++ ByteOrder.putUint16 t.qtype ++
    [if t.doBit then 1 else 0] ++ [if t.cd then 1 else 0]

/-- The size of the stack buffer for the lower-cased name. -/
def bufLen : Nat := 256

/-- The name as it is copied into the buffer: cut off at its end, then folded. -/
def Tuple.folded (t : Tuple) : Bytes := (t.qname.bytes.take bufLen).map lowerByte

/-- Everything that is written to the hash. -/
def Tuple.preimage (t : Tuple) : Bytes := t.header ++ t.folded

def Keyer.key (d : Deps) (k : Keyer) (t : Tuple) : Key :=
  let sum := ByteOrder.putUint64 (d.sum64 k.hashSeed t.preimage)
  let hexsum := String.ofList (ByteOrder.hexEncode sum)
  if k.keyPrefix = "" then hexsum else k.keyPrefix ++ ":" ++ hexsum

/-- The tuples that the documentation wants to share a slot. -/
def SameTuple (left right : Tuple) : Prop :=
  left.qclass = right.qclass ∧ left.qtype = right.qtype ∧ left.doBit = right.doBit ∧
    left.cd = right.cd ∧ left.qname.toLower = right.qname.toLower

instance (left right : Tuple) : Decidable (SameTuple left right) :=
  inferInstanceAs (Decidable (_ ∧ _ ∧ _ ∧ _ ∧ _))

theorem header_length (t : Tuple) : t.header.length = 6 := rfl

theorem header_eq_iff (left right : Tuple) : left.header = right.header ↔
    left.qclass = right.qclass ∧ left.qtype = right.qtype ∧ left.doBit = right.doBit ∧
      left.cd = right.cd := by
  constructor
  · intro same
    obtain ⟨first, cd⟩ := List.append_inj' same rfl
    obtain ⟨words, doBit⟩ := List.append_inj' first rfl
    obtain ⟨qclass, qtype⟩ := List.append_inj' words rfl
    refine ⟨ByteOrder.putUint16_injective qclass, ByteOrder.putUint16_injective qtype, ?_, ?_⟩
    · revert doBit
      cases left.doBit <;> cases right.doBit <;> decide
    · revert cd
      cases left.cd <;> cases right.cd <;> decide
  · rintro ⟨qclass, qtype, doBit, cd⟩
    simp only [Tuple.header, qclass, qtype, doBit, cd]

theorem folded_eq (t : Tuple) : t.folded = t.qname.toLower.bytes.take bufLen := by
  simp only [Tuple.folded, Text.toLower_bytes, List.map_take]

/-- The header has a fixed width, so a preimage determines both of its parts. -/
theorem preimage_eq_iff (left right : Tuple) : left.preimage = right.preimage ↔
    left.header = right.header ∧ left.folded = right.folded := by
  constructor
  · intro same
    exact List.append_inj same (by rw [header_length, header_length])
  · rintro ⟨header, folded⟩
    rw [Tuple.preimage, Tuple.preimage, header, folded]

theorem preimage_of_sameTuple {left right : Tuple} (same : SameTuple left right) :
    left.preimage = right.preimage := by
  obtain ⟨qclass, qtype, doBit, cd, name⟩ := same
  rw [preimage_eq_iff, header_eq_iff, folded_eq, folded_eq, name]
  exact ⟨⟨qclass, qtype, doBit, cd⟩, rfl⟩

/-- Hexadecimal text and the namespace prefix add no coincidence of their own. -/
theorem key_eq_iff (d : Deps) (k : Keyer) (left right : Tuple) :
    k.key d left = k.key d right ↔
      d.sum64 k.hashSeed left.preimage = d.sum64 k.hashSeed right.preimage := by
  constructor
  · intro same
    apply ByteOrder.putUint64_injective
    apply ByteOrder.hexEncode_injective
    have chars := congrArg String.toList same
    unfold Keyer.key at chars
    dsimp only at chars
    split at chars
    · simpa only [String.toList_ofList] using chars
    · simp only [String.toList_append, String.toList_ofList, List.append_cancel_left_eq] at chars
      exact chars
  · intro same
    simp only [Keyer.key, same]

/-- A key is never the empty string that `WriteMsg` uses for no key. -/
theorem key_ne_empty (d : Deps) (k : Keyer) (t : Tuple) : k.key d t ≠ "" := by
  intro empty
  have chars := congrArg (fun s => s.toList.length) empty
  unfold Keyer.key at chars
  dsimp only at chars
  split at chars
  · simp [ByteOrder.hexEncode_length, ByteOrder.putUint64, ByteOrder.bigEndian_length] at chars
  · simp [String.toList_append] at chars

/-- Two different tuples that the cut at the end of the buffer makes equal. -/
def CutClash (left right : Tuple) : Prop :=
  left.qclass = right.qclass ∧ left.qtype = right.qtype ∧ left.doBit = right.doBit ∧
    left.cd = right.cd ∧ left.qname.toLower ≠ right.qname.toLower ∧
    left.qname.toLower.bytes.take bufLen = right.qname.toLower.bytes.take bufLen

/-- Key isolation of one pair: the hash input tells exactly the documented
tuples apart, so that only a collision of the hash itself can merge two keys. -/
def Isolated (d : Deps) (k : Keyer) (left right : Tuple) : Prop :=
  (left.preimage = right.preimage ↔ SameTuple left right) ∧
    (k.key d left = k.key d right → SameTuple left right ∨
      left.preimage ≠ right.preimage ∧
        d.sum64 k.hashSeed left.preimage = d.sum64 k.hashSeed right.preimage)

/-- Only a name longer than the buffer can clash. -/
theorem not_cutClash_of_short {left right : Tuple} (leftShort : left.qname.bytes.length ≤ bufLen)
    (rightShort : right.qname.bytes.length ≤ bufLen) : ¬ CutClash left right := by
  rintro ⟨_, _, _, _, differ, cut⟩
  apply differ
  apply Text.ext_bytes
  rwa [List.take_of_length_le (by simpa using leftShort),
    List.take_of_length_le (by simpa using rightShort)] at cut

theorem isolated_iff_not_cutClash (d : Deps) (k : Keyer) (left right : Tuple) :
    Isolated d k left right ↔ ¬ CutClash left right := by
  constructor
  · rintro ⟨exactly, _⟩ ⟨qclass, qtype, doBit, cd, differ, cut⟩
    have merged : left.preimage = right.preimage := by
      rw [preimage_eq_iff, header_eq_iff, folded_eq, folded_eq]
      exact ⟨⟨qclass, qtype, doBit, cd⟩, cut⟩
    exact differ (exactly.mp merged).2.2.2.2
  · intro apart
    have exactly : left.preimage = right.preimage ↔ SameTuple left right := by
      constructor
      · intro merged
        rw [preimage_eq_iff, header_eq_iff, folded_eq, folded_eq] at merged
        obtain ⟨⟨qclass, qtype, doBit, cd⟩, cut⟩ := merged
        refine ⟨qclass, qtype, doBit, cd, ?_⟩
        by_contra differ
        exact apart ⟨qclass, qtype, doBit, cd, differ, cut⟩
      · exact preimage_of_sameTuple
    refine ⟨exactly, ?_⟩
    intro shared
    by_cases merged : left.preimage = right.preimage
    · exact Or.inl (exactly.mp merged)
    · exact Or.inr ⟨merged, (key_eq_iff d k left right).mp shared⟩

/-- A name on the wire: labels of 1 to 63 octets, at most 255 octets in all. -/
structure WireName where
  labels : List Bytes
  sized : ∀ label ∈ labels, 1 ≤ label.length ∧ label.length ≤ 63
  bounded : (labels.map fun label => label.length + 1).sum + 1 ≤ 255

/-- The octets that miekg/dns writes behind a backslash: `. '@;()"\` and blank. -/
def specialOctets : Bytes := [46, 32, 39, 64, 59, 40, 41, 34, 92]

/-- The presentation form of one octet of a label. -/
def presentOctet (octet : UInt8) : Bytes :=
  if octet ∈ specialOctets then [92, octet]
  else if octet < 32 ∨ 126 < octet then
    [92, 48 + octet / 100, 48 + octet / 10 % 10, 48 + octet % 10]
  else [octet]

set_option maxRecDepth 4096 in
theorem presentOctet_ascii (octet : UInt8) : (presentOctet octet).all (· < 128) = true := by
  cases octet with
  | ofBitVec octet =>
    cases octet with
    | ofFin octet =>
      revert octet
      decide

def WireName.present (w : WireName) : Name where
  bytes := if w.labels = [] then [46]
    else w.labels.flatMap fun label => label.flatMap presentOctet ++ [46]
  ascii := by
    split
    · rfl
    · simp only [List.all_flatMap, List.all_append, presentOctet_ascii]
      simp

/-- Two labels of wire length 63 and 1. Each zero octet takes four characters,
so the last octet ends beyond the buffer. -/
def longWireName (last : UInt8) : WireName where
  labels := [List.replicate 63 0, [last]]
  sized := by simp
  bounded := by simp

def longTuple (last : UInt8) : Tuple where
  qname := (longWireName last).present.toLower
  qclass := 1
  qtype := 1
  doBit := false
  cd := false

/-- The names of two wire names of 67 octets share one preimage. -/
theorem longTuple_not_isolated :
    ¬ ((longTuple 0).preimage = (longTuple 1).preimage ↔
      SameTuple (longTuple 0) (longTuple 1)) := by
  decide +kernel

end RedisCache
