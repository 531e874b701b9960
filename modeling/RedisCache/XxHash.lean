import Mathlib.Data.List.Basic

set_option autoImplicit false

/- The 64-bit xxHash of a byte string. -/

namespace XxHash

def prime1 : UInt64 := 11400714785074694791
def prime2 : UInt64 := 14029467366897019727
def prime3 : UInt64 := 1609587929392839161
def prime4 : UInt64 := 9650029242287828579
def prime5 : UInt64 := 2870177450012600261

def rotl (word count : UInt64) : UInt64 := (word <<< count) ||| (word >>> (64 - count))

/-- The little-endian value of a byte string. -/
def littleEndian (bytes : List UInt8) : UInt64 :=
  bytes.foldr (fun byte high => high * 256 + byte.toUInt64) 0

def round (acc lane : UInt64) : UInt64 := rotl (acc + lane * prime2) 31 * prime1

def mergeRound (acc lane : UInt64) : UInt64 := (acc ^^^ round 0 lane) * prime1 + prime4

/-- The four lanes of one accumulator state. -/
structure Lanes where
  first : UInt64
  second : UInt64
  third : UInt64
  fourth : UInt64

def Lanes.start (seed : UInt64) : Lanes :=
  ⟨seed + prime1 + prime2, seed + prime2, seed, seed - prime1⟩

def Lanes.stripe (lanes : Lanes) (bytes : List UInt8) : Lanes where
  first := round lanes.first (littleEndian (bytes.take 8))
  second := round lanes.second (littleEndian ((bytes.drop 8).take 8))
  third := round lanes.third (littleEndian ((bytes.drop 16).take 8))
  fourth := round lanes.fourth (littleEndian ((bytes.drop 24).take 8))

def Lanes.stripes : Nat → Lanes → List UInt8 → Lanes
  | 0, lanes, _ => lanes
  | count + 1, lanes, bytes => stripes count (lanes.stripe bytes) (bytes.drop 32)

def Lanes.merge (lanes : Lanes) : UInt64 :=
  let sum := rotl lanes.first 1 + rotl lanes.second 7 + rotl lanes.third 12 + rotl lanes.fourth 18
  mergeRound (mergeRound (mergeRound (mergeRound sum lanes.first) lanes.second) lanes.third)
    lanes.fourth

def words : Nat → UInt64 → List UInt8 → UInt64
  | 0, acc, _ => acc
  | count + 1, acc, bytes =>
      words count (rotl (acc ^^^ round 0 (littleEndian (bytes.take 8))) 27 * prime1 + prime4)
        (bytes.drop 8)

def halfWord (acc : UInt64) (bytes : List UInt8) : UInt64 :=
  if bytes.length < 4 then acc
  else rotl (acc ^^^ littleEndian (bytes.take 4) * prime1) 23 * prime2 + prime3

def tailBytes (acc : UInt64) (bytes : List UInt8) : UInt64 :=
  bytes.foldl (fun acc byte => rotl (acc ^^^ byte.toUInt64 * prime5) 11 * prime1) acc

def avalanche (acc : UInt64) : UInt64 :=
  let first := (acc ^^^ (acc >>> 33)) * prime2
  let second := (first ^^^ (first >>> 29)) * prime3
  second ^^^ (second >>> 32)

def sum64 (seed : UInt64) (bytes : List UInt8) : UInt64 :=
  let start := if bytes.length < 32 then seed + prime5
    else ((Lanes.start seed).stripes (bytes.length / 32) bytes).merge
  let rest := bytes.drop (bytes.length / 32 * 32)
  let acc := words (rest.length / 8) (start + UInt64.ofNat bytes.length) rest
  let rest := rest.drop (rest.length / 8 * 8)
  avalanche (tailBytes (halfWord acc rest) (rest.drop (rest.length / 4 * 4)))

example : sum64 0 [] = 0xef46db3751d8e999 := by decide +kernel
example : sum64 0 ((List.range 70).map UInt8.ofNat) = 0x31a29a8d2666d1d8 := by decide +kernel

end XxHash
