import RedisCache.Ttl

set_option autoImplicit false

namespace RedisCache

/-- The bytes `RCD2`. -/
def cachePayloadPrefix : Bytes := [82, 67, 68, 50]

def cachePayloadFlagDO : UInt8 := 1

def msgWithoutOPT (m : Msg) : Msg :=
  { m with extra := m.extra.filter fun rr => !rr.isOPT }

def toBytes (d : Deps) (m : Msg) : Except GoError Bytes :=
  match d.pack (msgWithoutOPT m) with
  | .error err => .error err
  | .ok wire =>
      .ok (cachePayloadPrefix ++ [if d.msgDo m then cachePayloadFlagDO else 0] ++ wire)

/-- `b[i:]`. -/
def sliceFrom (b : Bytes) (i : Nat) : Go Bytes :=
  if i ≤ b.length then .ok (b.drop i) else .error .indexOutOfRange

/-- The part of `FromBytes` behind the format check. A legacy payload carries its
DO bit in its own OPT record, which is read after the TTLs are rewritten. -/
def decodePayload (d : Deps) (storedDO : Option Bool) (b : Bytes) (ttl : UInt32) :
    Except GoError (Msg × Bool) :=
  match d.unpack b with
  | .error err => .error err
  | .ok m => .ok (setMsgTTL m ttl, storedDO.getD (d.msgDo (setMsgTTL m ttl)))

def fromBytes (d : Deps) (b : Bytes) (ttl : UInt32) : Go (Except GoError (Msg × Bool)) :=
  if cachePayloadPrefix.isPrefixOf b then
    if b.length = cachePayloadPrefix.length then .ok (.error .errBuf)
    else do
      let flags ← index b cachePayloadPrefix.length
      let rest ← sliceFrom b (cachePayloadPrefix.length + 1)
      .ok (decodePayload d (some (flags &&& cachePayloadFlagDO != 0)) rest ttl)
  else .ok (decodePayload d none b ttl)

/-- The bytes of a stored value that are handed to `Unpack`, if any are. -/
def dnsPayload (b : Bytes) : Option Bytes :=
  if cachePayloadPrefix.isPrefixOf b then
    if b.length = cachePayloadPrefix.length then none
    else some (b.drop (cachePayloadPrefix.length + 1))
  else some b

/-- Decoding indexes nothing out of range. It fails on a bare prefix and where
`Unpack` does, and otherwise yields the unpacked message with its TTLs set. -/
theorem fromBytes_returns (d : Deps) (b : Bytes) :
    ∃ storedDO, ∀ ttl, fromBytes d b ttl = .ok (match dnsPayload b with
      | none => .error .errBuf
      | some wire => decodePayload d storedDO wire ttl) := by
  unfold fromBytes dnsPayload
  split
  · rename_i marked
    split
    · exact ⟨none, fun _ => rfl⟩
    · rename_i more
      have long : cachePayloadPrefix.length + 1 ≤ b.length := by
        have bound := (List.isPrefixOf_iff_prefix.mp marked).length_le
        omega
      refine ⟨some (b[cachePayloadPrefix.length] &&& cachePayloadFlagDO != 0), fun ttl => ?_⟩
      simp only [index_of_lt b _ (Nat.lt_of_succ_le long), sliceFrom, long, ↓reduceIte,
        bind, Except.bind]
  · exact ⟨none, fun _ => rfl⟩

/-- A value that decodes holds a message, which is served with its TTLs set. -/
theorem fromBytes_ok {d : Deps} {b : Bytes} {ttl : UInt32} {m : Msg} {storedDO : Bool}
    (decoded : fromBytes d b ttl = .ok (.ok (m, storedDO))) :
    ∃ wire u, dnsPayload b = some wire ∧ d.unpack wire = .ok u ∧ m = setMsgTTL u ttl := by
  obtain ⟨flag, returns⟩ := fromBytes_returns d b
  rw [returns ttl] at decoded
  cases payload : dnsPayload b with
  | none =>
      rw [payload] at decoded
      cases decoded
  | some wire =>
      cases unpacked : d.unpack wire with
      | error err =>
          simp only [payload, decodePayload, unpacked] at decoded
          cases decoded
      | ok u =>
          simp only [payload, decodePayload, unpacked] at decoded
          cases decoded
          exact ⟨wire, u, rfl, unpacked, rfl⟩

theorem msgWithoutOPT_noOPT (m : Msg) : (msgWithoutOPT m).NoOPT := by
  intro rr member
  simpa using (List.mem_filter.mp member).2

/-- The flags byte and the message behind the prefix are what is decoded. -/
theorem fromBytes_marked (d : Deps) (flags : UInt8) (wire : Bytes) (ttl : UInt32) :
    fromBytes d (cachePayloadPrefix ++ [flags] ++ wire) ttl =
      .ok (decodePayload d (some (flags &&& cachePayloadFlagDO != 0)) wire ttl) := by
  have marked : cachePayloadPrefix.isPrefixOf (cachePayloadPrefix ++ [flags] ++ wire) = true := by
    rw [List.append_assoc, List.isPrefixOf_iff_prefix]
    exact List.prefix_append _ _
  rw [fromBytes, if_pos marked, if_neg (by simp)]
  rfl

/-- A payload of the current format decodes to the packed message and the DO bit
of the message it was made from, where `Unpack` undoes `Pack`. -/
theorem fromBytes_of_roundTrips {d : Deps} {m : Msg} {b : Bytes}
    (undo : d.RoundTrips (msgWithoutOPT m)) (encoded : toBytes d m = .ok b) (ttl : UInt32) :
    fromBytes d b ttl = .ok (.ok (setMsgTTL (msgWithoutOPT m) ttl, d.msgDo m)) := by
  unfold toBytes at encoded
  split at encoded
  · cases encoded
  · rename_i wire packed
    cases encoded
    have flag : ((if d.msgDo m then cachePayloadFlagDO else 0) &&& cachePayloadFlagDO != 0) =
        d.msgDo m := by
      cases d.msgDo m <;> decide
    rw [fromBytes_marked, flag, decodePayload, undo wire packed]
    rfl

theorem fromBytes_toBytes {d : Deps} (undo : d.UnpackPack) (codes : d.PackRcode) {m : Msg}
    {b : Bytes} (encoded : toBytes d m = .ok b) (ttl : UInt32) :
    fromBytes d b ttl = .ok (.ok (setMsgTTL (msgWithoutOPT m) ttl, d.msgDo m)) :=
  fromBytes_of_roundTrips
    (fun _ packed => Deps.unpack_pack undo codes (msgWithoutOPT_noOPT m) packed) encoded ttl

/-- No payload the plugin writes is empty. -/
theorem toBytes_ne_nil {d : Deps} {m : Msg} {b : Bytes} (encoded : toBytes d m = .ok b) :
    b ≠ [] := by
  unfold toBytes at encoded
  split at encoded
  · cases encoded
  · cases encoded
    simp [cachePayloadPrefix]

end RedisCache
