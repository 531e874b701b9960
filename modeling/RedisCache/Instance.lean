import RedisCache.Deps
import RedisCache.XxHash

set_option autoImplicit false

/- One instance of the linked packages, for evaluating the model. Names are taken
in normal form; the codec knows one message, and the bare header. -/

namespace RedisCache

open AsciiText

/-- The header fields of a message of twelve bytes, which `Unpack` accepts
whatever its section counts are. -/
def unpackHeader (b : Bytes) : Msg :=
  let high := b.getD 2 0
  let low := b.getD 3 0
  { Msg.blank with
    id := UInt16.ofNat (256 * (b.getD 0 0).toNat + (b.getD 1 0).toNat)
    response := high &&& 128 != 0
    opcode := (high.toNat / 8) % 16
    authoritative := high &&& 4 != 0
    truncated := high &&& 2 != 0
    recursionDesired := high &&& 1 != 0
    recursionAvailable := low &&& 128 != 0
    zero := low &&& 64 != 0
    authenticatedData := low &&& 32 != 0
    checkingDisabled := low &&& 16 != 0
    rcode := low.toNat % 16 }

/-- `Typify`, on messages whose signatures have not expired. -/
def typifyMsg (m : Msg) : ResponseType :=
  let soa := m.ns.any fun rr => rr.rrtype == typeSOA
  if m.opcode = 5 then .update
  else if m.opcode = 4 then .metaMsg
  else if m.question.head?.any fun q => q.qtype == 252 || q.qtype == 251 then .metaMsg
  else if m.answer ≠ [] ∧ m.rcode = 0 then .noError
  else if soa ∧ m.rcode = 0 then .noData
  else if m.answer = [] ∧ m.rcode = 3 then .nameError
  else if m.rcode = 2 ∨ m.rcode = 4 then .serverError
  else if (m.ns.any fun rr => rr.rrtype == 2) ∧ m.rcode = 0 then .delegation
  else if m.rcode = 0 then .noError
  else .otherError

theorem ascii_root : ([46] : List UInt8).all (· < 128) = true := rfl

def firstQuestion (r : Msg) : Question := r.question.headD ⟨⟨[46], ascii_root⟩, 0, 0⟩

def matchesRequest (r m : Msg) : Bool :=
  m.response && (match m.question with
    | [q] => q.name.toLower == (firstQuestion r).name.toLower &&
        q.qtype == (firstQuestion r).qtype && q.qclass == (firstQuestion r).qclass
    | _ => false)

/-- The packages, with a codec for one message and its wire form. -/
def instanceFor (known : Msg) (wire : Bytes) : Deps where
  pack m := if m = known then .ok wire else .error (.other "dns: bad rdata")
  unpack b :=
    if b = wire then .ok known
    else if b.length = 12 then .ok (unpackHeader b)
    else .error (.other "dns: overflow unpacking uint16")
  isEdns0 := lastOPT
  optDo rr := rr.ttl &&& 0x8000 != 0
  setReply := replyTo
  typify m _ := (typifyMsg m, lastOPT m)
  reqName r := (firstQuestion r).name.toLower
  reqQType r := (firstQuestion r).qtype
  reqQClass r := (firstQuestion r).qclass
  reqDo r := (lastOPT r).any fun rr => rr.ttl &&& 0x8000 != 0
  reqMatch := matchesRequest
  zonesMatches zones _ := zones.headD ""
  sum64 := XxHash.sum64
  castU32 d := UInt32.ofNat (d / second).toNat
  flightShares inFlight k := inFlight.contains k

theorem ascii_a : ([97, 46] : List UInt8).all (· < 128) = true := rfl

theorem address_fits : (RData.other [192, 0, 2, 1]).fits 1 = true := rfl

/-- The question `a. IN A`. -/
def sampleQuestion : Question := ⟨⟨[97, 46], ascii_a⟩, 1, 1⟩

def sampleQuery : Msg :=
  { Msg.blank with id := 1, recursionDesired := true, question := [sampleQuestion] }

/-- The record `a. 60 IN A 192.0.2.1`. -/
def sampleRecord : RR := ⟨⟨[97, 46], ascii_a⟩, 1, 1, 60, .other [192, 0, 2, 1], address_fits⟩

def sampleReply : Msg :=
  { sampleQuery with response := true, recursionAvailable := true, answer := [sampleRecord] }

/-- `sampleReply` as `Pack` writes it, without name compression. -/
def sampleWire : Bytes :=
  [0, 1, 129, 128, 0, 1, 0, 1, 0, 0, 0, 0,
    1, 97, 0, 0, 1, 0, 1,
    1, 97, 0, 0, 1, 0, 1, 0, 0, 0, 60, 0, 4, 192, 0, 2, 1]

def sampleDeps : Deps := instanceFor sampleReply sampleWire

theorem instance_match (known : Msg) (wire : Bytes) : (instanceFor known wire).MatchSpec where
  sound := by
    intro r m matched
    simp only [instanceFor, matchesRequest, Bool.and_eq_true] at matched ⊢
    obtain ⟨response, same⟩ := matched
    refine ⟨response, ?_⟩
    split at same
    · rename_i q single
      simp only [Bool.and_eq_true, beq_iff_eq] at same
      exact ⟨q, single, same.1⟩
    · cases same
  complete := by
    intro r m q response single name qtype qclass
    simp only [instanceFor] at name qtype qclass
    simp only [instanceFor, matchesRequest, response, single, name, qtype, qclass,
      beq_self_eq_true, Bool.and_self]

theorem instance_flight (known : Msg) (wire : Bytes) : (instanceFor known wire).FlightSpec := by
  intro inFlight k
  simp only [instanceFor, List.contains_iff_mem]

theorem instance_typifyOpt (known : Msg) (wire : Bytes) :
    (instanceFor known wire).TypifyOpt := fun _ _ => rfl

theorem instance_setReply (known : Msg) (wire : Bytes) :
    (instanceFor known wire).SetReplySpec := fun _ _ => rfl

theorem instance_unpackPack (known : Msg) (wire : Bytes) :
    (instanceFor known wire).UnpackPack := by
  intro m packed _ _ ran
  simp only [instanceFor] at ran ⊢
  split at ran
  · rename_i same
    cases ran
    simp only [same, ↓reduceIte]
  · cases ran

theorem instance_packRcode (known : Msg) (wire : Bytes) (small : known.rcode ≤ 15) :
    (instanceFor known wire).PackRcode := by
  intro m packed _ ran
  simp only [instanceFor] at ran
  split at ran
  · rename_i same
    rw [same]
    exact small
  · cases ran

theorem sample_match : sampleDeps.MatchSpec := instance_match _ _

theorem sample_flight : sampleDeps.FlightSpec := instance_flight _ _

theorem sample_typifyOpt : sampleDeps.TypifyOpt := instance_typifyOpt _ _

theorem sample_setReply : sampleDeps.SetReplySpec := instance_setReply _ _

theorem sample_unpackPack : sampleDeps.UnpackPack := instance_unpackPack _ _

theorem sample_packRcode : sampleDeps.PackRcode := instance_packRcode _ _ (by decide)

end RedisCache
