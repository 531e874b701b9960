import RedisCache.Go
import RedisCache.Message

set_option autoImplicit false

/- The packages the plugin is linked against. Their functions are parameters of
every definition below, and each fact about them that a proof relies on is a
proposition with a name. -/

namespace RedisCache

/-- `response.Type`. -/
inductive ResponseType
  | noError
  | nameError
  | serverError
  | noData
  | delegation
  | metaMsg
  | update
  | otherError
deriving DecidableEq, Repr

def opcodeQuery : Nat := 0

/-- `pack`, `unpack`, `isEdns0`, `optDo` and `setReply` are the methods of dns.Msg
and dns.OPT; `typify` is response.Typify at a time of day; the next five are the
methods of request.Request on its message; `zonesMatches` is plugin.Zones.Matches,
which returns the empty string for no match; `sum64` is the seeded xxhash of all
bytes written; `castU32` is the conversion to uint32 of seconds out of its range;
`flightShares` is the choice of a singleflight.Group: whether a call of `Do`, beside
those in flight with the given keys, waits for one of them or runs its function. -/
structure Deps where
  pack : Msg → Except GoError Bytes
  unpack : Bytes → Except GoError Msg
  isEdns0 : Msg → Option RR
  optDo : RR → Bool
  setReply : Msg → Msg → Msg
  typify : Msg → Nat → ResponseType × Option RR
  reqName : Msg → Name
  reqQType : Msg → UInt16
  reqQClass : Msg → UInt16
  reqDo : Msg → Bool
  reqMatch : Msg → Msg → Bool
  zonesMatches : List String → Name → String
  sum64 : UInt64 → Bytes → UInt64
  castU32 : Int → UInt32
  flightShares : List String → String → Bool

/-- The DO bit of a message: that of its OPT record, clear when it has none. -/
def Deps.msgDo (d : Deps) (m : Msg) : Bool :=
  match d.isEdns0 m with
  | some opt => d.optDo opt
  | none => false

/-- What `Match` accepts is a reply with one question, the Response bit and the request's
name, up to case, and type; and a reply that has the request's class as well is accepted.
Whether `Match` itself looks at the class is left open. -/
structure Deps.MatchSpec (d : Deps) : Prop where
  sound : ∀ r m, d.reqMatch r m = true → m.response = true ∧
    ∃ q, m.question = [q] ∧ q.name.toLower = d.reqName r ∧ q.qtype = d.reqQType r
  complete : ∀ r m q, m.response = true → m.question = [q] → q.name.toLower = d.reqName r →
    q.qtype = d.reqQType r → q.qclass = d.reqQClass r → d.reqMatch r m = true

/-- A call of `Do` waits exactly if one with its key is in flight. -/
def Deps.FlightSpec (d : Deps) : Prop :=
  ∀ inFlight k, d.flightShares inFlight k = true ↔ k ∈ inFlight

/-- `Typify` returns the OPT record that `IsEdns0` finds. -/
def Deps.TypifyOpt (d : Deps) : Prop := ∀ m now, (d.typify m now).2 = d.isEdns0 m

def lastOPT (m : Msg) : Option RR := m.extra.reverse.find? RR.isOPT

/-- `IsEdns0` returns the last OPT record of the additional section. -/
def Deps.EdnsSpec (d : Deps) : Prop := ∀ m, d.isEdns0 m = lastOPT m

/-- No OPT record in the additional section. -/
def Msg.NoOPT (m : Msg) : Prop := ∀ rr ∈ m.extra, rr.isOPT = false

/-- `Unpack` undoes `Pack` on a message without OPT whose Rcode fits four bits. -/
def Deps.UnpackPack (d : Deps) : Prop :=
  ∀ m wire, m.NoOPT → m.rcode ≤ 15 → d.pack m = .ok wire → d.unpack wire = .ok m

/-- An Rcode above four bits needs an OPT record. -/
def Deps.PackRcode (d : Deps) : Prop :=
  ∀ m wire, m.NoOPT → d.pack m = .ok wire → m.rcode ≤ 15

/-- `Unpack` undoes `Pack` on this message. -/
def Deps.RoundTrips (d : Deps) (m : Msg) : Prop :=
  ∀ wire, d.pack m = .ok wire → d.unpack wire = .ok m

/-- A packed message starts with the two bytes of its ID and the flags word, whose
top bit is the Response bit. -/
def Deps.PackHeader (d : Deps) : Prop :=
  ∀ m wire, d.pack m = .ok wire → ∃ high low flags rest,
    wire = high :: low :: flags :: rest ∧ (flags &&& 128 != 0) = m.response

theorem Deps.unpack_pack {d : Deps} (undo : d.UnpackPack) (codes : d.PackRcode) {m : Msg}
    {wire : Bytes} (plain : m.NoOPT) (packed : d.pack m = .ok wire) : d.unpack wire = .ok m :=
  undo m wire plain (codes m wire plain packed) packed

def replyTo (m r : Msg) : Msg :=
  { m with
    id := r.id
    response := true
    opcode := r.opcode
    recursionDesired := if r.opcode = opcodeQuery then r.recursionDesired else m.recursionDesired
    checkingDisabled := if r.opcode = opcodeQuery then r.checkingDisabled else m.checkingDisabled
    rcode := 0
    question := if r.question = [] then m.question else r.question.take 1 }

/-- `SetReply` overwrites the ID, the opcode, the Response bit and the Rcode, the
RD and CD bits for a QUERY, and the question where the request has one. -/
def Deps.SetReplySpec (d : Deps) : Prop := ∀ m r, d.setReply m r = replyTo m r

end RedisCache
