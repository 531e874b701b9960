import RedisCache.Checked
import RedisCache.Instance
import RedisCache.RequestMatch
import RedisCache.Serialization
import RedisCache.Setup

set_option autoImplicit false

/- The read side: `Get`, which interprets the replies to GET and TTL, and `get`,
which checks what was found against the request. -/

namespace RedisCache

/-- The counters of the plugin, with the reason label where there is one. -/
inductive Metric
  | hits
  | readErrors (reason : String)
  | collisions
  | responseMismatches
  | encodeErrors
  | setErrors (reason : String)
deriving DecidableEq, Repr

def errReason : GoError → String
  | .deadlineExceeded | .canceled | .poolTimeout => "timeout"
  | .net timeout => if timeout then "timeout" else "connection"
  | .eof | .unexpectedEOF => "connection"
  | _ => "other"

/-- The results of `Get`, and the keys handed to `evictAsync` on the way. -/
structure GetResult where
  msg : Option Msg
  storedDO : Bool
  err : Option GoError
  evicted : List Key
deriving DecidableEq, Repr

/-- The TTL for the records, from the reply to the TTL command. -/
def replyTTL (d : Deps) (ttlCmd : Except GoError Int) : UInt32 :=
  match ttlCmd with
  | .ok remaining => if 0 < remaining then secondsU32 d.castU32 remaining else 0
  | .error _ => 0

/-- A TTL reply in whole seconds is passed on as it is, if it fits the field. -/
theorem replyTTL_seconds (d : Deps) {seconds : Nat} (fits : seconds < 2 ^ 32) :
    (replyTTL d (.ok (seconds * second))).toNat = seconds := by
  unfold replyTTL
  dsimp only
  split
  · have exact := secondsU32_toNat d.castU32 (d := seconds * second) (by unfold second; omega)
      (by unfold second; omega)
    unfold second at exact ⊢
    omega
  · rename_i zero
    unfold second at zero
    have none : seconds = 0 := by omega
    rw [none]
    rfl

/-- `Redis.Get`, given what the two commands of the pipeline returned. -/
def Redis.Get (d : Deps) (key : Key) (getCmd : Except GoError Bytes)
    (ttlCmd : Except GoError Int) : Go GetResult :=
  match getCmd with
  | .error .redisNil => .ok ⟨none, false, none, []⟩
  | .error err => .ok ⟨none, false, some err, []⟩
  | .ok b =>
      if b.length = 0 then .ok ⟨none, false, none, [key]⟩
      else do
        let decoded ← fromBytes d b (replyTTL d ttlCmd)
        match decoded with
        | .error err => .ok ⟨none, false, some err, [key]⟩
        | .ok (m, storedDO) => .ok ⟨some m, storedDO, none, []⟩

/-- The results of `get`, the keys it evicts and the counters it increments. -/
structure LookupResult where
  hit : Option Msg
  evicted : List Key
  metrics : List Metric
deriving DecidableEq, Repr

def requestTuple (d : Deps) (r : Msg) : Tuple := tupleFor d r (d.reqDo r)

/-- The five-component check on a fetched message. The class is indexed only
behind `Match`. -/
def verified (d : Deps) (r m : Msg) (cachedDO : Bool) : Go Bool :=
  if !d.reqMatch r m then .ok false
  else do
    let q ← index m.question 0
    .ok (q.qclass == d.reqQClass r && cachedDO == d.reqDo r &&
      m.checkingDisabled == r.checkingDisabled)

/-- `Redis.get`. Both log lines about a fetched message name its first question. -/
def Redis.get (d : Deps) (re : Redis) (r : Msg) (getCmd : Except GoError Bytes)
    (ttlCmd : Except GoError Int) : Go LookupResult := do
  let k := re.keyer.key d (requestTuple d r)
  let got ← Redis.Get d k getCmd ttlCmd
  match got.err, got.msg with
  | some err, _ => .ok ⟨none, got.evicted, [.readErrors (errReason err)]⟩
  | none, none => .ok ⟨none, got.evicted, []⟩
  | none, some m => do
      let same ← verified d r m got.storedDO
      if same then do
        let _ ← index m.question 0
        .ok ⟨some m, got.evicted, [.hits]⟩
      else do
        let _ ← index m.question 0
        .ok ⟨none, got.evicted ++ [k], [.collisions]⟩

/-- What a value under the looked-up key may lead to: a message that agrees with
the request in every component of the key, or a miss that evicts the key. -/
inductive ReadOutcome (d : Deps) (re : Redis) (r : Msg) (b : Bytes)
    (ttlCmd : Except GoError Int) : LookupResult → Prop
  | served (m : Msg) (q : Question) (storedDO : Bool) (metrics : List Metric)
      (decoded : fromBytes d b (replyTTL d ttlCmd) = .ok (.ok (m, storedDO)))
      (answers : Answers d r m q) (doBit : storedDO = d.reqDo r) :
      ReadOutcome d re r b ttlCmd ⟨some m, [], metrics⟩
  | evicted (metrics : List Metric) :
      ReadOutcome d re r b ttlCmd ⟨none, [re.keyer.key d (requestTuple d r)], metrics⟩

/-- A stored value that decodes to a message without a question. -/
def EmptyQuestion (d : Deps) (b : Bytes) : Prop :=
  b ≠ [] ∧ ∃ wire m, dnsPayload b = some wire ∧ d.unpack wire = .ok m ∧ m.question = []

/-- The check on a fetched message is that of the write side and the DO bit. -/
theorem verified_eq (d : Deps) (r m : Msg) (cachedDO : Bool) :
    verified d r m cachedDO =
      (responseMatchesRequest d r m).map fun same => same && cachedDO == d.reqDo r := by
  unfold verified responseMatchesRequest
  cases d.reqMatch r m with
  | false => rfl
  | true =>
      cases index m.question 0 with
      | error fault => rfl
      | ok q =>
          simp only [Bool.not_true, Bool.false_eq_true, ↓reduceIte, bind, Except.bind, Except.map,
            Bool.and_right_comm]

theorem verified_iff {d : Deps} (spec : d.MatchSpec) (r m : Msg) (cachedDO : Bool) :
    verified d r m cachedDO = .ok true ↔ (∃ q, Answers d r m q) ∧ cachedDO = d.reqDo r := by
  rw [← responseMatchesRequest_iff spec, verified_eq]
  obtain ⟨same, value⟩ := responseMatchesRequest_returns spec r m
  rw [value]
  simp only [Except.map, Except.ok.injEq, Bool.and_eq_true, beq_iff_eq]

theorem verified_returns {d : Deps} (spec : d.MatchSpec) (r m : Msg) (cachedDO : Bool) :
    ∃ same, verified d r m cachedDO = .ok same := by
  obtain ⟨same, value⟩ := responseMatchesRequest_returns spec r m
  rw [verified_eq, value]
  exact ⟨_, rfl⟩

/-- Only a fetched value is evicted, and only under the key that was looked up. -/
theorem Get_evicted {d : Deps} {key k : Key} {getCmd : Except GoError Bytes}
    {ttlCmd : Except GoError Int} {got : GetResult}
    (ran : Redis.Get d key getCmd ttlCmd = .ok got) (member : k ∈ got.evicted) :
    k = key ∧ ∃ b, getCmd = .ok b := by
  unfold Redis.Get at ran
  split at ran
  · cases ran
    cases member
  · cases ran
    cases member
  · rename_i b
    refine ⟨?_, b, rfl⟩
    split at ran
    · cases ran
      exact List.mem_singleton.mp member
    · obtain ⟨decoded, _, ran⟩ := Checked.bind_ok ran
      split at ran
      · cases ran
        exact List.mem_singleton.mp member
      · cases ran
        cases member

theorem get_evicted {d : Deps} {re : Redis} {r : Msg} {k : Key} {getCmd : Except GoError Bytes}
    {ttlCmd : Except GoError Int} {out : LookupResult}
    (ran : Redis.get d re r getCmd ttlCmd = .ok out) (member : k ∈ out.evicted) :
    k = re.keyer.key d (requestTuple d r) ∧ ∃ b, getCmd = .ok b := by
  obtain ⟨got, fetched, ran⟩ := Checked.bind_ok ran
  split at ran
  · cases ran
    exact Get_evicted fetched member
  · cases ran
    exact Get_evicted fetched member
  · rename_i m _ found
    have present : ∃ b, getCmd = .ok b := by
      cases getCmd with
      | ok b => exact ⟨b, rfl⟩
      | error err => cases err <;> cases fetched <;> cases found
    refine ⟨?_, present⟩
    obtain ⟨same, _, ran⟩ := Checked.bind_ok ran
    split at ran
    · obtain ⟨q, _, ran⟩ := Checked.bind_ok ran
      cases ran
      exact (Get_evicted fetched member).1
    · obtain ⟨q, _, ran⟩ := Checked.bind_ok ran
      cases ran
      rcases List.mem_append.mp member with earlier | here
      · exact (Get_evicted fetched earlier).1
      · exact List.mem_singleton.mp here

section Replies

variable (d : Deps) (re : Redis) (r : Msg) (ttlCmd : Except GoError Int)

/-- A GET that returns no bytes is a miss, which evicts nothing. -/
theorem get_unread (err : GoError) :
    ∃ metrics, Redis.get d re r (.error err) ttlCmd = .ok ⟨none, [], metrics⟩ := by
  cases err <;> exact ⟨_, rfl⟩

theorem get_empty : Redis.get d re r (.ok []) ttlCmd =
    .ok ⟨none, [re.keyer.key d (requestTuple d r)], []⟩ := rfl

theorem get_undecodable {b : Bytes} {err : GoError} (present : b ≠ [])
    (failed : fromBytes d b (replyTTL d ttlCmd) = .ok (.error err)) :
    Redis.get d re r (.ok b) ttlCmd =
      .ok ⟨none, [re.keyer.key d (requestTuple d r)], [.readErrors (errReason err)]⟩ := by
  have long : b.length ≠ 0 := by simpa using present
  simp only [Redis.get, Redis.Get, long, ↓reduceIte, failed, bind, Except.bind]

theorem get_decoded {b : Bytes} {m : Msg} {storedDO : Bool} (present : b ≠ [])
    (decoded : fromBytes d b (replyTTL d ttlCmd) = .ok (.ok (m, storedDO))) :
    Redis.get d re r (.ok b) ttlCmd = (do
      let same ← verified d r m storedDO
      if same then do
        let _ ← index m.question 0
        .ok ⟨some m, [], [.hits]⟩
      else do
        let _ ← index m.question 0
        .ok ⟨none, [re.keyer.key d (requestTuple d r)], [.collisions]⟩) := by
  have long : b.length ≠ 0 := by simpa using present
  simp only [Redis.get, Redis.Get, long, ↓reduceIte, decoded, bind, Except.bind,
    List.nil_append]

/-- A message with a question is served or evicted, whatever else it holds. -/
theorem get_question {b : Bytes} {m : Msg} {storedDO : Bool} (spec : d.MatchSpec)
    (present : b ≠ []) (decoded : fromBytes d b (replyTTL d ttlCmd) = .ok (.ok (m, storedDO)))
    (asked : m.question ≠ []) :
    ∃ out, Redis.get d re r (.ok b) ttlCmd = .ok out ∧ ReadOutcome d re r b ttlCmd out := by
  obtain ⟨q, rest, shape⟩ := List.exists_cons_of_ne_nil asked
  obtain ⟨same, value⟩ := verified_returns spec r m storedDO
  rw [get_decoded d re r ttlCmd present decoded, value]
  cases same with
  | true =>
      obtain ⟨⟨q, answers⟩, doBit⟩ := (verified_iff spec r m storedDO).mp value
      refine ⟨⟨some m, [], [.hits]⟩, ?_, .served m q storedDO _ decoded answers doBit⟩
      simp only [shape, index_cons_zero, bind, Except.bind, ↓reduceIte]
  | false =>
      refine ⟨⟨none, [re.keyer.key d (requestTuple d r)], [.collisions]⟩, ?_, .evicted _⟩
      simp only [shape, index_cons_zero, bind, Except.bind, Bool.false_eq_true, ↓reduceIte]

/-- A message without a question fails `Match`, and the log line of that branch
then indexes the missing question. -/
theorem get_no_question {b : Bytes} {m : Msg} {storedDO : Bool} (spec : d.MatchSpec)
    (present : b ≠ []) (decoded : fromBytes d b (replyTTL d ttlCmd) = .ok (.ok (m, storedDO)))
    (unasked : m.question = []) :
    Redis.get d re r (.ok b) ttlCmd = .error .indexOutOfRange := by
  have unmatched : d.reqMatch r m = false := by
    cases matched : d.reqMatch r m with
    | false => rfl
    | true =>
        obtain ⟨_, q, single, _⟩ := spec.sound r m matched
        rw [unasked] at single
        cases single
  rw [get_decoded d re r ttlCmd present decoded]
  simp only [verified, unmatched, unasked, index_nil, Bool.not_false, bind, Except.bind,
    Bool.false_eq_true, ↓reduceIte]

theorem emptyQuestion_iff {b wire : Bytes} (present : b ≠ []) (payload : dnsPayload b = some wire) :
    EmptyQuestion d b ↔ ∃ m, d.unpack wire = .ok m ∧ m.question = [] := by
  simp [EmptyQuestion, present, payload]

/-- A lookup that finds a value faults on one without a question and only there. -/
theorem get_cases (spec : d.MatchSpec) (b : Bytes) :
    (EmptyQuestion d b ∧ Redis.get d re r (.ok b) ttlCmd = .error .indexOutOfRange) ∨
      (¬ EmptyQuestion d b ∧ ∃ out, Redis.get d re r (.ok b) ttlCmd = .ok out ∧
        ReadOutcome d re r b ttlCmd out) := by
  by_cases present : b = []
  · subst present
    exact Or.inr ⟨fun empty => empty.1 rfl, _, get_empty d re r ttlCmd, .evicted _⟩
  · obtain ⟨storedDO, returns⟩ := fromBytes_returns d b
    have decoded := returns (replyTTL d ttlCmd)
    cases payload : dnsPayload b with
    | none =>
        rw [payload] at decoded
        refine Or.inr ⟨?_, _, get_undecodable d re r ttlCmd present decoded, .evicted _⟩
        rintro ⟨_, wire, m, found, _⟩
        rw [payload] at found
        cases found
    | some wire =>
        rw [payload] at decoded
        rw [emptyQuestion_iff d present payload]
        cases unpacked : d.unpack wire with
        | error err =>
            simp only [decodePayload, unpacked] at decoded
            refine Or.inr ⟨?_, _, get_undecodable d re r ttlCmd present decoded, .evicted _⟩
            rintro ⟨m, failed, _⟩
            cases failed
        | ok m =>
            simp only [decodePayload, unpacked] at decoded
            by_cases unasked : m.question = []
            · exact Or.inl ⟨⟨m, rfl, unasked⟩,
                get_no_question d re r ttlCmd spec present decoded unasked⟩
            · refine Or.inr ⟨?_, get_question d re r ttlCmd spec present decoded unasked⟩
              rintro ⟨other, same, empty⟩
              cases same
              exact unasked empty

theorem get_outcome (spec : d.MatchSpec) {b : Bytes} {out : LookupResult}
    (ran : Redis.get d re r (.ok b) ttlCmd = .ok out) : ReadOutcome d re r b ttlCmd out := by
  rcases get_cases d re r ttlCmd spec b with ⟨_, fault⟩ | ⟨_, other, again, outcome⟩
  · rw [ran] at fault
    cases fault
  · rw [ran] at again
    cases again
    exact outcome

/-- The read path is safe on every stored value but those that decode to a
message without a question, and on these it never is. -/
theorem get_safe_iff (spec : d.MatchSpec) (b : Bytes) :
    (∃ out, Redis.get d re r (.ok b) ttlCmd = .ok out ∧ ReadOutcome d re r b ttlCmd out) ↔
      ¬ EmptyQuestion d b := by
  rcases get_cases d re r ttlCmd spec b with ⟨empty, fault⟩ | ⟨safe, returns⟩
  · simp [empty, fault]
  · exact ⟨fun _ => safe, fun _ => returns⟩

end Replies

/-- A DNS header and nothing else, with the Response bit set. -/
def headerOnly : Bytes := [0, 0, 128, 0, 0, 0, 0, 0, 0, 0, 0, 0]

/-- A stored value of twelve bytes ends the lookup with a fault. -/
theorem get_headerOnly_faults :
    sampleDeps.MatchSpec ∧ sampleQuery.question ≠ [] ∧
      Redis.get sampleDeps Redis.new sampleQuery (.ok headerOnly) (.ok (60 * second)) =
        .error .indexOutOfRange ∧
      ¬ ∃ out, Redis.get sampleDeps Redis.new sampleQuery (.ok headerOnly) (.ok (60 * second)) =
          .ok out ∧
        ReadOutcome sampleDeps Redis.new sampleQuery headerOnly (.ok (60 * second)) out := by
  have spec := sample_match
  have decoded : fromBytes sampleDeps headerOnly (replyTTL sampleDeps (.ok (60 * second))) =
      .ok (.ok (setMsgTTL (unpackHeader headerOnly) 60, false)) := rfl
  have fault := get_no_question sampleDeps Redis.new sampleQuery (.ok (60 * second)) spec
    (by decide) decoded rfl
  refine ⟨spec, by decide, fault, ?_⟩
  rintro ⟨out, ran, _⟩
  rw [fault] at ran
  cases ran

/-- A value that decodes to a message with a question is safe to read. -/
theorem get_safe_sample : sampleDeps.MatchSpec ∧ ¬ EmptyQuestion sampleDeps sampleWire ∧
    ∃ out, Redis.get sampleDeps Redis.new sampleQuery (.ok sampleWire) (.ok (60 * second)) =
        .ok out ∧
      ReadOutcome sampleDeps Redis.new sampleQuery sampleWire (.ok (60 * second)) out := by
  have spec := sample_match
  have asked : ¬ EmptyQuestion sampleDeps sampleWire := by
    rintro ⟨_, wire, m, payload, unpacked, empty⟩
    cases payload
    cases unpacked
    cases empty
  exact ⟨spec, asked,
    (get_safe_iff sampleDeps Redis.new sampleQuery (.ok (60 * second)) spec sampleWire).mpr asked⟩

end RedisCache
