import RedisCache.Keyer

set_option autoImplicit false

/- How a message is compared with a request, on both sides of the cache. -/

namespace RedisCache

/-- The tuple of a request, with the DO bit given apart: a lookup takes that of
the request, a store that of the reply. -/
def tupleFor (d : Deps) (r : Msg) (doBit : Bool) : Tuple where
  qname := d.reqName r
  qclass := d.reqQClass r
  qtype := d.reqQType r
  doBit := doBit
  cd := r.checkingDisabled

/-- The class is indexed only behind `Match`. -/
def responseMatchesRequest (d : Deps) (r res : Msg) : Go Bool :=
  if !d.reqMatch r res then .ok false
  else do
    let q ← index res.question 0
    .ok (q.qclass == d.reqQClass r && res.checkingDisabled == r.checkingDisabled)

/-- A message that answers a request in name, type, class and CD bit. -/
structure Answers (d : Deps) (r m : Msg) (q : Question) : Prop where
  response : m.response = true
  single : m.question = [q]
  name : q.name.toLower = d.reqName r
  qtype : q.qtype = d.reqQType r
  qclass : q.qclass = d.reqQClass r
  cd : m.checkingDisabled = r.checkingDisabled

theorem responseMatchesRequest_returns {d : Deps} (spec : d.MatchSpec) (r m : Msg) :
    ∃ same, responseMatchesRequest d r m = .ok same := by
  unfold responseMatchesRequest
  cases matched : d.reqMatch r m with
  | false => exact ⟨false, rfl⟩
  | true =>
      obtain ⟨_, q, single, _⟩ := spec.sound r m matched
      rw [single]
      exact ⟨_, rfl⟩

theorem responseMatchesRequest_iff {d : Deps} (spec : d.MatchSpec) (r m : Msg) :
    responseMatchesRequest d r m = .ok true ↔ ∃ q, Answers d r m q := by
  unfold responseMatchesRequest
  constructor
  · intro same
    cases matched : d.reqMatch r m with
    | false =>
        rw [matched] at same
        cases same
    | true =>
        obtain ⟨response, q, single, name, qtype⟩ := spec.sound r m matched
        rw [matched, single] at same
        have parts : (q.qclass == d.reqQClass r &&
            m.checkingDisabled == r.checkingDisabled) = true := Except.ok.inj same
        simp only [Bool.and_eq_true, beq_iff_eq] at parts
        exact ⟨q, response, single, name, qtype, parts.1, parts.2⟩
  · intro answers
    obtain ⟨q, answers⟩ := answers
    have matched : d.reqMatch r m = true :=
      spec.complete r m q answers.response answers.single answers.name answers.qtype
        answers.qclass
    rw [matched, answers.single]
    simp only [index_cons_zero, answers.qclass, answers.cd, beq_self_eq_true, Bool.and_self,
      Bool.not_true, bind, Except.bind]
    rfl

/-- The tuple of a message that answers a request is that of its own question. -/
theorem Answers.tuple {d : Deps} {r m : Msg} {q : Question} (answers : Answers d r m q)
    (doBit : Bool) :
    tupleFor d r doBit = ⟨q.name.toLower, q.qclass, q.qtype, doBit, m.checkingDisabled⟩ := by
  rw [tupleFor, answers.name, answers.qclass, answers.qtype, answers.cd]

end RedisCache
