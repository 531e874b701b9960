import RedisCache.CnameChain

set_option autoImplicit false

/- Whether the verdict of `cacheable` depends on the order of the answer. It can do
so only through CNAME records with an empty target: in front of the other records
of their owner the scan passes over them, behind one it gives up. -/

namespace RedisCache

open AsciiText Walk

/-- A CNAME record whose target is the empty name. -/
def RR.isBlank (rr : RR) : Bool := rr.cname? == some Text.empty

def namedAnswer (answer : List RR) : List RR := answer.filter fun rr => !rr.isBlank

def blankAnswer (answer : List RR) : List RR := answer.filter RR.isBlank

/-- The same message with another answer section. -/
def Msg.withAnswer (m : Msg) (answer : List RR) : Msg := { m with answer := answer }

/-- The CNAME records with a target resolve the question, and some name on the way
there also has one without. -/
def Derailed (m : Msg) (q : Question) : Prop :=
  m.truncated = false ∧ (∀ rr ∈ m.ns, rr.rrtype ≠ typeSOA) ∧
    q.qtype ≠ typeANY ∧ q.qtype ≠ typeCNAME ∧
    ∃ chain terminal, ResolvedChain (namedAnswer m.answer) q chain terminal ∧
      ∃ owner ∈ chain, owner.equalFold terminal = false ∧
        ∃ rr ∈ m.answer, rr.isBlank = true ∧ rr.name.equalFold owner = true

section Targets

variable {answer other : List RR} {owner next : Name}

theorem targetsAt_append (left right : List RR) (owner : Name) :
    targetsAt (left ++ right) owner = targetsAt left owner ++ targetsAt right owner :=
  List.filterMap_append

theorem mem_targetsAt_named {target : Name} :
    target ∈ targetsAt (namedAnswer answer) owner ↔
      target ∈ targetsAt answer owner ∧ target ≠ Text.empty := by
  simp only [mem_targetsAt, namedAnswer, List.mem_filter, RR.isBlank]
  constructor
  · intro ⟨rr, ⟨member, named⟩, found, owned⟩
    refine ⟨⟨rr, member, found, owned⟩, ?_⟩
    simpa [found] using named
  · intro ⟨⟨rr, member, found, owned⟩, present⟩
    exact ⟨rr, ⟨member, by simpa [found] using present⟩, found, owned⟩

theorem targetsAt_blank {target : Name} (listed : target ∈ targetsAt (blankAnswer answer) owner) :
    target = Text.empty := by
  obtain ⟨rr, member, found, _⟩ := mem_targetsAt.mp listed
  have blank := (List.mem_filter.mp member).2
  simpa [RR.isBlank, found] using blank

theorem mem_targetsAt_perm (same : other.Perm answer) {target : Name} :
    target ∈ targetsAt other owner ↔ target ∈ targetsAt answer owner :=
  (same.filterMap _).mem_iff

theorem named_targets_perm (same : other.Perm answer) (owner : Name) :
    (targetsAt (namedAnswer other) owner).Perm (targetsAt (namedAnswer answer) owner) :=
  (same.filter _).filterMap _

/-- The graph of the named records does not depend on the order of the answer. -/
theorem edge_perm (same : other.Perm answer) :
    Edge (namedAnswer other) owner next ↔ Edge (namedAnswer answer) owner next := by
  simp only [Edge, ← List.length_pos_iff_ne_nil, List.length_pos_iff_exists_mem,
    (named_targets_perm same owner).mem_iff]

theorem edge_of_moves (moved : Moves answer owner next) :
    Edge (namedAnswer answer) owner next := by
  obtain ⟨target, scanned, present, same⟩ := moved
  obtain ⟨others, named⟩ := scan_true scanned
  obtain ⟨first, listed, filled⟩ := named present
  refine ⟨List.ne_nil_of_mem (mem_targetsAt_named.mpr ⟨listed, filled⟩), ?_⟩
  intro target listed
  obtain ⟨member, filled⟩ := mem_targetsAt_named.mp listed
  rw [others target member filled, same]

theorem halts_iff_named : Halts answer owner ↔ targetsAt (namedAnswer answer) owner = [] := by
  constructor
  · intro halted
    apply List.eq_nil_iff_forall_not_mem.mpr
    intro target listed
    obtain ⟨member, filled⟩ := mem_targetsAt_named.mp listed
    have same := (scan_true halted).1 target member filled
    exact filled (Text.toLower_eq_empty.mp same)
  · intro none
    have blank : ∀ target ∈ targetsAt answer owner, target = Text.empty := by
      intro target member
      by_contra filled
      have listed := mem_targetsAt_named.mpr ⟨member, filled⟩
      rw [none] at listed
      cases listed
    have passed := scan_blanks blank []
    rw [List.append_nil] at passed
    exact passed

/-- An owner without blanks is left for the target of its named records. -/
theorem moves_of_edge (edge : Edge (namedAnswer answer) owner next)
    (clean : Text.empty ∉ targetsAt answer owner) : Moves answer owner next := by
  have listed : ∀ target ∈ targetsAt answer owner,
      target ∈ targetsAt (namedAnswer answer) owner := by
    intro target member
    exact mem_targetsAt_named.mpr ⟨member, fun blank => clean (blank ▸ member)⟩
  obtain ⟨first, found⟩ := List.exists_mem_of_ne_nil _ edge.1
  apply moves_of_split (List.nil_append _).symm (by simp)
  · exact List.ne_nil_of_mem (mem_targetsAt_named.mp found).1
  · intro target member
    exact (mem_targetsAt_named.mp (listed target member)).2
  · intro target member
    exact edge.2 target (listed target member)

/-- With all blanks in front, every owner is left so. -/
theorem moves_blanks_first (edge : Edge (namedAnswer answer) owner next) :
    Moves (blankAnswer answer ++ namedAnswer answer) owner next :=
  moves_of_split (targetsAt_append _ _ _) (fun _ => targetsAt_blank) edge.1
    (fun _ listed => (mem_targetsAt_named.mp listed).2) edge.2

/-- With all blanks at the end, an owner that has one is not left at all. -/
theorem not_moves_blanks_last (edge : Edge (namedAnswer answer) owner next)
    (blank : Text.empty ∈ targetsAt answer owner) (target : Name) :
    ¬ Moves (namedAnswer answer ++ blankAnswer answer) owner target := by
  intro ⟨found, scanned, _⟩
  obtain ⟨first, rest, split⟩ := List.exists_cons_of_ne_nil edge.1
  have present : first ≠ Text.empty := by
    have listed : first ∈ targetsAt (namedAnswer answer) owner := split ▸ List.mem_cons_self
    exact (mem_targetsAt_named.mp listed).2
  have late : Text.empty ∈ rest ++ targetsAt (blankAnswer answer) owner := by
    obtain ⟨rr, member, pointer, owned⟩ := mem_targetsAt.mp blank
    apply List.mem_append_right
    refine mem_targetsAt.mpr ⟨rr, List.mem_filter.mpr ⟨member, ?_⟩, pointer, owned⟩
    simp [RR.isBlank, pointer]
  rw [targetsAt_append, split, List.cons_append] at scanned
  exact scan_blank_late present late found scanned

end Targets

theorem RR.rrtype_of_cname {rr : RR} {target : Name} (found : rr.cname? = some target) :
    rr.rrtype = typeCNAME := by
  have fits := rr.fits
  unfold RR.cname? at found
  split at found
  · rename_i pointer data
    rw [data] at fits
    simpa [RData.fits] using fits
  · cases found

/-- Dropping blanks drops no data of another type. -/
theorem dataAt_named {answer : List RR} {qtype : UInt16} {owner : Name}
    (other : qtype ≠ typeCNAME) :
    DataAt (namedAnswer answer) qtype owner ↔ DataAt answer qtype owner := by
  simp only [DataAt, namedAnswer, List.mem_filter]
  constructor
  · rintro ⟨rr, ⟨member, _⟩, kind, owned⟩
    exact ⟨rr, member, kind, owned⟩
  · rintro ⟨rr, member, kind, owned⟩
    refine ⟨rr, ⟨member, ?_⟩, kind, owned⟩
    simp only [RR.isBlank, Bool.not_eq_true', beq_eq_false_iff_ne]
    intro blank
    exact other (kind.symm.trans (RR.rrtype_of_cname blank))

theorem dataAt_perm {answer other : List RR} (same : other.Perm answer) {qtype : UInt16}
    {owner : Name} : DataAt other qtype owner ↔ DataAt answer qtype owner := by
  simp only [DataAt, same.mem_iff]

section Verdict

variable {answer other : List RR} {q : Question}

/-- In any order, a delivered answer is delivered along the named records. -/
theorem Delivers.named (delivered : Delivers other q) (same : other.Perm answer) :
    ∃ stop path, PathTo (Edge (namedAnswer answer)) path q.name.toLower stop ∧
      targetsAt (namedAnswer answer) stop = [] ∧ DataAt answer q.qtype stop ∧
      PathTo (Moves other) path q.name.toLower stop := by
  obtain ⟨stop, ⟨halted, path, found⟩, data⟩ := delivered
  refine ⟨stop, path, found.mono ?_, ?_, (dataAt_perm same).mp data, found⟩
  · intro owner _ next moved
    exact (edge_perm same).mp (edge_of_moves moved)
  · have listed := named_targets_perm same.symm stop
    rw [halts_iff_named.mp halted] at listed
    exact List.perm_nil.mp listed

/-- A path of the named records is walked in any order, if no owner on it has a
blank record. -/
theorem delivers_of_clean (same : other.Perm answer) {stop : Name} {path : List Name}
    (found : PathTo (Edge (namedAnswer answer)) path q.name.toLower stop)
    (ends : targetsAt (namedAnswer answer) stop = []) (data : DataAt answer q.qtype stop)
    (clean : ∀ owner ∈ path, owner ≠ stop → Text.empty ∉ targetsAt answer owner) :
    Delivers other q := by
  refine ⟨stop, ⟨?_, path, found.mono ?_⟩, (dataAt_perm same).mpr data⟩
  · have listed := named_targets_perm same stop
    rw [ends] at listed
    exact halts_iff_named.mpr (List.perm_nil.mp listed)
  · intro owner member next edge
    have inner : owner ≠ stop := by
      intro last
      rw [last] at edge
      exact edge.1 ends
    apply moves_of_edge ((edge_perm same).mpr edge)
    intro blank
    exact clean owner member inner ((mem_targetsAt_perm same).mp blank)

theorem edge_functional {owner next again : Name} (first : Edge answer owner next)
    (second : Edge answer owner again) : next = again := by
  obtain ⟨target, listed⟩ := List.exists_mem_of_ne_nil _ first.1
  exact (first.2 target listed).symm.trans (second.2 target listed)

/-- With the blanks at the end, a path past an owner with a blank is not walked. -/
theorem not_delivers_blanks_last {stop : Name} {path : List Name}
    (found : PathTo (Edge (namedAnswer answer)) path q.name.toLower stop)
    (ends : targetsAt (namedAnswer answer) stop = []) {owner : Name} (member : owner ∈ path)
    (inner : owner ≠ stop) (blank : Text.empty ∈ targetsAt answer owner) :
    ¬ Delivers (namedAnswer answer ++ blankAnswer answer) q := by
  intro delivered
  have same : (namedAnswer answer ++ blankAnswer answer).Perm answer :=
    List.perm_append_comm.trans (List.filter_append_perm RR.isBlank answer)
  obtain ⟨halt, again, other, halts, _, walked⟩ := delivered.named same
  have functional : ∀ owner next again, Edge (namedAnswer answer) owner next →
      Edge (namedAnswer answer) owner again → next = again := fun _ _ _ => edge_functional
  have only := found.unique functional (fun _ edge => edge.1 ends) other
    (fun _ edge => edge.1 halts)
  subst only
  have last : stop = halt := Option.some.inj (found.last.symm.trans other.last)
  subst last
  obtain ⟨target, moved⟩ := walked.edge_of_mem member inner
  obtain ⟨next, edge⟩ := found.edge_of_mem member inner
  exact not_moves_blanks_last edge blank target moved

end Verdict

section Message

variable {m : Msg} {q : Question}

/-- Where `cacheable` walks the chain, its verdict is whether the walk delivers. -/
theorem cacheable_iff_delivers (single : m.question = [q]) (whole : m.truncated = false)
    (noSOA : ∀ rr ∈ m.ns, rr.rrtype ≠ typeSOA) (any : q.qtype ≠ typeANY)
    (pointer : q.qtype ≠ typeCNAME) {answer : List RR} (data : answer ≠ []) :
    cacheable (m.withAnswer answer) .noError = .ok true ↔ Delivers answer q := by
  have sameSOA : hasSOA (m.withAnswer answer) = false := hasSOA_eq_false_iff.mpr noSOA
  have sameQuestion : (m.withAnswer answer).question = [q] := single
  have lacks : lacksAnswer (m.withAnswer answer) .noError = isNODATA (m.withAnswer answer) := by
    simp [lacksAnswer, sameSOA]
  rw [cacheable_true_iff, lacks, isNODATA_false_iff sameQuestion data]
  simp [single, whole, any, pointer, Msg.withAnswer]

/-- The two extreme orders of a derailed answer get different verdicts. -/
theorem Derailed.verdicts_differ (single : m.question = [q]) (derailed : Derailed m q) :
    cacheable (m.withAnswer (blankAnswer m.answer ++ namedAnswer m.answer)) .noError = .ok true ∧
      cacheable (m.withAnswer (namedAnswer m.answer ++ blankAnswer m.answer)) .noError ≠
        .ok true := by
  obtain ⟨whole, noSOA, any, pointer, chain, terminal, resolved, owner, member, inner,
    rr, listed, blank, owned⟩ := derailed
  have ends := targetsAt_eq_nil_iff.mpr resolved.ends
  have data := dataAt_iff.mpr resolved.data
  have filled : namedAnswer m.answer ≠ [] := by
    obtain ⟨rr, member, _⟩ := resolved.data
    exact List.ne_nil_of_mem member
  have apart : owner.toLower ≠ terminal.toLower := by simpa [Text.equalFold] using inner
  have empty : Text.empty ∈ targetsAt m.answer owner.toLower :=
    mem_targetsAt.mpr ⟨rr, listed, by simpa [RR.isBlank] using blank,
      by simpa [Text.equalFold] using owned⟩
  constructor
  · rw [cacheable_iff_delivers single whole noSOA any pointer (by simp [filled])]
    refine ⟨terminal.toLower, ⟨halts_iff_named.mpr ?_, _, resolved.path.mono ?_⟩, ?_⟩
    · have listed := named_targets_perm (List.filter_append_perm RR.isBlank m.answer)
        terminal.toLower
      rw [ends] at listed
      exact List.perm_nil.mp listed
    · intro owner _ next edge
      exact moves_blanks_first edge
    · exact (dataAt_perm (List.filter_append_perm RR.isBlank m.answer)).mpr
        ((dataAt_named pointer).mp data)
  · rw [ne_eq, cacheable_iff_delivers single whole noSOA any pointer (by simp [filled])]
    exact not_delivers_blanks_last resolved.path ends (List.mem_map_of_mem member) apart empty

/-- An answer that is not derailed is delivered in all orders or in none. -/
theorem delivers_iff_of_not_derailed (whole : m.truncated = false)
    (noSOA : ∀ rr ∈ m.ns, rr.rrtype ≠ typeSOA) (any : q.qtype ≠ typeANY)
    (pointer : q.qtype ≠ typeCNAME) (safe : ¬ Derailed m q) {left right : List RR}
    (first : left.Perm m.answer) (second : right.Perm m.answer) (delivered : Delivers left q) :
    Delivers right q := by
  obtain ⟨stop, path, found, ends, data, _⟩ := delivered.named first
  refine delivers_of_clean second found ends data ?_
  intro key member inner blank
  obtain ⟨chain, terminal, resolved, rfl, rfl⟩ :=
    resolvedChain_of_path found ends ((dataAt_named pointer).mpr data)
  obtain ⟨owner, inside, rfl⟩ := List.mem_map.mp member
  obtain ⟨rr, listed, empty, owned⟩ := mem_targetsAt.mp blank
  refine safe ⟨whole, noSOA, any, pointer, chain, terminal, resolved, owner, inside, ?_, rr,
    listed, ?_, ?_⟩
  · simpa [Text.equalFold] using inner
  · simp [RR.isBlank, empty]
  · simpa [Text.equalFold] using owned

/-- The order can matter to `lacksAnswer` only through the walk. -/
theorem lacksAnswer_perm (single : m.question = [q]) {answer : List RR}
    (same : answer.Perm m.answer) (t : ResponseType)
    (walk : t = .noError → hasSOA m = false → q.qtype ≠ typeANY → q.qtype ≠ typeCNAME →
      (Delivers answer q ↔ Delivers m.answer q)) :
    lacksAnswer (m.withAnswer answer) t = .ok false ↔ lacksAnswer m t = .ok false := by
  have sameSOA : hasSOA (m.withAnswer answer) = hasSOA m := rfl
  have sameQuestion : (m.withAnswer answer).question = [q] := single
  unfold lacksAnswer
  rw [sameSOA]
  split
  · rename_i walked
    by_cases data : m.answer = []
    · have none : answer = [] := List.perm_nil.mp (data ▸ same)
      simp [isNODATA, Msg.withAnswer, data, none]
    · have filled : (m.withAnswer answer).answer ≠ [] := by
        intro none
        have empty : answer = [] := none
        exact data (List.nil_perm.mp (empty ▸ same))
      rw [isNODATA_false_iff sameQuestion filled, isNODATA_false_iff single data]
      show _ ∨ (_ ∧ DataAt answer _ _) ∨ (_ ∧ _ ∧ Delivers answer q) ↔ _
      rw [dataAt_perm same]
      by_cases any : q.qtype = typeANY
      · simp [any]
      · by_cases pointer : q.qtype = typeCNAME
        · simp [pointer]
        · rw [walk walked.1 walked.2 any pointer]
  · rfl

theorem cacheable_eq_of_iff {left right : Msg} {t : ResponseType}
    (same : cacheable left t = .ok true ↔ cacheable right t = .ok true) :
    cacheable left t = cacheable right t := by
  obtain ⟨first, decided⟩ := cacheable_returns left t
  obtain ⟨second, settled⟩ := cacheable_returns right t
  rw [decided, settled] at same ⊢
  apply congrArg Except.ok
  apply Bool.eq_iff_iff.mpr
  simpa using same

/-- The verdict on a message is the same for all orders of its answer, unless the
answer is derailed, and then it is not. -/
theorem order_independent_iff (single : m.question = [q]) :
    (∀ answer, answer.Perm m.answer → ∀ t, cacheable (m.withAnswer answer) t = cacheable m t) ↔
      ¬ Derailed m q := by
  constructor
  · intro invariant derailed
    obtain ⟨first, last⟩ := derailed.verdicts_differ single
    have blanksFirst : (blankAnswer m.answer ++ namedAnswer m.answer).Perm m.answer :=
      List.filter_append_perm RR.isBlank m.answer
    rw [invariant _ blanksFirst] at first
    rw [invariant _ (List.perm_append_comm.trans blanksFirst)] at last
    exact last first
  · intro safe answer same t
    apply cacheable_eq_of_iff
    by_cases whole : m.truncated = false
    · rw [cacheable_true_iff, cacheable_true_iff, lacksAnswer_perm single same]
      · rfl
      · intro _ noSOA any pointer
        have authority := hasSOA_eq_false_iff.mp noSOA
        exact ⟨delivers_iff_of_not_derailed whole authority any pointer safe same (.refl _),
          delivers_iff_of_not_derailed whole authority any pointer safe (.refl _) same⟩
    · simp [cacheable_true_iff, Msg.withAnswer, whole]

end Message

/-- The answer to `a. IN A` by way of `b.`, with a second CNAME record at `a.` whose
target is empty. -/
def derailedReply : Msg :=
  { chainReply with
    answer := [cnameRecord (letterName 97 small_a) Text.empty,
      cnameRecord (letterName 97 small_a) (letterName 98 small_b),
      addressRecord (letterName 98 small_b)] }

/-- The records of `derailedReply` with the first two exchanged. -/
def derailedSwap : List RR :=
  [cnameRecord (letterName 97 small_a) (letterName 98 small_b),
    cnameRecord (letterName 97 small_a) Text.empty,
    addressRecord (letterName 98 small_b)]

/-- Two orders of one answer, one of them cached and the other not. -/
theorem derailedReply_depends_on_order :
    derailedReply.question.length = 1 ∧ derailedSwap.Perm derailedReply.answer ∧
      cacheable derailedReply .noError = .ok true ∧
      cacheable (derailedReply.withAnswer derailedSwap) .noError = .ok false ∧
      ¬ ∀ answer, answer.Perm derailedReply.answer → ∀ t,
        cacheable (derailedReply.withAnswer answer) t = cacheable derailedReply t := by
  have same : derailedSwap.Perm derailedReply.answer := List.Perm.swap _ _ _
  have cached : cacheable derailedReply .noError = .ok true := by decide
  have refused : cacheable (derailedReply.withAnswer derailedSwap) .noError = .ok false := by decide
  refine ⟨rfl, same, cached, refused, ?_⟩
  intro invariant
  have equal := invariant derailedSwap same .noError
  rw [cached, refused] at equal
  cases equal

/-- No record of `chainReply` has an empty target, so no order of its answer is refused. -/
theorem chainReply_order_independent :
    chainReply.question = [⟨letterName 97 small_a, 1, 1⟩] ∧
      ∀ answer, answer.Perm chainReply.answer →
        cacheable (chainReply.withAnswer answer) .noError = .ok true := by
  refine ⟨rfl, ?_⟩
  intro answer same
  have clean : ¬ Derailed chainReply ⟨letterName 97 small_a, 1, 1⟩ := by
    rintro ⟨_, _, _, _, _, _, _, _, _, _, rr, listed, blank, _⟩
    have named : ∀ rr ∈ chainReply.answer, rr.isBlank = false := by decide
    rw [named rr listed] at blank
    cases blank
  rw [(order_independent_iff rfl).mpr clean answer same]
  decide

end RedisCache
