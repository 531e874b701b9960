import RedisCache.Cacheable

set_option autoImplicit false

/- The CNAME records of an answer as a graph on names, and what the walk of
`canonicalName` finds in it. Names are compared in lower case throughout. -/

namespace RedisCache

open AsciiText Walk

/-- The targets of the CNAME records of an owner, in their order. The owner is
given in lower case. -/
def targetsAt (answer : List RR) (owner : Name) : List Name :=
  answer.filterMap fun rr => if rr.name.toLower = owner then rr.cname? else none

/-- `uniqueCNAMETarget` on the targets alone. -/
def scan : List Name → Name → Name × Bool
  | [], target => (target, true)
  | next :: rest, target =>
      if target ≠ Text.empty && !target.equalFold next then (Text.empty, false)
      else scan rest next

theorem mem_targetsAt {answer : List RR} {owner target : Name} :
    target ∈ targetsAt answer owner ↔
      ∃ rr ∈ answer, rr.cname? = some target ∧ rr.name.toLower = owner := by
  rw [targetsAt, List.mem_filterMap]
  constructor
  · intro ⟨rr, member, found⟩
    split at found
    · rename_i owned
      exact ⟨rr, member, found, owned⟩
    · cases found
  · intro ⟨rr, member, found, owned⟩
    exact ⟨rr, member, by rw [if_pos owned, found]⟩

theorem uniqueCNAMETargetLoop_eq (answer : List RR) (owner start : Name) :
    uniqueCNAMETargetLoop owner answer start = scan (targetsAt answer owner.toLower) start := by
  induction answer generalizing start with
  | nil => rfl
  | cons rr rest ih =>
      by_cases owned : rr.name.toLower = owner.toLower
      · cases found : rr.cname? with
        | none =>
            have skipped : targetsAt (rr :: rest) owner.toLower = targetsAt rest owner.toLower := by
              simp [targetsAt, owned, found]
            simp only [uniqueCNAMETargetLoop, found, skipped, ih]
        | some target =>
            have listed : targetsAt (rr :: rest) owner.toLower =
                target :: targetsAt rest owner.toLower := by
              simp [targetsAt, owned, found]
            have fold : rr.name.equalFold owner = true := by simp [Text.equalFold, owned]
            simp only [uniqueCNAMETargetLoop, found, listed, scan, fold, ih, Bool.not_true,
              Bool.false_eq_true, ↓reduceIte]
      · have skipped : targetsAt (rr :: rest) owner.toLower = targetsAt rest owner.toLower := by
          simp [targetsAt, owned]
        have fold : rr.name.equalFold owner = false := by simp [Text.equalFold, owned]
        cases found : rr.cname? with
        | none => simp only [uniqueCNAMETargetLoop, found, skipped, ih]
        | some target =>
            simp only [uniqueCNAMETargetLoop, found, skipped, fold, ih, Bool.not_false, ↓reduceIte]

theorem uniqueCNAMETarget_eq (answer : List RR) (owner : Name) :
    uniqueCNAMETarget answer owner = scan (targetsAt answer owner.toLower) Text.empty :=
  uniqueCNAMETargetLoop_eq answer owner Text.empty

theorem ne_empty_of_toLower_eq {left right : Name} (same : left.toLower = right.toLower)
    (present : right ≠ Text.empty) : left ≠ Text.empty := by
  intro blank
  rw [blank] at same
  exact present (Text.toLower_eq_empty.mp same.symm)

theorem scan_cons {next held : Name} {rest : List Name}
    (same : held ≠ Text.empty → held.toLower = next.toLower) :
    scan (next :: rest) held = scan rest next := by
  rw [scan, if_neg]
  simpa [Text.equalFold] using same

/-- Once the scan holds a target, it accepts that one alone, in any case. -/
theorem scan_held {targets : List Name} {held target : Name} (present : held ≠ Text.empty)
    (ran : scan targets held = (target, true)) :
    target.toLower = held.toLower ∧ ∀ other ∈ targets, other.toLower = held.toLower := by
  induction targets generalizing held with
  | nil =>
      cases ran
      exact ⟨rfl, by simp⟩
  | cons next rest ih =>
      have same : held.toLower = next.toLower := by
        by_contra different
        simp [scan, present, Text.equalFold, different] at ran
      rw [scan_cons fun _ => same] at ran
      obtain ⟨ends, others⟩ := ih (ne_empty_of_toLower_eq same.symm present) ran
      rw [List.forall_mem_cons, same]
      exact ⟨ends, rfl, others⟩

theorem scan_uniform {targets : List Name} {held : Name} (present : held ≠ Text.empty)
    (same : ∀ target ∈ targets, target.toLower = held.toLower) :
    ∃ target, scan targets held = (target, true) ∧ target.toLower = held.toLower := by
  induction targets generalizing held with
  | nil => exact ⟨held, rfl, rfl⟩
  | cons next rest ih =>
      rw [List.forall_mem_cons] at same
      rw [scan_cons fun _ => same.1.symm, ← same.1]
      apply ih (ne_empty_of_toLower_eq same.1 present)
      intro target member
      rw [same.2 target member, same.1]

/-- A scan that ends well has seen one target besides blanks, or blanks alone. -/
theorem scan_true {targets : List Name} {target : Name}
    (ran : scan targets Text.empty = (target, true)) :
    (∀ other ∈ targets, other ≠ Text.empty → other.toLower = target.toLower) ∧
      (target ≠ Text.empty → ∃ other ∈ targets, other ≠ Text.empty) := by
  induction targets with
  | nil =>
      cases ran
      exact ⟨by simp, by simp⟩
  | cons next rest ih =>
      rw [scan_cons (absurd rfl)] at ran
      by_cases blank : next = Text.empty
      · rw [blank] at ran
        obtain ⟨others, named⟩ := ih ran
        refine ⟨List.forall_mem_cons.mpr ⟨fun present => absurd blank present, others⟩, ?_⟩
        intro present
        obtain ⟨other, member, found⟩ := named present
        exact ⟨other, List.mem_cons_of_mem _ member, found⟩
      · obtain ⟨ends, others⟩ := scan_held blank ran
        refine ⟨List.forall_mem_cons.mpr ⟨fun _ => ends.symm, ?_⟩, fun _ =>
          ⟨next, List.mem_cons_self, blank⟩⟩
        intro other member _
        rw [others other member, ends]

theorem scan_blanks {blanks : List Name} (blank : ∀ target ∈ blanks, target = Text.empty)
    (rest : List Name) : scan (blanks ++ rest) Text.empty = scan rest Text.empty := by
  induction blanks with
  | nil => rfl
  | cons next blanks ih =>
      rw [List.forall_mem_cons] at blank
      rw [List.cons_append, scan_cons (absurd rfl), blank.1]
      exact ih blank.2

/-- Behind a named target no blank is accepted. -/
theorem scan_blank_late {first : Name} {rest : List Name} (present : first ≠ Text.empty)
    (late : Text.empty ∈ rest) (target : Name) :
    scan (first :: rest) Text.empty ≠ (target, true) := by
  intro ran
  rw [scan_cons (absurd rfl)] at ran
  have same := (scan_held present ran).2 _ late
  exact ne_empty_of_toLower_eq same present rfl

/-- The scan at an owner ends with a target. -/
def Moves (answer : List RR) (owner next : Name) : Prop :=
  ∃ target, scan (targetsAt answer owner) Text.empty = (target, true) ∧ target ≠ Text.empty ∧
    target.toLower = next

/-- The scan at an owner ends without one. -/
def Halts (answer : List RR) (owner : Name) : Prop :=
  scan (targetsAt answer owner) Text.empty = (Text.empty, true)

/-- Blanks in front of named targets, all the same, are passed over. -/
theorem moves_of_split {answer : List RR} {owner next : Name} {blanks rest : List Name}
    (split : targetsAt answer owner = blanks ++ rest)
    (blank : ∀ target ∈ blanks, target = Text.empty) (filled : rest ≠ [])
    (present : ∀ target ∈ rest, target ≠ Text.empty)
    (same : ∀ target ∈ rest, target.toLower = next) : Moves answer owner next := by
  obtain ⟨first, later, shape⟩ := List.exists_cons_of_ne_nil filled
  subst shape
  rw [List.forall_mem_cons] at present same
  obtain ⟨target, scanned, equal⟩ := scan_uniform present.1 fun target member =>
    (same.2 target member).trans same.1.symm
  refine ⟨target, ?_, ne_empty_of_toLower_eq equal present.1, equal.trans same.1⟩
  rw [split, scan_blanks blank, scan_cons (absurd rfl), scanned]

theorem nextName_follows (answer : List RR) :
    Follows Text.toLower (nextName answer) (Moves answer) (Halts answer) where
  go := by
    intro owner next
    simp only [Moves, nextName, uniqueCNAMETarget_eq]
    constructor
    · rintro ⟨target, scanned, present, same⟩
      refine ⟨target, ?_, same⟩
      simp only [scanned, present, ↓reduceIte]
    · rintro ⟨target, moved, same⟩
      split at moved
      · cases moved
      · rename_i found scanned
        split at moved
        · cases moved
        · rename_i present
          cases moved
          exact ⟨target, scanned, present, same⟩
  halt := by
    intro owner
    simp only [Halts, nextName, uniqueCNAMETarget_eq]
    constructor
    · intro scanned
      simp only [scanned, ↓reduceIte]
    · intro halted
      split at halted
      · cases halted
      · rename_i found scanned
        split at halted
        · rename_i blank
          rw [scanned, blank]
        · cases halted

/-- `canonicalName` succeeds exactly where a path of distinct names leads to one
without a target, and then returns that name. -/
theorem canonicalName_true_iff (answer : List RR) (name stop : Name) :
    (∃ terminal, canonicalName answer name = .ok (terminal, true) ∧ terminal.toLower = stop) ↔
      Halts answer stop ∧ ∃ path, PathTo (Moves answer) path name.toLower stop := by
  have follows := nextName_follows answer
  constructor
  · rintro ⟨terminal, walked, same⟩
    rw [canonicalName, canonicalNameLoop_eq] at walked
    split at walked
    · rename_i result ran
      cases walked
      obtain ⟨ends, path, found, _⟩ := walk_sound follows ran
      rw [same] at ends found
      exact ⟨ends, path, found⟩
    · cases walked
  · rintro ⟨ends, path, found⟩
    obtain ⟨⟨terminal, ok⟩, returned⟩ := canonicalName_returns answer name
    have walked := returned
    rw [canonicalName, canonicalNameLoop_eq] at walked
    split at walked
    · rename_i result ran
      cases walked
      obtain ⟨success, same⟩ := walk_complete follows found ends (by simp) ran
      have success : ok = true := success
      rw [success] at returned
      exact ⟨terminal, returned, same⟩
    · cases walked

/-- A record of a type at an owner, given in lower case. -/
def DataAt (answer : List RR) (qtype : UInt16) (owner : Name) : Prop :=
  ∃ rr ∈ answer, rr.rrtype = qtype ∧ rr.name.toLower = owner

theorem answersAt_iff {answer : List RR} {qtype : UInt16} {name : Name} :
    answersAt answer qtype name = true ↔ DataAt answer qtype name.toLower := by
  simp only [answersAt, DataAt, List.any_eq_true, Bool.and_eq_true, beq_iff_eq, Text.equalFold]

/-- The chain from the question's name ends at a name with a record of its type. -/
def Delivers (answer : List RR) (q : Question) : Prop :=
  ∃ stop, (Halts answer stop ∧ ∃ path, PathTo (Moves answer) path q.name.toLower stop) ∧
    DataAt answer q.qtype stop

/-- What `isNODATA` looks for, by the type of the question. -/
theorem isNODATA_false_iff {m : Msg} {q : Question} (single : m.question = [q])
    (data : m.answer ≠ []) :
    isNODATA m = .ok false ↔ q.qtype = typeANY ∨
      (q.qtype = typeCNAME ∧ DataAt m.answer typeCNAME q.name.toLower) ∨
      (q.qtype ≠ typeANY ∧ q.qtype ≠ typeCNAME ∧ Delivers m.answer q) := by
  have long : m.answer.length ≠ 0 := by simpa using data
  simp only [isNODATA, long, ↓reduceIte, single, index_cons_zero, bind, Except.bind]
  by_cases any : q.qtype = typeANY
  · simp [any]
  · by_cases pointer : q.qtype = typeCNAME
    · have apart : typeCNAME ≠ typeANY := by decide
      simp [pointer, apart, terminalName, answersAt_iff]
    · obtain ⟨⟨terminal, ok⟩, walked⟩ := canonicalName_returns m.answer q.name
      have exactly := canonicalName_true_iff m.answer q.name
      simp only [any, pointer, terminalName, ne_eq, not_false_eq_true, ↓reduceIte, walked,
        false_and, false_or, true_and, Delivers, ← exactly, Except.ok.injEq, Prod.mk.injEq]
      cases ok with
      | false => simp
      | true => simp [answersAt_iff]

/-- There is a CNAME record at an owner, and all records there have one target. -/
def PointsTo (answer : List RR) (owner next : Name) : Prop :=
  (∃ rr ∈ answer, ∃ target, rr.cname? = some target ∧ rr.name.equalFold owner = true) ∧
    ∀ rr ∈ answer, ∀ target, rr.cname? = some target → rr.name.equalFold owner = true →
      target.equalFold next = true

/-- A chain of names, distinct up to case, that starts at the question's name. Each
name points to the next one, and the last has no CNAME record but one that
answers the question. -/
structure ResolvedChain (answer : List RR) (q : Question) (chain : List Name)
    (terminal : Name) : Prop where
  head : chain.head? = some q.name
  last : chain.getLast? = some terminal
  distinct : (chain.map Text.toLower).Nodup
  linked : chain.IsChain (PointsTo answer)
  ends : ∀ rr ∈ answer, ∀ target, rr.cname? = some target → rr.name.equalFold terminal = false
  data : ∃ rr ∈ answer, rr.rrtype = q.qtype ∧ rr.name.equalFold terminal = true

/-- `PointsTo` on names in lower case. -/
def Edge (answer : List RR) (owner next : Name) : Prop :=
  targetsAt answer owner ≠ [] ∧ ∀ target ∈ targetsAt answer owner, target.toLower = next

instance (answer : List RR) (owner next : Name) : Decidable (Edge answer owner next) :=
  inferInstanceAs (Decidable (_ ∧ _))

theorem pointsTo_iff {answer : List RR} {owner next : Name} :
    PointsTo answer owner next ↔ Edge answer owner.toLower next.toLower := by
  simp only [PointsTo, Edge, Text.equalFold, beq_iff_eq]
  constructor
  · intro ⟨⟨rr, member, target, found, owned⟩, same⟩
    refine ⟨List.ne_nil_of_mem (mem_targetsAt.mpr ⟨rr, member, found, owned⟩), ?_⟩
    intro target listed
    obtain ⟨rr, member, found, owned⟩ := mem_targetsAt.mp listed
    exact same rr member target found owned
  · intro ⟨present, same⟩
    obtain ⟨target, listed⟩ := List.exists_mem_of_ne_nil _ present
    obtain ⟨rr, member, found, owned⟩ := mem_targetsAt.mp listed
    refine ⟨⟨rr, member, target, found, owned⟩, ?_⟩
    intro rr member target found owned
    exact same target (mem_targetsAt.mpr ⟨rr, member, found, owned⟩)

theorem targetsAt_eq_nil_iff {answer : List RR} {name : Name} :
    targetsAt answer name.toLower = [] ↔
      ∀ rr ∈ answer, ∀ target, rr.cname? = some target → rr.name.equalFold name = false := by
  rw [List.eq_nil_iff_forall_not_mem]
  simp only [mem_targetsAt, Text.equalFold, beq_eq_false_iff_ne]
  constructor
  · intro none rr member target found owned
    exact none target ⟨rr, member, found, owned⟩
  · intro none target ⟨rr, member, found, owned⟩
    exact none rr member target found owned

theorem dataAt_iff {answer : List RR} {qtype : UInt16} {name : Name} :
    DataAt answer qtype name.toLower ↔
      ∃ rr ∈ answer, rr.rrtype = qtype ∧ rr.name.equalFold name = true := by
  simp only [DataAt, Text.equalFold, beq_iff_eq]

/-- Every next name of an edge is in lower case. -/
theorem Edge.lower {answer : List RR} {owner next : Name} (edge : Edge answer owner next) :
    next.toLower = next := by
  obtain ⟨target, listed⟩ := List.exists_mem_of_ne_nil _ edge.1
  rw [← edge.2 target listed, Text.toLower_idem]

theorem PathTo.lower {answer : List RR} {path : List Name} {start stop : Name}
    (found : PathTo (Edge answer) path start stop) (lower : start.toLower = start) :
    ∀ name ∈ path, name.toLower = name := by
  induction path generalizing start with
  | nil => simp
  | cons first path ih =>
      have isHead : first = start := Option.some.inj found.head
      rcases found.cases with ⟨single, _⟩ | ⟨next, rest, split, edge, later, _⟩
      · simp [single, lower]
      · cases split
        rw [List.forall_mem_cons]
        exact ⟨lower, ih later edge.lower⟩

/-- A path of names in lower case is the image of a chain with the question's own
spelling. -/
theorem exists_chain_of_path {answer : List RR} {name stop : Name} {path : List Name}
    (found : PathTo (Edge answer) path name.toLower stop) :
    ∃ (chain : List Name) (terminal : Name), chain.map Text.toLower = path ∧
      chain.head? = some name ∧ chain.getLast? = some terminal ∧ terminal.toLower = stop := by
  have lower := PathTo.lower found (Text.toLower_idem name)
  cases path with
  | nil => cases found.head
  | cons first rest =>
      have isHead : first = name.toLower := Option.some.inj found.head
      have image : (name :: rest).map Text.toLower = first :: rest := by
        have tail := (List.forall_mem_cons.mp lower).2
        rw [List.map_cons, ← isHead, List.map_congr_left tail, List.map_id']
      have ends := found.last
      rw [← image, List.getLast?_map] at ends
      obtain ⟨terminal, last, same⟩ := Option.map_eq_some_iff.mp ends
      exact ⟨name :: rest, terminal, image, rfl, last, same⟩

theorem ResolvedChain.path {answer : List RR} {q : Question} {chain : List Name}
    {terminal : Name} (resolved : ResolvedChain answer q chain terminal) :
    PathTo (Edge answer) (chain.map Text.toLower) q.name.toLower terminal.toLower where
  head := by rw [List.head?_map, resolved.head, Option.map_some]
  last := by rw [List.getLast?_map, resolved.last, Option.map_some]
  linked := by
    rw [List.isChain_map]
    exact resolved.linked.imp fun _ _ => pointsTo_iff.mp
  distinct := resolved.distinct

theorem resolvedChain_of_path {answer : List RR} {q : Question} {path : List Name} {stop : Name}
    (found : PathTo (Edge answer) path q.name.toLower stop) (ends : targetsAt answer stop = [])
    (data : DataAt answer q.qtype stop) :
    ∃ chain terminal, ResolvedChain answer q chain terminal ∧ chain.map Text.toLower = path ∧
      terminal.toLower = stop := by
  obtain ⟨chain, terminal, rfl, head, last, rfl⟩ := exists_chain_of_path found
  have linked := found.linked
  rw [List.isChain_map] at linked
  exact ⟨chain, terminal, ⟨head, last, found.distinct, linked.imp fun _ _ => pointsTo_iff.mpr,
    targetsAt_eq_nil_iff.mp ends, dataAt_iff.mp data⟩, rfl, rfl⟩

section Named

variable {answer : List RR} (named : ∀ rr ∈ answer, ∀ target, rr.cname? = some target →
  target ≠ Text.empty)

include named

theorem named_targetsAt (owner : Name) : ∀ target ∈ targetsAt answer owner,
    target ≠ Text.empty := by
  intro target listed
  obtain ⟨rr, member, found, _⟩ := mem_targetsAt.mp listed
  exact named rr member target found

/-- Without blank targets the scan decides whether an owner has one target. -/
theorem moves_iff_edge {owner next : Name} : Moves answer owner next ↔ Edge answer owner next := by
  have present := named_targetsAt named owner
  constructor
  · intro ⟨target, scanned, filled, same⟩
    obtain ⟨others, some⟩ := scan_true scanned
    obtain ⟨other, listed, _⟩ := some filled
    refine ⟨List.ne_nil_of_mem listed, ?_⟩
    intro target listed
    rw [others target listed (present target listed), same]
  · intro ⟨filled, same⟩
    exact moves_of_split (List.nil_append _).symm (by simp) filled present same

theorem halts_iff {owner : Name} : Halts answer owner ↔ targetsAt answer owner = [] := by
  have present := named_targetsAt named owner
  constructor
  · intro halted
    apply List.eq_nil_iff_forall_not_mem.mpr
    intro target listed
    have same := (scan_true halted).1 target listed (present target listed)
    exact present target listed (Text.toLower_eq_empty.mp same)
  · intro none
    rw [Halts, none]
    rfl

theorem delivers_iff_resolved {q : Question} :
    Delivers answer q ↔ ∃ chain terminal, ResolvedChain answer q chain terminal := by
  have edges : ∀ owner next, Moves answer owner next ↔ Edge answer owner next :=
    fun _ _ => moves_iff_edge named
  constructor
  · intro ⟨stop, ⟨halted, path, found⟩, data⟩
    have ends := (halts_iff named).mp halted
    obtain ⟨chain, terminal, resolved, _⟩ :=
      resolvedChain_of_path (found.mono fun owner _ next => (edges owner next).mp) ends data
    exact ⟨chain, terminal, resolved⟩
  · intro ⟨chain, terminal, resolved⟩
    refine ⟨terminal.toLower, ⟨(halts_iff named).mpr (targetsAt_eq_nil_iff.mpr resolved.ends),
      _, resolved.path.mono fun owner _ next => (edges owner next).mpr⟩, dataAt_iff.mpr resolved.data⟩

end Named

theorem hasSOA_eq_false_iff {m : Msg} : hasSOA m = false ↔ ∀ rr ∈ m.ns, rr.rrtype ≠ typeSOA := by
  simp [hasSOA]

/-- A positive reply without an SOA is cached exactly when it answers its question
at the end of the CNAME chain. -/
theorem cacheable_iff_resolved {m : Msg} {q : Question} (single : m.question = [q])
    (data : m.answer ≠ []) (whole : m.truncated = false)
    (noSOA : ∀ rr ∈ m.ns, rr.rrtype ≠ typeSOA)
    (named : ∀ rr ∈ m.answer, ∀ target, rr.cname? = some target → target ≠ Text.empty) :
    cacheable m .noError = .ok true ↔ q.qtype = typeANY ∨
      (q.qtype = typeCNAME ∧
        ∃ rr ∈ m.answer, rr.rrtype = typeCNAME ∧ rr.name.equalFold q.name = true) ∨
      (q.qtype ≠ typeANY ∧ q.qtype ≠ typeCNAME ∧
        ∃ chain terminal, ResolvedChain m.answer q chain terminal) := by
  have lacks : lacksAnswer m .noError = isNODATA m := by
    simp [lacksAnswer, hasSOA_eq_false_iff.mpr noSOA]
  rw [cacheable_true_iff, lacks, isNODATA_false_iff single data, dataAt_iff,
    delivers_iff_resolved named]
  simp [single, whole]

/-- A name of one letter. -/
def letterName (byte : UInt8) (small : byte < 128) : Name := ⟨[byte, 46], by simp [small]⟩

theorem small_a : (97 : UInt8) < 128 := by decide

theorem small_b : (98 : UInt8) < 128 := by decide

def cnameRecord (owner target : Name) : RR := ⟨owner, typeCNAME, 1, 60, .cname target, rfl⟩

def addressRecord (owner : Name) : RR := ⟨owner, 1, 1, 60, .other [192, 0, 2, 1], rfl⟩

/-- The answer to `a. IN A` by way of `B.` and `c.`, with the records out of order. -/
def chainReply : Msg :=
  { Msg.blank with
    response := true
    question := [⟨letterName 97 (by decide), 1, 1⟩]
    answer := [addressRecord (letterName 67 (by decide)),
      cnameRecord (letterName 98 (by decide)) (letterName 99 (by decide)),
      cnameRecord (letterName 97 (by decide)) (letterName 66 (by decide))] }

theorem chainReply_cacheable : cacheable chainReply .noError = .ok true := by
  apply (cacheable_iff_resolved rfl (by decide) rfl (by decide) ?_).mpr
  · refine Or.inr (Or.inr ⟨by decide, by decide, [letterName 97 (by decide),
      letterName 98 (by decide), letterName 99 (by decide)], letterName 99 (by decide), ?_⟩)
    have first : PointsTo chainReply.answer (letterName 97 (by decide))
        (letterName 98 (by decide)) := pointsTo_iff.mpr (by decide)
    have second : PointsTo chainReply.answer (letterName 98 (by decide))
        (letterName 99 (by decide)) := pointsTo_iff.mpr (by decide)
    exact
      { head := rfl
        last := rfl
        distinct := by decide
        linked := .cons_cons first (.cons_cons second (.singleton _))
        ends := targetsAt_eq_nil_iff.mp (by decide)
        data := by decide }
  · decide

end RedisCache
