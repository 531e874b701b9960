import RedisCache.ReplyKinds
import RedisCache.Slices

set_option autoImplicit false

/- Messages in memory. The sections of a message are slices of pointers to records, and
the code writes through both: `msgWithoutOPT` filters a section in place and `setMsgTTL`
sets the TTL of a record wherever else that record is used. -/

namespace RedisCache

open Slices

/-- A pointer to a record. -/
abbrev Ref := Nat

/-- The records behind the pointers; those below `nextRef` are allocated. -/
structure Memory where
  arrays : Heap Ref
  record : Ref → RR
  nextRef : Nat

/-- A message in memory. `header` holds all that is no section. -/
structure MsgAt where
  header : Msg
  answer : Slice
  ns : Slice
  extra : Slice

namespace Memory

variable (mem : Memory)

def view (m : MsgAt) : Msg :=
  { m.header with
    answer := (mem.arrays.read m.answer).map mem.record
    ns := (mem.arrays.read m.ns).map mem.record
    extra := (mem.arrays.read m.extra).map mem.record }

/-- The pointers of a message, section by section. -/
def refs (m : MsgAt) : List Ref :=
  mem.arrays.read m.answer ++ mem.arrays.read m.ns ++ mem.arrays.read m.extra

end Memory

/-- A message whose arrays and records are allocated. -/
structure MsgAt.In (m : MsgAt) (mem : Memory) : Prop where
  answer : m.answer.array < mem.arrays.next
  ns : m.ns.array < mem.arrays.next
  extra : m.extra.array < mem.arrays.next
  records : ∀ r ∈ mem.refs m, r < mem.nextRef

/-- A later memory in which all that was allocated is as it was. -/
structure Memory.Extends (after mem : Memory) : Prop where
  read : ∀ s : Slice, s.array < mem.arrays.next → after.arrays.read s = mem.arrays.read s
  record : ∀ r, r < mem.nextRef → after.record r = mem.record r

/-- `(*dns.Msg).Copy`. -/
abbrev Copier := Memory → MsgAt → Memory × MsgAt

/-- A copy reads as its original and leaves all that was allocated as it was. Its Extra is a
slice of a new array, and no cell of it belongs to another section. -/
structure CopyOf (mem : Memory) (m : MsgAt) (after : Memory) (clone : MsgAt) : Prop where
  grown : after.Extends mem
  view : after.view clone = mem.view m
  fresh : mem.arrays.next ≤ clone.extra.array
  answer : clone.answer.Apart clone.extra
  ns : clone.ns.Apart clone.extra

def Copier.Spec (copy : Copier) : Prop :=
  ∀ mem m, m.In mem → CopyOf mem m (copy mem m).1 (copy mem m).2

namespace Memory

variable (copy : Copier) (mem : Memory)

/-- `msgWithoutOPT`. -/
def msgWithoutOPT (m : MsgAt) : Memory × MsgAt :=
  let (mem, clone) := copy mem m
  if clone.extra.length = 0 then (mem, clone)
  else
    let (arrays, extra) :=
      filterInPlace (fun r => !(mem.record r).isOPT) mem.arrays clone.extra
    ({ mem with arrays := arrays }, { clone with extra := extra })

/-- `rr.Header().Ttl = ttl`. -/
def setTTL (ttl : UInt32) (mem : Memory) (r : Ref) : Memory :=
  { mem with record := Function.update mem.record r ((mem.record r).setTTL ttl) }

/-- The loop over Extra leaves the TTL field of an OPT record alone. -/
def setExtraTTL (ttl : UInt32) (mem : Memory) (r : Ref) : Memory :=
  if (mem.record r).isOPT then mem else setTTL ttl mem r

/-- `setMsgTTL`. -/
def setMsgTTL (m : MsgAt) (ttl : UInt32) : Memory :=
  let mem := (mem.arrays.read m.answer).foldl (setTTL ttl) mem
  let mem := (mem.arrays.read m.ns).foldl (setTTL ttl) mem
  (mem.arrays.read m.extra).foldl (setExtraTTL ttl) mem

end Memory

theorem Memory.Extends.refs {after mem : Memory} {m : MsgAt} (grown : after.Extends mem)
    (old : m.In mem) : after.refs m = mem.refs m := by
  rw [Memory.refs, grown.read _ old.answer, grown.read _ old.ns, grown.read _ old.extra]
  rfl

theorem Memory.Extends.view {after mem : Memory} {m : MsgAt} (grown : after.Extends mem)
    (old : m.In mem) : after.view m = mem.view m := by
  have same : ∀ r ∈ mem.refs m, after.record r = mem.record r :=
    fun r member => grown.record r (old.records r member)
  simp only [Memory.refs, List.mem_append] at same
  simp only [Memory.view, grown.read _ old.answer, grown.read _ old.ns, grown.read _ old.extra]
  rw [List.map_congr_left fun r member => same r (Or.inl (Or.inl member)),
    List.map_congr_left fun r member => same r (Or.inl (Or.inr member)),
    List.map_congr_left fun r member => same r (Or.inr member)]

section Copy

variable {copy : Copier} {mem : Memory} {m : MsgAt}

/-- The message that is packed is the one without its OPT records. -/
theorem view_msgWithoutOPT (copies : copy.Spec) (inside : m.In mem) :
    (mem.msgWithoutOPT copy m).1.view (mem.msgWithoutOPT copy m).2 =
      msgWithoutOPT (mem.view m) := by
  have copied := copies mem m inside
  unfold Memory.msgWithoutOPT
  generalize copy mem m = result at copied ⊢
  obtain ⟨after, clone⟩ := result
  dsimp only at copied ⊢
  rw [← copied.view]
  by_cases empty : clone.extra.length = 0
  · rw [if_pos empty]
    have nothing : after.arrays.read clone.extra = [] := by
      rw [Heap.read, empty]
      rfl
    simp [msgWithoutOPT, Memory.view, nothing]
  · rw [if_neg empty]
    simp only [msgWithoutOPT, Memory.view, read_filterInPlace, List.filter_map]
    rw [read_filterInPlace_apart _ _ copied.answer, read_filterInPlace_apart _ _ copied.ns]
    rfl

/-- Nothing that was there before is changed, the copied message included. -/
theorem msgWithoutOPT_extends (copies : copy.Spec) (inside : m.In mem) :
    (mem.msgWithoutOPT copy m).1.Extends mem := by
  have copied := copies mem m inside
  unfold Memory.msgWithoutOPT
  generalize copy mem m = result at copied ⊢
  obtain ⟨after, clone⟩ := result
  dsimp only at copied ⊢
  by_cases empty : clone.extra.length = 0
  · rw [if_pos empty]
    exact copied.grown
  · rw [if_neg empty]
    refine ⟨?_, copied.grown.record⟩
    intro s old
    have other : s.array ≠ clone.extra.array := Nat.ne_of_lt (Nat.lt_of_lt_of_le old copied.fresh)
    rw [← copied.grown.read s old]
    exact read_filterInPlace_apart _ _ (Or.inl other)

end Copy

/-- The records whose TTL `setMsgTTL` sets. -/
def Memory.stamped (mem : Memory) (m : MsgAt) : List Ref :=
  mem.arrays.read m.answer ++ mem.arrays.read m.ns ++
    (mem.arrays.read m.extra).filter fun r => !(mem.record r).isOPT

section Stamping

variable {mem : Memory} {m other : MsgAt} {ttl : UInt32}

theorem isOPT_setTTL (ttl : UInt32) (rr : RR) : (rr.setTTL ttl).isOPT = rr.isOPT := rfl

theorem setTTL_setTTL (ttl : UInt32) (rr : RR) : (rr.setTTL ttl).setTTL ttl = rr.setTTL ttl := rfl

theorem foldl_setTTL (ttl : UInt32) (mem : Memory) (refs : List Ref) :
    (refs.foldl (Memory.setTTL ttl) mem).arrays = mem.arrays ∧
      ∀ r, (refs.foldl (Memory.setTTL ttl) mem).record r =
        if r ∈ refs then (mem.record r).setTTL ttl else mem.record r := by
  induction refs generalizing mem with
  | nil => exact ⟨rfl, fun r => rfl⟩
  | cons first rest ih =>
      obtain ⟨arrays, records⟩ := ih (Memory.setTTL ttl mem first)
      refine ⟨arrays, ?_⟩
      intro r
      rw [List.foldl_cons, records]
      by_cases same : r = first
      · subst same
        simp [Memory.setTTL, setTTL_setTTL]
      · simp [Memory.setTTL, same]

theorem foldl_setExtraTTL (ttl : UInt32) (mem : Memory) (refs : List Ref) :
    (refs.foldl (Memory.setExtraTTL ttl) mem).arrays = mem.arrays ∧
      ∀ r, (refs.foldl (Memory.setExtraTTL ttl) mem).record r =
        if r ∈ refs ∧ (mem.record r).isOPT = false then (mem.record r).setTTL ttl
        else mem.record r := by
  induction refs generalizing mem with
  | nil => exact ⟨rfl, fun r => by simp⟩
  | cons first rest ih =>
      obtain ⟨arrays, records⟩ := ih (Memory.setExtraTTL ttl mem first)
      rw [List.foldl_cons, arrays]
      by_cases opt : (mem.record first).isOPT = true
      · have passed : Memory.setExtraTTL ttl mem first = mem := by
          rw [Memory.setExtraTTL, if_pos opt]
        rw [passed] at records ⊢
        refine ⟨rfl, ?_⟩
        intro r
        rw [records]
        by_cases same : r = first
        · subst same
          simp [opt]
        · simp [same]
      · have written : Memory.setExtraTTL ttl mem first = Memory.setTTL ttl mem first := by
          rw [Memory.setExtraTTL, if_neg opt]
        rw [written] at records ⊢
        refine ⟨rfl, ?_⟩
        intro r
        rw [records]
        by_cases same : r = first
        · subst same
          simp [Memory.setTTL, isOPT_setTTL, setTTL_setTTL, opt]
        · simp [Memory.setTTL, same]

/-- All three loops together. -/
theorem setMsgTTL_record (mem : Memory) (m : MsgAt) (ttl : UInt32) :
    (mem.setMsgTTL m ttl).arrays = mem.arrays ∧
      ∀ r, (mem.setMsgTTL m ttl).record r =
        if r ∈ mem.stamped m then (mem.record r).setTTL ttl else mem.record r := by
  unfold Memory.setMsgTTL
  dsimp only
  obtain ⟨arrays, answers⟩ := foldl_setTTL ttl mem (mem.arrays.read m.answer)
  generalize (mem.arrays.read m.answer).foldl (Memory.setTTL ttl) mem = first at arrays answers ⊢
  rw [arrays]
  obtain ⟨same, authorities⟩ := foldl_setTTL ttl first (mem.arrays.read m.ns)
  generalize (mem.arrays.read m.ns).foldl (Memory.setTTL ttl) first = second at same authorities ⊢
  rw [same, arrays]
  obtain ⟨again, extras⟩ := foldl_setExtraTTL ttl second (mem.arrays.read m.extra)
  refine ⟨again.trans (same.trans arrays), ?_⟩
  intro r
  have kind : (second.record r).isOPT = (mem.record r).isOPT := by
    rw [authorities, answers]
    split <;> split <;> rfl
  rw [extras, kind, authorities, answers]
  by_cases inAnswer : r ∈ mem.arrays.read m.answer <;> by_cases inNs : r ∈ mem.arrays.read m.ns <;>
    simp [Memory.stamped, inAnswer, inNs, setTTL_setTTL]

theorem view_setMsgTTL (mem : Memory) (m other : MsgAt) (ttl : UInt32) :
    (mem.setMsgTTL m ttl).view other =
      { other.header with
        answer := (mem.arrays.read other.answer).map fun r =>
          if r ∈ mem.stamped m then (mem.record r).setTTL ttl else mem.record r
        ns := (mem.arrays.read other.ns).map fun r =>
          if r ∈ mem.stamped m then (mem.record r).setTTL ttl else mem.record r
        extra := (mem.arrays.read other.extra).map fun r =>
          if r ∈ mem.stamped m then (mem.record r).setTTL ttl else mem.record r } := by
  obtain ⟨arrays, records⟩ := setMsgTTL_record mem m ttl
  have same : (mem.setMsgTTL m ttl).record = fun r =>
      if r ∈ mem.stamped m then (mem.record r).setTTL ttl else mem.record r := funext records
  rw [Memory.view, arrays, same]

theorem map_record_eq_iff {refs : List Ref} :
    (refs.map fun r => if r ∈ mem.stamped m then (mem.record r).setTTL ttl else mem.record r) =
        refs.map mem.record ↔
      ∀ r ∈ refs, r ∈ mem.stamped m → (mem.record r).ttl = ttl := by
  rw [List.map_inj_left]
  apply forall₂_congr
  intro r _
  by_cases inside : r ∈ mem.stamped m
  · simp [inside, setTTL_eq_self_iff]
  · simp [inside]

/-- Setting the TTLs of one message leaves another one as it is exactly if the records
that the two share have that TTL. -/
theorem view_setMsgTTL_eq_iff :
    (mem.setMsgTTL m ttl).view other = mem.view other ↔
      ∀ r ∈ mem.refs other, r ∈ mem.stamped m → (mem.record r).ttl = ttl := by
  rw [view_setMsgTTL, Memory.view]
  simp only [Msg.mk.injEq, true_and, map_record_eq_iff, Memory.refs, List.forall_mem_append, and_assoc]

/-- No OPT record of Extra is among the records that are set. -/
def Memory.OptApart (mem : Memory) (m : MsgAt) (ttl : UInt32) : Prop :=
  ∀ r ∈ mem.arrays.read m.extra, (mem.record r).isOPT = true → r ∈ mem.stamped m →
    (mem.record r).ttl = ttl

/-- On its own message `setMsgTTL` is the function on values, unless an OPT record of
Extra stands in another section as well. -/
theorem view_setMsgTTL_iff :
    (mem.setMsgTTL m ttl).view m = setMsgTTL (mem.view m) ttl ↔ mem.OptApart m ttl := by
  have inAnswer : ∀ r ∈ mem.arrays.read m.answer, r ∈ mem.stamped m := by
    intro r member
    simp [Memory.stamped, member]
  have inNs : ∀ r ∈ mem.arrays.read m.ns, r ∈ mem.stamped m := by
    intro r member
    simp [Memory.stamped, member]
  rw [view_setMsgTTL, Memory.view, setMsgTTL]
  simp only [Msg.mk.injEq, true_and, List.map_map, List.map_inj_left, Function.comp_apply]
  constructor
  · rintro ⟨_, _, extras⟩ r member opt inside
    have same := extras r member
    simp only [opt, inside, ↓reduceIte] at same
    exact setTTL_eq_self_iff.mp same
  · intro apart
    refine ⟨fun r member => if_pos (inAnswer r member), fun r member => if_pos (inNs r member), ?_⟩
    intro r member
    by_cases opt : (mem.record r).isOPT = true
    · rw [if_pos opt]
      split
      · rename_i inside
        exact setTTL_eq_self_iff.mpr (apart r member opt inside)
      · rfl
    · rw [if_neg opt, if_pos]
      simp [Memory.stamped, member, opt]

end Stamping

namespace Memory

variable (copy : Copier) (d : Deps) (mem : Memory)

/-- `ToBytes`. -/
def toBytes (m : MsgAt) : Memory × Except GoError Bytes :=
  let (after, clone) := mem.msgWithoutOPT copy m
  match d.pack (after.view clone) with
  | .error err => (after, .error err)
  | .ok wire => (after, .ok (cachePayloadPrefix ++
      [if d.msgDo (after.view m) then cachePayloadFlagDO else 0] ++ wire))

/-- The part of `WriteMsg` that takes the bytes. -/
def snapshot (r : Msg) (res : MsgAt) (k : Key) (duration : Int) :
    Go (Memory × Option Bytes × List Metric) :=
  if k ≠ "" ∧ 0 < duration then do
    let same ← responseMatchesRequest d r (mem.view res)
    if !same then .ok (mem, none, [.responseMismatches])
    else
      match mem.toBytes copy d res with
      | (after, .error _) => .ok (after, none, [.encodeErrors])
      | (after, .ok b) => .ok (after, some b, [])
  else .ok (mem, none, [])

/-- `WriteMsg` on a message in memory. The memory behind it is what the client's writer
and all other holders of a record see. -/
def writeMsg (re : Redis) (r : Msg) (now : Nat) (res : MsgAt) :
    Go (Memory × Option SetJob × List Metric) := do
  let (mt, opt) := d.typify (mem.view res) now
  let doBit := opt.any d.optDo
  let store ← cacheable (mem.view res) mt
  let k := if store then re.keyer.key d (tupleFor d r doBit) else ""
  let duration := storeDuration d re (mem.view res) mt
  let (after, wire, metrics) ← mem.snapshot copy d r res k duration
  .ok (after.setMsgTTL res (secondsU32 d.castU32 duration),
    wire.map fun b => ⟨k, b, duration⟩, metrics)

end Memory

section Writing

variable {copy : Copier} {d : Deps} {mem after : Memory} {res m : MsgAt} {ttl : UInt32}

theorem Memory.Extends.stamped (grown : after.Extends mem) (old : m.In mem) :
    after.stamped m = mem.stamped m := by
  have same : ∀ r ∈ mem.arrays.read m.extra, (!(after.record r).isOPT) = !(mem.record r).isOPT := by
    intro r member
    rw [grown.record r (old.records r (List.mem_append_right _ member))]
  rw [Memory.stamped, grown.read _ old.answer, grown.read _ old.ns, grown.read _ old.extra,
    List.filter_congr same]
  rfl

theorem Memory.Extends.optApart_iff (grown : after.Extends mem) (old : m.In mem) :
    after.OptApart m ttl ↔ mem.OptApart m ttl := by
  unfold Memory.OptApart
  rw [grown.stamped old, grown.read _ old.extra]
  apply forall₂_congr
  intro r member
  rw [grown.record r (old.records r (List.mem_append_right _ member))]

theorem toBytes_in_memory (copies : copy.Spec) (inside : res.In mem) :
    (mem.toBytes copy d res).2 = toBytes d (mem.view res) ∧
      (mem.toBytes copy d res).1.Extends mem := by
  have grown := msgWithoutOPT_extends copies inside
  have packed := view_msgWithoutOPT copies inside
  unfold Memory.toBytes toBytes
  generalize mem.msgWithoutOPT copy res = stripped at grown packed ⊢
  obtain ⟨later, clone⟩ := stripped
  dsimp only at grown packed ⊢
  rw [packed, grown.view inside]
  cases d.pack (msgWithoutOPT (mem.view res)) with
  | error err => exact ⟨rfl, grown⟩
  | ok wire => exact ⟨rfl, grown⟩

theorem Memory.Extends.refl (mem : Memory) : mem.Extends mem := ⟨fun _ _ => rfl, fun _ _ => rfl⟩

theorem snapshot_in_memory (copies : copy.Spec) (inside : res.In mem) (r : Msg) (k : Key)
    (duration : Int) :
    ∃ after, after.Extends mem ∧ mem.snapshot copy d r res k duration =
      (snapshot d r (mem.view res) k duration).map fun out => (after, out) := by
  unfold Memory.snapshot snapshot
  by_cases wanted : k ≠ "" ∧ 0 < duration
  · rw [if_pos wanted, if_pos wanted]
    cases responseMatchesRequest d r (mem.view res) with
    | error fault => exact ⟨mem, .refl mem, rfl⟩
    | ok same =>
        cases same with
        | false => exact ⟨mem, .refl mem, rfl⟩
        | true =>
            obtain ⟨bytes, grown⟩ := toBytes_in_memory (d := d) copies inside
            simp only [bind, Except.bind, Bool.not_true, Bool.false_eq_true, ↓reduceIte]
            rw [← bytes]
            generalize mem.toBytes copy d res = taken at grown ⊢
            obtain ⟨later, wire⟩ := taken
            cases wire with
            | error err => exact ⟨later, grown, rfl⟩
            | ok b => exact ⟨later, grown, rfl⟩
  · rw [if_neg wanted, if_neg wanted]
    exact ⟨mem, .refl mem, rfl⟩

/-- The TTL that `WriteMsg` sets for the client. -/
def clientTTL (d : Deps) (re : Redis) (now : Nat) (res : Msg) : UInt32 :=
  secondsU32 d.castU32 (storeDuration d re res (d.typify res now).1)

/-- `WriteMsg` in memory stores, counts and hands on what the function on values says, as
long as no OPT record of Extra stands in another section. Beside the reply itself it
changes exactly the messages that share a record with it that had another TTL. -/
theorem writeMsg_in_memory (copies : copy.Spec) (spec : d.MatchSpec) (re : Redis) (r : Msg)
    (now : Nat) (inside : res.In mem) :
    ∃ after out, mem.writeMsg copy d re r now res = .ok (after, out.set, out.metrics) ∧
      writeMsg d re r now (mem.view res) = .ok out ∧
      (after.view res = out.client ↔ mem.OptApart res (clientTTL d re now (mem.view res))) ∧
      ∀ other : MsgAt, other.In mem → (after.view other = mem.view other ↔
        ∀ p ∈ mem.refs other, p ∈ mem.stamped res →
          (mem.record p).ttl = clientTTL d re now (mem.view res)) := by
  obtain ⟨out, valued⟩ := writeMsg_returns spec re r now (mem.view res)
  obtain ⟨store, decided, parts⟩ := Checked.bind_ok valued
  obtain ⟨⟨wire, metrics⟩, taken, parts⟩ := Checked.bind_ok parts
  cases parts
  obtain ⟨later, grown, snapped⟩ := snapshot_in_memory (d := d) copies inside r _ _
  rw [taken] at snapped
  refine ⟨later.setMsgTTL res (clientTTL d re now (mem.view res)), _, ?_, valued, ?_, ?_⟩
  · simp only [Memory.writeMsg, decided, snapped, bind, Except.bind, Except.map]
    rfl
  · have own : ∀ ttl, (later.setMsgTTL res ttl).view res = setMsgTTL (mem.view res) ttl ↔
        mem.OptApart res ttl := by
      intro ttl
      rw [← grown.view inside, view_setMsgTTL_iff, grown.optApart_iff inside]
    exact own _
  · intro other old
    rw [← grown.view old, view_setMsgTTL_eq_iff, grown.refs old, grown.stamped inside]
    apply forall₂_congr
    intro p member
    rw [grown.record p (old.records p member)]

end Writing

/-- Fresh copies of the records, in one new array for all sections, whose slices end where
the next section begins. -/
def sampleCopy : Copier := fun mem m =>
  let array := mem.arrays.next
  let answers := m.answer.length
  let both := answers + m.ns.length
  ({ arrays :=
      { cell := Function.update mem.arrays.cell array fun i => mem.nextRef + i
        next := array + 1 }
     record := fun r =>
      if r < mem.nextRef then mem.record r
      else ((mem.refs m)[r - mem.nextRef]?).elim (mem.record r) mem.record
     nextRef := mem.nextRef + (mem.refs m).length },
    { header := m.header
      answer := .full array 0 answers
      ns := .full array answers m.ns.length
      extra := .full array both m.extra.length })

section SampleCopy

variable {mem : Memory} {m : MsgAt}

theorem sampleCopy_extends (mem : Memory) (m : MsgAt) : (sampleCopy mem m).1.Extends mem where
  read := by
    intro s old
    apply read_congr
    intro i _
    have other : s.array ≠ mem.arrays.next := by omega
    simp [sampleCopy, other]
  record := by
    intro r old
    simp [sampleCopy, old]

/-- A stretch of the new array points to the copies of a stretch of the pointers. -/
theorem sampleCopy_section (s : Slice) (first : Nat) (part : List Ref)
    (array : s.array = mem.arrays.next) (offset : s.offset = first) (length : s.length = part.length)
    (stretch : ∀ i, i < part.length → (mem.refs m)[first + i]? = part[i]?) :
    ((sampleCopy mem m).1.arrays.read s).map (sampleCopy mem m).1.record = part.map mem.record := by
  apply List.ext_getElem?
  intro i
  by_cases below : i < part.length
  · have found := stretch i below
    rw [List.getElem?_eq_getElem below] at found
    have fresh : ¬ mem.nextRef + (first + i) < mem.nextRef := by omega
    rw [List.getElem?_map, getElem?_read (i := i) _ s (by omega), List.getElem?_map,
      List.getElem?_eq_getElem below]
    simp [sampleCopy, array, offset, fresh, found]
  · rw [List.getElem?_eq_none (by simp; omega), List.getElem?_eq_none (by simp; omega)]

theorem sampleCopy_view (mem : Memory) (m : MsgAt) :
    (sampleCopy mem m).1.view (sampleCopy mem m).2 = mem.view m := by
  have answers : ((sampleCopy mem m).1.arrays.read (sampleCopy mem m).2.answer).map
      (sampleCopy mem m).1.record = (mem.arrays.read m.answer).map mem.record := by
    refine sampleCopy_section (sampleCopy mem m).2.answer 0 (mem.arrays.read m.answer) rfl rfl
      (read_length mem.arrays m.answer).symm ?_
    intro i below
    rw [Memory.refs, Nat.zero_add, List.append_assoc, List.getElem?_append_left below]
  have authorities : ((sampleCopy mem m).1.arrays.read (sampleCopy mem m).2.ns).map
      (sampleCopy mem m).1.record = (mem.arrays.read m.ns).map mem.record := by
    refine sampleCopy_section (sampleCopy mem m).2.ns m.answer.length (mem.arrays.read m.ns) rfl rfl
      (read_length mem.arrays m.ns).symm ?_
    intro i below
    rw [Memory.refs, List.append_assoc, List.getElem?_append_right (by simp),
      List.getElem?_append_left (by simpa using below)]
    simp
  have extras : ((sampleCopy mem m).1.arrays.read (sampleCopy mem m).2.extra).map
      (sampleCopy mem m).1.record = (mem.arrays.read m.extra).map mem.record := by
    refine sampleCopy_section (sampleCopy mem m).2.extra (m.answer.length + m.ns.length)
      (mem.arrays.read m.extra) rfl rfl
      (read_length mem.arrays m.extra).symm ?_
    intro i below
    rw [Memory.refs, List.getElem?_append_right (by simp)]
    simp
  rw [Memory.view, answers, authorities, extras]
  rfl

end SampleCopy

theorem sample_copies : sampleCopy.Spec := by
  intro mem m _
  refine ⟨sampleCopy_extends mem m, sampleCopy_view mem m, Nat.le_refl _, ?_, ?_⟩
  -- Extra stands behind the other two in the array of the copy
  · refine Or.inr (Or.inl ?_)
    show 0 + m.answer.length ≤ m.answer.length + m.ns.length
    omega
  · exact Or.inr (Or.inl (Nat.le_refl _))

/-- One array with one pointer, to `sampleRecord`. -/
def sharedMemory : Memory := ⟨⟨fun _ _ => 0, 1⟩, fun _ => sampleRecord, 1⟩

/-- `sampleReply`, with its record in the shared memory. -/
def sharedReply : MsgAt :=
  ⟨{ sampleReply with answer := [] }, .full 0 0 1, .full 0 0 0, .full 0 0 0⟩

theorem sharedReply_in : sharedReply.In sharedMemory :=
  ⟨by decide, by decide, by decide, by decide⟩

/-- The configuration `success 30`. -/
def shortTTL : Redis := { Redis.new with pMaxTTL := 30 * second }

/-- A second holder of the record, such as a zone that it was served from. -/
def sharedOwner : MsgAt := { sharedReply with header := Msg.blank }

theorem sharedOwner_in : sharedOwner.In sharedMemory :=
  ⟨by decide, by decide, by decide, by decide⟩

/-- The client gets the reply with 30 seconds, and so does the other holder of the record,
for which it had 60. -/
theorem sharedReply_rewrites_owner :
    ∃ (after : Memory) (out : WriteResult),
      sharedMemory.writeMsg sampleCopy sampleDeps shortTTL sampleQuery 0 sharedReply =
        .ok (after, out.set, out.metrics) ∧
      after.view sharedReply = out.client ∧ out.client.answer = [sampleRecord.setTTL 30] ∧
      after.view sharedOwner ≠ sharedMemory.view sharedOwner := by
  obtain ⟨after, out, ran, value, own, others⟩ :=
    writeMsg_in_memory sample_copies sample_match shortTTL sampleQuery 0 sharedReply_in
  have client : out.client.answer = [sampleRecord.setTTL 30] := by
    rw [writeMsg_client value]
    decide +kernel
  refine ⟨after, out, ran, own.mpr ?_, client, ?_⟩
  · intro p member
    cases member
  · intro unchanged
    have same := (others sharedOwner sharedOwner_in).mp unchanged 0 (by decide) (by decide)
    exact absurd same (by decide +kernel)

end RedisCache
