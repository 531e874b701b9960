import Mathlib.Data.List.Dedup
import RedisCache.Deps
import RedisCache.Walk

set_option autoImplicit false

namespace RedisCache

open AsciiText

def hasSOA (m : Msg) : Bool := m.ns.any fun rr => rr.rrtype == typeSOA

/-- The scan of `uniqueCNAMETarget`; the empty name stands for no target yet. -/
def uniqueCNAMETargetLoop (owner : Name) : List RR → Name → Name × Bool
  | [], target => (target, true)
  | rr :: rest, target =>
      match rr.cname? with
      | none => uniqueCNAMETargetLoop owner rest target
      | some next =>
          if !rr.name.equalFold owner then uniqueCNAMETargetLoop owner rest target
          else if target ≠ Text.empty && !target.equalFold next then (Text.empty, false)
          else uniqueCNAMETargetLoop owner rest next

def uniqueCNAMETarget (answer : List RR) (owner : Name) : Name × Bool :=
  uniqueCNAMETargetLoop owner answer Text.empty

/-- The names visited so far, each in lower case. -/
abbrev NameSet := List Name

def NameSet.contains (visited : NameSet) (name : Name) : Bool :=
  List.contains visited name.toLower

def NameSet.add (visited : NameSet) (name : Name) : NameSet := name.toLower :: visited

/-- The unbounded loop of `canonicalName`, cut off after a number of rounds. -/
def canonicalNameLoop (answer : List RR) : Nat → NameSet → Name → Go (Name × Bool)
  | 0, _, _ => .error .diverges
  | rounds + 1, visited, name =>
      if visited.contains name then .ok (name, false)
      else
        match uniqueCNAMETarget answer name with
        | (_, false) => .ok (name, false)
        | (target, true) =>
            if target = Text.empty then .ok (name, true)
            else canonicalNameLoop answer rounds (visited.add name) target

/-- The rounds allowed here are never used up: see `canonicalName_returns`. -/
def canonicalName (answer : List RR) (name : Name) : Go (Name × Bool) :=
  canonicalNameLoop answer (answer.length + 2) [] name

def answersAt (answer : List RR) (qtype : UInt16) (name : Name) : Bool :=
  answer.any fun rr => rr.rrtype == qtype && rr.name.equalFold name

/-- The name whose records are looked for: that of the question, or for types
other than CNAME the end of its chain. -/
def terminalName (answer : List RR) (q : Question) : Go (Name × Bool) :=
  if q.qtype ≠ typeCNAME then canonicalName answer q.name else .ok (q.name, true)

def isNODATA (m : Msg) : Go Bool :=
  if m.answer.length = 0 then .ok false
  else do
    let q ← index m.question 0
    if q.qtype = typeANY then .ok false
    else do
      let (name, ok) ← terminalName m.answer q
      if !ok then .ok true else .ok (!answersAt m.answer q.qtype name)

/-- `t == response.NoError && !hasSOA(m) && isNODATA(m)`. -/
def lacksAnswer (m : Msg) (t : ResponseType) : Go Bool :=
  if t = .noError ∧ hasSOA m = false then isNODATA m else .ok false

def cacheable (m : Msg) (t : ResponseType) : Go Bool :=
  if m.question.length ≠ 1 then .ok false
  else if m.truncated then .ok false
  else if t = .nameError ∧ hasSOA m = false then .ok false
  else do
    let nodata ← lacksAnswer m t
    if nodata then .ok false
    else if t = .otherError ∨ t = .metaMsg ∨ t = .update then .ok false
    else .ok true

/-- A target that the scan returns is the one it started from or that of a CNAME. -/
theorem uniqueCNAMETargetLoop_mem (owner : Name) (answer : List RR) (start target : Name)
    (found : uniqueCNAMETargetLoop owner answer start = (target, true)) :
    target = start ∨ target ∈ answer.filterMap RR.cname? := by
  induction answer generalizing start with
  | nil =>
      simp only [uniqueCNAMETargetLoop, Prod.mk.injEq, and_true] at found
      exact Or.inl found.symm
  | cons rr rest ih =>
      rw [uniqueCNAMETargetLoop] at found
      split at found
      · rename_i plain
        rcases ih start found with same | member
        · exact Or.inl same
        · exact Or.inr (by simpa only [List.filterMap_cons, plain] using member)
      · rename_i next pointed
        split at found
        · rcases ih start found with same | member
          · exact Or.inl same
          · exact Or.inr (by simp [pointed, member])
        · split at found
          · cases found
          · rcases ih next found with same | member
            · exact Or.inr (by simp [pointed, same])
            · exact Or.inr (by simp [pointed, member])

theorem uniqueCNAMETarget_mem (answer : List RR) (owner target : Name)
    (found : uniqueCNAMETarget answer owner = (target, true))
    (present : target ≠ Text.empty) : target ∈ answer.filterMap RR.cname? :=
  (uniqueCNAMETargetLoop_mem owner answer Text.empty target found).resolve_left present

/-- One round of `canonicalName`, behind the check of the visited names. -/
def nextName (answer : List RR) (name : Name) : Walk.Step Name :=
  match uniqueCNAMETarget answer name with
  | (_, false) => .stuck
  | (target, true) => if target = Text.empty then .halt else .go target

/-- The loop is a walk along the CNAME records. -/
theorem canonicalNameLoop_eq (answer : List RR) (rounds : Nat) (visited : NameSet) (name : Name) :
    canonicalNameLoop answer rounds visited name =
      match Walk.walk Text.toLower (nextName answer) rounds visited name with
      | some result => .ok result
      | none => .error .diverges := by
  induction rounds generalizing visited name with
  | zero => rfl
  | succ rounds ih =>
      have seen : visited.contains name = true ↔ name.toLower ∈ visited := List.contains_iff_mem
      by_cases again : name.toLower ∈ visited
      · rw [canonicalNameLoop, if_pos (seen.mpr again), Walk.walk, if_pos again]
      · rw [canonicalNameLoop, if_neg (mt seen.mp again), Walk.walk, if_neg again, nextName]
        split
        · rfl
        · rename_i target found
          by_cases blank : target = Text.empty
          · simp only [blank, ↓reduceIte]
          · simp only [blank, ↓reduceIte]
            exact ih (visited.add name) target

/-- The names that a walk from a given name can come to, in lower case: that name and
all targets. -/
def chainNames (answer : List RR) (name : Name) : List Name :=
  name.toLower :: (answer.filterMap RR.cname?).map Text.toLower

theorem nextName_mem {answer : List RR} {owner target : Name}
    (moved : nextName answer owner = .go target) (name : Name) :
    target.toLower ∈ chainNames answer name := by
  unfold nextName at moved
  split at moved
  · cases moved
  · rename_i found
    split at moved
    · cases moved
    · rename_i present
      cases moved
      exact List.mem_cons_of_mem _ (List.mem_map_of_mem
        (uniqueCNAMETarget_mem answer owner target found present))

/-- Every round but the last visits a new one of the names, so their number bounds the
rounds that do not return. -/
theorem canonicalNameLoop_rounds (answer : List RR) (name : Name) :
    ∃ k visited last result, k ≤ (chainNames answer name).dedup.length ∧
      Walk.Passes Text.toLower (nextName answer) k [] name visited last ∧
      (last.toLower ∈ visited → result = (last, false)) ∧
      ∀ rounds, canonicalNameLoop answer rounds [] name =
        if k < rounds then .ok result else .error .diverges := by
  obtain ⟨result, walked⟩ := Walk.walk_returns Text.toLower (nextName answer)
    (chainNames answer name).dedup
    (fun _ _ moved => List.mem_dedup.mpr (nextName_mem moved name))
    ((chainNames answer name).dedup.length + 1) [] name List.nodup_nil (List.nil_subset _)
    (List.mem_dedup.mpr List.mem_cons_self) (by
      rw [List.length_nil]
      omega)
  obtain ⟨k, visited, last, inside, passed, repeated, exactly⟩ :=
    Walk.walk_passes Text.toLower (nextName answer) walked
  refine ⟨k, visited, last, result, by omega, passed, repeated, ?_⟩
  intro rounds
  rw [canonicalNameLoop_eq, exactly rounds]
  by_cases enough : k < rounds
  · rw [if_pos enough, if_pos enough]
  · rw [if_neg enough, if_neg enough]

theorem chainNames_dedup_le (answer : List RR) (name : Name) :
    (chainNames answer name).dedup.length ≤ answer.length + 1 := by
  have distinct := (List.dedup_sublist (chainNames answer name)).length_le
  have targets := List.length_filterMap_le RR.cname? answer
  rw [chainNames, List.length_cons, List.length_map] at distinct
  rw [chainNames]
  omega

theorem canonicalName_returns (answer : List RR) (name : Name) :
    ∃ result, canonicalName answer name = .ok result := by
  obtain ⟨k, _, _, result, bound, _, _, exactly⟩ := canonicalNameLoop_rounds answer name
  have small := chainNames_dedup_le answer name
  refine ⟨result, ?_⟩
  rw [canonicalName, exactly, if_pos (by omega)]

/-- The loop of `canonicalName` returns in one round more than those it passes, of
which there are at most as many as names that it can come to. Where the last name was
visited before, it fails. -/
theorem canonicalName_ends (answer : List RR) (name : Name) :
    ∃ k visited last result, k + 1 ≤ (chainNames answer name).dedup.length + 1 ∧
      Walk.Passes Text.toLower (nextName answer) k [] name visited last ∧
      (∀ rounds, canonicalNameLoop answer rounds [] name =
        if k + 1 ≤ rounds then .ok result else .error .diverges) ∧
      canonicalName answer name = .ok result ∧
      (last.toLower ∈ visited → result = (last, false)) := by
  obtain ⟨k, visited, last, result, bound, passed, repeated, exactly⟩ :=
    canonicalNameLoop_rounds answer name
  have small := chainNames_dedup_le answer name
  refine ⟨k, visited, last, result, by omega, passed, exactly, ?_, repeated⟩
  rw [canonicalName, exactly, if_pos (by omega)]

theorem terminalName_returns (answer : List RR) (q : Question) :
    ∃ result, terminalName answer q = .ok result := by
  unfold terminalName
  split
  · exact canonicalName_returns answer q.name
  · exact ⟨_, rfl⟩

theorem isNODATA_returns (m : Msg) (single : m.question.length = 1) :
    ∃ verdict, isNODATA m = .ok verdict := by
  obtain ⟨q, only⟩ := List.length_eq_one_iff.mp single
  obtain ⟨⟨terminal, ok⟩, walked⟩ := terminalName_returns m.answer q
  unfold isNODATA
  split
  · exact ⟨_, rfl⟩
  · simp only [only, index_cons_zero, bind, Except.bind]
    split
    · exact ⟨_, rfl⟩
    · rw [walked]
      dsimp only
      split <;> exact ⟨_, rfl⟩

theorem lacksAnswer_returns (m : Msg) (t : ResponseType) (single : m.question.length = 1) :
    ∃ verdict, lacksAnswer m t = .ok verdict := by
  unfold lacksAnswer
  split
  · exact isNODATA_returns m single
  · exact ⟨_, rfl⟩

/-- The question is indexed only behind the check that there is exactly one. -/
theorem cacheable_returns (m : Msg) (t : ResponseType) :
    ∃ verdict, cacheable m t = .ok verdict := by
  unfold cacheable
  split
  · exact ⟨_, rfl⟩
  · rename_i single
    obtain ⟨nodata, decided⟩ := lacksAnswer_returns m t (by simpa using single)
    split
    · exact ⟨_, rfl⟩
    · split
      · exact ⟨_, rfl⟩
      · simp only [decided, bind, Except.bind]
        split
        · exact ⟨_, rfl⟩
        · split <;> exact ⟨_, rfl⟩

/-- A verdict in favour needs every check to pass. -/
theorem cacheable_true_iff {m : Msg} {t : ResponseType} :
    cacheable m t = .ok true ↔ m.question.length = 1 ∧ m.truncated = false ∧
      ¬ (t = .nameError ∧ hasSOA m = false) ∧ lacksAnswer m t = .ok false ∧
      t ≠ .otherError ∧ t ≠ .metaMsg ∧ t ≠ .update := by
  by_cases single : m.question.length = 1
  · obtain ⟨nodata, decided⟩ := lacksAnswer_returns m t single
    by_cases whole : m.truncated = false
    · by_cases denied : t = .nameError ∧ hasSOA m = false
      · simp [cacheable, single, whole, denied]
      · cases nodata with
        | true => simp [cacheable, single, whole, denied, decided, bind, Except.bind]
        | false => simp [cacheable, single, whole, denied, decided, bind, Except.bind, not_or]
    · simp [cacheable, single, whole]
  · simp [cacheable, single]

/-- What a verdict in favour says about the reply. -/
theorem cacheable_true {m : Msg} {t : ResponseType} (accepted : cacheable m t = .ok true) :
    m.question.length = 1 ∧ m.truncated = false ∧
      t ≠ .otherError ∧ t ≠ .metaMsg ∧ t ≠ .update := by
  obtain ⟨single, whole, _, _, kind⟩ := cacheable_true_iff.mp accepted
  exact ⟨single, whole, kind⟩

/-- Server failures are not on the list of refused types. -/
theorem cacheable_serverError (m : Msg) :
    cacheable m .serverError = .ok (decide (m.question.length = 1 ∧ m.truncated = false)) := by
  by_cases single : m.question.length = 1 <;> by_cases whole : m.truncated = false <;>
    simp [cacheable, lacksAnswer, single, whole, bind, Except.bind]

end RedisCache
