import Mathlib.Data.List.Basic

set_option autoImplicit false

/- Runs of a system whose steps are a partial function of a state and a label. -/

namespace Transition

variable {σ α : Type} (step : σ → α → Option σ)

def run : σ → List α → Option σ
  | s, [] => some s
  | s, a :: rest => (step s a).bind fun next => run next rest

theorem run_cons {s t : σ} {a : α} {rest : List α} :
    run step s (a :: rest) = some t ↔ ∃ next, step s a = some next ∧ run step next rest = some t := by
  rw [run, Option.bind_eq_some_iff]

theorem run_append {s t : σ} {first rest : List α} :
    run step s (first ++ rest) = some t ↔
      ∃ middle, run step s first = some middle ∧ run step middle rest = some t := by
  induction first generalizing s with
  | nil => simp [run]
  | cons a later ih =>
      rw [List.cons_append, run_cons]
      constructor
      · rintro ⟨next, stepped, ran⟩
        obtain ⟨middle, reached, ran⟩ := ih.mp ran
        exact ⟨middle, (run_cons step).mpr ⟨next, stepped, reached⟩, ran⟩
      · rintro ⟨middle, reached, ran⟩
        obtain ⟨next, stepped, reached⟩ := (run_cons step).mp reached
        exact ⟨next, stepped, ih.mpr ⟨middle, reached, ran⟩⟩

/-- A closed run is evaluated once, and this is what the evaluation shows. -/
theorem exists_of_any {reached : Option σ} {fact : σ → Prop} [DecidablePred fact]
    (computed : (reached.any fun s => decide (fact s)) = true) : ∃ s, reached = some s ∧ fact s := by
  rw [Option.any_eq_true] at computed
  obtain ⟨s, ended, holds⟩ := computed
  exact ⟨s, ended, of_decide_eq_true holds⟩

theorem run_invariant_from (inv : List α → σ → Prop)
    (kept : ∀ past s a t, inv past s → step s a = some t → inv (past ++ [a]) t)
    {past acts : List α} {s t : σ} (holds : inv past s) (ran : run step s acts = some t) :
    inv (past ++ acts) t := by
  induction acts generalizing past s with
  | nil =>
      cases ran
      rw [List.append_nil]
      exact holds
  | cons a rest ih =>
      obtain ⟨next, stepped, later⟩ := (run_cons step).mp ran
      have whole := ih (kept past s a next holds stepped) later
      rwa [List.append_assoc] at whole

/-- What holds at the start and is kept by every step holds at the end. The
invariant may speak of the labels so far. -/
theorem run_invariant (inv : List α → σ → Prop)
    (kept : ∀ past s a t, inv past s → step s a = some t → inv (past ++ [a]) t)
    {acts : List α} {s t : σ} (holds : inv [] s) (ran : run step s acts = some t) : inv acts t :=
  run_invariant_from step inv kept holds ran

/-- The same, where a step may use how its state was reached. -/
theorem run_invariant_reached {start : σ} (inv : List α → σ → Prop)
    (kept : ∀ past s a t, run step start past = some s → inv past s → step s a = some t →
      inv (past ++ [a]) t)
    {acts : List α} {t : σ} (holds : inv [] start) (ran : run step start acts = some t) :
    inv acts t := by
  have both := run_invariant step (fun past s => run step start past = some s ∧ inv past s)
    (fun past s a t valid stepped =>
      ⟨(run_append step).mpr ⟨s, valid.1, (run_cons step).mpr ⟨t, stepped, rfl⟩⟩,
        kept past s a t valid.1 valid.2 stepped⟩)
    ⟨rfl, holds⟩ ran
  exact both.2

/-- Somewhere in a run a step is taken from the given state, and the rest follows. -/
def Taken (start : σ) (acts : List α) (a : α) (s : σ) (rest : List α) : Prop :=
  ∃ past, acts = past ++ a :: rest ∧ run step start past = some s

theorem taken_last {start s : σ} {past : List α} (ran : run step start past = some s) (a : α) :
    Taken step start (past ++ [a]) a s [] :=
  ⟨past, rfl, ran⟩

variable {step}

theorem Taken.append {start s : σ} {acts rest : List α} {a : α}
    (taken : Taken step start acts a s rest) (b : α) :
    Taken step start (acts ++ [b]) a s (rest ++ [b]) := by
  obtain ⟨past, rfl, ran⟩ := taken
  exact ⟨past, by rw [List.append_assoc, List.cons_append], ran⟩

theorem Taken.run {start s t : σ} {acts rest : List α} {a : α}
    (taken : Taken step start acts a s rest) (ran : run step start acts = some t) :
    ∃ next, step s a = some next ∧ Transition.run step next rest = some t := by
  obtain ⟨past, rfl, reached⟩ := taken
  obtain ⟨middle, before, after⟩ := (run_append step).mp ran
  rw [reached] at before
  cases before
  exact (run_cons step).mp after

section Projection

/-- The conditions under which hidden labels do not show: a projection of the state that no
hidden label moves and in which every shown label does what it does in the whole. -/
structure Unwinds (step : σ → α → Option σ) (inv : σ → Prop) (legal : α → Prop)
    (shown : α → Bool) (project : σ → σ) : Prop where
  kept : ∀ s a t, inv s → legal a → step s a = some t → inv t
  quiet : ∀ s a t, inv s → legal a → shown a = false → step s a = some t → project t = project s
  follows : ∀ s a t, inv s → legal a → shown a = true → step s a = some t →
    step (project s) a = some (project t)

/-- What is observed of the shown labels, each in the state it is taken from. -/
def trace {β : Type} (step : σ → α → Option σ) (shown : α → Bool) (observe : σ → α → β) :
    σ → List α → List β
  | _, [] => []
  | s, a :: rest =>
      (if shown a then [observe s a] else []) ++
        ((step s a).map fun next => trace step shown observe next rest).getD []

variable {inv : σ → Prop} {legal : α → Prop} {shown : α → Bool} {project : σ → σ} {β : Type}
  {observe : σ → α → β}

theorem trace_cons {s next : σ} {a : α} (stepped : step s a = some next) (rest : List α) :
    trace step shown observe s (a :: rest) =
      (if shown a then [observe s a] else []) ++ trace step shown observe next rest := by
  rw [trace, stepped]
  rfl

/-- The projection of a run is the run of its shown labels alone, and what is observed of
them is the same there. -/
theorem Unwinds.run (unwinds : Unwinds step inv legal shown project)
    (confined : ∀ s a, shown a = true → observe (project s) a = observe s a) {acts : List α}
    {s t : σ} (holds : inv s) (allowed : ∀ a ∈ acts, legal a)
    (ran : Transition.run step s acts = some t) :
    Transition.run step (project s) (acts.filter shown) = some (project t) ∧
      trace step shown observe (project s) (acts.filter shown) =
        trace step shown observe s acts := by
  induction acts generalizing s with
  | nil =>
      cases ran
      exact ⟨rfl, rfl⟩
  | cons a rest ih =>
      obtain ⟨next, stepped, later⟩ := (run_cons step).mp ran
      have first := allowed a List.mem_cons_self
      obtain ⟨remaining, traced⟩ := ih (unwinds.kept s a next holds first stepped)
        (fun b member => allowed b (List.mem_cons_of_mem a member)) later
      rw [trace_cons stepped]
      cases visible : shown a with
      | false =>
          rw [List.filter_cons_of_neg (by simp [visible]),
            ← unwinds.quiet s a next holds first visible stepped]
          exact ⟨remaining, traced⟩
      | true =>
          have followed := unwinds.follows s a next holds first visible stepped
          rw [List.filter_cons_of_pos visible, trace_cons followed, visible, traced,
            confined s a visible]
          exact ⟨(run_cons step).mpr ⟨_, followed, remaining⟩, rfl⟩

/-- Where a label can be told from what is observed of it, a trace has one run. -/
theorem run_determined
    (decides : ∀ s a b t u, shown a = true → shown b = true → step s a = some t →
      step s b = some u → observe s a = observe s b → a = b)
    {left right : List α} {s t u : σ} (shownLeft : ∀ a ∈ left, shown a = true)
    (shownRight : ∀ a ∈ right, shown a = true) (ranLeft : run step s left = some t)
    (ranRight : run step s right = some u)
    (same : trace step shown observe s left = trace step shown observe s right) :
    left = right := by
  induction left generalizing right s with
  | nil =>
      cases right with
      | nil => rfl
      | cons b later =>
          obtain ⟨_, stepped, _⟩ := (run_cons step).mp ranRight
          rw [trace_cons stepped, if_pos (shownRight b List.mem_cons_self)] at same
          cases same
  | cons a rest ih =>
      obtain ⟨next, stepped, ranRest⟩ := (run_cons step).mp ranLeft
      rw [trace_cons stepped, if_pos (shownLeft a List.mem_cons_self)] at same
      cases right with
      | nil => cases same
      | cons b later =>
          obtain ⟨other, steppedToo, ranLater⟩ := (run_cons step).mp ranRight
          rw [trace_cons steppedToo, if_pos (shownRight b List.mem_cons_self)] at same
          obtain ⟨observed, traced⟩ := List.cons.inj same
          obtain rfl := decides s a b next other (shownLeft a List.mem_cons_self)
            (shownRight b List.mem_cons_self) stepped steppedToo observed
          rw [stepped] at steppedToo
          cases steppedToo
          rw [ih (fun c member => shownLeft c (List.mem_cons_of_mem a member))
            (fun c member => shownRight c (List.mem_cons_of_mem a member)) ranRest ranLater traced]

/-- Noninterference: two runs whose projections start alike and of whose shown labels the
same is observed have the same shown labels, and their projections end alike. -/
theorem Unwinds.noninterference (unwinds : Unwinds step inv legal shown project)
    (confined : ∀ s a, shown a = true → observe (project s) a = observe s a)
    (decides : ∀ s a b t u, shown a = true → shown b = true → step s a = some t →
      step s b = some u → observe s a = observe s b → a = b)
    {left right : List α} {s s' t u : σ} (holds : inv s) (holds' : inv s')
    (start : project s = project s') (allowed : ∀ a ∈ left, legal a)
    (allowed' : ∀ a ∈ right, legal a) (ranLeft : Transition.run step s left = some t)
    (ranRight : Transition.run step s' right = some u)
    (same : trace step shown observe s left = trace step shown observe s' right) :
    left.filter shown = right.filter shown ∧ project t = project u := by
  obtain ⟨runLeft, traceLeft⟩ := unwinds.run confined holds allowed ranLeft
  obtain ⟨runRight, traceRight⟩ := unwinds.run confined holds' allowed' ranRight
  rw [← start] at runRight traceRight
  have labels : left.filter shown = right.filter shown :=
    run_determined decides (fun a member => (List.mem_filter.mp member).2)
      (fun a member => (List.mem_filter.mp member).2) runLeft runRight
      (by rw [traceLeft, same, traceRight])
  rw [labels, runRight] at runLeft
  exact ⟨labels, (Option.some.inj runLeft).symm⟩

end Projection

variable (step)

/-- Forward simulation: where every step is matched by the steps of its image, a run is
matched by the run of all images. A label with an empty image is a stutter. -/
theorem run_simulates {τ β : Type} (abstract : τ → β → Option τ) (image : α → List β)
    (legal : α → Prop) (related : σ → τ → Prop)
    (follows : ∀ s a t u, related s u → legal a → step s a = some t →
      ∃ v, run abstract u (image a) = some v ∧ related t v)
    {acts : List α} {s t : σ} {u : τ} (holds : related s u) (allowed : ∀ a ∈ acts, legal a)
    (ran : run step s acts = some t) :
    ∃ v, run abstract u (acts.flatMap image) = some v ∧ related t v := by
  induction acts generalizing s u with
  | nil =>
      cases ran
      exact ⟨u, rfl, holds⟩
  | cons a rest ih =>
      obtain ⟨next, stepped, later⟩ := (run_cons step).mp ran
      obtain ⟨middle, first, kept⟩ := follows s a next u holds (allowed a List.mem_cons_self) stepped
      obtain ⟨v, second, last⟩ := ih kept
        (fun b member => allowed b (List.mem_cons_of_mem a member)) later
      refine ⟨v, ?_, last⟩
      rw [List.flatMap_cons, run_append]
      exact ⟨middle, first, second⟩

end Transition
