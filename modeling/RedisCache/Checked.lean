import Mathlib.Data.List.Basic
import Mathlib.Data.List.Forall2

set_option autoImplicit false

/- Rules for computations that may stop with an error. -/

namespace Checked

variable {ε α β : Type}

theorem map_ok {first : Except ε α} {f : α → β} {result : β}
    (ran : first.map f = .ok result) : ∃ value, first = .ok value ∧ f value = result := by
  cases first with
  | error e => cases ran
  | ok value => exact ⟨value, rfl, Except.ok.inj ran⟩

theorem map_map_of {γ : Type} (first : Except ε α) {f : α → γ} {g : α → β} {h : β → γ}
    (same : ∀ value, f value = h (g value)) : first.map f = (first.map g).map h := by
  cases first with
  | error e => rfl
  | ok value => exact congrArg Except.ok (same value)

theorem bind_ok {first : Except ε α} {next : α → Except ε β} {result : β}
    (ran : first >>= next = .ok result) :
    ∃ value, first = .ok value ∧ next value = .ok result := by
  cases first with
  | error e => cases ran
  | ok value => exact ⟨value, rfl, ran⟩

/-- What every successful step of a fold keeps, of the items behind it and the
value it has reached, holds at the end. -/
theorem foldlM_history_from (step : β → α → Except ε β) (inv : List α → β → Prop)
    (kept : ∀ past before item after, inv past before → step before item = .ok after →
      inv (past ++ [item]) after)
    (items past : List α) (start result : β) (holds : inv past start)
    (ran : items.foldlM step start = .ok result) : inv (past ++ items) result := by
  induction items generalizing past start with
  | nil =>
      simp only [List.foldlM_nil] at ran
      cases ran
      rw [List.append_nil]
      exact holds
  | cons item rest ih =>
      rw [List.foldlM_cons] at ran
      obtain ⟨next, first, later⟩ := bind_ok ran
      have whole := ih (past ++ [item]) next (kept past start item next holds first) later
      rwa [List.append_assoc, List.singleton_append] at whole

theorem foldlM_history (step : β → α → Except ε β) (inv : List α → β → Prop)
    (kept : ∀ past before item after, inv past before → step before item = .ok after →
      inv (past ++ [item]) after)
    {items : List α} {start result : β} (holds : inv [] start)
    (ran : items.foldlM step start = .ok result) : inv items result :=
  foldlM_history_from step inv kept items [] start result holds ran

theorem foldlM_invariant (step : β → α → Except ε β) (inv : β → Prop)
    (kept : ∀ before item after, inv before → step before item = .ok after → inv after)
    (items : List α) (start result : β) (holds : inv start)
    (ran : items.foldlM step start = .ok result) : inv result :=
  foldlM_history step (fun _ => inv) (fun _ => kept) holds ran

/-- A map succeeds where it does so on every item, with the results in order. -/
theorem mapM_ok_iff (f : α → Except ε β) (items : List α) (results : List β) :
    items.mapM f = .ok results ↔
      List.Forall₂ (fun item result => f item = .ok result) items results := by
  induction items generalizing results with
  | nil =>
      rw [List.mapM_nil, List.forall₂_nil_left_iff]
      constructor
      · intro ran
        cases ran
        rfl
      · intro empty
        rw [empty]
        rfl
  | cons item rest ih =>
      rw [List.mapM_cons]
      constructor
      · intro ran
        obtain ⟨result, first, ran⟩ := bind_ok ran
        obtain ⟨later, mapped, ran⟩ := bind_ok ran
        cases ran
        exact .cons first ((ih later).mp mapped)
      · intro pointwise
        cases pointwise with
        | cons first later =>
            rw [first, (ih _).mpr later]
            rfl

end Checked
