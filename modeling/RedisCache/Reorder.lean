import RedisCache.Checked

set_option autoImplicit false

/- Folds whose steps may be exchanged, unless they are of one kind. -/

namespace Reorder

open Checked

variable {ε α β κ : Type} (step : β → α → Except ε β)

/-- Wherever the two steps succeed in this order, they do so in the other, and lead to
the same. -/
def Commute (first second : α) : Prop :=
  ∀ start middle result, step start first = .ok middle → step middle second = .ok result →
    ∃ other, step start second = .ok other ∧ step other first = .ok result

variable {step}

theorem foldlM_cons_ok {item : α} {rest : List α} {start result : β} :
    (item :: rest).foldlM step start = .ok result ↔
      ∃ next, step start item = .ok next ∧ rest.foldlM step next = .ok result := by
  rw [List.foldlM_cons]
  constructor
  · exact bind_ok
  · rintro ⟨next, first, later⟩
    rw [first]
    exact later

/-- An item moves to the front past all items that it commutes with. -/
theorem foldlM_to_front {item : α} {before after : List α} {start result : β}
    (commute : ∀ other ∈ before, Commute step other item)
    (ran : (before ++ item :: after).foldlM step start = .ok result) :
    (item :: (before ++ after)).foldlM step start = .ok result := by
  induction before generalizing start with
  | nil => exact ran
  | cons other rest ih =>
      obtain ⟨next, first, later⟩ := foldlM_cons_ok.mp ran
      have front := ih (fun b member => commute b (List.mem_cons_of_mem _ member)) later
      obtain ⟨third, second, tail⟩ := foldlM_cons_ok.mp front
      obtain ⟨swapped, now, behind⟩ := commute other List.mem_cons_self _ _ _ first second
      exact foldlM_cons_ok.mpr ⟨swapped, now, foldlM_cons_ok.mpr ⟨third, behind, tail⟩⟩

variable [DecidableEq κ] {kind : α → κ}

theorem eq_nil_of_filters (kind : α → κ) {items : List α}
    (none : ∀ k, items.filter (fun item => kind item = k) = []) : items = [] := by
  cases items with
  | nil => rfl
  | cons item rest =>
      have absent := List.filter_eq_nil_iff.mp (none (kind item)) item List.mem_cons_self
      simp at absent

/-- A fold depends on the items of each kind in their order, and on nothing else. -/
theorem foldlM_of_filters
    (commute : ∀ first second, kind first ≠ kind second → Commute step first second)
    {items others : List α} {start result : β}
    (same : ∀ k, items.filter (fun item => kind item = k) =
      others.filter (fun item => kind item = k))
    (ran : others.foldlM step start = .ok result) : items.foldlM step start = .ok result := by
  induction items generalizing others start with
  | nil =>
      have empty : others = [] := eq_nil_of_filters kind fun k => (same k).symm
      rw [empty] at ran
      exact ran
  | cons item rest ih =>
      have own := same (kind item)
      rw [List.filter_cons_of_pos (by simp)] at own
      obtain ⟨before, after, rfl, others, _, _⟩ := List.filter_eq_cons_iff.mp own.symm
      have apart : ∀ other ∈ before, Commute step other item := by
        intro other member
        apply commute
        simpa using others other member
      obtain ⟨next, first, later⟩ := foldlM_cons_ok.mp (foldlM_to_front apart ran)
      refine foldlM_cons_ok.mpr ⟨next, first, ih ?_ later⟩
      intro k
      have all := same k
      rw [List.filter_append] at all ⊢
      by_cases mine : kind item = k
      · subst mine
        have none : before.filter (fun other => kind other = kind item) = [] := by
          rw [List.filter_eq_nil_iff]
          exact others
        rw [none] at all ⊢
        simpa using all
      · rw [List.filter_cons_of_neg (by simpa using mine),
          List.filter_cons_of_neg (by simpa using mine)] at all
        exact all

end Reorder
