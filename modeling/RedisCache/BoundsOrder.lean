import RedisCache.TtlLaw

set_option autoImplicit false

/- The floor and the ceiling of a block that gives its bounds more than once. Every
directive compares its own two arguments, and the fields outlive the directive. -/

namespace RedisCache

/-- A maximum and a minimum behind a list of directives. -/
def settle (start : Int × Int) (given : List (Int × Option Int)) : Int × Int :=
  given.foldl (fun old bounds => overwrite old (some bounds)) start

theorem settle_snoc (start : Int × Int) (given : List (Int × Option Int))
    (last : Int × Option Int) :
    settle start (given ++ [last]) = (last.1, last.2.getD (settle start given).2) := by
  rw [settle, List.foldl_append]
  rfl

/-- The last directive gives a maximum alone, below the minimum that is in force. -/
def Undercut (given : List (Int × Option Int)) : Prop :=
  ∃ before high floor middle cap,
    given = before ++ (high, some floor) :: (middle ++ [(cap, none)]) ∧
      (∀ bounds ∈ middle, bounds.2 = none) ∧ cap < floor

/-- The arguments of one directive, in the order that it checks. -/
def InOrder (bounds : Int × Option Int) : Prop :=
  0 < bounds.1 ∧ ∀ floor, bounds.2 = some floor → floor ≤ bounds.1

section Settle

variable {start : Int × Int} {given before middle : List (Int × Option Int)}

/-- Directives without a minimum leave it alone. -/
theorem settle_quiet (quiet : ∀ bounds ∈ given, bounds.2 = none) :
    (settle start given).2 = start.2 := by
  induction given using List.reverseRecOn with
  | nil => rfl
  | append_singleton given last ih =>
      have single : last.2 = none := quiet last (by simp)
      rw [settle_snoc, single]
      exact ih fun bounds member => quiet bounds (by simp [member])

theorem settle_of_split {high floor : Int} (quiet : ∀ bounds ∈ middle, bounds.2 = none) :
    (settle start (before ++ (high, some floor) :: middle)).2 = floor := by
  rw [settle, List.foldl_append, List.foldl_cons]
  exact settle_quiet quiet

/-- The minimum in force was given by the last directive that has one. -/
theorem settle_floor (start : Int × Int) (given : List (Int × Option Int)) :
    (∀ bounds ∈ given, bounds.2 = none) ∨ ∃ before high floor middle,
      given = before ++ (high, some floor) :: middle ∧ (∀ bounds ∈ middle, bounds.2 = none) ∧
        (settle start given).2 = floor := by
  induction given using List.reverseRecOn with
  | nil => exact Or.inl (by simp)
  | append_singleton given last ih =>
      obtain ⟨high, low⟩ := last
      cases low with
      | some floor =>
          refine Or.inr ⟨given, high, floor, [], rfl, by simp, ?_⟩
          rw [settle_snoc]
          rfl
      | none =>
          rcases ih with quiet | ⟨before, top, floor, middle, rfl, quiet, settled⟩
          · refine Or.inl ?_
            intro bounds member
            rcases List.mem_append.mp member with earlier | here
            · exact quiet bounds earlier
            · rw [List.mem_singleton.mp here]
          · refine Or.inr ⟨before, top, floor, middle ++ [(high, none)], by simp, ?_, ?_⟩
            · intro bounds member
              rcases List.mem_append.mp member with earlier | here
              · exact quiet bounds earlier
              · rw [List.mem_singleton.mp here]
            · rw [settle_snoc]
              exact settled

/-- A maximum alone undercuts exactly if it is below the minimum in force. -/
theorem undercut_snoc_iff (zero : start.2 = 0) {cap : Int} (positive : 0 < cap) :
    Undercut (given ++ [(cap, none)]) ↔ cap < (settle start given).2 := by
  constructor
  · rintro ⟨before, high, floor, middle, last, shape, quiet, below⟩
    have parts : given = before ++ (high, some floor) :: middle ∧ cap = last := by
      have same : given ++ [(cap, none)] =
          (before ++ (high, some floor) :: middle) ++ [(last, none)] := by simp [shape]
      obtain ⟨front, back⟩ := List.append_inj' same rfl
      exact ⟨front, by simpa using back⟩
    rw [parts.1, settle_of_split quiet, parts.2]
    exact below
  · intro below
    rcases settle_floor start given with quiet | ⟨before, high, floor, middle, shape, quiet, same⟩
    · rw [settle_quiet quiet, zero] at below
      omega
    · refine ⟨before, high, floor, middle, cap, by simp [shape], quiet, ?_⟩
      rw [← same]
      exact below

/-- The bounds are in order behind a list of directives, each of which has its own in
order, unless the last one undercuts the minimum. -/
theorem settle_ordered_iff (start : Int × Int) (zero : start.2 = 0) (upper : 0 < start.1)
    (valid : ∀ bounds ∈ given, InOrder bounds) :
    (settle start given).2 ≤ (settle start given).1 ↔ ¬ Undercut given := by
  rcases List.eq_nil_or_concat' given with rfl | ⟨earlier, ⟨high, low⟩, rfl⟩
  · have ordered : (settle start []).2 ≤ (settle start []).1 := by
      show start.2 ≤ start.1
      omega
    simp [ordered, Undercut]
  · obtain ⟨positive, below⟩ := valid (high, low) (by simp)
    rw [settle_snoc]
    cases low with
    | some floor =>
        have ordered : floor ≤ high := below floor rfl
        refine ⟨fun _ => ?_, fun _ => ordered⟩
        rintro ⟨before, top, bottom, middle, cap, shape, _, _⟩
        have same : earlier ++ [(high, some floor)] =
            (before ++ (top, some bottom) :: middle) ++ [(cap, none)] := by simp [shape]
        obtain ⟨_, back⟩ := List.append_inj' same rfl
        simp at back
    | none =>
        rw [undercut_snoc_iff zero positive]
        show (settle start earlier).2 ≤ high ↔ _
        omega

end Settle

/-- The bounds that all `success` directives of a block give, in order. -/
def successes (std : Std) (directives : List Directive) : List (Int × Option Int) :=
  directives.filterMap (Directive.successBounds std)

def denials (std : Std) (directives : List Directive) : List (Int × Option Int) :=
  directives.filterMap (Directive.denialBounds std)

theorem settle_filterMap_snoc (start : Int × Int)
    (boundsOf : Directive → Option (Int × Option Int)) (past : List Directive)
    (last : Directive) :
    settle start ((past ++ [last]).filterMap boundsOf) =
      overwrite (settle start (past.filterMap boundsOf)) (boundsOf last) := by
  rw [List.filterMap_append]
  cases found : boundsOf last with
  | none => simp [found, overwrite]
  | some bounds => simp [found, settle, List.foldl_append]

/-- The bounds of a configuration are those of its directives. -/
structure Settled (std : Std) (past : List Directive) (s : Settings) : Prop where
  positive : (s.pMaxTTL, s.pMinTTL) = settle (maxTTL, 0) (successes std past)
  negative : (s.nMaxTTL, s.nMinTTL) = settle (maxNTTL, 0) (denials std past)

theorem foldlM_settled {std : Std} {directives : List Directive} {re : Redis}
    (looped : directives.foldlM (parseDirective std) Redis.new = .ok re) :
    Settled std directives re.settings := by
  apply Checked.foldlM_history (parseDirective std)
    (fun past state => Settled std past state.settings) ?_ ⟨rfl, rfl⟩ looped
  intro past before directive after settled parsed
  have step := parseDirective_after parsed
  constructor
  · rw [step.positive, settled.positive, successes, successes, settle_filterMap_snoc]
  · rw [step.negative, settled.negative, denials, denials, settle_filterMap_snoc]

theorem inOrder_of_parseBounds {std : Std} {word : String} {args : List String}
    {bounds : Int × Option Int} (found : (parseBounds std word args).toOption = some bounds) :
    InOrder bounds := by
  cases parsed : parseBounds std word args with
  | error e =>
      rw [parsed] at found
      cases found
  | ok value =>
      rw [parsed] at found
      cases found
      obtain ⟨positive, _, below⟩ := parseBounds_ok parsed
      exact ⟨positive, fun floor same => (below floor same).2.2⟩

theorem successes_inOrder (std : Std) (directives : List Directive) :
    ∀ bounds ∈ successes std directives, InOrder bounds := by
  intro bounds member
  obtain ⟨directive, _, found⟩ := List.mem_filterMap.mp member
  cases directive with
  | success args => exact inOrder_of_parseBounds found
  | _ => cases found

theorem denials_inOrder (std : Std) (directives : List Directive) :
    ∀ bounds ∈ denials std directives, InOrder bounds := by
  intro bounds member
  obtain ⟨directive, _, found⟩ := List.mem_filterMap.mp member
  cases directive with
  | denial args => exact inOrder_of_parseBounds found
  | _ => cases found

/-- The invariant of the bounds, and what it is for. -/
structure Redis.BoundsInvariant (re : Redis) : Prop where
  bounds : re.TTLBounds
  positive : re.pMinTTL ≤ re.pMaxTTL
  negative : re.nMinTTL ≤ re.nMaxTTL
  clamped : ∀ mt msgTTL, clamp (re.maxDur mt) (re.minDur mt) msgTTL ≤ re.maxDur mt

theorem clamp_le {maxDur minDur : Int} (ordered : minDur ≤ maxDur) (msgTTL : Int) :
    clamp maxDur minDur msgTTL ≤ maxDur := by
  rw [clamp_eq]
  omega

/-- An accepted block has its bounds in order, unless its last `success` or its last
`denial` gives a maximum alone that is below the minimum in force. -/
theorem boundsInvariant_iff {std : Std} {block : Block} {re : Redis}
    (accepted : parse std (some block) = .ok (.ok (some re))) :
    re.BoundsInvariant ↔
      ¬ Undercut (successes std block.directives) ∧ ¬ Undercut (denials std block.directives) := by
  have bounds := accepted_bounds ⟨block, accepted⟩
  obtain ⟨base, zones, looped, _, rfl⟩ := parse_accepted accepted
  have settled := foldlM_settled looped
  rw [← settle_ordered_iff (maxTTL, 0) rfl (by decide) (successes_inOrder std _),
    ← settle_ordered_iff (maxNTTL, 0) rfl (by decide) (denials_inOrder std _),
    ← settled.positive, ← settled.negative]
  constructor
  · intro invariant
    exact ⟨invariant.positive, invariant.negative⟩
  · rintro ⟨positive, negative⟩
    refine ⟨bounds, positive, negative, ?_⟩
    intro mt msgTTL
    apply clamp_le
    unfold Redis.minDur Redis.maxDur
    split
    · exact negative
    · exact positive

/-- A floor of 50 s, and then a ceiling of 30 s. -/
def undercutBlock : Block := ⟨["."], [], [.success ["100", "50"], .success ["30"]], false⟩

def undercutConfig : Redis :=
  { Redis.new with pMaxTTL := 30 * second, pMinTTL := 50 * second }

/-- Every positive reply is stored for longer than the ceiling. -/
theorem undercutBlock_exceeds_maximum :
    parse plainStd (some undercutBlock) = .ok (.ok (some undercutConfig)) ∧
      undercutConfig.pMaxTTL < undercutConfig.pMinTTL ∧
      (∀ msgTTL, clamp (undercutConfig.maxDur .noError) (undercutConfig.minDur .noError) msgTTL =
        50 * second) ∧
      ¬ undercutConfig.BoundsInvariant := by
  have exceeds : undercutConfig.pMaxTTL < undercutConfig.pMinTTL := by decide
  refine ⟨by decide +kernel, exceeds, ?_, ?_⟩
  · intro msgTTL
    rw [clamp_eq]
    show max (50 * second) (min (30 * second) msgTTL) = 50 * second
    unfold second
    omega
  · intro invariant
    exact absurd invariant.positive (Int.not_le.mpr exceeds)

/-- The bounds given twice, each time in order. -/
def orderedBlock : Block :=
  ⟨["."], [], [.success ["100", "50"], .denial ["30", "5"], .success ["60"]], false⟩

theorem orderedBlock_keeps_order :
    ∃ re, parse plainStd (some orderedBlock) = .ok (.ok (some re)) ∧
      re.pMaxTTL = 60 * second ∧ re.pMinTTL = 50 * second ∧ re.BoundsInvariant := by
  have accepted : parse plainStd (some orderedBlock) = .ok (.ok (some
      { Redis.new with pMaxTTL := 60 * second, pMinTTL := 50 * second, nMaxTTL := 30 * second,
                       nMinTTL := 5 * second })) := by
    decide +kernel
  refine ⟨_, accepted, rfl, rfl, (boundsInvariant_iff accepted).mpr ⟨?_, ?_⟩⟩
  · rw [← settle_ordered_iff (maxTTL, 0) rfl (by decide) (successes_inOrder _ _)]
    decide +kernel
  · rw [← settle_ordered_iff (maxNTTL, 0) rfl (by decide) (denials_inOrder _ _)]
    decide +kernel

end RedisCache
