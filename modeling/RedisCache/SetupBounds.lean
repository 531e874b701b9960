import RedisCache.SetupSteps

set_option autoImplicit false

namespace RedisCache

open Checked

/-- The facts about the four TTL bounds that a successful parse establishes. A
floor may lie above its ceiling when the two come from different directives. -/
structure Redis.TTLBounds (re : Redis) : Prop where
  pMaxPos : 0 < re.pMaxTTL
  nMaxPos : 0 < re.nMaxTTL
  pMinNonneg : 0 ≤ re.pMinTTL
  nMinNonneg : 0 ≤ re.nMinTTL
  pMaxWhole : second ∣ re.pMaxTTL
  nMaxWhole : second ∣ re.nMaxTTL
  pMinWhole : second ∣ re.pMinTTL
  nMinWhole : second ∣ re.nMinTTL

/-- Two configurations with the same TTL bounds. -/
structure SameTTL (re fresh : Redis) : Prop where
  pMax : fresh.pMaxTTL = re.pMaxTTL
  nMax : fresh.nMaxTTL = re.nMaxTTL
  pMin : fresh.pMinTTL = re.pMinTTL
  nMin : fresh.nMinTTL = re.nMinTTL

theorem SameTTL.bounds {re fresh : Redis} (same : SameTTL re fresh) (valid : re.TTLBounds) :
    fresh.TTLBounds := by
  obtain ⟨pMax, nMax, pMin, nMin⟩ := same
  constructor <;> simp only [pMax, nMax, pMin, nMin]
  · exact valid.pMaxPos
  · exact valid.nMaxPos
  · exact valid.pMinNonneg
  · exact valid.nMinNonneg
  · exact valid.pMaxWhole
  · exact valid.nMaxWhole
  · exact valid.pMinWhole
  · exact valid.nMinWhole

theorem new_bounds : Redis.new.TTLBounds := by
  constructor <;> decide

theorem parseTTL_whole {std : Std} {s : String} {d : Int} (parsed : parseTTL std s = .ok d) :
    second ∣ d := by
  unfold parseTTL at parsed
  split at parsed
  · cases parsed
  · split at parsed
    · cases parsed
    · rename_i whole
      cases parsed
      exact Int.dvd_of_tmod_eq_zero (by simpa using whole)

theorem parseBounds_ok {std : Std} {word : String} {args : List String} {high : Int}
    {low : Option Int} (parsed : parseBounds std word args = .ok (high, low)) :
    0 < high ∧ second ∣ high ∧ ∀ floor, low = some floor →
      0 ≤ floor ∧ second ∣ floor ∧ floor ≤ high := by
  unfold parseBounds at parsed
  split at parsed
  · cases parsed
  · split at parsed
    · cases parsed
    · rename_i ceiling highParsed
      split at parsed
      · cases parsed
      · rename_i positive
        have whole := parseTTL_whole highParsed
        split at parsed
        · cases parsed
          refine ⟨by omega, whole, ?_⟩
          intro floor absent
          cases absent
        · split at parsed
          · cases parsed
          · rename_i bottom lowParsed
            split at parsed
            · cases parsed
            · rename_i nonneg
              split at parsed
              · cases parsed
              · rename_i below
                cases parsed
                refine ⟨by omega, whole, ?_⟩
                intro floor same
                cases same
                exact ⟨by omega, parseTTL_whole lowParsed, by omega⟩

/-- Only `success` and `denial` touch the TTL bounds. -/
theorem parseDirective_frame {std : Std} {re fresh : Redis} {directive : Directive}
    (parsed : parseDirective std re directive = .ok fresh)
    (other : ∀ args, directive ≠ .success args ∧ directive ≠ .denial args) :
    SameTTL re fresh := by
  have after := parseDirective_after parsed
  have noSuccess : directive.successBounds std = none := by
    cases directive with
    | success args => exact absurd rfl (other args).1
    | _ => rfl
  have noDenial : directive.denialBounds std = none := by
    cases directive with
    | denial args => exact absurd rfl (other args).2
    | _ => rfl
  have positive := after.positive
  have negative := after.negative
  rw [noSuccess] at positive
  rw [noDenial] at negative
  exact ⟨congrArg Prod.fst positive, congrArg Prod.fst negative, congrArg Prod.snd positive,
    congrArg Prod.snd negative⟩

theorem parseDirective_bounds {std : Std} {re fresh : Redis} {directive : Directive}
    (valid : re.TTLBounds) (parsed : parseDirective std re directive = .ok fresh) :
    fresh.TTLBounds := by
  cases directive with
  | success args =>
      obtain ⟨⟨high, low⟩, bounds, rfl⟩ := map_ok parsed
      obtain ⟨positive, whole, floor⟩ := parseBounds_ok bounds
      cases low with
      | none => exact { valid with pMaxPos := positive, pMaxWhole := whole }
      | some bottom =>
          obtain ⟨nonneg, bottomWhole, _⟩ := floor bottom rfl
          exact { valid with
            pMaxPos := positive, pMaxWhole := whole,
            pMinNonneg := nonneg, pMinWhole := bottomWhole }
  | denial args =>
      obtain ⟨⟨high, low⟩, bounds, rfl⟩ := map_ok parsed
      obtain ⟨positive, whole, floor⟩ := parseBounds_ok bounds
      cases low with
      | none => exact { valid with nMaxPos := positive, nMaxWhole := whole }
      | some bottom =>
          obtain ⟨nonneg, bottomWhole, _⟩ := floor bottom rfl
          exact { valid with
            nMaxPos := positive, nMaxWhole := whole,
            nMinNonneg := nonneg, nMinWhole := bottomWhole }
  | _ => exact (parseDirective_frame parsed (by simp)).bounds valid

/-- A configuration that `parse` accepts. -/
def Accepted (std : Std) (re : Redis) : Prop :=
  ∃ block, parse std (some block) = .ok (.ok (some re))

theorem accepted_bounds {std : Std} {re : Redis} (accepted : Accepted std re) :
    re.TTLBounds := by
  obtain ⟨block, parsed⟩ := accepted
  obtain ⟨base, zones, looped, _, rfl⟩ := parse_accepted parsed
  have valid := foldlM_invariant (parseDirective std) Redis.TTLBounds
    (fun _ _ _ => parseDirective_bounds) block.directives Redis.new base new_bounds looped
  exact (show SameTTL base { base with zones := zones } from ⟨rfl, rfl, rfl, rfl⟩).bounds valid

end RedisCache
