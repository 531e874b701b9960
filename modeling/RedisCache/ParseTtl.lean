import Mathlib.Tactic.LinearCombination
import RedisCache.TtlLaw

set_option autoImplicit false

/- Bare integers as TTLs. The product with a second wraps, and the check for whole
seconds lets through what wraps onto a whole second. -/

namespace RedisCache

/-- The only integers without a unit that `time.ParseDuration` accepts are spellings of
zero. -/
def Std.BareIntegers (std : Std) : Prop :=
  ∀ s n d, GoText.atoi s.toList = .ok n → std.parseDuration s = .ok d → n = 0 ∧ d = 0

/-- A number of seconds whose nanoseconds fit 64 bits. -/
def FitsDuration (n : Int) : Prop := -9223372036 ≤ n ∧ n ≤ 9223372036

/-- A number of seconds near a multiple of `2 ^ 55` other than zero. The nanoseconds of
that multiple are a multiple of `2 ^ 64`, and `2 ^ 55` is the least with this. -/
def Aliased (n : Int) : Prop := ∃ turns m, turns ≠ 0 ∧ FitsDuration m ∧ n = turns * 2 ^ 55 + m

theorem fitsDuration_iff (n : Int) :
    FitsDuration n ↔ -(2 ^ 63) ≤ n * second ∧ n * second < 2 ^ 63 := by
  unfold FitsDuration second
  omega

theorem ofSeconds_near (turns : Int) {m : Int} (fits : FitsDuration m) :
    ofSeconds (turns * 2 ^ 55 + m) = m * second := by
  have product : (turns * 2 ^ 55 + m) * second = m * second + turns * 1953125 * 2 ^ 64 := by
    unfold second
    omega
  obtain ⟨lower, upper⟩ := (fitsDuration_iff m).mp fits
  rw [ofSeconds, product, wrap64_add_turns, wrap64_of_range lower upper]

/-- What a second and `2 ^ 64` do not share is `5 ^ 9`, so whole seconds differ by a
multiple of that many turns. -/
theorem whole_turns {n m turns : Int} (sum : n * second = m * second + turns * 2 ^ 64) :
    ∃ rounds, n = rounds * 2 ^ 55 + m := by
  unfold second at sum
  have reduced : 2 ^ 55 * turns = 1953125 * (n - m) := by
    apply Int.eq_of_mul_eq_mul_left (show (512 : Int) ≠ 0 by decide)
    linear_combination -sum
  obtain ⟨rounds, rfl⟩ : (1953125 : Int) ∣ turns :=
    Int.dvd_of_dvd_mul_right_of_gcd_one ⟨n - m, reduced⟩ (by decide)
  refine ⟨rounds, ?_⟩
  apply Int.eq_of_mul_eq_mul_left (show (1953125 : Int) ≠ 0 by decide)
  linear_combination -reduced

theorem near_of_whole {n : Int} (whole : second ∣ ofSeconds n) :
    ∃ turns m, FitsDuration m ∧ n = turns * 2 ^ 55 + m ∧ ofSeconds n = m * second := by
  obtain ⟨turns, sum, lower, upper⟩ := wrap64_turns (n * second)
  obtain ⟨m, exact⟩ := exists_eq_mul_left_of_dvd whole
  rw [ofSeconds] at exact ⊢
  rw [exact] at sum lower upper ⊢
  obtain ⟨rounds, near⟩ := whole_turns sum
  exact ⟨rounds, m, (fitsDuration_iff m).mpr ⟨lower, upper⟩, near, rfl⟩

section Bare

variable {std : Std} {s : String} {n : Int}

/-- All that `parseTTL` makes of an integer. -/
theorem parseTTL_ok_iff (bare : std.BareIntegers) (denotes : GoText.atoi s.toList = .ok n)
    (d : Int) :
    parseTTL std s = .ok d ↔
      ∃ turns m, FitsDuration m ∧ n = turns * 2 ^ 55 + m ∧ d = m * second := by
  have computed : ttlDuration std s = .ok (ofSeconds n) := by
    unfold ttlDuration
    split
    · rename_i value parsed
      obtain ⟨rfl, rfl⟩ := bare s n value denotes parsed
      rfl
    · rw [denotes]
  rw [parseTTL, computed]
  dsimp only
  constructor
  · intro parsed
    split at parsed
    · cases parsed
    · rename_i whole
      cases parsed
      exact near_of_whole (Int.dvd_of_tmod_eq_zero (by simpa using whole))
  · rintro ⟨turns, m, fits, rfl, rfl⟩
    rw [ofSeconds_near turns fits, if_neg]
    simp

/-- `parseTTL` is exact on an integer, or rejects it, exactly if it is not near a
multiple of `2 ^ 55` other than zero. -/
theorem parseTTL_exact_iff (bare : std.BareIntegers) (denotes : GoText.atoi s.toList = .ok n) :
    (∀ d, parseTTL std s = .ok d → d = n * second) ↔ ¬ Aliased n := by
  constructor
  · rintro exactly ⟨turns, m, turned, fits, near⟩
    have equal := exactly _ ((parseTTL_ok_iff bare denotes _).mpr ⟨turns, m, fits, near, rfl⟩)
    unfold second at equal
    omega
  · intro unaliased d parsed
    obtain ⟨turns, m, fits, near, rfl⟩ := (parseTTL_ok_iff bare denotes d).mp parsed
    by_cases still : turns = 0
    · rw [near, still, Int.zero_mul, Int.zero_add]
    · exact absurd ⟨turns, m, still, fits, near⟩ unaliased

end Bare

theorem plainStd_bareIntegers : plainStd.BareIntegers := by
  intro s n d _ parsed
  cases parsed

/-- The configuration that `success 36028797018964028` gives: a billion years are taken
for a minute. -/
def wrappedConfig : Redis := { Redis.new with pMaxTTL := 60 * second }

theorem wrappedTTL_accepted :
    GoText.atoi "36028797018964028".toList = .ok 36028797018964028 ∧
      parseTTL plainStd "36028797018964028" = .ok (60 * second) ∧
      parse plainStd (some ⟨["."], [], [.success ["36028797018964028"]], false⟩) =
        .ok (.ok (some wrappedConfig)) ∧
      ¬ ∀ d, parseTTL plainStd "36028797018964028" = .ok d → d = 36028797018964028 * second := by
  have wrapped : parseTTL plainStd "36028797018964028" = .ok (60 * second) := by decide +kernel
  refine ⟨by decide +kernel, wrapped, by decide +kernel, ?_⟩
  intro exactly
  have equal := exactly _ wrapped
  revert equal
  decide

theorem hourTTL_exact :
    parseTTL plainStd "3600" = .ok (3600 * second) ∧
      ∀ d, parseTTL plainStd "3600" = .ok d → d = 3600 * second := by
  refine ⟨by decide +kernel, ?_⟩
  refine (parseTTL_exact_iff plainStd_bareIntegers (n := 3600) (by decide +kernel)).mpr ?_
  rintro ⟨turns, m, turned, fits, near⟩
  unfold FitsDuration at fits
  omega

end RedisCache
