import RedisCache.GoText

set_option autoImplicit false

/- The numbers that `strconv.ParseUint` and `strconv.Atoi` accept, and what they denote. -/

namespace GoText

/-- The value of a text of digits behind a number that was read before. -/
def digitsValue (start : Nat) (s : List Char) : Nat :=
  s.foldl (fun n c => 10 * n + (c.toNat - 48)) start

theorem le_digitsValue (s : List Char) (start : Nat) : start ≤ digitsValue start s := by
  induction s generalizing start with
  | nil => exact Nat.le_refl start
  | cons c rest ih =>
      have later := ih (10 * start + (c.toNat - 48))
      have first : start ≤ 10 * start + (c.toNat - 48) := by omega
      exact Nat.le_trans first later

/-- The loop reads all digits or stops where the value leaves 64 bits, which it then
never enters again. -/
theorem uintLoop_ok_iff {s : List Char} {start n : Nat} (fits : start < 2 ^ 64) :
    uintLoop s start = .ok n ↔
      (∀ c ∈ s, c.isDigit = true) ∧ digitsValue start s = n ∧ n < 2 ^ 64 := by
  induction s generalizing start with
  | nil =>
      show Except.ok start = Except.ok n ↔ _
      constructor
      · intro same
        cases same
        exact ⟨by simp, rfl, fits⟩
      · rintro ⟨_, same, _⟩
        exact congrArg Except.ok same
  | cons c rest ih =>
      rw [uintLoop]
      by_cases digit : c.isDigit = true
      · by_cases large : 2 ^ 64 ≤ 10 * start + (c.toNat - 48)
        · have grown := le_digitsValue rest (10 * start + (c.toNat - 48))
          rw [if_neg (by simp [digit]), if_pos large]
          constructor
          · intro impossible
            cases impossible
          · rintro ⟨_, same, small⟩
            have value : digitsValue (10 * start + (c.toNat - 48)) rest = n := same
            omega
        · rw [if_neg (by simp [digit]), if_neg large, ih (by omega)]
          simp only [List.forall_mem_cons, digit, true_and]
          rfl
      · rw [if_pos (by simp [digit])]
        constructor
        · intro impossible
          cases impossible
        · rintro ⟨digits, _⟩
          exact absurd (digits c List.mem_cons_self) digit

theorem parseUint_ok_iff {s : List Char} {n : Nat} :
    parseUint s = .ok n ↔
      s ≠ [] ∧ (∀ c ∈ s, c.isDigit = true) ∧ digitsValue 0 s = n ∧ n < 2 ^ 64 := by
  unfold parseUint
  split
  · rename_i empty
    simp [empty]
  · rename_i given
    rw [uintLoop_ok_iff (by decide)]
    simp [given]

/-- A decimal number with its sign. -/
inductive Denotes : List Char → Int → Prop
  | plain (digits : List Char) (given : digits ≠ []) (all : ∀ c ∈ digits, c.isDigit = true) :
      Denotes digits (digitsValue 0 digits)
  | plus (digits : List Char) (given : digits ≠ []) (all : ∀ c ∈ digits, c.isDigit = true) :
      Denotes ('+' :: digits) (digitsValue 0 digits)
  | minus (digits : List Char) (given : digits ≠ []) (all : ∀ c ∈ digits, c.isDigit = true) :
      Denotes ('-' :: digits) (-(digitsValue 0 digits : Int))

theorem parseUint_denotes {s : List Char} {n : Nat} (parsed : parseUint s = .ok n) :
    Denotes s n ∧ n < 2 ^ 64 := by
  obtain ⟨given, all, value, small⟩ := parseUint_ok_iff.mp parsed
  rw [← value]
  exact ⟨.plain s given all, by omega⟩

/-- The digits behind a sign, below a limit. -/
theorem bounded_ok_iff {s : List Char} {limit : Nat} {n : Int} (sign : Nat → Int)
    (fits : limit ≤ 2 ^ 64) :
    (match parseUint s with
      | .error e => Except.error e
      | .ok m => if limit ≤ m then .error .valueOutOfRange else .ok (sign m)) = .ok n ↔
      s ≠ [] ∧ (∀ c ∈ s, c.isDigit = true) ∧ sign (digitsValue 0 s) = n ∧
        digitsValue 0 s < limit := by
  cases parsed : parseUint s with
  | error e =>
      constructor
      · intro impossible
        cases impossible
      · rintro ⟨given, all, _, small⟩
        have read : parseUint s = .ok (digitsValue 0 s) :=
          parseUint_ok_iff.mpr ⟨given, all, rfl, by omega⟩
        rw [parsed] at read
        cases read
  | ok m =>
      obtain ⟨given, all, value, _⟩ := parseUint_ok_iff.mp parsed
      subst value
      by_cases large : limit ≤ digitsValue 0 s
      · simp only [large, if_true]
        constructor
        · intro impossible
          cases impossible
        · rintro ⟨_, _, _, small⟩
          omega
      · simp only [large, if_false]
        constructor
        · intro same
          cases same
          exact ⟨given, all, rfl, by omega⟩
        · rintro ⟨_, _, value, _⟩
          exact congrArg Except.ok value

theorem atoi_minus_iff {s : List Char} {n : Int} :
    atoi ('-' :: s) = .ok n ↔ s ≠ [] ∧ (∀ c ∈ s, c.isDigit = true) ∧
      -(digitsValue 0 s : Int) = n ∧ digitsValue 0 s < 2 ^ 63 + 1 :=
  bounded_ok_iff (fun m => -(m : Int)) (by decide)

theorem positive_ok_iff {s : List Char} {n : Int} :
    atoi.positive s = .ok n ↔ s ≠ [] ∧ (∀ c ∈ s, c.isDigit = true) ∧
      (digitsValue 0 s : Int) = n ∧ digitsValue 0 s < 2 ^ 63 :=
  bounded_ok_iff (fun m => (m : Int)) (by decide)

theorem atoi_unsigned {c : Char} (rest : List Char) (digit : c.isDigit = true) :
    atoi (c :: rest) = atoi.positive (c :: rest) := by
  unfold atoi
  split
  · rename_i same
    cases same
    cases digit
  · rename_i same
    cases same
    cases digit
  · rfl

/-- `Atoi` takes the decimal numbers of 64 bits, each for what it denotes. -/
theorem atoi_ok_iff {s : List Char} {n : Int} :
    atoi s = .ok n ↔ Denotes s n ∧ -2 ^ 63 ≤ n ∧ n < 2 ^ 63 := by
  constructor
  · intro parsed
    unfold atoi at parsed
    split at parsed
    · rename_i digits
      obtain ⟨given, all, rfl, small⟩ := atoi_minus_iff.mp parsed
      exact ⟨.minus digits given all, by omega, by omega⟩
    · rename_i digits
      obtain ⟨given, all, rfl, small⟩ := positive_ok_iff.mp parsed
      exact ⟨.plus digits given all, by omega, by omega⟩
    · obtain ⟨given, all, rfl, small⟩ := positive_ok_iff.mp parsed
      exact ⟨.plain s given all, by omega, by omega⟩
  · rintro ⟨denotes, low, high⟩
    cases denotes with
    | plain digits given all =>
        cases s with
        | nil => exact absurd rfl given
        | cons c rest =>
            rw [atoi_unsigned rest (all c List.mem_cons_self)]
            exact positive_ok_iff.mpr ⟨given, all, rfl, by omega⟩
    | plus digits given all => exact positive_ok_iff.mpr ⟨given, all, rfl, by omega⟩
    | minus digits given all => exact atoi_minus_iff.mpr ⟨given, all, rfl, by omega⟩

end GoText
