import RedisCache.Decimal
import RedisCache.Tls

set_option autoImplicit false

/- The integers of a block, from their digits to the settings. -/

namespace RedisCache

open Checked

/-- The settings that are integers. -/
inductive Count
  | db
  | seed
  | poolSize
  | minIdle
  | maxIdle
  | maxActive
  | maxRetries
deriving DecidableEq, Repr

/-- The value of a setting. Zero retries are stored as -1. -/
def Redis.count (re : Redis) : Count → Int
  | .db => re.db
  | .seed => re.keyer.hashSeed.toNat
  | .poolSize => re.poolSize
  | .minIdle => re.minIdleConns
  | .maxIdle => re.maxIdleConns
  | .maxActive => re.maxActiveConns
  | .maxRetries => if re.maxRetries = -1 then 0 else re.maxRetries

/-- The values of a setting are below its limit. -/
def Count.limit : Count → Int
  | .seed => 2 ^ 64
  | _ => 2 ^ 63

def PoolWord.count : PoolWord → Option Count
  | .size => some .poolSize
  | .minIdle => some .minIdle
  | .maxIdle => some .maxIdle
  | .maxActive => some .maxActive
  | _ => none

def RetriesWord.count : RetriesWord → Option Count
  | .max => some .maxRetries
  | _ => none

/-- A line about a setting, if it is one about an integer. -/
def countLines (count : Option Count) (args : List String) : List (Count × String) :=
  count.toList.flatMap fun setting => args.map fun text => (setting, text)

theorem countLines_one (setting : Count) (text : String) :
    countLines (some setting) [text] = [(setting, text)] :=
  rfl

/-- The lines of a directive that are about an integer. -/
def Directive.counts : Directive → List (Count × String)
  | .db args => countLines (some .db) args
  | .keyHashSeed args => countLines (some .seed) args
  | .pool lines => lines.flatMap fun line => countLines line.1.count line.2
  | .retries lines => lines.flatMap fun line => countLines line.1.count line.2
  | _ => []

def lastText (count : Count) (lines : List (Count × String)) : Option String :=
  (lines.reverse.find? fun line => line.1 = count).map Prod.snd

/-- Each setting is what its last line denotes, or else what it is without a block. -/
def Exact (lines : List (Count × String)) (re : Redis) : Prop :=
  ∀ count, match lastText count lines with
    | none => re.count count = Redis.new.count count
    | some text => GoText.Denotes text.toList (re.count count) ∧ 0 ≤ re.count count ∧
        re.count count < count.limit

theorem lastText_snoc (count : Count) (lines : List (Count × String)) (last : Count)
    (text : String) :
    lastText count (lines ++ [(last, text)]) =
      if last = count then some text else lastText count lines := by
  unfold lastText
  rw [List.reverse_append, List.reverse_singleton, List.singleton_append, List.find?_cons]
  by_cases same : last = count <;> simp [same]

section Steps

variable {std : Std} {re fresh : Redis} {lines : List (Count × String)}

theorem Exact.set (exact : Exact lines re) {count : Count} {n : Int} {text : String}
    (written : fresh.count = Function.update re.count count n)
    (denotes : GoText.Denotes text.toList n) (nonneg : 0 ≤ n) (small : n < count.limit) :
    Exact (lines ++ [(count, text)]) fresh := by
  intro other
  rw [lastText_snoc, written]
  by_cases same : count = other
  · subst same
    rw [if_pos rfl, Function.update_self]
    exact ⟨denotes, nonneg, small⟩
  · rw [if_neg same, Function.update_of_ne (Ne.symm same)]
    exact exact other

theorem Exact.quiet (exact : Exact lines re) (kept : fresh.count = re.count) :
    Exact (lines ++ []) fresh := by
  intro other
  rw [List.append_nil, kept]
  exact exact other

theorem atoiArg_ok {arg : String} {n : Int} (parsed : atoiArg std arg = .ok n) :
    GoText.Denotes arg.toList n ∧ -2 ^ 63 ≤ n ∧ n < 2 ^ 63 := by
  unfold atoiArg at parsed
  split at parsed
  · rename_i m read
    cases parsed
    exact GoText.atoi_ok_iff.mp read
  · cases parsed

theorem parsePoolCount_denotes {word arg : String} {n : Int}
    (parsed : parsePoolCount std word arg = .ok n) :
    GoText.Denotes arg.toList n ∧ 0 ≤ n ∧ n < 2 ^ 63 := by
  unfold parsePoolCount at parsed
  split at parsed
  · cases parsed
  · rename_i m read
    split at parsed
    · cases parsed
    · cases parsed
      have number := atoiArg_ok read
      exact ⟨number.1, by omega, number.2.2⟩

theorem parseRetriesMax_denotes {arg : String} {stored : Int}
    (parsed : parseRetriesMax std arg = .ok stored) :
    ∃ n, GoText.Denotes arg.toList n ∧ 0 ≤ n ∧ n < 2 ^ 63 ∧
      (if stored = -1 then 0 else stored) = n := by
  unfold parseRetriesMax at parsed
  split at parsed
  · cases parsed
  · rename_i n read
    split at parsed
    · cases parsed
    · rename_i nonneg
      cases parsed
      have number := atoiArg_ok read
      refine ⟨n, number.1, by omega, number.2.2, ?_⟩
      by_cases zero : n = 0
      · simp [zero]
      · rw [if_neg zero, if_neg (by omega)]

theorem parseDB_denotes {arg : String} {n : Int} (parsed : parseDB std arg = .ok n) :
    GoText.Denotes arg.toList n ∧ 0 ≤ n ∧ n < 2 ^ 63 := by
  unfold parseDB at parsed
  split at parsed
  · cases parsed
  · rename_i m read
    split at parsed
    · cases parsed
    · cases parsed
      have number := atoiArg_ok read
      exact ⟨number.1, by omega, number.2.2⟩

theorem parseSeed_denotes {arg : String} {seed : UInt64} (parsed : parseSeed std arg = .ok seed) :
    GoText.Denotes arg.toList seed.toNat ∧ (seed.toNat : Int) < 2 ^ 64 := by
  unfold parseSeed at parsed
  split at parsed
  · cases parsed
  · rename_i n read
    cases parsed
    obtain ⟨denotes, small⟩ := GoText.parseUint_denotes read
    rw [UInt64.toNat_ofNat', Nat.mod_eq_of_lt small]
    exact ⟨denotes, by omega⟩

theorem parsePool_exact {line : PoolWord × List String} (exact : Exact lines re)
    (parsed : parsePool std re line = .ok fresh) :
    Exact (lines ++ countLines line.1.count line.2) fresh := by
  obtain ⟨word, args⟩ := line
  obtain ⟨arg, one, parsed⟩ := bind_ok parsed
  have given : args = [arg] := oneArg_ok one
  subst given
  cases word with
  | size | minIdle | maxIdle | maxActive =>
      obtain ⟨n, counted, rfl⟩ := map_ok parsed
      obtain ⟨denotes, nonneg, small⟩ := parsePoolCount_denotes counted
      simp only [PoolWord.count, countLines_one]
      refine exact.set ?_ denotes nonneg small
      funext count
      cases count <;> rfl
  | maxIdleTime | maxLifetime | waitTimeout =>
      obtain ⟨d, _, rfl⟩ := map_ok parsed
      exact exact.quiet rfl
  | unknown word => cases parsed

theorem parseRetries_exact {line : RetriesWord × List String} (exact : Exact lines re)
    (parsed : parseRetries std re line = .ok fresh) :
    Exact (lines ++ countLines line.1.count line.2) fresh := by
  obtain ⟨word, args⟩ := line
  obtain ⟨arg, one, parsed⟩ := bind_ok parsed
  have given : args = [arg] := oneArg_ok one
  subst given
  cases word with
  | max =>
      obtain ⟨stored, counted, rfl⟩ := map_ok parsed
      obtain ⟨n, denotes, nonneg, small, same⟩ := parseRetriesMax_denotes counted
      simp only [RetriesWord.count, countLines_one]
      refine exact.set ?_ denotes nonneg small
      funext count
      cases count with
      | maxRetries => exact same
      | _ => rfl
  | minBackoff | maxBackoff =>
      obtain ⟨d, _, rfl⟩ := map_ok parsed
      exact exact.quiet rfl
  | unknown word => cases parsed

/-- The lines inside a directive, each of which keeps the settings exact. -/
theorem foldlM_exact {α : Type} {step : Redis → α → Parse Redis}
    {counts : α → List (Count × String)}
    (kept : ∀ before before' item after, Exact before before' → step before' item = .ok after →
      Exact (before ++ counts item) after)
    {items : List α} (exact : Exact lines re) (ran : items.foldlM step re = .ok fresh) :
    Exact (lines ++ items.flatMap counts) fresh := by
  refine foldlM_history step (fun past state => Exact (lines ++ past.flatMap counts) state) ?_
    (by rw [List.flatMap_nil, List.append_nil]; exact exact) ran
  intro past before item after held stepped
  rw [List.flatMap_append, List.flatMap_singleton, ← List.append_assoc]
  exact kept _ _ item after held stepped

theorem parseDirective_exact {directive : Directive} (exact : Exact lines re)
    (parsed : parseDirective std re directive = .ok fresh) :
    Exact (lines ++ directive.counts) fresh := by
  cases directive with
  | db args =>
      obtain ⟨n, read, rfl⟩ := map_ok parsed
      obtain ⟨arg, one, counted⟩ := bind_ok read
      obtain ⟨denotes, nonneg, small⟩ := parseDB_denotes counted
      simp only [Directive.counts, oneArg_ok one, countLines_one]
      refine exact.set ?_ denotes nonneg small
      funext count
      cases count <;> rfl
  | keyHashSeed args =>
      obtain ⟨seed, read, rfl⟩ := map_ok parsed
      obtain ⟨arg, one, counted⟩ := bind_ok read
      obtain ⟨denotes, small⟩ := parseSeed_denotes counted
      simp only [Directive.counts, oneArg_ok one, countLines_one]
      refine exact.set ?_ denotes (by omega) small
      funext count
      cases count <;> rfl
  | pool lines =>
      exact foldlM_exact (fun _ _ _ _ held stepped => parsePool_exact held stepped) exact parsed
  | retries lines =>
      exact foldlM_exact (fun _ _ _ _ held stepped => parseRetries_exact held stepped) exact parsed
  | _ =>
      refine exact.quiet ?_
      rw [parseDirective_written parsed]
      funext count
      cases count <;> rfl

end Steps

/-- Every integer of an accepted block is exactly the decimal number that its last line
denotes, within 64 bits and not negative; without a line it is the default. -/
theorem integers_exact {std : Std} {block : Block} {re : Redis}
    (accepted : parse std (some block) = .ok (.ok (some re))) :
    Exact (block.directives.flatMap Directive.counts) re := by
  obtain ⟨base, zones, looped, _, rfl⟩ := parse_accepted accepted
  have exact : Exact ([] ++ block.directives.flatMap Directive.counts) base :=
    foldlM_exact (fun _ _ _ _ held parsed => parseDirective_exact held parsed) (fun _ => rfl) looped
  rw [List.nil_append] at exact
  intro count
  exact exact count

/-- A seed of 64 bits, a count with a sign and zero retries. -/
def countsBlock : Block :=
  ⟨["."], [], [.keyHashSeed ["18446744073709551615"], .pool [(.size, ["7"]), (.size, ["+0012"])],
    .retries [(.max, ["0"])]], false⟩

def countsConfig : Redis :=
  { Redis.new with
    keyer := ⟨"cdrc", 18446744073709551615⟩, poolSize := 12, maxRetries := -1 }

theorem countsBlock_exact :
    parse plainStd (some countsBlock) = .ok (.ok (some countsConfig)) ∧
      GoText.Denotes "18446744073709551615".toList (countsConfig.count .seed) ∧
      GoText.Denotes "+0012".toList (countsConfig.count .poolSize) ∧
      GoText.Denotes "0".toList (countsConfig.count .maxRetries) ∧
      countsConfig.count .db = 0 := by
  have accepted : parse plainStd (some countsBlock) = .ok (.ok (some countsConfig)) := by
    decide +kernel
  have exact := integers_exact accepted
  exact ⟨accepted, (exact .seed).1, (exact .poolSize).1, (exact .maxRetries).1, exact .db⟩

end RedisCache
