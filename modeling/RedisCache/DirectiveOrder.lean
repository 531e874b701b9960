import RedisCache.Reorder
import RedisCache.TtlLaw

set_option autoImplicit false

/- The order of the directives of a block. A directive writes settings that no other
directive reads or writes, but for `tlsEnabled`, which all that write it set. -/

namespace RedisCache

open Checked Reorder

/-- The first word of a directive. -/
inductive Word
  | success
  | denial
  | endpoint
  | readEndpoint
  | username
  | password
  | sentinelUsername
  | sentinelPassword
  | sentinel
  | cluster
  | readFrom
  | timeout
  | pool
  | retries
  | tcpKeepalive
  | db
  | tls
  | tlsCert
  | tlsKey
  | tlsCA
  | tlsVerifyChain
  | tlsVerifyHostname
  | resolver
  | keyPrefix
  | keyHashSeed
  | unknown
deriving DecidableEq, Repr

def Directive.word : Directive → Word
  | .success _ => .success
  | .denial _ => .denial
  | .endpoint _ => .endpoint
  | .readEndpoint _ => .readEndpoint
  | .username _ => .username
  | .password _ => .password
  | .sentinelUsername _ => .sentinelUsername
  | .sentinelPassword _ => .sentinelPassword
  | .sentinel _ => .sentinel
  | .cluster _ => .cluster
  | .readFrom _ => .readFrom
  | .timeout _ => .timeout
  | .pool _ => .pool
  | .retries _ => .retries
  | .tcpKeepalive _ => .tcpKeepalive
  | .db _ => .db
  | .tls _ => .tls
  | .tlsCert _ => .tlsCert
  | .tlsKey _ => .tlsKey
  | .tlsCA _ => .tlsCA
  | .tlsVerifyChain _ => .tlsVerifyChain
  | .tlsVerifyHostname _ => .tlsVerifyHostname
  | .resolver _ => .resolver
  | .keyPrefix _ => .keyPrefix
  | .keyHashSeed _ => .keyHashSeed
  | .unknown _ => .unknown

/-- One configuration from many: each setting comes from the one of the directive that
writes it. -/
def merge (part : Word → Redis) : Redis where
  zones := (part .unknown).zones
  pMaxTTL := (part .success).pMaxTTL
  nMaxTTL := (part .denial).nMaxTTL
  pMinTTL := (part .success).pMinTTL
  nMinTTL := (part .denial).nMinTTL
  keyer := ⟨(part .keyPrefix).keyer.keyPrefix, (part .keyHashSeed).keyer.hashSeed⟩
  addr := (part .endpoint).addr
  endpointSet := (part .endpoint).endpointSet
  username := (part .username).username
  password := (part .password).password
  readEndpoints := (part .readEndpoint).readEndpoints
  connectTimeout := (part .timeout).connectTimeout
  readTimeout := (part .timeout).readTimeout
  writeTimeout := (part .timeout).writeTimeout
  db := (part .db).db
  poolSize := (part .pool).poolSize
  minIdleConns := (part .pool).minIdleConns
  maxIdleConns := (part .pool).maxIdleConns
  maxActiveConns := (part .pool).maxActiveConns
  connMaxIdleTime := (part .pool).connMaxIdleTime
  connMaxLifetime := (part .pool).connMaxLifetime
  poolTimeout := (part .pool).poolTimeout
  maxRetries := (part .retries).maxRetries
  minRetryBackoff := (part .retries).minRetryBackoff
  maxRetryBackoff := (part .retries).maxRetryBackoff
  tcpKeepalive := (part .tcpKeepalive).tcpKeepalive
  resolver := (part .resolver).resolver
  sentinels := (part .sentinel).sentinels
  masterName := (part .sentinel).masterName
  sentinelUsername := (part .sentinelUsername).sentinelUsername
  sentinelPassword := (part .sentinelPassword).sentinelPassword
  clusterAddrs := (part .cluster).clusterAddrs
  readFrom := (part .readFrom).readFrom
  tlsEnabled := (part .tls).tlsEnabled || (part .tlsCert).tlsEnabled ||
    (part .tlsKey).tlsEnabled || (part .tlsCA).tlsEnabled ||
    (part .tlsVerifyChain).tlsEnabled || (part .tlsVerifyHostname).tlsEnabled
  tlsCert := (part .tlsCert).tlsCert
  tlsKey := (part .tlsKey).tlsKey
  tlsCA := (part .tlsCA).tlsCA
  tlsVerifyChain := (part .tlsVerifyChain).tlsVerifyChain
  tlsVerifyHostname := (part .tlsVerifyHostname).tlsVerifyHostname

theorem merge_same (re : Redis) : merge (fun _ => re) = re := by
  unfold merge
  simp only [Bool.or_self]

/-- What a step does to a merged configuration is what it does to one part of it. -/
def LocalTo {α : Type} (word : Word) (step : Redis → α → Parse Redis) : Prop :=
  ∀ part item, step (merge part) item =
    (step (part word) item).map fun fresh => merge (Function.update part word fresh)

theorem LocalTo.foldlM {α : Type} {word : Word} {step : Redis → α → Parse Redis}
    (here : LocalTo word step) :
    LocalTo word fun re (lines : List α) => lines.foldlM step re := by
  intro part lines
  dsimp only
  induction lines generalizing part with
  | nil =>
      show Except.ok (merge part) = Except.ok (merge (Function.update part word (part word)))
      rw [Function.update_eq_self]
  | cons line rest ih =>
      rw [List.foldlM_cons, List.foldlM_cons, here]
      cases step (part word) line with
      | error e => rfl
      | ok fresh =>
          have later := ih (Function.update part word fresh)
          simp only [Function.update_self, Function.update_idem] at later
          exact later

section Local

variable (std : Std)

theorem parseTimeout_local : LocalTo .timeout (parseTimeout std) := by
  rintro part ⟨word, args⟩
  unfold parseTimeout
  cases oneArg args with
  | error e => rfl
  | ok arg =>
      simp only [bind, Except.bind]
      cases parseDurationArg std ("timeout " ++ word.text) 1 " must be positive: " arg with
      | error e => rfl
      | ok d => cases word <;> rfl

theorem parsePool_local : LocalTo .pool (parsePool std) := by
  rintro part ⟨word, args⟩
  unfold parsePool
  cases oneArg args with
  | error e => rfl
  | ok arg =>
      cases word with
      | unknown word => rfl
      | _ => exact map_map_of _ fun _ => rfl

theorem parseRetries_local : LocalTo .retries (parseRetries std) := by
  rintro part ⟨word, args⟩
  unfold parseRetries
  cases oneArg args with
  | error e => rfl
  | ok arg =>
      cases word with
      | unknown word => rfl
      | _ => exact map_map_of _ fun _ => rfl

/-- One case per directive. -/
theorem parseDirective_local (part : Word → Redis) (directive : Directive) :
    parseDirective std (merge part) directive =
      (parseDirective std (part directive.word) directive).map fun fresh =>
        merge (Function.update part directive.word fresh) := by
  cases directive with
  | endpoint args =>
      cases args with
      | nil => rfl
      | cons arg rest =>
          simp only [parseDirective]
          cases normalizeAddr std arg with
          | error text => rfl
          | ok addr => rfl
  | readEndpoint args =>
      simp only [parseDirective]
      split
      · rfl
      · exact map_map_of _ fun _ => rfl
  | sentinel args =>
      simp only [parseDirective, parseSentinel]
      split
      · exact map_map_of _ fun _ => rfl
      · rfl
  | cluster args =>
      simp only [parseDirective, parseCluster]
      split
      · rfl
      · exact map_map_of _ fun _ => rfl
  | readFrom args =>
      simp only [parseDirective]
      cases oneArg args with
      | error e => rfl
      | ok arg =>
          simp only [bind, Except.bind, parseReadFrom]
          split <;> rfl
  | timeout lines => exact (parseTimeout_local std).foldlM part lines
  | pool lines => exact (parsePool_local std).foldlM part lines
  | retries lines => exact (parseRetries_local std).foldlM part lines
  | tcpKeepalive args =>
      simp only [parseDirective]
      cases oneArg args >>= parseDurationArg std "tcp_keepalive" 0 nonNegative with
      | error e => rfl
      | ok d => rfl
  | tls args =>
      simp only [parseDirective]
      split
      · simp [Except.map, merge, Directive.word]
      · rfl
  | tlsCert args | tlsKey args | tlsCA args | tlsVerifyChain args | tlsVerifyHostname args =>
      refine map_map_of _ fun _ => ?_
      simp [merge, Directive.word]
  | unknown word => rfl
  | _ args => exact map_map_of _ fun _ => rfl

end Local

/-- A directive writes no settings but those of its word. -/
theorem parseDirective_eq_merge (std : Std) (re : Redis) (directive : Directive) :
    parseDirective std re directive = (parseDirective std re directive).map fun fresh =>
      merge (Function.update (fun _ => re) directive.word fresh) := by
  have here := parseDirective_local std (fun _ => re) directive
  rw [merge_same] at here
  exact here

theorem parseDirective_written {std : Std} {re fresh : Redis} {directive : Directive}
    (parsed : parseDirective std re directive = .ok fresh) :
    fresh = merge (Function.update (fun _ => re) directive.word fresh) := by
  have here := parseDirective_eq_merge std re directive
  rw [parsed] at here
  exact Except.ok.inj here

/-- Directives with different first words can be exchanged. -/
theorem parseDirective_commute (std : Std) {first second : Directive}
    (apart : first.word ≠ second.word) : Commute (parseDirective std) first second := by
  intro re middle result once twice
  rw [parseDirective_written once, parseDirective_local,
    Function.update_of_ne (Ne.symm apart)] at twice
  obtain ⟨other, later, rfl⟩ := map_ok twice
  refine ⟨other, later, ?_⟩
  rw [parseDirective_written later, parseDirective_local, Function.update_of_ne apart, once]
  simp only [Except.map]
  rw [← parseDirective_written later, Function.update_comm apart]

/-- Two blocks with the same directives of each word, in the same order. -/
def SameOfEachWord (left right : List Directive) : Prop :=
  ∀ word, left.filter (fun directive => directive.word = word) =
    right.filter (fun directive => directive.word = word)

theorem parseBlock_of_sameOfEachWord {std : Std} {left right : List Directive} {re : Redis}
    (same : SameOfEachWord left right) (parsed : parseBlock std right = .ok re) :
    parseBlock std left = .ok re := by
  obtain ⟨base, looped, checked⟩ := bind_ok parsed
  have again := foldlM_of_filters (fun _ _ => parseDirective_commute std) same looped
  rw [parseBlock, again]
  exact checked

theorem parse_of_sameOfEachWord {std : Std} {left right : Block} {re : Redis}
    (same : SameOfEachWord left.directives right.directives) (args : left.args = right.args)
    (keys : left.serverBlockKeys = right.serverBlockKeys) (another : left.another = right.another)
    (parsed : parse std (some right) = .ok (.ok (some re))) :
    parse std (some left) = .ok (.ok (some re)) := by
  simp only [parse] at parsed ⊢
  split at parsed
  · cases parsed
  · rename_i base based
    rw [parseBlock_of_sameOfEachWord same based, args, keys, another]
    exact parsed

/-- It does not matter in which order directives with different first words stand: a
rearrangement that keeps the order of those with the same word is accepted with the same
configuration. -/
theorem parse_order_irrelevant (std : Std) {left right : Block}
    (same : SameOfEachWord left.directives right.directives) (args : left.args = right.args)
    (keys : left.serverBlockKeys = right.serverBlockKeys) (another : left.another = right.another)
    (re : Redis) :
    parse std (some left) = .ok (.ok (some re)) ↔ parse std (some right) = .ok (.ok (some re)) := by
  have reversed : SameOfEachWord right.directives left.directives := fun word => (same word).symm
  constructor
  · exact parse_of_sameOfEachWord reversed args.symm keys.symm another.symm
  · exact parse_of_sameOfEachWord same args keys another

/-- Three `success` directives, the first of which leaves a floor behind. -/
def mixedBlock : Block :=
  ⟨["."], [], [.success ["3600", "60"], .keyPrefix ["dns:"], .success ["1800"], .tls [],
    .success ["900"], .db ["3"]], false⟩

/-- The same, with the `success` directives at the end. -/
def sortedBlock : Block :=
  ⟨["."], [], [.tls [], .db ["3"], .keyPrefix ["dns:"], .success ["3600", "60"],
    .success ["1800"], .success ["900"]], false⟩

theorem mixedBlock_sorted : SameOfEachWord mixedBlock.directives sortedBlock.directives := by
  intro word
  cases word <;> rfl

theorem mixedBlock_accepted :
    ∃ re, parse plainStd (some mixedBlock) = .ok (.ok (some re)) ∧
      parse plainStd (some sortedBlock) = .ok (.ok (some re)) ∧
      re.pMaxTTL = 900 * second ∧ re.pMinTTL = 60 * second := by
  have sorted : parse plainStd (some sortedBlock) = .ok (.ok (some { Redis.new with
      pMaxTTL := 900 * second, pMinTTL := 60 * second, keyer := ⟨"dns", 0⟩, db := 3,
      tlsEnabled := true })) := by
    decide +kernel
  exact ⟨_, (parse_order_irrelevant plainStd mixedBlock_sorted rfl rfl rfl _).mpr sorted, sorted,
    rfl, rfl⟩

end RedisCache
