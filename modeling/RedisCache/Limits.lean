import RedisCache.Numbers
import RedisCache.Targets

set_option autoImplicit false

/- The limits that every client keeps to, whatever the block says. -/

namespace RedisCache

open Checked

/-- No operation of a client waits without a bound, and no limit is negative. Zero retries
never reach go-redis, which would take them for its default. -/
structure ConnOptions.Bounded {TLS : Type} (conn : ConnOptions TLS) : Prop where
  dialTimeout : 0 < conn.dialTimeout
  readTimeout : 0 < conn.readTimeout
  writeTimeout : 0 < conn.writeTimeout
  maxRetries : conn.maxRetries = -1 ∨ 0 < conn.maxRetries
  minRetryBackoff : 0 ≤ conn.minRetryBackoff
  maxRetryBackoff : 0 ≤ conn.maxRetryBackoff
  poolSize : 0 ≤ conn.poolSize
  minIdleConns : 0 ≤ conn.minIdleConns
  maxIdleConns : 0 ≤ conn.maxIdleConns
  maxActiveConns : 0 ≤ conn.maxActiveConns
  connMaxIdleTime : 0 ≤ conn.connMaxIdleTime
  connMaxLifetime : 0 ≤ conn.connMaxLifetime
  poolTimeout : 0 ≤ conn.poolTimeout

/-- What `normalizeAddr` makes of some argument. -/
def Normal (std : Std) (addr : String) : Prop :=
  ∃ arg, normalizeAddr std arg = .ok addr

/-- A client has an address to start from, and all its addresses are normal. -/
def Client.Addressed {TLS : Type} (std : Std) : Client TLS → Prop
  | .single addr db _ => Normal std addr ∧ 0 ≤ db
  | .cluster addrs _ _ _ _ => addrs ≠ [] ∧ ∀ addr ∈ addrs, Normal std addr
  | .failover masterName addrs _ _ db _ _ =>
      masterName ≠ "" ∧ addrs ≠ [] ∧ (∀ addr ∈ addrs, Normal std addr) ∧ 0 ≤ db

/-- What the loop over the block keeps. -/
structure Redis.Limits (re : Redis) : Prop where
  conn : (re.connOptions ()).Bounded
  keepalive : 0 ≤ re.tcpKeepalive
  db : 0 ≤ re.db
  monitored : re.masterName ≠ "" → re.sentinels ≠ []

theorem new_limits : Redis.new.Limits where
  conn := by constructor <;> simp [Redis.connOptions, Redis.new, second]
  keepalive := by decide
  db := by decide
  monitored := by simp [Redis.new]

section Steps

variable {std : Std} {re fresh : Redis}

theorem parsePoolTime_ok {word arg : String} {d : Int}
    (parsed : parsePoolTime std word arg = .ok d) : 0 ≤ d :=
  (parseDurationArg_ok parsed).2

theorem parseRetriesMax_ok {arg : String} {n : Int} (parsed : parseRetriesMax std arg = .ok n) :
    n = -1 ∨ 0 < n := by
  unfold parseRetriesMax at parsed
  split at parsed
  · cases parsed
  · split at parsed
    · cases parsed
    · cases parsed
      split <;> omega

theorem parseTimeout_limits {line : TimeoutWord × List String} (limits : re.Limits)
    (parsed : parseTimeout std re line = .ok fresh) : fresh.Limits := by
  obtain ⟨word, args⟩ := line
  obtain ⟨arg, _, parsed⟩ := bind_ok parsed
  obtain ⟨d, timed, parsed⟩ := bind_ok parsed
  have positive : 0 < d := (parseDurationArg_ok timed).2
  cases word with
  | connect =>
      cases parsed
      exact { limits with conn := { limits.conn with dialTimeout := positive } }
  | read =>
      cases parsed
      exact { limits with conn := { limits.conn with readTimeout := positive } }
  | write =>
      cases parsed
      exact { limits with conn := { limits.conn with writeTimeout := positive } }
  | unknown word => cases parsed

theorem parsePool_limits {line : PoolWord × List String} (limits : re.Limits)
    (parsed : parsePool std re line = .ok fresh) : fresh.Limits := by
  obtain ⟨word, args⟩ := line
  obtain ⟨arg, _, parsed⟩ := bind_ok parsed
  cases word with
  | size =>
      obtain ⟨n, counted, rfl⟩ := map_ok parsed
      obtain ⟨_, nonneg, _⟩ := parsePoolCount_denotes counted
      exact { limits with conn := { limits.conn with poolSize := nonneg } }
  | minIdle =>
      obtain ⟨n, counted, rfl⟩ := map_ok parsed
      obtain ⟨_, nonneg, _⟩ := parsePoolCount_denotes counted
      exact { limits with conn := { limits.conn with minIdleConns := nonneg } }
  | maxIdle =>
      obtain ⟨n, counted, rfl⟩ := map_ok parsed
      obtain ⟨_, nonneg, _⟩ := parsePoolCount_denotes counted
      exact { limits with conn := { limits.conn with maxIdleConns := nonneg } }
  | maxActive =>
      obtain ⟨n, counted, rfl⟩ := map_ok parsed
      obtain ⟨_, nonneg, _⟩ := parsePoolCount_denotes counted
      exact { limits with conn := { limits.conn with maxActiveConns := nonneg } }
  | maxIdleTime =>
      obtain ⟨d, timed, rfl⟩ := map_ok parsed
      exact { limits with conn := { limits.conn with connMaxIdleTime := parsePoolTime_ok timed } }
  | maxLifetime =>
      obtain ⟨d, timed, rfl⟩ := map_ok parsed
      exact { limits with conn := { limits.conn with connMaxLifetime := parsePoolTime_ok timed } }
  | waitTimeout =>
      obtain ⟨d, timed, rfl⟩ := map_ok parsed
      exact { limits with conn := { limits.conn with poolTimeout := parsePoolTime_ok timed } }
  | unknown word => cases parsed

theorem parseRetries_limits {line : RetriesWord × List String} (limits : re.Limits)
    (parsed : parseRetries std re line = .ok fresh) : fresh.Limits := by
  obtain ⟨word, args⟩ := line
  obtain ⟨arg, _, parsed⟩ := bind_ok parsed
  cases word with
  | max =>
      obtain ⟨n, counted, rfl⟩ := map_ok parsed
      exact { limits with conn := { limits.conn with maxRetries := parseRetriesMax_ok counted } }
  | minBackoff =>
      obtain ⟨d, timed, rfl⟩ := map_ok parsed
      exact { limits with
        conn := { limits.conn with minRetryBackoff := (parseDurationArg_ok timed).2 } }
  | maxBackoff =>
      obtain ⟨d, timed, rfl⟩ := map_ok parsed
      exact { limits with
        conn := { limits.conn with maxRetryBackoff := (parseDurationArg_ok timed).2 } }
  | unknown word => cases parsed

theorem parseDirective_limits {directive : Directive} (limits : re.Limits)
    (parsed : parseDirective std re directive = .ok fresh) : fresh.Limits := by
  cases directive with
  | sentinel args =>
      simp only [parseDirective, parseSentinel] at parsed
      split at parsed
      · obtain ⟨addrs, normal, rfl⟩ := map_ok parsed
        exact { limits with
          monitored := fun _ => List.append_ne_nil_of_right_ne_nil _
            (normalizeAll_ne_nil (List.cons_ne_nil _ _) normal) }
      · cases parsed
  | timeout lines =>
      exact foldlM_invariant _ Redis.Limits
        (fun _ _ _ held parsed => parseTimeout_limits held parsed) lines re fresh limits parsed
  | pool lines =>
      exact foldlM_invariant _ Redis.Limits
        (fun _ _ _ held parsed => parsePool_limits held parsed) lines re fresh limits parsed
  | retries lines =>
      exact foldlM_invariant _ Redis.Limits
        (fun _ _ _ held parsed => parseRetries_limits held parsed) lines re fresh limits parsed
  | tcpKeepalive args =>
      obtain ⟨d, parsed, ended⟩ := bind_ok parsed
      obtain ⟨arg, _, timed⟩ := bind_ok parsed
      cases ended
      exact { limits with
        conn := { limits.conn with }, keepalive := (parseDurationArg_ok timed).2 }
  | db args =>
      obtain ⟨n, ended, rfl⟩ := map_ok parsed
      obtain ⟨arg, _, counted⟩ := bind_ok ended
      exact { limits with db := (parseDB_denotes counted).2.1 }
  | _ =>
      rw [parseDirective_written parsed]
      exact { limits with conn := { limits.conn with } }

end Steps

section Clients

variable {TLS : Type} {std : Std} {block : Block} {re : Redis}

theorem parse_limits (accepted : parse std (some block) = .ok (.ok (some re))) :
    re.Limits := by
  obtain ⟨base, zones, looped, _, rfl⟩ := parse_accepted accepted
  have limits := foldlM_invariant (parseDirective std) Redis.Limits
    (fun _ _ _ held parsed => parseDirective_limits held parsed) block.directives Redis.new base
    new_limits looped
  exact { limits with conn := { limits.conn with } }

theorem parse_backoff (accepted : parse std (some block) = .ok (.ok (some re)))
    (low : 0 < re.minRetryBackoff) (high : 0 < re.maxRetryBackoff) :
    re.minRetryBackoff ≤ re.maxRetryBackoff := by
  simp only [parse] at accepted
  split at accepted
  · cases accepted
  · rename_i base based
    obtain ⟨zones, _, accepted⟩ := bind_ok accepted
    obtain ⟨_, _, based⟩ := bind_ok based
    obtain ⟨_, _, based⟩ := bind_ok based
    obtain ⟨_, checked, based⟩ := bind_ok based
    cases based
    split at accepted
    · cases accepted
    · cases accepted
      unfold checkBackoff at checked
      split at checked
      · cases checked
      · rename_i unordered
        by_contra above
        exact unordered ⟨low, high, Int.not_le.mp above⟩

theorem mapM_normal {args addrs : List String}
    (ran : args.mapM (normalizeAddr std) = .ok addrs) : ∀ addr ∈ addrs, Normal std addr := by
  have pairs := (mapM_ok_iff _ _ _).mp ran
  clear ran
  induction pairs with
  | nil => simp
  | cons first _ ih =>
      intro addr member
      rcases List.mem_cons.mp member with rfl | later
      · exact ⟨_, first⟩
      · exact ih addr later

theorem endpointGiven_normal {directives : List Directive} {addr : String}
    (given : EndpointGiven std directives addr) : Normal std addr := by
  unfold EndpointGiven at given
  split at given
  · rw [given]
    exact ⟨Redis.new.addr, rfl⟩
  · exact ⟨_, given⟩

theorem clusterOptions_addressed (targeted : Targeted std block.directives re)
    (mode : re.topology = .cluster) (tlsCfg : TLS) : (re.clusterOptions tlsCfg).Addressed std := by
  have seeds : re.clusterAddrs ≠ [] := by
    have found := topology_found re
    rwa [mode] at found
  have normal : ∀ addr ∈ re.clusterAddrs, Normal std addr := mapM_normal (targeted.addrs .cluster)
  unfold Redis.clusterOptions
  split
  · exact ⟨seeds, normal⟩
  · split <;> exact ⟨seeds, normal⟩

theorem failoverOptions_addressed (limits : re.Limits)
    (targeted : Targeted std block.directives re) (mode : re.topology = .sentinel) (tlsCfg : TLS) :
    (re.failoverOptions tlsCfg).Addressed std := by
  have named : re.masterName ≠ "" := by
    have found := topology_found re
    rwa [mode] at found
  exact ⟨named, limits.monitored named, mapM_normal (targeted.addrs .sentinel), limits.db⟩

theorem clients_addressed (accepted : parse std (some block) = .ok (.ok (some re)))
    {tls : Except String TLS} {clients : Clients TLS} (built : re.buildClients tls = .ok clients) :
    ∀ client ∈ clients.all, client.Addressed std := by
  have limits := parse_limits accepted
  have targeted := parse_targeted accepted
  unfold Redis.buildClients at built
  split at built
  · cases built
  · rename_i tlsCfg
    have write : (re.clientOptions re.addr tlsCfg).Addressed std :=
      ⟨endpointGiven_normal targeted.endpoint, limits.db⟩
    split at built
    · rename_i mode
      cases built
      simpa [Clients.all] using clusterOptions_addressed targeted mode tlsCfg
    · rename_i mode
      cases built
      simpa [Clients.all] using failoverOptions_addressed limits targeted mode tlsCfg
    · have reads : ∀ addr ∈ re.readEndpoints, (re.clientOptions addr tlsCfg).Addressed std :=
        fun addr member => ⟨mapM_normal (targeted.addrs .read) addr member, limits.db⟩
      split at built
      · rename_i only one
        cases built
        rw [one] at reads
        simpa [Clients.all] using And.intro write (reads only (List.mem_singleton_self _))
      · cases built
        simpa [Clients.all] using And.intro write reads
    · cases built
      simpa [Clients.all] using write

/-- Every client of an accepted block has bounded waits, limits that are not negative, ordered
backoffs, and addresses that went through `normalizeAddr`. -/
theorem clients_within_limits (accepted : parse std (some block) = .ok (.ok (some re)))
    {tls : Except String TLS} {clients : Clients TLS} (built : re.buildClients tls = .ok clients)
    {client : Client TLS} (member : client ∈ clients.all) :
    client.conn.Bounded ∧ client.Addressed std ∧
      (0 < client.conn.minRetryBackoff → 0 < client.conn.maxRetryBackoff →
        client.conn.minRetryBackoff ≤ client.conn.maxRetryBackoff) ∧
      ∀ dialer, client.conn.dialer = some dialer → 0 < dialer.timeout ∧ 0 ≤ dialer.keepAlive := by
  have limits := parse_limits accepted
  obtain ⟨tlsCfg, _, conns⟩ := buildClients_conn built
  refine ⟨?_, clients_addressed accepted built client member, ?_⟩
  · rw [conns client member]
    exact { limits.conn with }
  · rw [conns client member]
    refine ⟨parse_backoff accepted, ?_⟩
    intro dialer dialled
    simp only [Redis.connOptions, Redis.dialer] at dialled
    split at dialled
    · cases dialled
    · cases dialled
      exact ⟨limits.conn.dialTimeout, limits.keepalive⟩

end Clients

/-- A sentinel without a retry, behind a resolver. -/
def sentinelBlock : Block :=
  ⟨["."], [], [.sentinel ["mymaster", "10.0.0.1:26379"], .retries [(.max, ["0"])],
    .resolver ["10.0.0.10"], .db ["2"]], false⟩

def sentinelConfig : Redis :=
  { Redis.new with
    masterName := "mymaster", sentinels := ["10.0.0.1:26379"], maxRetries := -1,
    resolver := "10.0.0.10:53", db := 2 }

theorem sentinelBlock_within_limits :
    ∃ client : Client Unit,
      parse plainStd (some sentinelBlock) = .ok (.ok (some sentinelConfig)) ∧
      sentinelConfig.buildClients (.ok ()) = .ok ⟨client, some client, []⟩ ∧
      client.conn.Bounded ∧ client.Addressed plainStd ∧ client.conn.maxRetries = -1 := by
  have accepted : parse plainStd (some sentinelBlock) = .ok (.ok (some sentinelConfig)) := by
    decide +kernel
  obtain ⟨bounded, addressed, _⟩ :=
    clients_within_limits accepted (rfl : sentinelConfig.buildClients (.ok ()) = .ok _)
      List.mem_cons_self
  exact ⟨_, accepted, rfl, bounded, addressed, rfl⟩

end RedisCache
