import RedisCache.TtlLaw

set_option autoImplicit false

/- The clients that are built from a configuration, and the directives that they are
built without. -/

namespace RedisCache

/-- The dialer in place of the one of go-redis. -/
structure Dialer where
  timeout : Int
  keepAlive : Int
  resolver : String
deriving DecidableEq, Repr

def Redis.dialer (re : Redis) : Option Dialer :=
  if re.resolver = "" ∧ re.tcpKeepalive = 0 then none
  else some ⟨re.connectTimeout, re.tcpKeepalive, re.resolver⟩

/-- The options that clients of all kinds have. -/
structure ConnOptions (TLS : Type) where
  username : String
  password : String
  maxRetries : Int
  minRetryBackoff : Int
  maxRetryBackoff : Int
  dialTimeout : Int
  readTimeout : Int
  writeTimeout : Int
  poolSize : Int
  minIdleConns : Int
  maxIdleConns : Int
  maxActiveConns : Int
  connMaxIdleTime : Int
  connMaxLifetime : Int
  poolTimeout : Int
  dialer : Option Dialer
  tlsConfig : TLS

/-- The clients of go-redis, with the options that only their own kind has. -/
inductive Client (TLS : Type)
  | single (addr : String) (db : Int) (conn : ConnOptions TLS)
  | cluster (addrs : List String) (readOnly routeByLatency routeRandomly : Bool)
      (conn : ConnOptions TLS)
  | failover (masterName : String) (sentinelAddrs : List String)
      (sentinelUsername sentinelPassword : String) (db : Int) (routeRandomly : Bool)
      (conn : ConnOptions TLS)

/-- The read side is one client, or the pool of two or more. -/
structure Clients (TLS : Type) where
  writeClient : Client TLS
  readClient : Option (Client TLS)
  readPool : List (Client TLS)

inductive Topology
  | cluster
  | sentinel
  | replicas
  | standalone
deriving DecidableEq, Repr

/-- The switch of `buildClients`. -/
def Redis.topology (re : Redis) : Topology :=
  if re.clusterAddrs ≠ [] then .cluster
  else if re.masterName ≠ "" then .sentinel
  else if re.readEndpoints ≠ [] then .replicas
  else .standalone

/-- What the switch has found where it ends. -/
theorem topology_found (re : Redis) :
    match re.topology with
    | .cluster => re.clusterAddrs ≠ []
    | .sentinel => re.masterName ≠ ""
    | .replicas => re.readEndpoints ≠ []
    | .standalone => re.readEndpoints = [] := by
  unfold Redis.topology
  by_cases seeds : re.clusterAddrs = []
  · by_cases named : re.masterName = ""
    · by_cases split : re.readEndpoints = [] <;> simp [seeds, named, split]
    · simp [seeds, named]
  · simp [seeds]

section Build

variable {TLS : Type}

def Redis.connOptions (re : Redis) (tlsCfg : TLS) : ConnOptions TLS where
  username := re.username
  password := re.password
  maxRetries := re.maxRetries
  minRetryBackoff := re.minRetryBackoff
  maxRetryBackoff := re.maxRetryBackoff
  dialTimeout := re.connectTimeout
  readTimeout := re.readTimeout
  writeTimeout := re.writeTimeout
  poolSize := re.poolSize
  minIdleConns := re.minIdleConns
  maxIdleConns := re.maxIdleConns
  maxActiveConns := re.maxActiveConns
  connMaxIdleTime := re.connMaxIdleTime
  connMaxLifetime := re.connMaxLifetime
  poolTimeout := re.poolTimeout
  dialer := re.dialer
  tlsConfig := tlsCfg

def Redis.clientOptions (re : Redis) (addr : String) (tlsCfg : TLS) : Client TLS :=
  .single addr re.db (re.connOptions tlsCfg)

/-- `clusterOptions` with the routing that `applyClusterReadRouting` lays over it. -/
def Redis.clusterOptions (re : Redis) (tlsCfg : TLS) : Client TLS :=
  if re.readFrom = "random" then
    .cluster re.clusterAddrs true false true (re.connOptions tlsCfg)
  else if re.readFrom = "primary" then
    .cluster re.clusterAddrs false false false (re.connOptions tlsCfg)
  else .cluster re.clusterAddrs true true false (re.connOptions tlsCfg)

def Redis.failoverOptions (re : Redis) (tlsCfg : TLS) : Client TLS :=
  .failover re.masterName re.sentinels re.sentinelUsername re.sentinelPassword re.db true
    (re.connOptions tlsCfg)

/-- `buildClients`, given what `buildTLSConfig` returned. -/
def Redis.buildClients (re : Redis) (tls : Except String TLS) : Except String (Clients TLS) :=
  match tls with
  | .error text => .error ("tls: " ++ text)
  | .ok tlsCfg =>
      match re.topology with
      | .cluster =>
          .ok ⟨re.clusterOptions tlsCfg, some (re.clusterOptions tlsCfg), []⟩
      | .sentinel =>
          .ok ⟨re.failoverOptions tlsCfg, some (re.failoverOptions tlsCfg), []⟩
      | .replicas =>
          match re.readEndpoints with
          | [only] =>
              .ok ⟨re.clientOptions re.addr tlsCfg, some (re.clientOptions only tlsCfg), []⟩
          | many =>
              .ok ⟨re.clientOptions re.addr tlsCfg, none,
                many.map fun ep => re.clientOptions ep tlsCfg⟩
      | .standalone =>
          .ok ⟨re.clientOptions re.addr tlsCfg, some (re.clientOptions re.addr tlsCfg), []⟩

/-- Nothing that belongs to another topology, nor the database, reaches the client
of a cluster. -/
theorem buildClients_cluster {re other : Redis} (mode : re.topology = .cluster)
    (same : other.topology = .cluster) (seeds : other.clusterAddrs = re.clusterAddrs)
    (routing : other.readFrom = re.readFrom)
    (conn : ∀ tlsCfg : TLS, other.connOptions tlsCfg = re.connOptions tlsCfg)
    (tls : Except String TLS) : other.buildClients tls = re.buildClients tls := by
  unfold Redis.buildClients Redis.clusterOptions
  rw [mode, same, seeds, routing]
  simp only [conn]

end Build

def Directive.isCluster : Directive → Bool
  | .cluster _ => true
  | _ => false

def Directive.isSentinel : Directive → Bool
  | .sentinel _ => true
  | _ => false

def Directive.isEndpoint : Directive → Bool
  | .endpoint _ => true
  | _ => false

def Directive.isReadEndpoint : Directive → Bool
  | .readEndpoint _ => true
  | _ => false

def Directive.isReadFrom : Directive → Bool
  | .readFrom _ => true
  | _ => false

/-- A `sentinel_username` or `sentinel_password` that is not the empty string. -/
def Directive.isSentinelCredential : Directive → Bool
  | .sentinelUsername args => args.any fun arg => arg != ""
  | .sentinelPassword args => args.any fun arg => arg != ""
  | _ => false

/-- A `db` other than zero. -/
def Directive.isOtherDB (std : Std) : Directive → Bool
  | .db args => args.any fun arg =>
      match parseDB std arg with
      | .ok n => n != 0
      | .error _ => false
  | _ => false

/-- The directives that a topology has no use for. -/
def Directive.foreignTo (std : Std) (directive : Directive) : Topology → Bool
  | .cluster => directive.isEndpoint || directive.isReadEndpoint || directive.isSentinel ||
      directive.isSentinelCredential || directive.isOtherDB std
  | .sentinel => directive.isEndpoint || directive.isReadEndpoint || directive.isCluster ||
      directive.isReadFrom
  | .replicas | .standalone => directive.isCluster || directive.isSentinel ||
      directive.isReadFrom || directive.isSentinelCredential

def Directive.master? : Directive → Option String
  | .sentinel (master :: _) => some master
  | _ => none

/-- The master name that the last `sentinel` directive gives. -/
def lastMaster (directives : List Directive) : String :=
  directives.foldl (fun name directive => directive.master?.getD name) ""

theorem lastMaster_snoc (directives : List Directive) (last : Directive) :
    lastMaster (directives ++ [last]) = last.master?.getD (lastMaster directives) := by
  simp [lastMaster, List.foldl_append]

/-- A directive that no check across directives looks for: beside `cluster`, anything
of `sentinel`'s or a database; beside a named master, `read_from`; and with neither,
a `sentinel` whose master has the empty name or credentials for it. -/
def Overlooked (std : Std) (directives : List Directive) : Prop :=
  if directives.any Directive.isCluster then
    directives.any (fun directive => directive.isSentinel || directive.isSentinelCredential ||
      directive.isOtherDB std) = true
  else if lastMaster directives ≠ "" then directives.any Directive.isReadFrom = true
  else directives.any (fun directive => directive.isSentinel ||
    directive.isSentinelCredential) = true

instance (std : Std) (directives : List Directive) : Decidable (Overlooked std directives) :=
  inferInstanceAs (Decidable (ite (_ = true) _ (ite (_ ≠ "") _ _)))

/-- How the settings reflect the directives that were read. -/
structure Given (past : List Directive) (s : Settings) : Prop where
  cluster : s.clusterAddrs ≠ [] ↔ past.any Directive.isCluster = true
  endpoint : s.endpointSet = past.any Directive.isEndpoint
  readEndpoint : s.readEndpoints ≠ [] ↔ past.any Directive.isReadEndpoint = true
  readFrom : s.readFrom ≠ "" ↔ past.any Directive.isReadFrom = true
  master : s.masterName = lastMaster past

section Snoc

variable {p : Directive → Bool} {past : List Directive} {last : Directive}

theorem any_snoc_of_false (other : p last = false) : (past ++ [last]).any p = past.any p := by
  rw [List.any_append, List.any_cons, other, List.any_nil, Bool.or_false, Bool.or_false]

theorem any_snoc_of_true (one : p last = true) : (past ++ [last]).any p = true := by
  rw [List.any_append, List.any_cons, one, Bool.true_or, Bool.or_true]

theorem lastMaster_snoc_of_none (other : last.master? = none) :
    lastMaster (past ++ [last]) = lastMaster past := by
  rw [lastMaster_snoc, other, Option.getD_none]

end Snoc

/-- A directive that names no topology changes nothing. -/
theorem Given.quiet {past : List Directive} {s : Settings} (given : Given past s)
    (directive : Directive) (cluster : directive.isCluster = false)
    (endpoint : directive.isEndpoint = false) (readEndpoint : directive.isReadEndpoint = false)
    (readFrom : directive.isReadFrom = false) (master : directive.master? = none) :
    Given (past ++ [directive]) s where
  cluster := by rw [any_snoc_of_false cluster, given.cluster]
  endpoint := by rw [any_snoc_of_false endpoint, given.endpoint]
  readEndpoint := by rw [any_snoc_of_false readEndpoint, given.readEndpoint]
  readFrom := by rw [any_snoc_of_false readFrom, given.readFrom]
  master := by rw [lastMaster_snoc_of_none master, given.master]

/-- Each of the five directives that name a topology shows in its own field. -/
theorem Given.step {std : Std} {past : List Directive} {old new : Settings}
    {directive : Directive} (given : Given past old) (after : old.After std new directive) :
    Given (past ++ [directive]) new := by
  obtain ⟨cluster, endpoint, readEndpoint, readFrom, master⟩ := given
  cases directive with
  | success args =>
      obtain ⟨_, _, rfl⟩ := after
      refine Given.quiet ?_ (.success args) rfl rfl rfl rfl rfl
      exact ⟨cluster, endpoint, readEndpoint, readFrom, master⟩
  | denial args =>
      obtain ⟨_, _, rfl⟩ := after
      refine Given.quiet ?_ (.denial args) rfl rfl rfl rfl rfl
      exact ⟨cluster, endpoint, readEndpoint, readFrom, master⟩
  | endpoint args =>
      cases after
      constructor
      case endpoint => exact (any_snoc_of_true rfl).symm
      case master => rwa [lastMaster_snoc_of_none (by rfl)]
      all_goals rwa [any_snoc_of_false (by rfl)]
  | readEndpoint args =>
      obtain ⟨addrs, some, rfl⟩ := after
      constructor
      case readEndpoint =>
        rw [any_snoc_of_true (by rfl)]
        simp [some]
      case master => rwa [lastMaster_snoc_of_none (by rfl)]
      all_goals rwa [any_snoc_of_false (by rfl)]
  | sentinel args =>
      obtain ⟨name, rest, rfl, rfl⟩ := after
      constructor
      case master =>
        rw [lastMaster_snoc]
        rfl
      all_goals rwa [any_snoc_of_false (by rfl)]
  | cluster args =>
      obtain ⟨addrs, some, rfl⟩ := after
      constructor
      case cluster =>
        rw [any_snoc_of_true (by rfl)]
        simp [some]
      case master => rwa [lastMaster_snoc_of_none (by rfl)]
      all_goals rwa [any_snoc_of_false (by rfl)]
  | readFrom args =>
      obtain ⟨value, named, rfl⟩ := after
      constructor
      case readFrom =>
        rw [any_snoc_of_true (by rfl)]
        simp [named]
      case master => rwa [lastMaster_snoc_of_none (by rfl)]
      all_goals rwa [any_snoc_of_false (by rfl)]
  | _ =>
      cases after
      exact Given.quiet ⟨cluster, endpoint, readEndpoint, readFrom, master⟩ _
        rfl rfl rfl rfl rfl

theorem given_new : Given [] Redis.new.settings := by
  constructor <;> simp [Redis.settings, Redis.new, lastMaster]

/-- The settings of a block that was read to its end. -/
theorem foldlM_given {std : Std} {directives : List Directive} {re : Redis}
    (looped : directives.foldlM (parseDirective std) Redis.new = .ok re) :
    Given directives re.settings :=
  Checked.foldlM_history (parseDirective std) (fun past state => Given past state.settings)
    (fun _ _ _ _ given parsed => given.step (parseDirective_after parsed)) given_new looped

/-- The topology, told from the directives. -/
theorem Given.topology_eq {directives : List Directive} {re : Redis}
    (given : Given directives re.settings) :
    re.topology =
      if directives.any Directive.isCluster = true then .cluster
      else if lastMaster directives ≠ "" then .sentinel
      else if directives.any Directive.isReadEndpoint = true then .replicas
      else .standalone := by
  have seeds : re.clusterAddrs ≠ [] ↔ directives.any Directive.isCluster = true := given.cluster
  have named : re.masterName = lastMaster directives := given.master
  have split : re.readEndpoints ≠ [] ↔ directives.any Directive.isReadEndpoint = true :=
    given.readEndpoint
  simp only [Redis.topology, seeds, named, split]

/-- What the checks across directives rule out. -/
theorem checkTopology_ok {re : Redis} (checked : checkTopology re = .ok ()) :
    (re.topology = .cluster ∨ re.topology = .sentinel →
      re.endpointSet = false ∧ re.readEndpoints = []) ∧
    (re.topology = .replicas ∨ re.topology = .standalone → re.readFrom = "") := by
  unfold checkTopology at checked
  split at checked
  · rename_i seeds
    have mode : re.topology = .cluster := if_pos seeds
    split at checked
    · cases checked
    · split at checked
      · cases checked
      · rename_i unset
        split at checked
        · cases checked
        · rename_i unsplit
          exact ⟨fun _ => ⟨by simpa using unset, by simpa using unsplit⟩, by simp [mode]⟩
  · rename_i unseeded
    split at checked
    · rename_i named
      have mode : re.topology = .sentinel := by
        rw [Redis.topology, if_neg unseeded, if_pos named]
      split at checked
      · cases checked
      · rename_i unset
        split at checked
        · cases checked
        · rename_i unsplit
          exact ⟨fun _ => ⟨by simpa using unset, by simpa using unsplit⟩, by simp [mode]⟩
    · rename_i unnamed
      split at checked
      · cases checked
      · split at checked
        · cases checked
        · rename_i unread
          refine ⟨?_, fun _ => by simpa using unread⟩
          rw [Redis.topology, if_neg unseeded, if_neg unnamed]
          split <;> simp

section Accepted

variable {directives : List Directive} {re : Redis}

/-- A cluster or sentinel block that is accepted has no `endpoint` and no `read_endpoint`. -/
theorem Given.no_endpoint (given : Given directives re.settings)
    (checked : checkTopology re = .ok ())
    (mode : re.topology = .cluster ∨ re.topology = .sentinel) :
    directives.any Directive.isEndpoint = false ∧
      directives.any Directive.isReadEndpoint = false := by
  obtain ⟨unset, unsplit⟩ := (checkTopology_ok checked).1 mode
  constructor
  · rw [← given.endpoint]
    exact unset
  · exact Bool.eq_false_iff.mpr fun some => given.readEndpoint.mpr some unsplit

/-- Outside these two modes, an accepted block has no `read_from`. -/
theorem Given.no_readFrom (given : Given directives re.settings)
    (checked : checkTopology re = .ok ())
    (mode : re.topology = .replicas ∨ re.topology = .standalone) :
    directives.any Directive.isReadFrom = false :=
  Bool.eq_false_iff.mpr fun some =>
    given.readFrom.mpr some ((checkTopology_ok checked).2 mode)

end Accepted

theorem foreignTo_unclustered (std : Std) (directive : Directive) {mode : Topology}
    (plain : mode = .replicas ∨ mode = .standalone) :
    directive.foreignTo std mode = (directive.isCluster || directive.isSentinel ||
      directive.isReadFrom || directive.isSentinelCredential) := by
  rcases plain with rfl | rfl
  · rfl
  · rfl

theorem none_iff_not_any {directives : List Directive} {p q : Directive → Bool}
    (same : ∀ directive ∈ directives, p directive = q directive) :
    (∀ directive ∈ directives, p directive = false) ↔ ¬ directives.any q = true := by
  rw [Bool.not_eq_true, List.any_eq_false]
  constructor
  · intro none directive member
    rw [← same directive member, none directive member]
    decide
  · intro none directive member
    rw [same directive member]
    simpa using none directive member

theorem eq_false_of_any {directives : List Directive} {p : Directive → Bool}
    (none : directives.any p = false) {directive : Directive} (member : directive ∈ directives) :
    p directive = false := by
  simpa using List.any_eq_false.mp none directive member

/-- Every accepted directive that belongs to a topology is one of the topology that is
built, unless it is one that the checks overlook. -/
theorem none_foreign_iff {std : Std} {block : Block} {re : Redis}
    (accepted : parse std (some block) = .ok (.ok (some re))) :
    (∀ directive ∈ block.directives, directive.foreignTo std re.topology = false) ↔
      ¬ Overlooked std block.directives := by
  obtain ⟨base, zones, looped, checked, rfl⟩ := parse_accepted accepted
  have given := foldlM_given looped
  -- The zones do not enter the topology.
  change (∀ directive ∈ block.directives, directive.foreignTo std base.topology = false) ↔ _
  unfold Overlooked
  by_cases clustered : block.directives.any Directive.isCluster = true
  · have mode : base.topology = .cluster := by rw [given.topology_eq, if_pos clustered]
    obtain ⟨noEndpoint, noReplica⟩ := given.no_endpoint checked (Or.inl mode)
    rw [if_pos clustered]
    apply none_iff_not_any
    intro directive member
    rw [mode, Directive.foreignTo, eq_false_of_any noEndpoint member,
      eq_false_of_any noReplica member, Bool.false_or, Bool.false_or]
  · have noCluster := Bool.eq_false_iff.mpr clustered
    rw [if_neg clustered]
    by_cases named : lastMaster block.directives ≠ ""
    · have mode : base.topology = .sentinel := by
        rw [given.topology_eq, if_neg clustered, if_pos named]
      obtain ⟨noEndpoint, noReplica⟩ := given.no_endpoint checked (Or.inr mode)
      rw [if_pos named]
      apply none_iff_not_any
      intro directive member
      rw [mode, Directive.foreignTo, eq_false_of_any noEndpoint member,
        eq_false_of_any noReplica member, eq_false_of_any noCluster member,
        Bool.false_or, Bool.false_or, Bool.false_or]
    · have mode : base.topology = .replicas ∨ base.topology = .standalone := by
        rw [given.topology_eq, if_neg clustered, if_neg named]
        split
        · exact Or.inl rfl
        · exact Or.inr rfl
      rw [if_neg named]
      apply none_iff_not_any
      intro directive member
      rw [foreignTo_unclustered std directive mode, eq_false_of_any noCluster member,
        eq_false_of_any (given.no_readFrom checked mode) member, Bool.false_or, Bool.or_false]

/-- A cluster, with a password for the sentinels that it does not have. -/
def strayBlock : Block :=
  ⟨["."], [], [.cluster ["10.0.0.1:7000"], .sentinelPassword ["secret"]], false⟩

/-- `strayBlock` as it is parsed. -/
def strayConfig : Redis :=
  { Redis.new with clusterAddrs := ["10.0.0.1:7000"], sentinelPassword := "secret" }

/-- The password is accepted, and the clients are those of a block without it. -/
theorem strayBlock_ignores_password :
    parse plainStd (some strayBlock) = .ok (.ok (some strayConfig)) ∧
      strayConfig.topology = .cluster ∧
      (∃ directive ∈ strayBlock.directives,
        directive.foreignTo plainStd strayConfig.topology = true) ∧
      ∀ tls : Except String Unit, strayConfig.buildClients tls =
        ({ strayConfig with sentinelPassword := "" }).buildClients tls := by
  refine ⟨by decide +kernel, by decide, ⟨.sentinelPassword ["secret"], ?_, by decide⟩, ?_⟩
  · exact List.mem_cons_of_mem _ (List.mem_singleton_self _)
  · exact buildClients_cluster (by decide) (by decide) rfl rfl (fun _ => rfl)

/-- A cluster that reads from its replicas at random. -/
def clusterBlock : Block :=
  ⟨["."], [], [.cluster ["10.0.0.1:7000"], .readFrom ["random"], .db ["0"]], false⟩

theorem clusterBlock_ignores_nothing :
    ∃ re, parse plainStd (some clusterBlock) = .ok (.ok (some re)) ∧ re.topology = .cluster ∧
      ∀ directive ∈ clusterBlock.directives,
        directive.foreignTo plainStd re.topology = false := by
  have accepted : parse plainStd (some clusterBlock) = .ok (.ok (some
      { Redis.new with clusterAddrs := ["10.0.0.1:7000"], readFrom := "random" })) := by
    decide +kernel
  exact ⟨_, accepted, by decide, (none_foreign_iff accepted).mpr (by decide +kernel)⟩

end RedisCache
