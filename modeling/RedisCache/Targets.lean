import RedisCache.Tls

set_option autoImplicit false

/- The servers of a block, from its directives to the clients. -/

namespace RedisCache

open Checked

/-- The settings that are lists of addresses. -/
inductive AddrList
  | read
  | cluster
  | sentinel
deriving DecidableEq, Repr

def Redis.addrs (re : Redis) : AddrList → List String
  | .read => re.readEndpoints
  | .cluster => re.clusterAddrs
  | .sentinel => re.sentinels

/-- The addresses that a directive adds to a list. -/
def Directive.addrArgs (list : AddrList) : Directive → List String
  | .readEndpoint args => if list = .read then args else []
  | .cluster args => if list = .cluster then args else []
  | .sentinel args => if list = .sentinel then args.tail else []
  | _ => []

def Directive.endpointArg : Directive → Option String
  | .endpoint args => args.head?
  | _ => none

def Directive.readFromArg : Directive → Option String
  | .readFrom args => args.head?
  | _ => none

/-- The argument of the last directive that has one. -/
def lastArg (arg : Directive → Option String) (directives : List Directive) : Option String :=
  directives.foldl (fun found directive => (arg directive).or found) none

/-- The addresses of a list, in the order of the block. -/
def addrsGiven (std : Std) (list : AddrList) (directives : List Directive) :
    Except String (List String) :=
  (directives.flatMap (Directive.addrArgs list)).mapM (normalizeAddr std)

/-- An address that the last `endpoint` gives, or the default. -/
def EndpointGiven (std : Std) (directives : List Directive) (addr : String) : Prop :=
  match lastArg Directive.endpointArg directives with
  | none => addr = Redis.new.addr
  | some arg => normalizeAddr std arg = .ok addr

theorem lastArg_snoc (arg : Directive → Option String) (past : List Directive) (last : Directive) :
    lastArg arg (past ++ [last]) = (arg last).or (lastArg arg past) := by
  simp [lastArg, List.foldl_append]

section Steps

variable {std : Std} {re fresh : Redis} {past : List Directive}

/-- How the settings of the servers reflect the directives that were read. -/
structure Targeted (std : Std) (past : List Directive) (re : Redis) : Prop where
  addrs : ∀ list, addrsGiven std list past = .ok (re.addrs list)
  endpoint : EndpointGiven std past re.addr
  readFrom : re.readFrom = (lastArg Directive.readFromArg past).getD ""

theorem normalizeAll_mapM {wrap : String → String → ParseError} {args addrs : List String}
    (ran : normalizeAll std wrap args = .ok addrs) : args.mapM (normalizeAddr std) = .ok addrs := by
  induction args generalizing addrs with
  | nil =>
      cases ran
      rfl
  | cons arg rest ih =>
      rw [List.mapM_cons]
      unfold normalizeAll at ran
      split at ran
      · cases ran
      · rename_i addr first
        split at ran
        · cases ran
        · rename_i others later
          cases ran
          rw [first, ih later]
          rfl

theorem addrsGiven_snoc {list : AddrList} {directive : Directive} {old new : List String}
    (given : addrsGiven std list past = .ok old)
    (added : (directive.addrArgs list).mapM (normalizeAddr std) = .ok new) :
    addrsGiven std list (past ++ [directive]) = .ok (old ++ new) := by
  unfold addrsGiven at given ⊢
  rw [List.flatMap_append, List.mapM_append, given, List.flatMap_singleton, added]
  rfl

theorem addrsGiven_quiet {list : AddrList} {directive : Directive}
    (quiet : directive.addrArgs list = []) :
    addrsGiven std list (past ++ [directive]) = addrsGiven std list past := by
  simp [addrsGiven, List.flatMap_append, quiet]

theorem endpointGiven_quiet {directive : Directive} {addr : String}
    (given : EndpointGiven std past addr) (quiet : directive.endpointArg = none) :
    EndpointGiven std (past ++ [directive]) addr := by
  unfold EndpointGiven at given ⊢
  rwa [lastArg_snoc, quiet, Option.none_or]

theorem lastArg_quiet {arg : Directive → Option String} {directive : Directive}
    (quiet : arg directive = none) : lastArg arg (past ++ [directive]) = lastArg arg past := by
  rw [lastArg_snoc, quiet, Option.none_or]

/-- A directive that adds to one list of addresses. -/
theorem Targeted.append {directive : Directive} {added : List String}
    (targeted : Targeted std past re) (list : AddrList)
    (written : fresh.addrs = Function.update re.addrs list (re.addrs list ++ added))
    (addr : fresh.addr = re.addr) (readFrom : fresh.readFrom = re.readFrom)
    (normal : (directive.addrArgs list).mapM (normalizeAddr std) = .ok added)
    (others : ∀ other, other ≠ list → directive.addrArgs other = [])
    (endpointArg : directive.endpointArg = none) (readFromArg : directive.readFromArg = none) :
    Targeted std (past ++ [directive]) fresh := by
  refine ⟨?_, ?_, ?_⟩
  · intro other
    rw [written]
    by_cases same : other = list
    · subst same
      rw [Function.update_self]
      exact addrsGiven_snoc (targeted.addrs other) normal
    · rw [Function.update_of_ne same, addrsGiven_quiet (others other same)]
      exact targeted.addrs other
  · rw [addr]
    exact endpointGiven_quiet targeted.endpoint endpointArg
  · rw [readFrom, lastArg_quiet readFromArg]
    exact targeted.readFrom

theorem Targeted.step {directive : Directive} (targeted : Targeted std past re)
    (parsed : parseDirective std re directive = .ok fresh) :
    Targeted std (past ++ [directive]) fresh := by
  cases directive with
  | endpoint args =>
      simp only [parseDirective] at parsed
      split at parsed
      · cases parsed
      · rename_i arg rest
        split at parsed
        · cases parsed
        · rename_i addr normal
          cases parsed
          refine ⟨?_, ?_, ?_⟩
          · intro list
            rw [addrsGiven_quiet rfl]
            exact targeted.addrs list
          · unfold EndpointGiven
            rw [lastArg_snoc]
            exact normal
          · rw [lastArg_quiet rfl]
            exact targeted.readFrom
  | readFrom args =>
      obtain ⟨arg, one, parsed⟩ := bind_ok parsed
      unfold parseReadFrom at parsed
      split at parsed
      · cases parsed
        refine ⟨?_, ?_, ?_⟩
        · intro list
          rw [addrsGiven_quiet rfl]
          exact targeted.addrs list
        · exact endpointGiven_quiet targeted.endpoint rfl
        · rw [lastArg_snoc, oneArg_ok one]
          rfl
      · cases parsed
  | readEndpoint args =>
      simp only [parseDirective] at parsed
      split at parsed
      · cases parsed
      · obtain ⟨addrs, normal, rfl⟩ := map_ok parsed
        refine targeted.append .read ?_ rfl rfl (normalizeAll_mapM normal) ?_ rfl rfl
        · funext list
          cases list <;> rfl
        · intro other different
          exact if_neg different
  | cluster args =>
      simp only [parseDirective, parseCluster] at parsed
      split at parsed
      · cases parsed
      · obtain ⟨addrs, normal, rfl⟩ := map_ok parsed
        refine targeted.append .cluster ?_ rfl rfl (normalizeAll_mapM normal) ?_ rfl rfl
        · funext list
          cases list <;> rfl
        · intro other different
          exact if_neg different
  | sentinel args =>
      simp only [parseDirective, parseSentinel] at parsed
      split at parsed
      · obtain ⟨addrs, normal, rfl⟩ := map_ok parsed
        refine targeted.append .sentinel ?_ rfl rfl (normalizeAll_mapM normal) ?_ rfl rfl
        · funext list
          cases list <;> rfl
        · intro other different
          exact if_neg different
      · cases parsed
  | _ =>
      rw [parseDirective_written parsed]
      refine ⟨?_, endpointGiven_quiet targeted.endpoint rfl, ?_⟩
      · intro list
        rw [addrsGiven_quiet rfl]
        cases list <;> exact targeted.addrs _
      · rw [lastArg_quiet rfl]
        exact targeted.readFrom

theorem parse_targeted {block : Block} (accepted : parse std (some block) = .ok (.ok (some re))) :
    Targeted std block.directives re := by
  obtain ⟨base, zones, looped, _, rfl⟩ := parse_accepted accepted
  have targeted : Targeted std block.directives base :=
    foldlM_history (parseDirective std) (Targeted std)
      (fun _ _ _ _ held parsed => held.step parsed)
      ⟨fun list => by cases list <;> rfl, rfl, rfl⟩ looped
  exact ⟨fun list => by cases list <;> exact targeted.addrs _, targeted.endpoint,
    targeted.readFrom⟩

end Steps

/-- ReadOnly, RouteByLatency and RouteRandomly for a value of `read_from`. -/
def routing (readFrom : Option String) : Bool × Bool × Bool :=
  if readFrom = some "random" then (true, false, true)
  else if readFrom = some "primary" then (false, false, false)
  else (true, true, false)

/-- The topology that the directives choose. -/
def topologyOf (directives : List Directive) : Topology :=
  if directives.any Directive.isCluster then .cluster
  else if lastMaster directives ≠ "" then .sentinel
  else if directives.any Directive.isReadEndpoint then .replicas
  else .standalone

/-- A client of the kind that a topology has, for the servers that the directives of that
topology name. -/
def Client.AsGiven {TLS : Type} (std : Std) (directives : List Directive) :
    Topology → Client TLS → Prop
  | .cluster, .cluster addrs readOnly routeByLatency routeRandomly _ =>
      addrsGiven std .cluster directives = .ok addrs ∧ addrs ≠ [] ∧
        (readOnly, routeByLatency, routeRandomly) = routing (lastArg Directive.readFromArg directives)
  | .sentinel, .failover masterName addrs _ _ _ routeRandomly _ =>
      masterName = lastMaster directives ∧ masterName ≠ "" ∧
        addrsGiven std .sentinel directives = .ok addrs ∧ routeRandomly = true
  | .replicas, .single addr _ _ => EndpointGiven std directives addr
  | .standalone, .single addr _ _ => EndpointGiven std directives addr
  | _, _ => False

section Clients

variable {TLS : Type} {std : Std} {block : Block} {re : Redis}

theorem no_readEndpoints {base : Redis} (checked : checkTopology base = .ok ())
    (other : base.topology ≠ .replicas) : base.readEndpoints = [] := by
  have found := topology_found base
  cases mode : base.topology with
  | cluster => exact ((checkTopology_ok checked).1 (.inl mode)).2
  | sentinel => exact ((checkTopology_ok checked).1 (.inr mode)).2
  | replicas => exact absurd mode other
  | standalone => rwa [mode] at found

theorem getD_eq_iff {found : Option String} {value : String} (named : value ≠ "") :
    found.getD "" = value ↔ found = some value := by
  cases found with
  | none => simp [Ne.symm named]
  | some other => simp

theorem clusterOptions_asGiven (targeted : Targeted std block.directives re)
    (mode : re.topology = .cluster) (tlsCfg : TLS) :
    (re.clusterOptions tlsCfg).AsGiven std block.directives .cluster := by
  have seeds : re.clusterAddrs ≠ [] := by
    have found := topology_found re
    rwa [mode] at found
  have given : addrsGiven std .cluster block.directives = .ok re.clusterAddrs :=
    targeted.addrs .cluster
  have random : re.readFrom = "random" ↔
      lastArg Directive.readFromArg block.directives = some "random" := by
    rw [targeted.readFrom, getD_eq_iff (by decide)]
  have primary : re.readFrom = "primary" ↔
      lastArg Directive.readFromArg block.directives = some "primary" := by
    rw [targeted.readFrom, getD_eq_iff (by decide)]
  unfold Redis.clusterOptions
  by_cases atRandom : re.readFrom = "random"
  · rw [if_pos atRandom]
    exact ⟨given, seeds, (if_pos (random.mp atRandom)).symm⟩
  · by_cases fromPrimary : re.readFrom = "primary"
    · rw [if_neg atRandom, if_pos fromPrimary]
      refine ⟨given, seeds, ?_⟩
      rw [routing, if_neg (fun same => atRandom (random.mpr same)), if_pos (primary.mp fromPrimary)]
    · rw [if_neg atRandom, if_neg fromPrimary]
      refine ⟨given, seeds, ?_⟩
      rw [routing, if_neg (fun same => atRandom (random.mpr same)),
        if_neg (fun same => fromPrimary (primary.mpr same))]

theorem failoverOptions_asGiven (targeted : Targeted std block.directives re)
    (master : re.masterName = lastMaster block.directives) (mode : re.topology = .sentinel)
    (tlsCfg : TLS) : (re.failoverOptions tlsCfg).AsGiven std block.directives .sentinel := by
  have named : re.masterName ≠ "" := by
    have found := topology_found re
    rwa [mode] at found
  exact ⟨master, named, targeted.addrs .sentinel, rfl⟩

theorem parse_unsplit (accepted : parse std (some block) = .ok (.ok (some re)))
    (other : re.topology ≠ .replicas) : re.readEndpoints = [] := by
  obtain ⟨base, zones, _, checked, rfl⟩ := parse_accepted accepted
  exact no_readEndpoints checked other

theorem parse_master (accepted : parse std (some block) = .ok (.ok (some re))) :
    re.masterName = lastMaster block.directives := by
  obtain ⟨base, zones, looped, _, rfl⟩ := parse_accepted accepted
  exact (foldlM_given looped).master

theorem parse_topology (accepted : parse std (some block) = .ok (.ok (some re))) :
    re.topology = topologyOf block.directives := by
  obtain ⟨base, zones, looped, _, rfl⟩ := parse_accepted accepted
  exact (foldlM_given looped).topology_eq

/-- The write client is of the kind that the directives choose, for the servers that the
directives of this kind name. The read side has a client of its own for each address of a
`read_endpoint`, in order, and is the write client where there is none. -/
theorem targets_as_given (accepted : parse std (some block) = .ok (.ok (some re)))
    {tlsCfg : TLS} {clients : Clients TLS} (built : re.buildClients (.ok tlsCfg) = .ok clients) :
    clients.writeClient.AsGiven std block.directives (topologyOf block.directives) ∧
      ∃ addrs, addrsGiven std .read block.directives = .ok addrs ∧
        if addrs = [] then clients.readClient = some clients.writeClient ∧ clients.readPool = []
        else ∃ db conn, clients.readClient.toList ++ clients.readPool =
          addrs.map fun addr => .single addr db conn := by
  have targeted := parse_targeted accepted
  have master := parse_master accepted
  have found := topology_found re
  rw [← parse_topology accepted]
  simp only [Redis.buildClients] at built
  cases mode : re.topology with
  | cluster =>
      have unsplit : re.readEndpoints = [] := parse_unsplit accepted (by simp [mode])
      rw [mode] at built
      cases built
      exact ⟨clusterOptions_asGiven targeted mode tlsCfg, [], unsplit ▸ targeted.addrs .read,
        rfl, rfl⟩
  | sentinel =>
      have unsplit : re.readEndpoints = [] := parse_unsplit accepted (by simp [mode])
      rw [mode] at built
      cases built
      exact ⟨failoverOptions_asGiven targeted master mode tlsCfg, [],
        unsplit ▸ targeted.addrs .read, rfl, rfl⟩
  | replicas =>
      simp only [mode] at built found
      refine ⟨?_, re.readEndpoints, targeted.addrs .read, ?_⟩
      · split at built <;> cases built <;> exact targeted.endpoint
      · rw [if_neg found]
        refine ⟨re.db, re.connOptions tlsCfg, ?_⟩
        split at built
        · rename_i only one
          cases built
          rw [one]
          rfl
        · cases built
          rfl
  | standalone =>
      have unsplit : re.readEndpoints = [] := parse_unsplit accepted (by simp [mode])
      rw [mode] at built
      cases built
      exact ⟨targeted.endpoint, [], unsplit ▸ targeted.addrs .read, rfl, rfl⟩

end Clients

/-- Two `sentinel` directives: the last master counts, and the addresses of both. -/
def twoMastersBlock : Block :=
  ⟨["."], [], [.sentinel ["old", "10.0.0.1:26379"], .sentinel ["new", "10.0.0.2:26379"]], false⟩

def twoMastersConfig : Redis :=
  { Redis.new with masterName := "new", sentinels := ["10.0.0.1:26379", "10.0.0.2:26379"] }

theorem twoMastersBlock_as_given :
    ∃ client : Client Unit,
      parse plainStd (some twoMastersBlock) = .ok (.ok (some twoMastersConfig)) ∧
      twoMastersConfig.buildClients (.ok ()) = .ok ⟨client, some client, []⟩ ∧
      client.AsGiven plainStd twoMastersBlock.directives .sentinel ∧
      lastMaster twoMastersBlock.directives = "new" := by
  have accepted : parse plainStd (some twoMastersBlock) = .ok (.ok (some twoMastersConfig)) := by
    decide +kernel
  have built : twoMastersConfig.buildClients (.ok ()) = .ok _ := rfl
  exact ⟨_, accepted, built, (targets_as_given accepted built).1, rfl⟩

end RedisCache
