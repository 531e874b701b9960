import RedisCache.Targets
import RedisCache.Wiring
import RedisCache.Zones

set_option autoImplicit false

/- The plugin from its start to its shutdown. -/

namespace RedisCache

open Checked

/-- `init`, given the directives of the server: where `redis_cache` goes among them. -/
def init (directives : List String) : List String :=
  if directives.any (· == "redis_cache") then directives
  else
    match directives.findIdx? (· == "cache") with
    | none => directives
    | some i => directives.take (i + 1) ++ ["redis_cache"] ++ directives.drop (i + 1)

theorem findIdx?_of_notMem {name : String} {names : List String} (absent : name ∉ names) :
    names.findIdx? (· == name) = none := by
  rw [List.findIdx?_eq_none_iff]
  intro other member
  exact beq_eq_false_iff_ne.mpr fun same => absent (same ▸ member)

theorem init_of_listed {directives : List String} (listed : "redis_cache" ∈ directives) :
    init directives = directives := by
  rw [init, if_pos (by simpa using listed)]

theorem init_of_uncached {directives : List String} (uncached : "cache" ∉ directives) :
    init directives = directives := by
  rw [init, findIdx?_of_notMem uncached]
  split <;> rfl

theorem init_of_cached {before after : List String} (first : "cache" ∉ before)
    (unlisted : "redis_cache" ∉ before ++ "cache" :: after) :
    init (before ++ "cache" :: after) = before ++ "cache" :: "redis_cache" :: after := by
  have found : (before ++ "cache" :: after).findIdx? (· == "cache") = some before.length := by
    rw [List.findIdx?_append, findIdx?_of_notMem first, List.findIdx?_cons]
    simp
  rw [init, if_neg (by simpa using unlisted), found]
  simp only [List.take_length_add_append, List.drop_length_add_append]
  simp

/-- Registration keeps the order of the other plugins. It puts `redis_cache` right behind the
first `cache`, unless it is listed already or there is no `cache`, and is done once. -/
theorem init_behind_cache (directives : List String) :
    init (init directives) = init directives ∧
      (init directives).filter (· != "redis_cache") = directives.filter (· != "redis_cache") ∧
      ("redis_cache" ∈ directives ∨ "cache" ∉ directives → init directives = directives) ∧
      ("redis_cache" ∉ directives → "cache" ∈ directives → ∃ before after, "cache" ∉ before ∧
        directives = before ++ "cache" :: after ∧
        init directives = before ++ "cache" :: "redis_cache" :: after) := by
  by_cases kept : "redis_cache" ∈ directives ∨ "cache" ∉ directives
  · have same : init directives = directives := kept.elim init_of_listed init_of_uncached
    rw [same, same]
    refine ⟨rfl, rfl, fun _ => rfl, fun unlisted cached => ?_⟩
    exact absurd cached (kept.resolve_left unlisted)
  · obtain ⟨unlisted, cached⟩ := not_or.mp kept
    obtain ⟨before, after, rfl, first⟩ := List.eq_append_cons_of_mem (not_not.mp cached)
    have placed := init_of_cached first unlisted
    rw [placed]
    refine ⟨init_of_listed (by simp), by simp, fun either => absurd either kept, ?_⟩
    intro _ _
    exact ⟨before, after, first, rfl, rfl⟩

inductive Level
  | info
  | warning
deriving DecidableEq, Repr

/-- What `setup` wraps in `plugin.Error`. -/
inductive SetupError
  | parse (err : ParseError)
  | clients (text : String)

/-- The plugin as `setup` registers it, and what it has logged until then. -/
structure Started (TLS : Type) where
  re : Redis
  wiring : Wiring TLS
  log : List (Level × String)

/-- What `setup` calls the topology. -/
def Redis.mode (re : Redis) : String :=
  match re.topology with
  | .cluster =>
      "cluster (read_from=" ++ (if re.readFrom = "" then "latency" else re.readFrom) ++
        ") seeds: " ++ ", ".intercalate re.clusterAddrs
  | .sentinel =>
      "sentinel (master=" ++ re.masterName ++ ") via " ++ ", ".intercalate re.sentinels
  | .replicas =>
      "primary @ " ++ re.addr ++ ", replicas: " ++ ", ".intercalate re.readEndpoints
  | .standalone => "standalone @ " ++ re.addr

/-- `setup`, where the pings end as given. It registers what it returns. -/
def setup {Cert Pool : Type} (x : X509 Cert Pool) (std : Std) (ping : Handle → Option String)
    (block : Option Block) :
    Except Panic (Except SetupError (Started (Option (TLSConfig Cert Pool)))) :=
  match parse std block with
  | .error _ => .error .indexOutOfRange
  | .ok (.error err) => .ok (.error (.parse err))
  | .ok (.ok none) => .error .nilDereference
  | .ok (.ok (some re)) =>
      match re.wire (re.buildTLSConfig x std) with
      | .error text => .ok (.error (.clients text))
      | .ok wiring => do
          let (warnings, failed) ← wiring.verifyConnectivity re.readEndpoints ping
          let verdict :=
            match failed with
            | some err => (Level.warning, "Write endpoint ping failed (will retry on demand): " ++ err)
            | none => (Level.info, "Connected to Redis (" ++ re.mode ++ ")")
          .ok (.ok ⟨re, wiring, warnings.map (fun text => (Level.warning, text)) ++ [verdict]⟩)

section Accepted

variable {std : Std} {block : Block} {re : Redis}

/-- An accepted block has read endpoints only where they get clients. -/
theorem accepted_replicas {TLS : Type} (accepted : parse std (some block) = .ok (.ok (some re)))
    (tlsCfg : TLS) :
    re.replicas tlsCfg = re.readEndpoints.map fun ep => re.clientOptions ep tlsCfg := by
  unfold Redis.replicas
  split
  · rfl
  · rename_i mode
    rw [parse_unsplit accepted mode]
    rfl

end Accepted

/-- What is logged until the plugin is registered. The read endpoints are pinged only behind
a write client that answers. -/
def Redis.startLog (re : Redis) (ping : Handle → Option String) : List (Level × String) :=
  match ping 0 with
  | some err => [(.warning, "Write endpoint ping failed (will retry on demand): " ++ err)]
  | none =>
      (unreachable ping (replicaWord re.readEndpoints) re.readEndpoints 1).map
          (fun text => (Level.warning, text)) ++
        [(.info, "Connected to Redis (" ++ re.mode ++ ")")]

section Start

variable {Cert Pool : Type} (x : X509 Cert Pool) (std : Std) (ping : Handle → Option String)
  (block : Block)

theorem setup_of_wired {re : Redis} {wiring : Wiring (Option (TLSConfig Cert Pool))}
    (accepted : parse std (some block) = .ok (.ok (some re)))
    (wired : re.wire (re.buildTLSConfig x std) = .ok wiring) :
    setup x std ping (some block) = .ok (.ok ⟨re, wiring, re.startLog ping⟩) := by
  obtain ⟨tlsCfg, _, shape⟩ := wire_shape wired
  rw [accepted_replicas accepted] at shape
  unfold setup Redis.startLog
  simp only [accepted, wired]
  cases answered : ping 0 with
  | none =>
      rw [shape.verifyConnectivity_replicas answered]
      rfl
  | some err =>
      rw [shape.verifyConnectivity_unanswered _ answered]
      rfl

theorem parse_some_ne_none : parse std (some block) ≠ .ok (.ok none) := by
  intro parsed
  simp only [parse] at parsed
  split at parsed
  · cases parsed
  · obtain ⟨zones, _, parsed⟩ := bind_ok parsed
    split at parsed <;> cases parsed

/-- The pings decide nothing but what is logged. -/
theorem setup_cases :
    (∃ fault, parse std (some block) = .error fault ∧
      ∀ ping, setup x std ping (some block) = .error .indexOutOfRange) ∨
    (∃ err, (∀ ping, setup x std ping (some block) = .ok (.error err)) ∧
      ∀ re wiring, parse std (some block) = .ok (.ok (some re)) →
        re.wire (re.buildTLSConfig x std) ≠ .ok wiring) ∨
    ∃ re wiring, parse std (some block) = .ok (.ok (some re)) ∧
      re.wire (re.buildTLSConfig x std) = .ok wiring ∧
      ∀ ping, setup x std ping (some block) = .ok (.ok ⟨re, wiring, re.startLog ping⟩) := by
  match parsed : parse std (some block) with
  | .error fault =>
      exact .inl ⟨fault, rfl, fun ping => by simp only [setup, parsed]⟩
  | .ok (.error err) =>
      refine .inr (.inl ⟨.parse err, fun ping => by simp only [setup, parsed], ?_⟩)
      intro re wiring same
      cases same
  | .ok (.ok none) => exact absurd parsed (parse_some_ne_none std block)
  | .ok (.ok (some re)) =>
      cases wired : re.wire (re.buildTLSConfig x std) with
      | error text =>
          refine .inr (.inl ⟨.clients text, fun ping => by simp only [setup, parsed, wired], ?_⟩)
          intro _ wiring same
          cases same
          intro ok
          rw [wired] at ok
          cases ok
      | ok wiring =>
          exact .inr (.inr ⟨re, wiring, rfl, wired,
            fun ping => setup_of_wired x std ping block parsed wired⟩)

theorem setup_started_iff (started : Started (Option (TLSConfig Cert Pool))) :
    setup x std ping (some block) = .ok (.ok started) ↔
      parse std (some block) = .ok (.ok (some started.re)) ∧
        started.re.wire (started.re.buildTLSConfig x std) = .ok started.wiring ∧
        started.log = started.re.startLog ping := by
  constructor
  · intro ran
    rcases setup_cases x std block with ⟨_, _, all⟩ | ⟨_, all, _⟩ | ⟨re, wiring, parsed, wired, all⟩
    · rw [all] at ran
      cases ran
    · rw [all] at ran
      cases ran
    · rw [all] at ran
      cases ran
      exact ⟨parsed, wired, rfl⟩
  · rintro ⟨parsed, wired, logged⟩
    rw [setup_of_wired x std ping block parsed wired, ← logged]

/-- The plugin starts exactly if the block is accepted and the files for TLS can be used,
in the same way whichever clients answer their ping. A write client that does not answer is
logged, and behind one that does each read endpoint that does not, with the address that the
block gives it. Setup panics exactly if the directives are accepted and a zone has no normal
form. -/
theorem setup_despite_outage :
    (∀ started, setup x std ping (some block) = .ok (.ok started) ↔
      parse std (some block) = .ok (.ok (some started.re)) ∧
        started.re.wire (started.re.buildTLSConfig x std) = .ok started.wiring ∧
        started.log = started.re.startLog ping) ∧
    (∀ err, setup x std ping (some block) = .ok (.error err) →
      ∀ other, setup x std other (some block) = .ok (.error err)) ∧
    ((∃ panic, setup x std ping (some block) = .error panic) ↔
      (∃ re, parseBlock std block.directives = .ok re) ∧
        ∃ origin ∈ block.origins, std.normalizeExact origin = []) := by
  refine ⟨setup_started_iff x std ping block, ?_, ?_⟩
  · intro err refused other
    rcases setup_cases x std block with ⟨_, _, all⟩ | ⟨_, all, _⟩ | ⟨_, _, _, _, all⟩
    · rw [all] at refused
      cases refused
    · rw [all] at refused ⊢
      exact refused
    · rw [all] at refused
      cases refused
  · rw [← parse_faults_iff]
    constructor
    · rintro ⟨panic, ran⟩
      rcases setup_cases x std block with ⟨fault, faulted, _⟩ | ⟨_, all, _⟩ | ⟨_, _, _, _, all⟩
      · exact ⟨fault, faulted⟩
      · rw [all] at ran
        cases ran
      · rw [all] at ran
        cases ran
    · rintro ⟨fault, faulted⟩
      exact ⟨.indexOutOfRange, by simp only [setup, faulted]⟩

variable {x std ping block} {started : Started (Option (TLSConfig Cert Pool))}

theorem setup_shape (ran : setup x std ping (some block) = .ok (.ok started)) :
    ∃ tlsCfg, started.re.buildTLSConfig x std = .ok tlsCfg ∧ started.wiring.Shape
      (started.re.readEndpoints.map fun addr => started.re.clientOptions addr tlsCfg) := by
  obtain ⟨accepted, wired, _⟩ := (setup_started_iff x std ping block started).mp ran
  obtain ⟨tlsCfg, loaded, shape⟩ := wire_shape wired
  rw [accepted_replicas accepted] at shape
  exact ⟨tlsCfg, loaded, shape⟩

/-- Writes go to the write client. Reads go to the address that is drawn among the arguments
of all `read_endpoint` directives, and to the write client if there are none. -/
theorem commands_routed (ran : setup x std ping (some block) = .ok (.ok started)) :
    ∃ tlsCfg clients addrs, started.re.buildTLSConfig x std = .ok tlsCfg ∧
      started.re.buildClients (.ok tlsCfg) = .ok clients ∧
      addrsGiven std .read block.directives = .ok addrs ∧
      started.wiring.made = clients.writeClient :: addrs.map (started.re.clientOptions · tlsCfg) ∧
      started.wiring.writer = .ok 0 ∧
      ∀ draw, started.wiring.readPipeline draw =
        .ok (if addrs = [] then 0 else draw % addrs.length + 1) := by
  obtain ⟨accepted, wired, _⟩ := (setup_started_iff x std ping block started).mp ran
  obtain ⟨tlsCfg, loaded, shape⟩ := setup_shape ran
  rw [loaded] at wired
  obtain ⟨clients, built, made⟩ := wire_made wired shape
  refine ⟨tlsCfg, clients, started.re.readEndpoints, loaded, built,
    (parse_targeted accepted).addrs .read,
    made, shape.writer, ?_⟩
  intro draw
  rw [shape.readPipeline draw, List.length_map]
  simp only [List.map_eq_nil_iff]

/-- Shutdown closes every client that was made, and closes it once. It reports an error
exactly if some client does, and then quotes the error of each. -/
theorem shutdown_closes_once (ran : setup x std ping (some block) = .ok (.ok started))
    (fails : Handle → Option String) :
    (started.wiring.close fails).1 = List.range started.wiring.made.length ∧
      ((started.wiring.close fails).2 = none ↔
        ∀ handle < started.wiring.made.length, fails handle = none) ∧
      ∀ handle < started.wiring.made.length, ∀ text, fails handle = some text →
        ∃ report, (started.wiring.close fails).2 = some report ∧
          text.toList <:+: report.toList := by
  obtain ⟨tlsCfg, _, shape⟩ := setup_shape ran
  refine ⟨shape.close_calls, shape.close_ok, ?_⟩
  intro handle made text failed
  exact shape.close_quotes made failed

end Start

/-- The second replica of `podBlock` is down. -/
def oneDown : Handle → Option String :=
  fun handle => if handle = 2 then some "dial tcp: i/o timeout" else none

def podTLS : Option (TLSConfig String String) :=
  some ⟨0x0303, [], none, true, some (verifyChainOnly namesX509 none)⟩

def podStarted : Started (Option (TLSConfig String String)) where
  re := podConfig
  wiring := ⟨[podConfig.clientOptions "127.0.0.1:6379" podTLS,
    podConfig.clientOptions "10.0.0.2:6379" podTLS, podConfig.clientOptions "10.0.0.3:6379" podTLS],
    some 0, none, some [1, 2]⟩
  log := [(.warning, "Read replica 10.0.0.3:6379 ping failed (will retry on demand): " ++
      "dial tcp: i/o timeout"),
    (.info, "Connected to Redis (primary @ 127.0.0.1:6379, replicas: " ++
      "10.0.0.2:6379, 10.0.0.3:6379)")]

theorem podBlock_starts :
    setup namesX509 plainStd oneDown (some podBlock) = .ok (.ok podStarted) := by
  refine (setup_started_iff namesX509 plainStd oneDown podBlock podStarted).mpr ⟨?_, rfl, ?_⟩
  · decide +kernel
  · decide +kernel

theorem podStarted_reads :
    ∃ write, podStarted.wiring.made = [write, podConfig.clientOptions "10.0.0.2:6379" podTLS,
        podConfig.clientOptions "10.0.0.3:6379" podTLS] ∧
      podStarted.wiring.writer = .ok 0 ∧ podStarted.wiring.readPipeline 7 = .ok 2 := by
  obtain ⟨tlsCfg, clients, addrs, loaded, _, given, made, writes, reads⟩ :=
    commands_routed podBlock_starts
  have normal : addrsGiven plainStd .read podBlock.directives =
      .ok ["10.0.0.2:6379", "10.0.0.3:6379"] := by
    decide +kernel
  have same : addrs = ["10.0.0.2:6379", "10.0.0.3:6379"] :=
    Except.ok.inj (given.symm.trans normal)
  have secured : tlsCfg = podTLS := Except.ok.inj (loaded.symm.trans rfl)
  subst same secured
  exact ⟨_, made, writes, reads 7⟩

theorem podStarted_closes :
    ∃ report, (podStarted.wiring.close oneDown).1 = [0, 1, 2] ∧
      (podStarted.wiring.close oneDown).2 = some report ∧
      "dial tcp: i/o timeout".toList <:+: report.toList := by
  obtain ⟨calls, _, quoted⟩ := shutdown_closes_once podBlock_starts oneDown
  obtain ⟨report, returned, inside⟩ := quoted 2 (by decide) "dial tcp: i/o timeout" rfl
  exact ⟨report, calls, returned, inside⟩

end RedisCache
