import RedisCache.GoText
import RedisCache.Keyer
import RedisCache.Ttl

set_option autoImplicit false

/- The Corefile block of the plugin. The tokens of a block arrive as directives,
each with its arguments or with the lines of its nested block. -/

namespace RedisCache

/-- The configuration fields of the plugin's state. -/
structure Redis where
  zones : List String
  pMaxTTL : Int
  nMaxTTL : Int
  pMinTTL : Int
  nMinTTL : Int
  keyer : Keyer
  addr : String
  endpointSet : Bool
  username : String
  password : String
  readEndpoints : List String
  connectTimeout : Int
  readTimeout : Int
  writeTimeout : Int
  db : Int
  poolSize : Int
  minIdleConns : Int
  maxIdleConns : Int
  maxActiveConns : Int
  connMaxIdleTime : Int
  connMaxLifetime : Int
  poolTimeout : Int
  maxRetries : Int
  minRetryBackoff : Int
  maxRetryBackoff : Int
  tcpKeepalive : Int
  resolver : String
  sentinels : List String
  masterName : String
  sentinelUsername : String
  sentinelPassword : String
  clusterAddrs : List String
  readFrom : String
  tlsEnabled : Bool
  tlsCert : String
  tlsKey : String
  tlsCA : String
  tlsVerifyChain : Bool
  tlsVerifyHostname : Bool
deriving DecidableEq, Repr

def maxNTTL : Int := 1800 * second

/-- `New()`. -/
def Redis.new : Redis where
  zones := ["."]
  pMaxTTL := maxTTL
  nMaxTTL := maxNTTL
  pMinTTL := 0
  nMinTTL := 0
  keyer := ⟨"cdrc", 0⟩
  addr := "127.0.0.1:6379"
  endpointSet := false
  username := ""
  password := ""
  readEndpoints := []
  connectTimeout := second
  readTimeout := 500000000
  writeTimeout := 2 * second
  db := 0
  poolSize := 0
  minIdleConns := 0
  maxIdleConns := 0
  maxActiveConns := 0
  connMaxIdleTime := 0
  connMaxLifetime := 0
  poolTimeout := 500000000
  maxRetries := 1
  minRetryBackoff := 0
  maxRetryBackoff := 0
  tcpKeepalive := 0
  resolver := ""
  sentinels := []
  masterName := ""
  sentinelUsername := ""
  sentinelPassword := ""
  clusterAddrs := []
  readFrom := ""
  tlsEnabled := false
  tlsCert := ""
  tlsKey := ""
  tlsCA := ""
  tlsVerifyChain := true
  tlsVerifyHostname := true

inductive TimeoutWord
  | connect
  | read
  | write
  | unknown (word : String)

inductive PoolWord
  | size
  | minIdle
  | maxIdle
  | maxActive
  | maxIdleTime
  | maxLifetime
  | waitTimeout
  | unknown (word : String)

inductive RetriesWord
  | max
  | minBackoff
  | maxBackoff
  | unknown (word : String)

inductive Directive
  | success (args : List String)
  | denial (args : List String)
  | endpoint (args : List String)
  | readEndpoint (args : List String)
  | username (args : List String)
  | password (args : List String)
  | sentinelUsername (args : List String)
  | sentinelPassword (args : List String)
  | sentinel (args : List String)
  | cluster (args : List String)
  | readFrom (args : List String)
  | timeout (lines : List (TimeoutWord × List String))
  | pool (lines : List (PoolWord × List String))
  | retries (lines : List (RetriesWord × List String))
  | tcpKeepalive (args : List String)
  | db (args : List String)
  | tls (args : List String)
  | tlsCert (args : List String)
  | tlsKey (args : List String)
  | tlsCA (args : List String)
  | tlsVerifyChain (args : List String)
  | tlsVerifyHostname (args : List String)
  | resolver (args : List String)
  | keyPrefix (args : List String)
  | keyHashSeed (args : List String)
  | unknown (word : String)

/-- `another` says that a second block of the plugin follows. -/
structure Block where
  args : List String
  serverBlockKeys : List String
  directives : List Directive
  another : Bool

/-- `c.ArgErr()`, `c.Errf` with the position of the token, and plain errors. -/
inductive ParseError
  | argErr
  | errf (text : String)
  | errorf (text : String)
deriving DecidableEq, Repr

/-- `time.ParseDuration` with its error text, the `%s` form of a duration, the
`%q` form of a string, and plugin.Host.NormalizeExact. -/
structure Std where
  parseDuration : String → Except String Int
  showDuration : Int → String
  quote : String → String
  normalizeExact : String → List String

abbrev Parse := Except ParseError

def oneArg (args : List String) : Parse String :=
  match args with
  | [arg] => .ok arg
  | _ => .error .argErr

def parseBool (std : Std) (s : String) : Except String Bool :=
  let lower := s.toLower
  if lower = "true" ∨ lower = "on" ∨ lower = "yes" ∨ lower = "1" then .ok true
  else if lower = "false" ∨ lower = "off" ∨ lower = "no" ∨ lower = "0" then .ok false
  else .error ("invalid boolean value " ++ std.quote s ++
    " (expected on/off, true/false, yes/no, 1/0)")

/-- `time.ParseDuration`, or `strconv.Atoi` as a count of seconds. -/
def ttlDuration (std : Std) (s : String) : Except String Int :=
  match std.parseDuration s with
  | .ok d => .ok d
  | .error _ =>
      match GoText.atoi s.toList with
      | .ok n => .ok (ofSeconds n)
      | .error _ => .error ("invalid TTL " ++ std.quote s ++ " (expected a whole-second Go " ++
          "duration like 30s/1h or a bare integer number of seconds)")

def parseTTL (std : Std) (s : String) : Except String Int :=
  match ttlDuration std s with
  | .error text => .error text
  | .ok d =>
      if d.tmod second ≠ 0 then
        .error ("TTL must be a whole number of seconds, got " ++ std.showDuration d)
      else .ok d

def normalizeAddr (std : Std) (addr : String) : Except String String :=
  match GoText.splitHostPort addr.toList with
  | .error why =>
      if !GoText.containsText (GoText.addrError addr why).toList GoText.missingPort.toList then
        .error ("invalid address " ++ std.quote addr ++ ": " ++ GoText.addrError addr why)
      else .ok (String.ofList (GoText.joinHostPort addr.toList "6379".toList))
  | .ok (host, port) =>
      if host = [] then .error ("empty host in address " ++ std.quote addr)
      else if port = [] then .ok (String.ofList (GoText.joinHostPort host "6379".toList))
      else .ok (String.ofList (GoText.joinHostPort host port))

/-- The arguments `<max_ttl> [<min_ttl>]` of `success` and of `denial`. -/
def parseBounds (std : Std) (word : String) (args : List String) : Parse (Int × Option Int) :=
  match args with
  | [] => .error .argErr
  | first :: rest =>
      match parseTTL std first with
      | .error text => .error (.errf (word ++ ": " ++ text))
      | .ok high =>
          if high ≤ 0 then
            .error (.errorf (word ++ " max TTL must be positive, got " ++ std.showDuration high))
          else
            match rest with
            | [] => .ok (high, none)
            | second :: _ =>
                match parseTTL std second with
                | .error text => .error (.errf (word ++ " min TTL: " ++ text))
                | .ok low =>
                    if low < 0 then
                      .error (.errorf (word ++ " min TTL cannot be negative, got " ++
                        std.showDuration low))
                    else if low > high then
                      .error (.errorf (word ++ " min TTL (" ++ std.showDuration low ++
                        ") cannot exceed max TTL (" ++ std.showDuration high ++ ")"))
                    else .ok (high, some low)

/-- One argument that is a duration; `floor` is the smallest value allowed. -/
def parseDurationArg (std : Std) (word : String) (floor : Int) (complaint : String)
    (arg : String) : Parse Int :=
  match std.parseDuration arg with
  | .error text => .error (.errf (word ++ ": " ++ text))
  | .ok d => if d < floor then .error (.errorf (word ++ complaint ++ std.showDuration d)) else .ok d

def nonNegative : String := " cannot be negative: "

/-- An argument for `strconv.Atoi`, with the text of its error. -/
def atoiArg (std : Std) (arg : String) : Except String Int :=
  match GoText.atoi arg.toList with
  | .ok n => .ok n
  | .error e => .error (e.text "Atoi" (std.quote arg))

def normalizeAll (std : Std) (wrap : String → String → ParseError) :
    List String → Parse (List String)
  | [] => .ok []
  | a :: rest =>
      match normalizeAddr std a with
      | .error text => .error (wrap a text)
      | .ok addr =>
          match normalizeAll std wrap rest with
          | .error e => .error e
          | .ok addrs => .ok (addr :: addrs)

def TimeoutWord.text : TimeoutWord → String
  | .connect => "connect"
  | .read => "read"
  | .write => "write"
  | .unknown word => word

def parseTimeout (std : Std) (re : Redis) (line : TimeoutWord × List String) : Parse Redis := do
  let arg ← oneArg line.2
  let d ← parseDurationArg std ("timeout " ++ line.1.text) 1 " must be positive: " arg
  match line.1 with
  | .connect => .ok { re with connectTimeout := d }
  | .read => .ok { re with readTimeout := d }
  | .write => .ok { re with writeTimeout := d }
  | .unknown word => .error (.errf ("unknown timeout directive: " ++ word))

def parsePoolCount (std : Std) (word arg : String) : Parse Int :=
  match atoiArg std arg with
  | .error text => .error (.errorf text)
  | .ok n =>
      if n < 0 then .error (.errorf ("pool " ++ word ++ nonNegative ++ toString n)) else .ok n

def parsePoolTime (std : Std) (word arg : String) : Parse Int :=
  parseDurationArg std ("pool " ++ word) 0 nonNegative arg

def parsePool (std : Std) (re : Redis) (line : PoolWord × List String) : Parse Redis := do
  let arg ← oneArg line.2
  match line.1 with
  | .size => (parsePoolCount std "size" arg).map fun n => { re with poolSize := n }
  | .minIdle => (parsePoolCount std "min_idle" arg).map fun n => { re with minIdleConns := n }
  | .maxIdle => (parsePoolCount std "max_idle" arg).map fun n => { re with maxIdleConns := n }
  | .maxActive => (parsePoolCount std "max_active" arg).map fun n => { re with maxActiveConns := n }
  | .maxIdleTime =>
      (parsePoolTime std "max_idle_time" arg).map fun d => { re with connMaxIdleTime := d }
  | .maxLifetime =>
      (parsePoolTime std "max_lifetime" arg).map fun d => { re with connMaxLifetime := d }
  | .waitTimeout => (parsePoolTime std "wait_timeout" arg).map fun d => { re with poolTimeout := d }
  | .unknown word => .error (.errf ("unknown pool directive: " ++ word))

/-- Zero retries are stored as -1, which go-redis reads as disabled. -/
def parseRetriesMax (std : Std) (arg : String) : Parse Int :=
  match atoiArg std arg with
  | .error text => .error (.errf ("retries max: " ++ text))
  | .ok n =>
      if n < 0 then .error (.errf ("retries max cannot be negative: " ++ toString n))
      else .ok (if n = 0 then -1 else n)

def parseRetries (std : Std) (re : Redis) (line : RetriesWord × List String) : Parse Redis := do
  let arg ← oneArg line.2
  match line.1 with
  | .max => (parseRetriesMax std arg).map fun n => { re with maxRetries := n }
  | .minBackoff => (parseDurationArg std "retries min_backoff" 0 nonNegative arg).map fun d =>
      { re with minRetryBackoff := d }
  | .maxBackoff => (parseDurationArg std "retries max_backoff" 0 nonNegative arg).map fun d =>
      { re with maxRetryBackoff := d }
  | .unknown word => .error (.errf ("unknown retries directive: " ++ word))

def parseResolver (arg : String) : String :=
  let (host, port) := match GoText.splitHostPort arg.toList with
    | .error _ => (arg.toList, "53".toList)
    | .ok (host, port) => (host, if port = [] then "53".toList else port)
  String.ofList (GoText.joinHostPort host port)

/-- `strings.TrimSuffix(s, ":")`. -/
def trimColon (s : String) : String :=
  if s.toList.getLast? = some ':' then String.ofList s.toList.dropLast else s

def parseSentinel (std : Std) (re : Redis) (args : List String) : Parse Redis :=
  match args with
  | master :: first :: rest =>
      (normalizeAll std (fun a text =>
        .errorf ("invalid sentinel address " ++ std.quote a ++ ": " ++ text)) (first :: rest)).map
        fun addrs => { re with masterName := master, sentinels := re.sentinels ++ addrs }
  | _ => .error (.errorf "sentinel requires MASTER_NAME and at least one sentinel address")

def parseCluster (std : Std) (re : Redis) (args : List String) : Parse Redis :=
  if args = [] then .error (.errorf "cluster requires at least one seed address")
  else
    (normalizeAll std (fun a text =>
      .errorf ("invalid cluster seed " ++ std.quote a ++ ": " ++ text)) args).map
      fun addrs => { re with clusterAddrs := re.clusterAddrs ++ addrs }

def parseReadFrom (std : Std) (re : Redis) (arg : String) : Parse Redis :=
  if arg = "latency" ∨ arg = "random" ∨ arg = "primary" then .ok { re with readFrom := arg }
  else .error (.errf ("invalid read_from value " ++ std.quote arg ++
    " (allowed: latency, random, primary)"))

def parseVerify (std : Std) (word arg : String) : Parse Bool :=
  match parseBool std arg with
  | .error text => .error (.errf (word ++ ": " ++ text))
  | .ok v => .ok v

def parseDB (std : Std) (arg : String) : Parse Int :=
  match atoiArg std arg with
  | .error text => .error (.errorf text)
  | .ok n =>
      if n < 0 then .error (.errorf ("db index cannot be negative: " ++ toString n)) else .ok n

def parseSeed (std : Std) (arg : String) : Parse UInt64 :=
  match GoText.parseUint arg.toList with
  | .error e => .error (.errorf ("key_hash_seed must be an unsigned 64-bit integer: " ++
      e.text "ParseUint" (std.quote arg)))
  | .ok n => .ok (UInt64.ofNat n)

/-- One round of the loop over the block. -/
def parseDirective (std : Std) (re : Redis) : Directive → Parse Redis
  | .success args => (parseBounds std "success" args).map fun bounds =>
      { re with pMaxTTL := bounds.1, pMinTTL := bounds.2.getD re.pMinTTL }
  | .denial args => (parseBounds std "denial" args).map fun bounds =>
      { re with nMaxTTL := bounds.1, nMinTTL := bounds.2.getD re.nMinTTL }
  | .endpoint args =>
      match args with
      | [] => .error .argErr
      | arg :: _ =>
          match normalizeAddr std arg with
          | .error text => .error (.errorf text)
          | .ok addr => .ok { re with addr := addr, endpointSet := true }
  | .readEndpoint args =>
      if args = [] then .error .argErr
      else (normalizeAll std (fun _ text => .errorf text) args).map fun addrs =>
        { re with readEndpoints := re.readEndpoints ++ addrs }
  | .username args => (oneArg args).map fun arg => { re with username := arg }
  | .password args => (oneArg args).map fun arg => { re with password := arg }
  | .sentinelUsername args => (oneArg args).map fun arg => { re with sentinelUsername := arg }
  | .sentinelPassword args => (oneArg args).map fun arg => { re with sentinelPassword := arg }
  | .sentinel args => parseSentinel std re args
  | .cluster args => parseCluster std re args
  | .readFrom args => oneArg args >>= parseReadFrom std re
  | .timeout lines => lines.foldlM (parseTimeout std) re
  | .pool lines => lines.foldlM (parsePool std) re
  | .retries lines => lines.foldlM (parseRetries std) re
  | .tcpKeepalive args => do
      let d ← oneArg args >>= parseDurationArg std "tcp_keepalive" 0 nonNegative
      .ok { re with tcpKeepalive := d }
  | .db args => (oneArg args >>= parseDB std).map fun n => { re with db := n }
  | .tls args => if args = [] then .ok { re with tlsEnabled := true } else .error .argErr
  | .tlsCert args => (oneArg args).map fun arg => { re with tlsEnabled := true, tlsCert := arg }
  | .tlsKey args => (oneArg args).map fun arg => { re with tlsEnabled := true, tlsKey := arg }
  | .tlsCA args => (oneArg args).map fun arg => { re with tlsEnabled := true, tlsCA := arg }
  | .tlsVerifyChain args => (oneArg args >>= parseVerify std "tls_verify_chain").map fun v =>
      { re with tlsEnabled := true, tlsVerifyChain := v }
  | .tlsVerifyHostname args => (oneArg args >>= parseVerify std "tls_verify_hostname").map fun v =>
      { re with tlsEnabled := true, tlsVerifyHostname := v }
  | .resolver args => (oneArg args).map fun arg => { re with resolver := parseResolver arg }
  | .keyPrefix args => (oneArg args).map fun arg =>
      { re with keyer := { re.keyer with keyPrefix := trimColon arg } }
  | .keyHashSeed args => (oneArg args >>= parseSeed std).map fun seed =>
      { re with keyer := { re.keyer with hashSeed := seed } }
  | .unknown _ => .error .argErr

/-- Each topology owns a subset of the directives. -/
def checkTopology (re : Redis) : Parse Unit :=
  if re.clusterAddrs ≠ [] then
    if re.masterName ≠ "" then
      .error (.errorf "cluster and sentinel modes are mutually exclusive")
    else if re.endpointSet then
      .error (.errorf ("'endpoint' is not used in cluster mode " ++
        "(seed addresses come from the 'cluster' directive)"))
    else if re.readEndpoints ≠ [] then
      .error (.errorf ("'read_endpoint' is not used in cluster mode " ++
        "(cluster handles replica routing internally)"))
    else if re.db ≠ 0 then
      .error (.errorf "'db' must be 0 in cluster mode (Redis Cluster only supports DB 0)")
    else .ok ()
  else if re.masterName ≠ "" then
    if re.endpointSet then
      .error (.errorf "'endpoint' is not used in sentinel mode (Sentinel discovers the master)")
    else if re.readEndpoints ≠ [] then
      .error (.errorf "'read_endpoint' is not used in sentinel mode (Sentinel discovers replicas)")
    else .ok ()
  else if re.sentinelUsername ≠ "" ∨ re.sentinelPassword ≠ "" then
    .error (.errorf ("'sentinel_username' / 'sentinel_password' require sentinel mode " ++
      "(the 'sentinel' directive)"))
  else if re.readFrom ≠ "" then .error (.errorf "'read_from' requires cluster mode")
  else .ok ()

def checkBackoff (std : Std) (re : Redis) : Parse Unit :=
  if 0 < re.minRetryBackoff ∧ 0 < re.maxRetryBackoff ∧ re.maxRetryBackoff < re.minRetryBackoff then
    .error (.errorf ("retries min_backoff (" ++ std.showDuration re.minRetryBackoff ++
      ") cannot exceed max_backoff (" ++ std.showDuration re.maxRetryBackoff ++ ")"))
  else .ok ()

/-- `origins[i] = plugin.Host(origins[i]).NormalizeExact()[0]` for every origin. -/
def normalizeZones (std : Std) (origins : List String) : Go (List String) :=
  origins.mapM fun origin => index (std.normalizeExact origin) 0

/-- All that `parse` does before the zones: the loop over the block, then the
checks across directives. -/
def parseBlock (std : Std) (directives : List Directive) : Parse Redis := do
  let re ← directives.foldlM (parseDirective std) Redis.new
  checkTopology re
  checkBackoff std re
  .ok re

/-- `parse`. Without a block there is no configuration and no error. -/
def parse (std : Std) (block : Option Block) : Go (Parse (Option Redis)) :=
  match block with
  | none => .ok (.ok none)
  | some block =>
      match parseBlock std block.directives with
      | .error e => .ok (.error e)
      | .ok re => do
          let zones ← normalizeZones std
            (if block.args ≠ [] then block.args else block.serverBlockKeys)
          if block.another then .ok (.error (.errf "only one redis_cache block per server"))
          else .ok (.ok (some { re with zones := zones }))

end RedisCache
