import RedisCache.DirectiveOrder
import RedisCache.Topology

set_option autoImplicit false

/- The TLS settings, from the directives to the connections of the clients. -/

namespace RedisCache

open Checked

/-- The parts of crypto/x509, crypto/tls and os that `buildTLSConfig` calls. A pool that no
certificate could be appended to is none, and `verify` gives the error of a leaf. -/
structure X509 (Cert Pool : Type) where
  loadX509KeyPair : String → String → Except String Cert
  readFile : String → Except String Bytes
  certsFromPEM : Bytes → Option Pool
  verify : (roots : Option Pool) → (intermediates : List Cert) → (dnsName : Option String) →
    (leaf : Cert) → Option String

/-- The fields of tls.Config that are set. `verifyConnection` sees the certificates of the
peer, leaf first. -/
structure TLSConfig (Cert Pool : Type) where
  minVersion : UInt16
  certificates : List Cert
  rootCAs : Option Pool
  insecureSkipVerify : Bool
  verifyConnection : Option (List Cert → Option String)

section Build

variable {Cert Pool : Type} (x : X509 Cert Pool) (std : Std)

/-- The client certificate, if there is one. -/
def Redis.clientCertificates (re : Redis) : Except String (List Cert) :=
  if re.tlsCert ≠ "" ∨ re.tlsKey ≠ "" then
    if re.tlsCert = "" ∨ re.tlsKey = "" then
      .error "tls client certificate and key must both be provided"
    else
      match x.loadX509KeyPair re.tlsCert re.tlsKey with
      | .error err => .error ("load tls client certificate: " ++ err)
      | .ok cert => .ok [cert]
  else .ok []

/-- The roots in place of those of the system, if there are any. -/
def Redis.rootCAs (re : Redis) : Except String (Option Pool) :=
  if re.tlsCA ≠ "" then
    match x.readFile re.tlsCA with
    | .error err => .error ("read tls ca file " ++ std.quote re.tlsCA ++ ": " ++ err)
    | .ok pem =>
        match x.certsFromPEM pem with
        | none =>
            .error ("no valid PEM certificates found in tls ca file " ++ std.quote re.tlsCA)
        | some pool => .ok (some pool)
  else .ok none

/-- The closure that checks the chain and not the name. -/
def verifyChainOnly (roots : Option Pool) (peers : List Cert) : Option String :=
  match peers with
  | [] => some "tls: server presented no certificate"
  | leaf :: intermediates => x.verify roots intermediates none leaf

def Redis.buildTLSConfig (re : Redis) : Except String (Option (TLSConfig Cert Pool)) :=
  if !re.tlsEnabled then .ok none
  else do
    let certificates ← re.clientCertificates x
    let roots ← re.rootCAs x std
    let cfg : TLSConfig Cert Pool := ⟨0x0303, certificates, roots, false, none⟩
    if !re.tlsVerifyChain then .ok (some { cfg with insecureSkipVerify := true })
    else if !re.tlsVerifyHostname then
      .ok (some { cfg with
        insecureSkipVerify := true
        verifyConnection := some (verifyChainOnly x roots) })
    else .ok (some cfg)

/-- The verdict of a client's handshake on the certificates of a server: the built-in check
against the dialled host unless it is skipped, then VerifyConnection. -/
def TLSConfig.accepts (cfg : TLSConfig Cert Pool) (host : String) (peers : List Cert) : Prop :=
  (cfg.insecureSkipVerify = false → ∃ leaf intermediates, peers = leaf :: intermediates ∧
      x.verify cfg.rootCAs intermediates (some host) leaf = none) ∧
    ∀ check, cfg.verifyConnection = some check → check peers = none

/-- The rows of the verification matrix. -/
inductive Verification
  | full
  | chainOnly
  | nothing
deriving DecidableEq, Repr

def Verification.ofFlags (chain hostname : Bool) : Verification :=
  if !chain then .nothing else if !hostname then .chainOnly else .full

/-- What a row asks of a server. -/
def Verification.holds (level : Verification) (roots : Option Pool) (host : String)
    (peers : List Cert) : Prop :=
  match level with
  | .full => ∃ leaf intermediates, peers = leaf :: intermediates ∧
      x.verify roots intermediates (some host) leaf = none
  | .chainOnly => ∃ leaf intermediates, peers = leaf :: intermediates ∧
      x.verify roots intermediates none leaf = none
  | .nothing => True

variable {x std}

theorem verifyChainOnly_iff {roots : Option Pool} {peers : List Cert} :
    verifyChainOnly x roots peers = none ↔ ∃ leaf intermediates, peers = leaf :: intermediates ∧
      x.verify roots intermediates none leaf = none := by
  cases peers with
  | nil => simp [verifyChainOnly]
  | cons leaf rest => simp [verifyChainOnly]

/-- A configuration that was built checks what its row of the matrix says. -/
theorem buildTLSConfig_ok {re : Redis} {built : Option (TLSConfig Cert Pool)}
    (ran : re.buildTLSConfig x std = .ok built) :
    (built.isSome = re.tlsEnabled) ∧ ∀ cfg, built = some cfg →
      cfg.minVersion = 0x0303 ∧ re.rootCAs x std = .ok cfg.rootCAs ∧
      re.clientCertificates x = .ok cfg.certificates ∧
      ∀ host peers, cfg.accepts x host peers ↔
        (Verification.ofFlags re.tlsVerifyChain re.tlsVerifyHostname).holds x cfg.rootCAs host
          peers := by
  unfold Redis.buildTLSConfig at ran
  cases enabled : re.tlsEnabled with
  | false =>
      simp only [enabled, Bool.not_false, ↓reduceIte] at ran
      cases ran
      simp
  | true =>
      simp only [enabled, Bool.not_true, Bool.false_eq_true, ↓reduceIte] at ran
      obtain ⟨certificates, loaded, ran⟩ := bind_ok ran
      obtain ⟨roots, read, ran⟩ := bind_ok ran
      split at ran
      · rename_i unchecked
        cases ran
        refine ⟨rfl, ?_⟩
        intro cfg same
        cases same
        refine ⟨rfl, read, loaded, ?_⟩
        intro host peers
        simp [TLSConfig.accepts, Verification.ofFlags, Verification.holds, unchecked]
      · rename_i chained
        split at ran
        · rename_i unnamed
          cases ran
          refine ⟨rfl, ?_⟩
          intro cfg same
          cases same
          refine ⟨rfl, read, loaded, ?_⟩
          intro host peers
          simp [TLSConfig.accepts, Verification.ofFlags, Verification.holds, chained, unnamed,
            verifyChainOnly_iff]
        · rename_i named
          cases ran
          refine ⟨rfl, ?_⟩
          intro cfg same
          cases same
          refine ⟨rfl, read, loaded, ?_⟩
          intro host peers
          simp [TLSConfig.accepts, Verification.ofFlags, Verification.holds, chained, named]

end Build

/-- The settings that decide how a connection is secured. -/
structure Security where
  enabled : Bool
  cert : String
  key : String
  ca : String
  verifyChain : Bool
  verifyHostname : Bool
  resolver : String
  keepalive : Int
deriving DecidableEq, Repr

def Redis.security (re : Redis) : Security where
  enabled := re.tlsEnabled
  cert := re.tlsCert
  key := re.tlsKey
  ca := re.tlsCA
  verifyChain := re.tlsVerifyChain
  verifyHostname := re.tlsVerifyHostname
  resolver := re.resolver
  keepalive := re.tcpKeepalive

def boolArg (std : Std) (args : List String) : Option Bool :=
  args.head?.bind fun arg => (parseBool std arg).toOption

def durationArg (std : Std) (args : List String) : Option Int :=
  args.head?.bind fun arg => (std.parseDuration arg).toOption

/-- The settings behind a directive that was accepted. -/
def Security.after (std : Std) (s : Security) : Directive → Security
  | .tls _ => { s with enabled := true }
  | .tlsCert args => { s with enabled := true, cert := args.head?.getD s.cert }
  | .tlsKey args => { s with enabled := true, key := args.head?.getD s.key }
  | .tlsCA args => { s with enabled := true, ca := args.head?.getD s.ca }
  | .tlsVerifyChain args =>
      { s with enabled := true, verifyChain := (boolArg std args).getD s.verifyChain }
  | .tlsVerifyHostname args =>
      { s with enabled := true, verifyHostname := (boolArg std args).getD s.verifyHostname }
  | .resolver args => { s with resolver := (args.head?.map parseResolver).getD s.resolver }
  | .tcpKeepalive args => { s with keepalive := (durationArg std args).getD s.keepalive }
  | _ => s

/-- The settings of a block, told from its directives: the last of each kind counts. -/
def securityOf (std : Std) (directives : List Directive) : Security :=
  directives.foldl (Security.after std) Redis.new.security

def Directive.isTLS : Directive → Bool
  | .tls _ | .tlsCert _ | .tlsKey _ | .tlsCA _ | .tlsVerifyChain _ | .tlsVerifyHostname _ => true
  | _ => false

def Directive.isResolver : Directive → Bool
  | .resolver _ => true
  | _ => false

section Directives

variable {std : Std} {re fresh : Redis}

theorem oneArg_ok {args : List String} {arg : String} (parsed : oneArg args = .ok arg) :
    args = [arg] := by
  unfold oneArg at parsed
  split at parsed
  · cases parsed
    rfl
  · cases parsed

theorem parseVerify_ok {word : String} {args : List String} {value : Bool}
    (parsed : oneArg args >>= parseVerify std word = .ok value) : boolArg std args = some value := by
  obtain ⟨arg, one, parsed⟩ := bind_ok parsed
  rw [oneArg_ok one]
  unfold parseVerify at parsed
  split at parsed
  · cases parsed
  · rename_i v read
    cases parsed
    simp [boolArg, read, Except.toOption]

theorem parseDurationArg_ok {word complaint arg : String} {floor d : Int}
    (parsed : parseDurationArg std word floor complaint arg = .ok d) :
    std.parseDuration arg = .ok d ∧ floor ≤ d := by
  unfold parseDurationArg at parsed
  split at parsed
  · cases parsed
  · rename_i value read
    split at parsed
    · cases parsed
    · rename_i enough
      cases parsed
      exact ⟨read, by omega⟩

/-- All directives but eight write settings of other words. -/
theorem parseDirective_security {directive : Directive}
    (parsed : parseDirective std re directive = .ok fresh) :
    fresh.security = re.security.after std directive := by
  cases directive with
  | tcpKeepalive args =>
      obtain ⟨d, parsed, ended⟩ := bind_ok parsed
      obtain ⟨arg, one, parsed⟩ := bind_ok parsed
      have read := (parseDurationArg_ok parsed).1
      cases ended
      simp [Security.after, Redis.security, durationArg, oneArg_ok one, read, Except.toOption]
  | tls args =>
      simp only [parseDirective] at parsed
      split at parsed <;> cases parsed
      rfl
  | tlsCert args | tlsKey args | tlsCA args | resolver args =>
      obtain ⟨arg, one, rfl⟩ := map_ok parsed
      rw [oneArg_ok one]
      rfl
  | tlsVerifyChain args | tlsVerifyHostname args =>
      obtain ⟨value, verified, rfl⟩ := map_ok parsed
      simp [Security.after, Redis.security, parseVerify_ok verified]
  | _ =>
      rw [parseDirective_written parsed]
      simp [Redis.security, merge, Directive.word, Security.after]

theorem foldlM_security {directives : List Directive}
    (looped : directives.foldlM (parseDirective std) Redis.new = .ok re) :
    re.security = securityOf std directives := by
  have given := foldlM_history (parseDirective std)
    (fun past state => state.security = securityOf std past)
    (fun past before directive after same parsed => by
      rw [parseDirective_security parsed, same]
      simp [securityOf, List.foldl_append])
    rfl looped
  exact given

theorem securityOf_snoc (past : List Directive) (last : Directive) :
    securityOf std (past ++ [last]) = (securityOf std past).after std last := by
  simp [securityOf, List.foldl_append]

/-- TLS is on where a directive of TLS is given. -/
theorem securityOf_enabled (std : Std) (directives : List Directive) :
    (securityOf std directives).enabled = directives.any Directive.isTLS := by
  induction directives using List.reverseRecOn with
  | nil => rfl
  | append_singleton past last ih =>
      rw [securityOf_snoc, List.any_append, ← ih]
      cases last <;> simp [Security.after, Directive.isTLS]

theorem joinHostPort_ne_nil (host port : List Char) : GoText.joinHostPort host port ≠ [] := by
  unfold GoText.joinHostPort
  split
  · exact List.cons_ne_nil _ _
  · simp

theorem parseResolver_ne_empty (arg : String) : parseResolver arg ≠ "" := by
  intro empty
  have chars := congrArg String.toList empty
  simp only [parseResolver, String.toList_ofList] at chars
  exact joinHostPort_ne_nil _ _ chars

/-- A resolver is set where a `resolver` directive is given. -/
theorem foldlM_resolver {directives : List Directive}
    (looped : directives.foldlM (parseDirective std) Redis.new = .ok re) :
    re.resolver ≠ "" ↔ directives.any Directive.isResolver = true := by
  refine foldlM_history (parseDirective std)
    (fun past state => state.resolver ≠ "" ↔ past.any Directive.isResolver = true) ?_
    (by simp [Redis.new]) looped
  intro past before directive after given parsed
  have written : after.resolver = (before.security.after std directive).resolver :=
    congrArg Security.resolver (parseDirective_security parsed)
  rw [written, List.any_append]
  cases directive with
  | resolver args =>
      obtain ⟨arg, one, _⟩ := map_ok parsed
      simp [Security.after, oneArg_ok one, parseResolver_ne_empty, Directive.isResolver]
  | _ =>
      simp only [List.any_cons, Directive.isResolver, List.any_nil, Bool.or_false]
      exact given

end Directives

/-- The options of a client that all kinds have. -/
def Client.conn {TLS : Type} : Client TLS → ConnOptions TLS
  | .single _ _ conn => conn
  | .cluster _ _ _ _ conn => conn
  | .failover _ _ _ _ _ _ conn => conn

def Clients.all {TLS : Type} (clients : Clients TLS) : List (Client TLS) :=
  clients.writeClient :: (clients.readClient.toList ++ clients.readPool)

inductive Transport (TLS : Type)
  | tcp
  | tls (cfg : TLS)

/-- How go-redis connects, for the options of a client: by the dialer that it is given, as it
is, which for a net.Dialer means TCP; and without one by a dialer of its own, which alone
looks at TLSConfig. -/
structure DialSpec {TLS : Type} (transport : ConnOptions (Option TLS) → Transport TLS) : Prop where
  given : ∀ conn dialer, conn.dialer = some dialer → transport conn = .tcp
  own : ∀ conn, conn.dialer = none → transport conn = conn.tlsConfig.elim .tcp .tls

section Clients

variable {TLS Cert Pool : Type} {x : X509 Cert Pool} {std : Std} {block : Block} {re : Redis}

theorem clusterOptions_conn (re : Redis) (tlsCfg : TLS) :
    (re.clusterOptions tlsCfg).conn = re.connOptions tlsCfg := by
  unfold Redis.clusterOptions
  split
  · rfl
  · split <;> rfl

/-- All clients have the same options, but for their addresses and their kind. -/
theorem buildClients_conn {tls : Except String TLS} {clients : Clients TLS}
    (built : re.buildClients tls = .ok clients) :
    ∃ tlsCfg, tls = .ok tlsCfg ∧ ∀ client ∈ clients.all, client.conn = re.connOptions tlsCfg := by
  unfold Redis.buildClients at built
  split at built
  · cases built
  · rename_i tlsCfg
    refine ⟨tlsCfg, rfl, ?_⟩
    split at built
    · cases built
      simp [Clients.all, clusterOptions_conn]
    · cases built
      simp [Clients.all, Redis.failoverOptions, Client.conn]
    · split at built
      · cases built
        simp [Clients.all, Redis.clientOptions, Client.conn]
      · cases built
        simp [Clients.all, Redis.clientOptions, Client.conn]
    · cases built
      simp [Clients.all, Redis.clientOptions, Client.conn]

theorem parse_security (accepted : parse std (some block) = .ok (.ok (some re))) :
    re.security = securityOf std block.directives ∧
      (re.resolver ≠ "" ↔ block.directives.any Directive.isResolver = true) := by
  obtain ⟨base, zones, looped, _, rfl⟩ := parse_accepted accepted
  have same := foldlM_security looped
  have resolved := foldlM_resolver looped
  exact ⟨same, resolved⟩

/-- A connection is encrypted exactly if a `tls*` directive is given and no dialer is made
for `resolver` or `tcp_keepalive`: that dialer opens a plain TCP connection. -/
theorem encrypted_iff
    {transport : ConnOptions (Option (TLSConfig Cert Pool)) → Transport (TLSConfig Cert Pool)}
    (dials : DialSpec transport) (accepted : parse std (some block) = .ok (.ok (some re)))
    {clients : Clients (Option (TLSConfig Cert Pool))}
    (built : re.buildClients (re.buildTLSConfig x std) = .ok clients)
    {client : Client (Option (TLSConfig Cert Pool))} (member : client ∈ clients.all) :
    (∃ cfg, transport client.conn = .tls cfg) ↔
      block.directives.any Directive.isTLS = true ∧
        block.directives.any Directive.isResolver = false ∧
        (securityOf std block.directives).keepalive = 0 := by
  obtain ⟨settings, resolved⟩ := parse_security accepted
  obtain ⟨tlsCfg, ran, conns⟩ := buildClients_conn built
  obtain ⟨isSome, _⟩ := buildTLSConfig_ok ran
  have enabled : tlsCfg.isSome = block.directives.any Directive.isTLS := by
    rw [← securityOf_enabled std, ← settings]
    exact isSome
  have keepalive : re.tcpKeepalive = (securityOf std block.directives).keepalive := by
    rw [← settings]
    rfl
  rw [conns client member, ← enabled, ← keepalive, ← Bool.not_eq_true, ← resolved]
  by_cases plain : re.resolver = "" ∧ re.tcpKeepalive = 0
  · have undialled : re.dialer = none := by simp [Redis.dialer, plain]
    rw [dials.own _ undialled]
    cases tlsCfg <;> simp [Redis.connOptions, plain]
  · have dialled : re.dialer = some ⟨re.connectTimeout, re.tcpKeepalive, re.resolver⟩ := by
      simp [Redis.dialer, plain]
    rw [dials.given _ _ dialled]
    simp only [reduceCtorEq, exists_false, false_iff]
    rintro ⟨_, unresolved, unprobed⟩
    exact plain ⟨not_not.mp unresolved, unprobed⟩

end Clients

/-- Certificates are the names that they are for, and one pool has signed all of them. -/
def namesX509 : X509 String String where
  loadX509KeyPair cert _ := .ok cert
  readFile path := .error ("open " ++ path ++ ": no such file or directory")
  certsFromPEM _ := none
  verify roots _ dnsName leaf :=
    if roots = none ∧ dnsName.all (fun name => name == leaf) then none
    else some "x509: certificate is not valid"

/-- Two replicas that are dialled by addresses which their certificates do not name. -/
def podBlock : Block :=
  ⟨["."], [], [.readEndpoint ["10.0.0.2:6379", "10.0.0.3:6379"], .tlsVerifyHostname ["off"]], false⟩

def podConfig : Redis :=
  { Redis.new with
    readEndpoints := ["10.0.0.2:6379", "10.0.0.3:6379"], tlsEnabled := true,
    tlsVerifyHostname := false }

/-- TLS, and a resolver for the name of the server. -/
def resolvedBlock : Block :=
  ⟨["."], [], [.endpoint ["redis:6379"], .tls [], .resolver ["10.0.0.10"]], false⟩

def resolvedConfig : Redis :=
  { Redis.new with
    addr := "redis:6379", endpointSet := true, tlsEnabled := true, resolver := "10.0.0.10:53" }

def sampleTransport (conn : ConnOptions (Option (TLSConfig String String))) :
    Transport (TLSConfig String String) :=
  match conn.dialer, conn.tlsConfig with
  | none, some cfg => .tls cfg
  | _, _ => .tcp

theorem sample_dials : DialSpec sampleTransport where
  given conn dialer given := by
    rw [sampleTransport, given]
  own conn absent := by
    rw [sampleTransport, absent]
    cases conn.tlsConfig <;> rfl

/-- The client is given a TLS configuration, and its connections are not encrypted. -/
theorem resolvedBlock_unencrypted :
    ∃ client : Client (Option (TLSConfig String String)),
      parse plainStd (some resolvedBlock) = .ok (.ok (some resolvedConfig)) ∧
      resolvedConfig.buildClients (resolvedConfig.buildTLSConfig namesX509 plainStd) =
        .ok ⟨client, some client, []⟩ ∧
      client.conn.tlsConfig.isSome = true ∧ ¬ ∃ cfg, sampleTransport client.conn = .tls cfg := by
  have accepted : parse plainStd (some resolvedBlock) = .ok (.ok (some resolvedConfig)) := by
    decide +kernel
  refine ⟨_, accepted, rfl, rfl, ?_⟩
  rw [encrypted_iff (x := namesX509) sample_dials accepted rfl List.mem_cons_self]
  decide +kernel

end RedisCache
