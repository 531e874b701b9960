import RedisCache.Tls

set_option autoImplicit false

/- The clients with their identity: which of them commands go to, how they are pinged and
how they are closed. -/

namespace RedisCache

open Checked

/-- A client that was made, told from others by the number made before it. -/
abbrev Handle := Nat

inductive Panic
  | nilDereference
  | indexOutOfRange
  | invalidArgument
deriving DecidableEq, Repr

/-- The fields that `buildClients` assigns, and the clients that it makes for them. Two
fields hold the same client where they hold the same handle. -/
structure Wiring (TLS : Type) where
  made : List (Client TLS)
  writeClient : Option Handle
  readClient : Option Handle
  readPool : Option (List Handle)

section Model

variable {TLS : Type}

/-- `buildClients`, with the identity of the clients. -/
def Redis.wire (re : Redis) (tls : Except String TLS) : Except String (Wiring TLS) :=
  match tls with
  | .error text => .error ("tls: " ++ text)
  | .ok tlsCfg =>
      match re.topology with
      | .cluster => .ok ⟨[re.clusterOptions tlsCfg], some 0, some 0, none⟩
      | .sentinel => .ok ⟨[re.failoverOptions tlsCfg], some 0, some 0, none⟩
      | .replicas =>
          match re.readEndpoints with
          | [only] =>
              .ok ⟨[re.clientOptions re.addr tlsCfg, re.clientOptions only tlsCfg], some 0, some 1,
                none⟩
          | many =>
              .ok ⟨re.clientOptions re.addr tlsCfg :: many.map fun ep => re.clientOptions ep tlsCfg,
                some 0, none, some (List.range' 1 many.length)⟩
      | .standalone => .ok ⟨[re.clientOptions re.addr tlsCfg], some 0, some 0, none⟩

def deref (client : Option Handle) : Except Panic Handle :=
  match client with
  | none => .error .nilDereference
  | some handle => .ok handle

/-- `pick`: rand.IntN draws below the number of clients, and panics if there are none. -/
def pick (clients : List Handle) (draw : Nat) : Except Panic Handle :=
  if clients.length = 0 then .error .invalidArgument
  else
    match clients[draw % clients.length]? with
    | none => .error .indexOutOfRange
    | some handle => .ok handle

/-- The client that `Get` reads from. -/
def Wiring.readPipeline (w : Wiring TLS) (draw : Nat) : Except Panic Handle :=
  match w.readPool with
  | some clients => pick clients draw
  | none => deref w.readClient

/-- The client that `Add` and `evictAsync` write to. -/
def Wiring.writer (w : Wiring TLS) : Except Panic Handle :=
  deref w.writeClient

def closeErrors (errs : List String) : Option String :=
  if errs = [] then none else some ("close errors: [" ++ " ".intercalate errs ++ "]")

/-- One call of `Close`: the calls so far with their errors. -/
def closeClient (fails : Handle → Option String) (done : List Handle × List String)
    (handle : Handle) : List Handle × List String :=
  (done.1 ++ [handle], done.2 ++ (fails handle).toList)

/-- `close` of the pool. -/
def closePool (fails : Handle → Option String) (clients : List Handle) :
    List Handle × Option String :=
  let done := clients.foldl (closeClient fails) ([], [])
  (done.1, closeErrors done.2)

/-- `close`: the clients that it closes, in order, and its error. -/
def Wiring.close (w : Wiring TLS) (fails : Handle → Option String) :
    List Handle × Option String :=
  let written :=
    match w.writeClient with
    | some handle => closeClient fails ([], []) handle
    | none => ([], [])
  let read :=
    match w.readClient with
    | some handle => if w.readClient ≠ w.writeClient then closeClient fails written handle else written
    | none => written
  match w.readPool with
  | some clients =>
      let pool := closePool fails clients
      (read.1 ++ pool.1, closeErrors (read.2 ++ pool.2.toList))
  | none => (read.1, closeErrors read.2)

/-- `ping` of the pool: its warnings. -/
def Wiring.pingPool (w : Wiring TLS) (ping : Handle → Option String) :
    List Handle → Except Panic (List String)
  | [] => .ok []
  | handle :: rest =>
      match ping handle with
      | none => w.pingPool ping rest
      | some err =>
          match w.made[handle]? with
          | some (.single addr _ _) => do
              let more ← w.pingPool ping rest
              .ok (("Read replica " ++ addr ++ " ping failed (will retry on demand): " ++ err) :: more)
          | _ => .error .nilDereference

/-- The ping of a read client that is not the write client. -/
def Wiring.pingRead (w : Wiring TLS) (readEndpoints : List String)
    (ping : Handle → Option String) : Except Panic (List String) :=
  match w.readClient with
  | none => .ok []
  | some handle =>
      if w.readClient ≠ w.writeClient then
        match readEndpoints[0]? with
        | none => .error .indexOutOfRange
        | some readAddr =>
            match ping handle with
            | none => .ok []
            | some err =>
                .ok ["Read endpoint " ++ readAddr ++ " ping failed (will retry on demand): " ++ err]
      else .ok []

/-- `verifyConnectivity`: its warnings and its error. -/
def Wiring.verifyConnectivity (w : Wiring TLS) (readEndpoints : List String)
    (ping : Handle → Option String) : Except Panic (List String × Option String) := do
  let write ← deref w.writeClient
  match ping write with
  | some err => .ok ([], some err)
  | none =>
      let read ← w.pingRead readEndpoints ping
      match w.readPool with
      | none => .ok (read, none)
      | some clients => do
          let replicas ← w.pingPool ping clients
          .ok (read ++ replicas, none)

end Model

section Shape

variable {TLS : Type}

/-- The ways in which the write client and the replicas behind it are wired. -/
inductive Wiring.Shape : List (Client TLS) → Wiring TLS → Prop
  | shared (write : Client TLS) : Shape [] ⟨[write], some 0, some 0, none⟩
  | replica (write read : Client TLS) : Shape [read] ⟨[write, read], some 0, some 1, none⟩
  | pool (write : Client TLS) (replicas : List (Client TLS)) (two : 2 ≤ replicas.length) :
      Shape replicas ⟨write :: replicas, some 0, none, some (List.range' 1 replicas.length)⟩

/-- The read clients that are not the write client. -/
def Redis.replicas (re : Redis) (tlsCfg : TLS) : List (Client TLS) :=
  if re.topology = .replicas then re.readEndpoints.map fun ep => re.clientOptions ep tlsCfg
  else []

theorem two_endpoints {re : Redis} (mode : re.topology = .replicas)
    (several : ∀ only, re.readEndpoints = [only] → False) : 2 ≤ re.readEndpoints.length := by
  have found := topology_found re
  rw [mode] at found
  match endpoints : re.readEndpoints with
  | [] => exact absurd endpoints found
  | [only] => exact absurd (several only endpoints) id
  | _ :: _ :: _ => simp

/-- What the fields hold. -/
def Wiring.contents (w : Wiring TLS) :
    Option (Client TLS) × Option (Client TLS) × List (Client TLS) :=
  (w.writeClient.bind (w.made[·]?), w.readClient.bind (w.made[·]?),
    (w.readPool.getD []).filterMap (w.made[·]?))

theorem wire_shape {re : Redis} {tls : Except String TLS} {w : Wiring TLS}
    (wired : re.wire tls = .ok w) :
    ∃ tlsCfg, tls = .ok tlsCfg ∧ w.Shape (re.replicas tlsCfg) := by
  unfold Redis.wire at wired
  split at wired
  · cases wired
  · rename_i tlsCfg
    refine ⟨tlsCfg, rfl, ?_⟩
    unfold Redis.replicas
    split at wired
    · rename_i mode
      cases wired
      simp only [mode, reduceCtorEq, if_false]
      exact .shared _
    · rename_i mode
      cases wired
      simp only [mode, reduceCtorEq, if_false]
      exact .shared _
    · rename_i mode
      rw [if_pos mode]
      split at wired
      · rename_i only one
        cases wired
        rw [one]
        exact .replica _ _
      · rename_i several
        cases wired
        have made := Wiring.Shape.pool (re.clientOptions re.addr tlsCfg)
          (re.readEndpoints.map fun ep => re.clientOptions ep tlsCfg)
          (by rw [List.length_map]; exact two_endpoints mode several)
        rwa [List.length_map] at made
    · rename_i mode
      cases wired
      simp only [mode, reduceCtorEq, if_false]
      exact .shared _

theorem filterMap_range_getElem? {α : Type} (before items : List α) :
    (List.range' before.length items.length).filterMap ((before ++ items)[·]?) = items := by
  induction items generalizing before with
  | nil => rfl
  | cons item rest ih =>
      have later := ih (before ++ [item])
      rw [List.length_append, List.length_singleton, List.append_assoc,
        List.singleton_append] at later
      rw [List.length_cons, List.range'_succ, List.filterMap_cons_some (b := item) (by simp), later]

/-- The fields hold what `buildClients` says that they hold. -/
theorem wire_clients (re : Redis) (tls : Except String TLS) :
    (re.wire tls).map Wiring.contents = (re.buildClients tls).map fun clients =>
      (some clients.writeClient, clients.readClient, clients.readPool) := by
  unfold Redis.wire Redis.buildClients
  cases tls with
  | error text => rfl
  | ok tlsCfg =>
      cases re.topology with
      | cluster | sentinel | standalone => rfl
      | replicas =>
          match re.readEndpoints with
          | [] => rfl
          | [only] => rfl
          | first :: second :: rest =>
              have held := filterMap_range_getElem? [re.clientOptions re.addr tlsCfg]
                ((first :: second :: rest).map fun ep => re.clientOptions ep tlsCfg)
              rw [List.length_map] at held
              exact congrArg Except.ok (Prod.ext rfl (Prod.ext rfl held))

variable {replicas : List (Client TLS)} {w : Wiring TLS} {fails : Handle → Option String}

theorem Wiring.Shape.made_eq (shape : w.Shape replicas) {write : Client TLS}
    (written : w.contents.1 = some write) : w.made = write :: replicas := by
  cases shape <;> exact congrArg (· :: _) (Option.some.inj written)

/-- The clients that were made are those of `buildClients`, each of them once. -/
theorem wire_made {re : Redis} {tls : Except String TLS} (wired : re.wire tls = .ok w)
    (shape : w.Shape replicas) :
    ∃ clients, re.buildClients tls = .ok clients ∧ w.made = clients.writeClient :: replicas := by
  have contents := wire_clients re tls
  rw [wired] at contents
  obtain ⟨clients, built, same⟩ := map_ok contents.symm
  exact ⟨clients, built, shape.made_eq (congrArg Prod.fst same).symm⟩

theorem Wiring.Shape.writer (shape : w.Shape replicas) : w.writer = .ok 0 := by
  cases shape <;> rfl

/-- A read goes to the replica that is drawn, or to the write client if there is none. -/
theorem Wiring.Shape.readPipeline (shape : w.Shape replicas) (draw : Nat) :
    w.readPipeline draw = .ok (if replicas = [] then 0 else draw % replicas.length + 1) := by
  cases shape with
  | shared write => rfl
  | replica write read => simp [Wiring.readPipeline, deref, Nat.mod_one]
  | pool write _ two =>
      have some : replicas ≠ [] := by
        rintro rfl
        simp at two
      have inside : draw % replicas.length < replicas.length := Nat.mod_lt _ (by omega)
      simp [Wiring.readPipeline, pick, some, List.getElem?_range' inside, Nat.add_comm]

theorem foldl_closeClient (fails : Handle → Option String) (handles : List Handle)
    (done : List Handle × List String) :
    handles.foldl (closeClient fails) done =
      (done.1 ++ handles, done.2 ++ handles.filterMap fails) := by
  induction handles generalizing done with
  | nil => simp
  | cons handle rest ih =>
      rw [List.foldl_cons, ih]
      cases failed : fails handle <;> simp [closeClient, failed]

theorem closeErrors_eq_none {errs : List String} : closeErrors errs = none ↔ errs = [] := by
  simp [closeErrors]

theorem mem_intersperse {α : Type} {item : α} (sep : α) {items : List α} (member : item ∈ items) :
    item ∈ items.intersperse sep := by
  induction items with
  | nil => cases member
  | cons first rest ih =>
      cases rest with
      | nil => exact member
      | cons second others =>
          rw [List.intersperse_cons_cons, List.mem_cons, List.mem_cons]
          rcases List.mem_cons.mp member with here | later
          · exact .inl here
          · exact .inr (.inr (ih later))

/-- The error that is returned quotes each error that it stands for. -/
theorem closeErrors_quotes {errs : List String} {text : String} (member : text ∈ errs) :
    ∃ report, closeErrors errs = some report ∧ text.toList <:+: report.toList := by
  have given : errs ≠ [] := List.ne_nil_of_mem member
  refine ⟨_, if_neg given, ?_⟩
  have joined : text.toList <:+: (" ".intercalate errs).toList := by
    rw [String.toList_intercalate, List.intercalate]
    exact List.infix_of_mem_flatten (mem_intersperse _ (List.mem_map_of_mem member))
  rw [String.toList_append, String.toList_append]
  exact joined.trans (List.infix_append _ _ _)

theorem Wiring.Shape.close_calls (shape : w.Shape replicas) :
    (w.close fails).1 = List.range w.made.length := by
  cases shape with
  | shared write => rfl
  | replica write read => rfl
  | pool write _ two =>
      simp [Wiring.close, closePool, foldl_closeClient, closeClient, List.range_eq_range',
        List.range'_succ]

theorem Wiring.Shape.close_ok (shape : w.Shape replicas) :
    (w.close fails).2 = none ↔ ∀ handle < w.made.length, fails handle = none := by
  cases shape with
  | shared write => simp [Wiring.close, closeClient, closeErrors_eq_none]
  | replica write read =>
      show closeErrors (([] ++ (fails 0).toList) ++ (fails 1).toList) = none ↔
        ∀ handle : Nat, handle < 2 → fails handle = none
      rw [closeErrors_eq_none, List.nil_append, List.append_eq_nil_iff, Option.toList_eq_nil_iff,
        Option.toList_eq_nil_iff]
      constructor
      · rintro ⟨first, second⟩ handle bound
        have either : handle = 0 ∨ handle = 1 := by omega
        rcases either with rfl | rfl
        · exact first
        · exact second
      · intro all
        exact ⟨all 0 (by omega), all 1 (by omega)⟩
  | pool write _ two =>
      simp only [Wiring.close, closePool, foldl_closeClient, closeClient, closeErrors_eq_none,
        List.nil_append, List.append_eq_nil_iff, Option.toList_eq_nil_iff, List.filterMap_eq_nil_iff,
        List.mem_range'_1, List.length_cons]
      constructor
      · rintro ⟨first, later⟩ handle bound
        cases handle with
        | zero => exact first
        | succ place => exact later _ ⟨by omega, by omega⟩
      · intro all
        exact ⟨all 0 (by omega), fun handle bounds => all handle (by omega)⟩

theorem Wiring.Shape.close_quotes (shape : w.Shape replicas) {handle : Nat} {text : String}
    (made : handle < w.made.length) (failed : fails handle = some text) :
    ∃ report, (w.close fails).2 = some report ∧ text.toList <:+: report.toList := by
  have listed : text ∈ (fails handle).toList := by simp [failed]
  cases shape with
  | shared write =>
      have only : handle = 0 := by simpa using made
      subst only
      exact closeErrors_quotes (by simpa [closeClient] using listed)
  | replica write read =>
      have either : handle = 0 ∨ handle = 1 := by
        simp only [List.length_cons, List.length_nil] at made
        omega
      rcases either with rfl | rfl
      · exact closeErrors_quotes (List.mem_append_left _ listed)
      · exact closeErrors_quotes (List.mem_append_right _ listed)
  | pool write _ two =>
      simp only [Wiring.close, closePool, foldl_closeClient, closeClient, List.nil_append]
      cases handle with
      | zero => exact closeErrors_quotes (List.mem_append_left _ listed)
      | succ place =>
          simp only [List.length_cons] at made
          have member : text ∈ (List.range' 1 replicas.length).filterMap fails :=
            List.mem_filterMap.mpr ⟨_, List.mem_range'_1.mpr ⟨by omega, by omega⟩, failed⟩
          -- the pool reports first, and `close` quotes its report
          obtain ⟨inner, pooled, inside⟩ := closeErrors_quotes member
          obtain ⟨report, whole, around⟩ := closeErrors_quotes
            (List.mem_append_right (fails 0).toList (List.mem_singleton_self inner))
          rw [pooled]
          exact ⟨report, whole, inside.trans around⟩

/-- The warnings for the replicas that do not answer, told from the addresses in the
configuration. The client at a position was made right behind those at earlier ones. -/
def unreachable (ping : Handle → Option String) (word : String) (endpoints : List String)
    (start : Handle) : List String :=
  (endpoints.zipIdx start).filterMap fun replica => (ping replica.2).map fun err =>
    word ++ replica.1 ++ " ping failed (will retry on demand): " ++ err

theorem pingPool_eq (w : Wiring TLS) (ping : Handle → Option String) (endpoints : List String)
    (start : Nat) (held : ∀ (place : Nat) addr, endpoints[place]? = some addr →
      ∃ db conn, w.made[start + place]? = some (.single addr db conn)) :
    w.pingPool ping (List.range' start endpoints.length) =
      .ok (unreachable ping "Read replica " endpoints start) := by
  induction endpoints generalizing start with
  | nil => rfl
  | cons addr rest ih =>
      have later := ih (start + 1) (fun place other there => by
        have moved := held (place + 1) other there
        rwa [show start + (place + 1) = start + 1 + place by omega] at moved)
      obtain ⟨db, conn, first⟩ := held 0 addr rfl
      rw [List.length_cons, List.range'_succ]
      unfold unreachable at later ⊢
      rw [List.zipIdx_cons, Wiring.pingPool]
      cases answered : ping start with
      | none =>
          rw [List.filterMap_cons_none (by simp [answered])]
          exact later
      | some err =>
          rw [Nat.add_zero] at first
          simp only [first, later, List.filterMap_cons, answered, Option.map_some]
          rfl

/-- The first word of a warning about a read endpoint. -/
def replicaWord (endpoints : List String) : String :=
  if endpoints.length = 1 then "Read endpoint " else "Read replica "

/-- Where the write client answers, the warnings are those for the other clients. -/
theorem Wiring.Shape.verifyConnectivity_replicas {re : Redis} {tlsCfg : TLS}
    {endpoints : List String} (shape : w.Shape (endpoints.map fun ep => re.clientOptions ep tlsCfg))
    {ping : Handle → Option String} (answered : ping 0 = none) :
    w.verifyConnectivity endpoints ping =
      .ok (unreachable ping (replicaWord endpoints) endpoints 1, none) := by
  generalize same : (endpoints.map fun ep => re.clientOptions ep tlsCfg) = replicas at shape
  cases shape with
  | shared write =>
      rw [List.map_eq_nil_iff] at same
      subst same
      simp [Wiring.verifyConnectivity, deref, answered, Wiring.pingRead, unreachable, bind, Except.bind]
  | replica write read =>
      obtain ⟨only, rfl, _⟩ := List.map_eq_singleton_iff.mp same
      cases second : ping 1 with
      | none =>
          simp [Wiring.verifyConnectivity, deref, answered, Wiring.pingRead, unreachable, second,
            bind, Except.bind]
      | some err =>
          simp [Wiring.verifyConnectivity, deref, answered, Wiring.pingRead, unreachable, second,
            replicaWord, bind, Except.bind]
  | pool write _ two =>
      have word : replicaWord endpoints = "Read replica " := by
        rw [← same, List.length_map] at two
        exact if_neg (by omega)
      have many : replicas.length = endpoints.length := by rw [← same, List.length_map]
      have pinged := pingPool_eq
        ⟨write :: replicas, some 0, none, some (List.range' 1 replicas.length)⟩ ping endpoints 1
        (fun place addr there => ⟨re.db, re.connOptions tlsCfg, by
          simp [← same, Nat.add_comm, there, Redis.clientOptions]⟩)
      rw [many] at pinged ⊢
      simp [Wiring.verifyConnectivity, deref, answered, Wiring.pingRead, bind, Except.bind, pinged,
        word]

theorem Wiring.Shape.verifyConnectivity_unanswered (shape : w.Shape replicas)
    (endpoints : List String) {ping : Handle → Option String} {err : String}
    (failed : ping 0 = some err) : w.verifyConnectivity endpoints ping = .ok ([], some err) := by
  cases shape <;> simp [Wiring.verifyConnectivity, deref, failed, bind, Except.bind]

end Shape

end RedisCache
