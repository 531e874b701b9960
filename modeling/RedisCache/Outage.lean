import RedisCache.Edns

set_option autoImplicit false

/- A request through `ServeDNS`, the next plugin and the client's response writer,
under all that Redis can do to it. -/

namespace RedisCache

/-- What a response writer is handed: a message by WriteMsg, or bytes by Write. -/
inductive Output
  | msg (m : Msg)
  | raw (buf : Bytes)
deriving DecidableEq, Repr

/-- The client's response writer, which may look at all it was handed before. -/
structure ClientWriter where
  writeMsg : List Output → Msg → Option GoError
  write : List Output → Bytes → Int × Option GoError

/-- The next plugin's `ServeDNS` on one request: it returns, or it uses the response
writer and goes on with what that gives back. WriteMsg rewrites the message in place,
so the plugin sees the message again; `now` is the time of day of the call. -/
inductive Handler
  | done (rcode : Nat) (err : Option GoError)
  | writeMsg (now : Nat) (res : Msg) (resume : Msg → Option GoError → Handler)
  | write (buf : Bytes) (resume : Int × Option GoError → Handler)

/-- plugin.NextOrFailure, called with a plugin's name and its next plugin: how often it calls
that one, and what it does in all. -/
abbrev NextOrFailure := String → Option Handler → Nat × Handler

/-- A next plugin is called once, and what it does is all that is done. -/
def NextOrFailure.Spec (nextOrFailure : NextOrFailure) : Prop :=
  ∀ name handler, nextOrFailure name (some handler) = (1, handler)

/-- The end of the process: a fault of the request's goroutine or a panic that no
goroutine recovers from. -/
inductive Crash
  | fault (f : Fault)
  | panicked
deriving DecidableEq, Repr

/-- How a SET or an EXPIRE ends in its goroutine. -/
inductive Command
  | done
  | failed (err : GoError)
  | panics
deriving DecidableEq, Repr

/-- A function body with the deferred `recover()` of both goroutines. -/
def recovering (body : Except Crash (List Metric)) : Except Crash (List Metric) :=
  match body with
  | .ok metrics => .ok metrics
  | .error _ => .ok []

/-- The goroutine of `WriteMsg`. -/
def setGoroutine (command : Command) : Except Crash (List Metric) :=
  recovering (match command with
    | .done => .ok []
    | .failed err => .ok [.setErrors (errReason err)]
    | .panics => .error .panicked)

/-- The goroutine of `evictAsync`. -/
def evictGoroutine (command : Command) : Except Crash (List Metric) :=
  recovering (match command with
    | .done => .ok []
    | .failed _ => .ok []
    | .panics => .error .panicked)

/-- All that Redis answers during one request. The SET of a reply is told by the
number of writes before it. -/
structure Outcomes where
  getCmd : Except GoError Bytes
  ttlCmd : Except GoError Int
  set : Nat → Command
  expire : Key → Command

/-- An empty Redis without a failure. -/
def Outcomes.healthyEmpty : Outcomes := ⟨.error .redisNil, .ok (-2), fun _ => .done, fun _ => .done⟩

/-- What a plugin returns, and what it wrote to its client. -/
structure Reply where
  rcode : Nat
  err : Option GoError
  written : List Output
deriving DecidableEq, Repr

/-- What a request leads to, with the number of calls of the next plugin. -/
structure Report extends Reply where
  nextCalls : Nat
deriving DecidableEq, Repr

/-- The next plugin, run with a WriteMsg that gives back the message and an error. -/
def Handler.run (write : List Output → Nat → Msg → Except Crash (Msg × Option GoError))
    (client : ClientWriter) : Handler → List Output → Except Crash Reply
  | .done rcode err, before => .ok ⟨rcode, err, before⟩
  | .writeMsg now res resume, before =>
      match write before now res with
      | .error crash => .error crash
      | .ok (m, err) => (resume m err).run write client (before ++ [.msg m])
  | .write buf resume, before =>
      (resume (client.write before buf)).run write client (before ++ [.raw buf])

section Serving

variable (d : Deps) (nextOrFailure : NextOrFailure) (re : Redis) (r : Msg) (client : ClientWriter)

/-- WriteMsg of the storing response writer, with its goroutine run to the end. -/
def storingWriteMsg (set : Nat → Command) (before : List Output) (now : Nat) (res : Msg) :
    Except Crash (Msg × Option GoError) :=
  match RedisCache.writeMsg d re r now res with
  | .error f => .error (.fault f)
  | .ok out =>
      match out.set with
      | none => .ok (out.client, client.writeMsg before out.client)
      | some _ =>
          match setGoroutine (set before.length) with
          | .error crash => .error crash
          | .ok _ => .ok (out.client, client.writeMsg before out.client)

/-- WriteMsg of the response writer that `ServeDNS` was called with. -/
def plainWriteMsg (before : List Output) (_ : Nat) (res : Msg) :
    Except Crash (Msg × Option GoError) :=
  .ok (res, client.writeMsg before res)

/-- The end of `ServeDNS` in plugin.NextOrFailure, with a response writer for the plugin. -/
def handOn (write : List Output → Nat → Msg → Except Crash (Msg × Option GoError))
    (next : Option Handler) : Except Crash Report :=
  let (calls, handler) := nextOrFailure "redis_cache" next
  (handler.run write client []).map fun reply => ⟨reply, calls⟩

/-- The goroutines of all evictions of a lookup, each run to its end. -/
def evictAll (expire : Key → Command) : List Key → Except Crash Unit
  | [] => .ok ()
  | k :: rest =>
      match evictGoroutine (expire k) with
      | .error crash => .error crash
      | .ok _ => evictAll expire rest

/-- `ServeDNS` from its call to its return, and the goroutines it starts. -/
def serve (next : Option Handler) (o : Outcomes) : Except Crash Report :=
  match serveDNS d re r (client.writeMsg []) o.getCmd o.ttlCmd with
  | .error f => .error (.fault f)
  | .ok result =>
      match evictAll o.expire result.evicted with
      | .error crash => .error crash
      | .ok () =>
          match result.ending with
          | .answered m rcode err => .ok ⟨⟨rcode, err, [.msg m]⟩, 0⟩
          | .nextOrFailure true =>
              handOn nextOrFailure client (storingWriteMsg d re r client o.set) next
          | .nextOrFailure false => handOn nextOrFailure client (plainWriteMsg client) next

/-- The reply as `WriteMsg` hands it on. -/
def stamped (now : Nat) (res : Msg) : Msg :=
  setMsgTTL res (secondsU32 d.castU32 (storeDuration d re res (d.typify res now).1))

end Serving

/-- The next plugin with a response writer that passes on a rewritten message and
gives back what the client's writer says: nothing of Redis is in it. -/
def Handler.relay (rewrite : Nat → Msg → Msg) (client : ClientWriter) :
    Handler → List Output → Reply
  | .done rcode err, before => ⟨rcode, err, before⟩
  | .writeMsg now res resume, before =>
      (resume (rewrite now res) (client.writeMsg before (rewrite now res))).relay rewrite client
        (before ++ [.msg (rewrite now res)])
  | .write buf resume, before =>
      (resume (client.write before buf)).relay rewrite client (before ++ [.raw buf])

/-- A WriteMsg that always passes on the rewritten message makes a relay. -/
theorem run_eq_relay {write : List Output → Nat → Msg → Except Crash (Msg × Option GoError)}
    {rewrite : Nat → Msg → Msg} {client : ClientWriter}
    (passes : ∀ before now res, write before now res =
      .ok (rewrite now res, client.writeMsg before (rewrite now res)))
    (handler : Handler) (before : List Output) :
    handler.run write client before = .ok (handler.relay rewrite client before) := by
  induction handler generalizing before with
  | done rcode err => rfl
  | writeMsg now res resume ih =>
      rw [Handler.run, passes]
      exact ih _ _ _
  | write buf resume ih => exact ih _ _

theorem setGoroutine_returns (command : Command) : ∃ metrics, setGoroutine command = .ok metrics := by
  cases command <;> exact ⟨_, rfl⟩

theorem evictAll_returns (expire : Key → Command) (keys : List Key) :
    evictAll expire keys = .ok () := by
  induction keys with
  | nil => rfl
  | cons k rest ih =>
      have returns : ∃ metrics, evictGoroutine (expire k) = .ok metrics := by
        cases expire k <;> exact ⟨_, rfl⟩
      obtain ⟨metrics, ended⟩ := returns
      rw [evictAll, ended]
      exact ih

section Failures

variable {d : Deps} {nextOrFailure : NextOrFailure} {re : Redis} {r : Msg} {client : ClientWriter}

/-- A WriteMsg that passes on rewritten messages makes what the next plugin does a relay. -/
theorem handOn_eq_relay (once : nextOrFailure.Spec)
    {write : List Output → Nat → Msg → Except Crash (Msg × Option GoError)}
    {rewrite : Nat → Msg → Msg}
    (passes : ∀ before now res, write before now res =
      .ok (rewrite now res, client.writeMsg before (rewrite now res))) (next : Handler) :
    handOn nextOrFailure client write (some next) = .ok ⟨next.relay rewrite client [], 1⟩ := by
  rw [handOn, once]
  dsimp only
  rw [run_eq_relay passes]
  rfl

/-- No outcome of the SET shows in what `WriteMsg` hands on and returns. -/
theorem storingWriteMsg_eq (spec : d.MatchSpec) (set : Nat → Command) (before : List Output)
    (now : Nat) (res : Msg) :
    storingWriteMsg d re r client set before now res =
      .ok (stamped d re now res, client.writeMsg before (stamped d re now res)) := by
  obtain ⟨out, ran⟩ := writeMsg_returns spec re r now res
  have rewritten : out.client = stamped d re now res := writeMsg_client ran
  rw [storingWriteMsg, ran, ← rewritten]
  cases started : out.set with
  | none => simp only [started]
  | some job =>
      obtain ⟨metrics, ended⟩ := setGoroutine_returns (set before.length)
      simp only [started, ended]

/-- A GET without a value leaves the request to the next plugin. -/
theorem serveDNS_unread (zone : d.zonesMatches re.zones (d.reqName r) ≠ "")
    (write : Msg → Option GoError) (failure : GoError) (ttlCmd : Except GoError Int) :
    ∃ metrics, serveDNS d re r write (.error failure) ttlCmd =
      .ok ⟨.nextOrFailure true, [], metrics⟩ := by
  obtain ⟨metrics, missed⟩ := get_unread d re r ttlCmd failure
  refine ⟨metrics, ?_⟩
  rw [serveDNS, if_neg zone, missed]
  rfl

theorem serve_unread (spec : d.MatchSpec) (once : nextOrFailure.Spec)
    (zone : d.zonesMatches re.zones (d.reqName r) ≠ "") (next : Handler) {o : Outcomes}
    {failure : GoError} (unread : o.getCmd = .error failure) :
    serve d nextOrFailure re r client (some next) o =
      .ok ⟨next.relay (stamped d re) client [], 1⟩ := by
  obtain ⟨metrics, missed⟩ := serveDNS_unread zone (client.writeMsg []) failure o.ttlCmd
  rw [serve, unread, missed]
  exact handOn_eq_relay once (storingWriteMsg_eq spec o.set) next

theorem setMsgTTL_setMsgTTL (m : Msg) (first last : UInt32) :
    setMsgTTL (setMsgTTL m first) last = setMsgTTL m last := by
  have kept : ∀ rr : RR, (if (if rr.isOPT then rr else rr.setTTL first).isOPT then
      (if rr.isOPT then rr else rr.setTTL first) else
      (if rr.isOPT then rr else rr.setTTL first).setTTL last) =
      if rr.isOPT then rr else rr.setTTL last := by
    intro rr
    by_cases opt : rr.isOPT = true
    · simp only [opt, ↓reduceIte]
    · have other : (rr.setTTL first).isOPT = rr.isOPT := rfl
      simp only [opt, other, Bool.false_eq_true, ↓reduceIte]
      rfl
  simp only [setMsgTTL, List.map_map, Function.comp_def, kept]
  rfl

/-- A lookup that is a hit is one for every outcome of the TTL command. -/
theorem get_retimed (spec : d.MatchSpec) (edns : d.EdnsSpec) {b : Bytes}
    {ttlCmd : Except GoError Int} {m : Msg} {evicted : List Key} {metrics : List Metric}
    (got : Redis.get d re r (.ok b) ttlCmd = .ok ⟨some m, evicted, metrics⟩)
    (other : Except GoError Int) :
    Redis.get d re r (.ok b) other = .ok ⟨some (setMsgTTL m (replyTTL d other)), [], [.hits]⟩ := by
  obtain ⟨u, usable, rfl⟩ := usable_of_hit spec edns got
  rw [usable.get spec edns, setMsgTTL_setMsgTTL]

theorem hitReply_setMsgTTL (copies : d.SetReplySpec) (r m : Msg) (ttl : UInt32) :
    hitReply d r (setMsgTTL m ttl) = setMsgTTL (hitReply d r m) ttl := by
  simp only [hitReply, copies m r, copies (setMsgTTL m ttl) r]
  split <;> rfl

theorem serve_hit (zone : d.zonesMatches re.zones (d.reqName r) ≠ "") (next : Option Handler)
    {o : Outcomes} {m : Msg} {evicted : List Key} {metrics : List Metric}
    (got : Redis.get d re r o.getCmd o.ttlCmd = .ok ⟨some m, evicted, metrics⟩) :
    serve d nextOrFailure re r client next o = .ok ⟨⟨(hitReply d r m).rcode,
      client.writeMsg [] (hitReply d r m), [.msg (hitReply d r m)]⟩, 0⟩ := by
  simp only [serve, serveDNS_hit (client.writeMsg []) zone got, evictAll_returns]

/-- A request that does not get to the next plugin was a hit. -/
theorem serve_cached (once : nextOrFailure.Spec)
    (zone : d.zonesMatches re.zones (d.reqName r) ≠ "") {next : Handler}
    {o : Outcomes} {report : Report}
    (served : serve d nextOrFailure re r client (some next) o = .ok report) (cached : report.nextCalls = 0) :
    ∃ m evicted metrics, Redis.get d re r o.getCmd o.ttlCmd = .ok ⟨some m, evicted, metrics⟩ := by
  cases got : Redis.get d re r o.getCmd o.ttlCmd with
  | error f =>
      simp only [serve, serveDNS, zone, got, bind, Except.bind, ↓reduceIte] at served
      cases served
  | ok out =>
      obtain ⟨hit, evicted, metrics⟩ := out
      cases hit with
      | some m => exact ⟨m, evicted, metrics, rfl⟩
      | none =>
          simp only [serve, serveDNS, zone, got, bind, Except.bind, ↓reduceIte,
            evictAll_returns, handOn, once "redis_cache" next] at served
          obtain ⟨reply, _, rfl⟩ := Checked.map_ok served
          cases cached

/-- A failing TTL command only zeroes the TTLs of a reply that is served. -/
theorem serve_without_ttl (spec : d.MatchSpec) (copies : d.SetReplySpec) (edns : d.EdnsSpec)
    (once : nextOrFailure.Spec)
    (zone : d.zonesMatches re.zones (d.reqName r) ≠ "") (next : Handler) {o : Outcomes}
    {b : Bytes} {failure : GoError} (found : o.getCmd = .ok b) (failed : o.ttlCmd = .error failure)
    {reported : Int} {report : Report}
    (answered : serve d nextOrFailure re r client (some next) { o with ttlCmd := .ok reported } =
      .ok report)
    (cached : report.nextCalls = 0) :
    ∃ m, report.written = [.msg m] ∧
      serve d nextOrFailure re r client (some next) o =
        .ok ⟨⟨report.rcode, client.writeMsg [] (setMsgTTL m 0), [.msg (setMsgTTL m 0)]⟩, 0⟩ := by
  obtain ⟨m, evicted, metrics, got⟩ := serve_cached once zone answered cached
  rw [serve_hit zone (some next) got] at answered
  cases answered
  refine ⟨hitReply d r m, rfl, ?_⟩
  have fetched : Redis.get d re r (.ok b) (.ok reported) = .ok ⟨some m, evicted, metrics⟩ := by
    rw [← found]
    exact got
  have again := get_retimed spec edns fetched (.error failure)
  rw [← found, ← failed] at again
  have zero : replyTTL d o.ttlCmd = 0 := by
    rw [failed]
    rfl
  rw [serve_hit zone (some next) again, zero, hitReply_setMsgTTL copies]
  rfl

/-- Whatever the commands of a request do while its GET yields no value, the next
plugin is called once, its client and its caller see what they would see with an
empty Redis, and that is a relay of the plugin's own replies and errors. And a TTL
command that fails only zeroes the TTLs of what is served. -/
theorem redis_failures_invisible (spec : d.MatchSpec) (copies : d.SetReplySpec)
    (edns : d.EdnsSpec) (once : nextOrFailure.Spec)
    (zone : d.zonesMatches re.zones (d.reqName r) ≠ "")
    (client : ClientWriter) (next : Handler) :
    (∀ (o : Outcomes) (failure : GoError), o.getCmd = .error failure →
      ∃ report, serve d nextOrFailure re r client (some next) o = .ok report ∧
        serve d nextOrFailure re r client (some next) .healthyEmpty = .ok report ∧
        report.nextCalls = 1 ∧ report.toReply = next.relay (stamped d re) client []) ∧
    ∀ (o : Outcomes) (b : Bytes) (failure : GoError) (reported : Int) (report : Report),
      o.getCmd = .ok b → o.ttlCmd = .error failure →
      serve d nextOrFailure re r client (some next) { o with ttlCmd := .ok reported } = .ok report →
      report.nextCalls = 0 →
        ∃ m, report.written = [.msg m] ∧
          serve d nextOrFailure re r client (some next) o = .ok ⟨⟨report.rcode,
            client.writeMsg [] (setMsgTTL m 0), [.msg (setMsgTTL m 0)]⟩, 0⟩ ∧
          ∀ rr ∈ (setMsgTTL m 0).records, rr.isOPT = false → rr.ttl = 0 := by
  constructor
  · intro o failure unread
    exact ⟨_, serve_unread spec once zone next unread, serve_unread spec once zone next rfl,
      rfl, rfl⟩
  · intro o b failure reported report found failed answered cached
    obtain ⟨m, written, served⟩ :=
      serve_without_ttl spec copies edns once zone next found failed answered cached
    exact ⟨m, written, served, fun _ member plain => setMsgTTL_ttl member plain⟩

end Failures

/-- A plugin that writes `sampleReply` and returns the error of its writer. -/
def sampleNext : Handler := .writeMsg 0 sampleReply fun _ err => .done 0 err

/-- `NextOrFailure`, with the error it returns where there is no next plugin. -/
def sampleNextOrFailure : NextOrFailure
  | _, some handler => (1, handler)
  | name, none => (0, .done 2 (some (.other ("plugin/" ++ name ++ ": no next plugin found"))))

theorem sample_nextOrFailure : sampleNextOrFailure.Spec := fun _ _ => rfl

/-- A client that takes everything. -/
def sampleClient : ClientWriter := ⟨fun _ _ => none, fun _ buf => (buf.length, none)⟩

/-- Redis is unreachable, and its client panics in the goroutine of the SET. -/
def outage : Outcomes :=
  ⟨.error (.net true), .error (.net true), fun _ => .panics, fun _ => .panics⟩

/-- The outage does not show. With a stored value and a failing TTL command the value
is served with TTL 0. -/
theorem sample_outage_invisible :
    (∃ report, serve sampleDeps sampleNextOrFailure Redis.new sampleQuery sampleClient
        (some sampleNext) outage = .ok report ∧
      serve sampleDeps sampleNextOrFailure Redis.new sampleQuery sampleClient
        (some sampleNext) .healthyEmpty = .ok report ∧
      report.nextCalls = 1 ∧ report.written = [.msg sampleReply]) ∧
    serve sampleDeps sampleNextOrFailure Redis.new sampleQuery sampleClient (some sampleNext)
        { outage with getCmd := .ok sampleWire } =
      .ok ⟨⟨0, none, [.msg (setMsgTTL (hitReply sampleDeps sampleQuery sampleReply) 0)]⟩, 0⟩ := by
  have zone : sampleDeps.zonesMatches Redis.new.zones (sampleDeps.reqName sampleQuery) ≠ "" := by
    decide
  obtain ⟨unread, untimed⟩ := redis_failures_invisible sample_match sample_setReply
    (fun _ => rfl) sample_nextOrFailure zone sampleClient sampleNext
  obtain ⟨report, served, empty, once, same⟩ := unread outage _ rfl
  refine ⟨⟨report, served, empty, once, ?_⟩, ?_⟩
  · rw [same]
    rfl
  · obtain ⟨m, written, zeroed, _⟩ := untimed { outage with getCmd := .ok sampleWire } sampleWire
      _ (60 * second) _ rfl rfl rfl rfl
    cases written
    exact zeroed

section Once

variable {d : Deps} {nextOrFailure : NextOrFailure} {re : Redis} {r : Msg} {client : ClientWriter}
  {next : Handler} {o : Outcomes}

theorem serve_unzoned (once : nextOrFailure.Spec)
    (unzoned : d.zonesMatches re.zones (d.reqName r) = "") :
    serve d nextOrFailure re r client (some next) o =
      .ok ⟨next.relay (fun _ res => res) client [], 1⟩ := by
  have passes : ∀ before now res, plainWriteMsg client before now res =
      .ok (res, client.writeMsg before res) := fun _ _ _ => rfl
  simp only [serve, serveDNS, unzoned, ↓reduceIte, evictAll, handOn_eq_relay once passes next]

theorem serve_missed (spec : d.MatchSpec) (once : nextOrFailure.Spec)
    (zone : d.zonesMatches re.zones (d.reqName r) ≠ "")
    {evicted : List Key} {metrics : List Metric}
    (got : Redis.get d re r o.getCmd o.ttlCmd = .ok ⟨none, evicted, metrics⟩) :
    serve d nextOrFailure re r client (some next) o =
      .ok ⟨next.relay (stamped d re) client [], 1⟩ := by
  simp only [serve, serveDNS, zone, ↓reduceIte, got, bind, Except.bind, evictAll_returns]
  exact handOn_eq_relay once (storingWriteMsg_eq spec o.set) next

/-- The three ways in which a request ends: one message, which is the stored one under the
header of the request; all that the next plugin does, once, with its messages stamped; or
the same with its messages as they are, where the name is in no zone. -/
inductive ServedOnce (d : Deps) (re : Redis) (r : Msg) (client : ClientWriter) (next : Handler)
    (o : Outcomes) : Report → Prop
  | cached (b : Bytes) (u m : Msg) (zone : d.zonesMatches re.zones (d.reqName r) ≠ "")
      (read : o.getCmd = .ok b) (usable : Usable d r b u)
      (message : m = servedReply d u r (replyTTL d o.ttlCmd)) :
      ServedOnce d re r client next o ⟨⟨u.rcode, client.writeMsg [] m, [.msg m]⟩, 0⟩
  | relayed (zone : d.zonesMatches re.zones (d.reqName r) ≠ "")
      (useless : ∀ b u, o.getCmd = .ok b → ¬ Usable d r b u) :
      ServedOnce d re r client next o ⟨next.relay (stamped d re) client [], 1⟩
  | untouched (unzoned : d.zonesMatches re.zones (d.reqName r) = "") :
      ServedOnce d re r client next o ⟨next.relay (fun _ res => res) client [], 1⟩

theorem serve_usable (spec : d.MatchSpec) (edns : d.EdnsSpec) (copies : d.SetReplySpec)
    (zone : d.zonesMatches re.zones (d.reqName r) ≠ "") {b : Bytes} {u : Msg}
    (read : o.getCmd = .ok b) (usable : Usable d r b u) :
    serve d nextOrFailure re r client (some next) o =
      .ok ⟨⟨u.rcode, client.writeMsg [] (servedReply d u r (replyTTL d o.ttlCmd)),
        [.msg (servedReply d u r (replyTTL d o.ttlCmd))]⟩, 0⟩ := by
  have got := usable.get spec edns re o.ttlCmd
  rw [← read] at got
  rw [serve_hit zone (some next) got, hitReply_eq_servedReply copies]
  rfl

/-- Whatever Redis holds and whatever it answers, a request ends in one of these ways, unless
the value found decodes to a message without a question. -/
theorem served_once (spec : d.MatchSpec) (edns : d.EdnsSpec) (copies : d.SetReplySpec)
    (once : nextOrFailure.Spec) (client : ClientWriter) (next : Handler) (o : Outcomes)
    (asked : ∀ b, o.getCmd = .ok b → ¬ EmptyQuestion d b) :
    ∃ report, serve d nextOrFailure re r client (some next) o = .ok report ∧
      ServedOnce d re r client next o report := by
  by_cases zone : d.zonesMatches re.zones (d.reqName r) = ""
  · exact ⟨_, serve_unzoned once zone, .untouched zone⟩
  · by_cases found : ∃ b u, o.getCmd = .ok b ∧ Usable d r b u
    · obtain ⟨b, u, read, usable⟩ := found
      exact ⟨_, serve_usable spec edns copies zone read usable, .cached b u _ zone read usable rfl⟩
    · have useless : ∀ b u, o.getCmd = .ok b → ¬ Usable d r b u :=
        fun b u read usable => found ⟨b, u, read, usable⟩
      cases read : o.getCmd with
      | error failure => exact ⟨_, serve_unread spec once zone next read, .relayed zone useless⟩
      | ok b =>
          rcases get_cases d re r o.ttlCmd spec b with ⟨empty, _⟩ | ⟨_, out, got, outcome⟩
          · exact absurd empty (asked b read)
          · cases outcome with
            | served m q storedDO metrics decoded answers doBit =>
                obtain ⟨u, usable, _⟩ := usable_of_hit spec edns got
                exact absurd usable (useless b u read)
            | evicted metrics =>
                rw [← read] at got
                exact ⟨_, serve_missed spec once zone got, .relayed zone useless⟩

end Once

/-- Redis answers the GET, and every other command fails or panics. -/
def halfOutage : Outcomes := { outage with getCmd := .ok sampleWire }

/-- The request is answered with the stored message. -/
theorem sample_served_once :
    ∃ report, serve sampleDeps sampleNextOrFailure Redis.new sampleQuery sampleClient
        (some sampleNext) halfOutage = .ok report ∧
      report.written = [.msg (servedReply sampleDeps sampleReply sampleQuery 0)] ∧
      ServedOnce sampleDeps Redis.new sampleQuery sampleClient sampleNext halfOutage report := by
  have asked : ∀ b, halfOutage.getCmd = .ok b → ¬ EmptyQuestion sampleDeps b := by
    rintro b read ⟨_, wire, m, payload, unpacked, empty⟩
    cases read
    cases payload
    cases unpacked
    cases empty
  obtain ⟨report, served, ways⟩ := served_once sample_match (fun _ => rfl) sample_setReply
    sample_nextOrFailure sampleClient sampleNext halfOutage asked
  refine ⟨report, served, ?_, ways⟩
  cases served
  rfl

end RedisCache
