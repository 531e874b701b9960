import RedisCache.Opcodes
import RedisCache.Outage

set_option autoImplicit false

/- What the fleet around one Redis is for: a shared cache of answers. The abstract cache
keeps replies under question tuples. It has no keys, no hash, no payload bytes, no
goroutines and no evictions, and every run of the fleet from an empty Redis in which no
two tuples share a key is a run of it. -/

namespace RedisCache

open SingleFlight Versions

/-- A reply in the cache, with its duration and the time of its store in milliseconds. -/
structure Item where
  reply : Msg
  duration : Int
  storedAt : Nat

def Item.expires (item : Item) : Nat := item.storedAt + (item.duration / 1000000).toNat

/-- The life that is left of an item, to the nearest second. -/
def Item.remaining (item : Item) (now : Nat) : Nat := (item.expires - now + 500) / 1000

/-- The replies of one tuple, oldest first. -/
abbrev Shelf := List Item

/-- The item that a server knows for the last one, unless it has expired. -/
def Source.item (shelf : Shelf) (now : Nat) : Source → Option Item
  | .failed _ => none
  | .version 0 => none
  | .version (n + 1) => shelf[n]?.filter fun item => now < item.expires

def Source.onShelf (shelf : Shelf) : Source → Prop
  | .failed _ => True
  | .version n => n ≤ shelf.length

instance (shelf : Shelf) : (source : Source) → Decidable (source.onShelf shelf)
  | .failed _ => inferInstanceAs (Decidable True)
  | .version _ => inferInstanceAs (Decidable (_ ≤ _))

/-- The answer a client is due from a reply in the cache. For a request that is no QUERY
the RD bit is that of the reply. -/
def dueReply (d : Deps) (res r : Msg) (ttl : UInt32) : Msg :=
  { transparentReply d res r ttl with
    recursionDesired := if r.opcode = opcodeQuery then r.recursionDesired else res.recursionDesired
    checkingDisabled := res.checkingDisabled }

structure Answer where
  inst : Nat
  request : Msg
  ending : Ending

structure AnswerCache where
  now : Nat
  shelf : Tuple → Shelf
  log : List Answer

def AnswerCache.empty (now : Nat) : AnswerCache := ⟨now, fun _ => [], []⟩

/-- A request is answered from what its server had at the time `asked`, for the life
that the server of the TTL command knows; a reply is stored; time passes. -/
inductive Deed
  | answer (i : Nat) (r : Msg) (asked : Nat) (seen life : Source)
  | store (i : Nat) (r : Msg) (time : Nat) (res : Msg)
  | pass (ms : Nat)

section Deeds

variable (d : Deps) (fleet : Fleet) (c : AnswerCache)

/-- A reply that is worth storing for the request it came for. -/
def WorthStoring (i : Nat) (r : Msg) (time : Nat) (res : Msg) : Prop :=
  cacheable res (d.typify res time).1 = .ok true ∧ responseMatchesRequest d r res = .ok true ∧
    (toBytes d res).isOk = true ∧
    0 < storeDuration d (fleet.config i) res (d.typify res time).1

instance (i : Nat) (r : Msg) (time : Nat) (res : Msg) :
    Decidable (WorthStoring d fleet i r time res) :=
  inferInstanceAs (Decidable (_ ∧ _ ∧ _ ∧ _))

def Deed.allowed : Deed → Prop
  | .answer i r asked seen life =>
      d.zonesMatches (fleet.config i).zones (d.reqName r) ≠ "" ∧ asked ≤ c.now ∧
        seen.onShelf (c.shelf (requestTuple d r)) ∧ life.onShelf (c.shelf (requestTuple d r))
  | .store i r time res => WorthStoring d fleet i r time res
  | .pass _ => True

instance : (deed : Deed) → Decidable (deed.allowed d fleet c)
  | .answer _ _ _ _ _ => inferInstanceAs (Decidable (_ ∧ _ ∧ _ ∧ _))
  | .store i r time res => inferInstanceAs (Decidable (WorthStoring d fleet i r time res))
  | .pass _ => inferInstanceAs (Decidable True)

/-- The TTL for an answer: what is left of the item that the TTL command finds. -/
def lifeLeft (found : Option Item) : UInt32 :=
  match found with
  | some item => secondsU32 d.castU32 (item.remaining c.now * second)
  | none => 0

def answerTo (i : Nat) (r : Msg) (asked : Nat) (seen life : Source) : Answer where
  inst := i
  request := r
  ending :=
    match seen.item (c.shelf (requestTuple d r)) asked with
    | none => .nextOrFailure true
    | some item =>
        let ttl := lifeLeft d c (life.item (c.shelf (requestTuple d r)) c.now)
        .answered (dueReply d item.reply r ttl) item.reply.rcode none

def Deed.perform : Deed → AnswerCache
  | .answer i r asked seen life => { c with log := answerTo d c i r asked seen life :: c.log }
  | .store i r time res =>
      let t := storeTuple d r time res
      let item := ⟨res, storeDuration d (fleet.config i) res (d.typify res time).1, c.now⟩
      { c with shelf := Function.update c.shelf t (c.shelf t ++ [item]) }
  | .pass ms => { c with now := c.now + ms }

def AnswerCache.step (deed : Deed) : Option AnswerCache :=
  if deed.allowed d fleet c then some (deed.perform d fleet c) else none

end Deeds

abbrev AnswerCache.run (d : Deps) (fleet : Fleet) : AnswerCache → List Deed → Option AnswerCache :=
  Transition.run (AnswerCache.step d fleet)

/-- What a step of the fleet is in terms of the cache. A GET alone shows nothing yet, and
goroutines are seen when their command reaches the server. -/
def Action.deeds : Action → List Deed
  | .ttl l source => [.answer l.inst l.request l.time l.source source]
  | .applySet t => [.store t.inst t.request t.time t.reply]
  | .tick ms => [.pass ms]
  | _ => []

/-- What an instance and its client see of a finished request. -/
def Event.observed (ev : Event) : Nat × Msg × Go Ending :=
  (ev.lookup.inst, ev.lookup.request, ev.result.map ServeResult.ending)

def Answer.observed (a : Answer) : Nat × Msg × Go Ending := (a.inst, a.request, .ok a.ending)

/-- A value in Redis is the payload of an item under the tuple of its reply. -/
structure Holds (d : Deps) (fleet : Fleet) (t : Tuple) (value : Option Entry) (item : Item) :
    Prop where
  entry : ∃ wire, value = some ⟨wire, item.duration, item.storedAt⟩ ∧
    ∃ task : SetTask, task.reply = item.reply ∧ task.job.wire = wire ∧
      Stores d (fleet.config task.inst) task.request task.time task.reply task.job
  tuple : ∃ q, item.reply.question = [q] ∧ t = ownTuple d q item.reply

/-- The fleet and the cache, on the given tuples. -/
structure Mirrors (d : Deps) (fleet : Fleet) (tuples : List Tuple) (w : World) (c : AnswerCache) :
    Prop where
  now : w.now = c.now
  shelves : ∀ t ∈ tuples,
    List.Forall₂ (Holds d fleet t) (w.store (fleet.keyer.key d t)) (c.shelf t)
  consistent : w.Consistent d fleet
  lookups : ∀ l ∈ w.lookups, requestTuple d l.request ∈ tuples ∧ l.time ≤ w.now ∧
    d.zonesMatches (fleet.config l.inst).zones (d.reqName l.request) ≠ ""
  writes : ∀ t ∈ w.writes.calls, storeTuple d t.request t.time t.reply ∈ tuples ∧
    Stores d (fleet.config t.inst) t.request t.time t.reply t.job
  evictions : w.evictions.calls = []
  log : w.log.map Event.observed = c.log.map Answer.observed

section Shelves

variable {d : Deps} {fleet : Fleet} {t : Tuple} {history : History} {shelf : Shelf}

theorem within_iff_onShelf (same : List.Forall₂ (Holds d fleet t) history shelf)
    (source : Source) : source.within history ↔ source.onShelf shelf := by
  cases source with
  | failed err => exact Iff.rfl
  | version n =>
      show n ≤ history.length ↔ n ≤ shelf.length
      rw [same.length_eq]

/-- A server with the first writes of the key has the first items of the shelf. -/
theorem visible_item (same : List.Forall₂ (Holds d fleet t) history shelf) (now n : Nat) :
    (visible history now n = none ∧ (Source.version n).item shelf now = none) ∨
      ∃ e item, visible history now n = some e ∧
        (Source.version n).item shelf now = some item ∧ Holds d fleet t (some e) item ∧
        e.duration = item.duration ∧ e.storedAt = item.storedAt := by
  cases n with
  | zero => exact Or.inl ⟨rfl, rfl⟩
  | succ n =>
      by_cases inside : n < history.length
      · have onShelf : n < shelf.length := by rwa [← same.length_eq]
        have held := same.get inside onShelf
        obtain ⟨wire, value, _⟩ := held.entry
        simp only [List.get_eq_getElem] at held value
        have found : asOf history (n + 1) = some ⟨wire, shelf[n].duration, shelf[n].storedAt⟩ := by
          rw [asOf, List.getElem?_eq_getElem inside, value]
          rfl
        have item : shelf[n]? = some shelf[n] := List.getElem?_eq_getElem onShelf
        rw [value] at held
        by_cases fresh : now < shelf[n].expires
        · refine Or.inr ⟨_, shelf[n], ?_, ?_, held, rfl, rfl⟩
          · rw [visible, found]
            exact Option.filter_some_pos (decide_eq_true fresh)
          · rw [Source.item, item]
            exact Option.filter_some_pos (decide_eq_true fresh)
        · refine Or.inl ⟨?_, ?_⟩
          · rw [visible, found]
            exact Option.filter_some_neg (decide_eq_false fresh)
          · rw [Source.item, item]
            exact Option.filter_some_neg (decide_eq_false fresh)
      · have outside : ¬ n < shelf.length := by rwa [← same.length_eq]
        refine Or.inl ⟨?_, ?_⟩
        · rw [visible, asOf, List.getElem?_eq_none (Nat.le_of_not_lt inside)]
          rfl
        · rw [Source.item, List.getElem?_eq_none (Nat.le_of_not_lt outside)]
          rfl

theorem getReply_item (same : List.Forall₂ (Holds d fleet t) history shelf) (now : Nat)
    (source : Source) :
    (source.item shelf now = none ∧ ∃ err, getReply history now source = .error err) ∨
      ∃ e item, source.item shelf now = some item ∧ getReply history now source = .ok e.wire ∧
        Holds d fleet t (some e) item := by
  cases source with
  | failed err => exact Or.inl ⟨rfl, err, rfl⟩
  | version n =>
      rcases visible_item same now n with ⟨hidden, empty⟩ | ⟨e, item, shown, found, held, _⟩
      · refine Or.inl ⟨empty, .redisNil, ?_⟩
        rw [getReply, hidden]
      · refine Or.inr ⟨e, item, found, ?_, held⟩
        rw [getReply, shown]

theorem replyTTL_item (same : List.Forall₂ (Holds d fleet t) history shelf) (c : AnswerCache)
    (source : Source) :
    replyTTL d (ttlReply history c.now source) = lifeLeft d c (source.item shelf c.now) := by
  cases source with
  | failed err => rfl
  | version n =>
      rcases visible_item same c.now n with
        ⟨hidden, empty⟩ | ⟨e, item, shown, found, _, duration, storedAt⟩
      · rw [ttlReply, hidden, empty]
        rfl
      · have left : e.reported c.now = item.remaining c.now := by
          rw [Entry.reported, Entry.deadline, duration, storedAt]
          rfl
        rw [ttlReply, shown, found, lifeLeft]
        dsimp only [replyTTL]
        rw [left]
        split
        · rfl
        · rename_i none
          have zero : item.remaining c.now = 0 := by
            unfold second at none
            omega
          rw [zero]
          rfl

end Shelves

/-- The fix-ups of `ServeDNS` make the decoded reply the one that is due. -/
theorem hitReply_due {d : Deps} (copies : d.SetReplySpec) {res r : Msg}
    (response : res.response = true) (cd : r.checkingDisabled = res.checkingDisabled)
    (ttl : UInt32) : hitReply d r (decodedReply res ttl) = dueReply d res r ttl := by
  rw [hitReply_decoded copies, cd, ite_self, ← response]
  rfl

section Steps

variable {d : Deps} {fleet : Fleet} {tuples : List Tuple} {w after : World} {c : AnswerCache}

/-- A lookup that is under way ends as the cache answers it, and it evicts nothing. -/
theorem Mirrors.finished (spec : d.MatchSpec) (undo : d.UnpackPack) (codes : d.PackRcode)
    (copies : d.SetReplySpec) (same : Mirrors d fleet tuples w c) {l : Lookup}
    (looked : l ∈ w.lookups) (source : Source) :
    (finished d fleet w l source).observed =
        (answerTo d c l.inst l.request l.time l.source source).observed ∧
      (finished d fleet w l source).evicts = [] := by
  obtain ⟨member, _, zone⟩ := same.lookups l looked
  have shelf := same.shelves _ member
  have read := (same.consistent.lookups l looked).reply
  have ttl := replyTTL_item shelf c source
  rw [← same.now] at ttl
  rcases getReply_item shelf l.time l.source with ⟨empty, err, missed⟩ | ⟨e, item, found, got, held⟩
  · have unread : l.reply = .error err := read.trans missed
    obtain ⟨metrics, ended⟩ := serveDNS_unread zone (fun _ => none) err
      (ttlReply (w.store (fleet.lookupKey d l.request)) w.now source)
    rw [← unread] at ended
    constructor
    · simp only [Event.observed, RedisCache.finished, ended, Answer.observed, answerTo, empty]
      rfl
    · simp only [Event.evicts, RedisCache.finished, ended, List.map_nil]
  · have bytes : l.reply = .ok e.wire := read.trans got
    obtain ⟨wire, value, task, reply, payload, stores⟩ := held.entry
    obtain ⟨q, single, tuple⟩ := held.tuple
    cases value
    rw [← reply] at single tuple
    have hit := stores.get_hit spec undo codes single (fleet.config l.inst) l.request tuple
      (ttlReply (w.store (fleet.lookupKey d l.request)) w.now source)
    have wireEq : l.reply = .ok task.job.wire := by rw [bytes, payload]
    rw [← wireEq] at hit
    have ended := serveDNS_hit (fun _ => none) zone hit
    have response : task.reply.response = true := by
      obtain ⟨_, answers⟩ := stores.answers
      exact answers.response
    have cd : l.request.checkingDisabled = task.reply.checkingDisabled := congrArg Tuple.cd tuple
    rw [hitReply_due copies response cd, reply] at ended
    have life : replyTTL d (ttlReply (w.store (fleet.lookupKey d l.request)) w.now source) =
        lifeLeft d c (source.item (c.shelf (requestTuple d l.request)) c.now) := by
      rw [← same.now]
      exact ttl
    rw [life] at ended
    constructor
    · simp only [Event.observed, RedisCache.finished, ended, Answer.observed, answerTo, found]
      rfl
    · simp only [Event.evicts, RedisCache.finished, ended, List.map_nil]

/-- A reply whose write reached the server is worth storing. -/
theorem Stores.worthStoring (spec : d.MatchSpec) {i : Nat} {r : Msg} {time : Nat} {res : Msg}
    {job : SetJob} (stores : Stores d (fleet.config i) r time res job) :
    WorthStoring d fleet i r time res := by
  refine ⟨stores.admitted, (responseMatchesRequest_iff spec r res).mpr stores.answers, ?_, ?_⟩
  · rw [stores.encoded]
    rfl
  · rw [← stores.duration]
    exact stores.positive

/-- The SET of a task puts its reply on the shelf of its tuple, and no other shelf has
that key. -/
theorem Mirrors.shelves_write (opts : d.TypifyOpt)
    (apart : ∀ left ∈ tuples, ∀ right ∈ tuples,
      fleet.keyer.key d left = fleet.keyer.key d right → left = right)
    (same : Mirrors d fleet tuples w c) {task : SetTask} (sent : task ∈ w.writes.calls)
    {t : Tuple} (member : t ∈ tuples) :
    List.Forall₂ (Holds d fleet t)
      (w.store.write task.job.key (some ⟨task.job.wire, task.job.duration, w.now⟩)
        (fleet.keyer.key d t))
      ((Deed.store task.inst task.request task.time task.reply).perform d fleet c |>.shelf t) := by
  obtain ⟨stored, stores⟩ := same.writes task sent
  obtain ⟨q, single, _, tuple, key⟩ := stores.own_key opts
  rw [fleet.shared, ← tuple] at key
  have shelf := same.shelves t member
  by_cases own : t = storeTuple d task.request task.time task.reply
  · subst own
    have keyEq : task.job.key =
        fleet.keyer.key d (storeTuple d task.request task.time task.reply) := key
    rw [keyEq, write_self]
    simp only [Deed.perform, Function.update_self]
    refine List.rel_append shelf (.cons ?_ .nil)
    refine ⟨⟨task.job.wire, ?_, task, rfl, rfl, stores⟩, q, single, tuple⟩
    rw [stores.duration, same.now]
  · have other : fleet.keyer.key d t ≠ task.job.key := by
      intro shared
      exact own (apart t member _ stored (shared.trans key))
    rw [write_of_ne _ other]
    simp only [Deed.perform, Function.update_of_ne own]
    exact shelf

/-- One step of the fleet is matched by its deeds. -/
theorem Mirrors.step (spec : d.MatchSpec) (opts : d.TypifyOpt) (undo : d.UnpackPack)
    (codes : d.PackRcode) (copies : d.SetReplySpec)
    (apart : ∀ left ∈ tuples, ∀ right ∈ tuples,
      fleet.keyer.key d left = fleet.keyer.key d right → left = right)
    {a : Action} (legal : ∀ t ∈ a.tuples d, t ∈ tuples) (same : Mirrors d fleet tuples w c)
    (stepped : step d fleet w a = some after) :
    ∃ reached, AnswerCache.run d fleet c a.deeds = some reached ∧
      Mirrors d fleet tuples after reached := by
  have consistent := step_consistent same.consistent stepped
  obtain ⟨enabled, rfl⟩ := step_iff.mp stepped
  cases a with
  | get i r source =>
      refine ⟨c, rfl, { same with consistent := consistent, lookups := ?_ }⟩
      intro l member
      rcases List.mem_cons.mp member with rfl | old
      · exact ⟨legal _ (List.mem_singleton_self _), Nat.le_refl _, enabled.1⟩
      · exact same.lookups l old
  | ttl l source =>
      obtain ⟨observed, evicts⟩ := same.finished spec undo codes copies enabled.1 source
      obtain ⟨member, asked, zone⟩ := same.lookups l enabled.1
      have shelf := same.shelves _ member
      have allowed : (Deed.answer l.inst l.request l.time l.source source).allowed d fleet c := by
        refine ⟨zone, by rw [← same.now]; exact asked, ?_, ?_⟩
        · exact (within_iff_onShelf shelf _).mp (same.consistent.lookups l enabled.1).within
        · exact (within_iff_onShelf shelf _).mp enabled.2
      refine ⟨_, (Transition.run_cons _).mpr ⟨_, if_pos allowed, rfl⟩, ?_⟩
      refine { same with consistent := consistent, lookups := ?_, evictions := ?_, log := ?_ }
      · intro other inside
        exact same.lookups other (List.mem_of_mem_erase inside)
      · simp only [effect, evicts, Pool.spawn, List.nil_append]
        exact same.evictions
      · simp only [effect, Deed.perform, List.map_cons, observed, same.log]
  | reply i r time res =>
      refine ⟨c, rfl, { same with consistent := consistent, writes := ?_ }⟩
      intro t member
      rcases mem_spawn member with new | old
      · obtain ⟨called, stores⟩ := started_callIn spec new
        cases List.mem_singleton.mp called
        exact ⟨legal _ (List.mem_singleton_self _), stores⟩
      · exact same.writes t old
  | enterSet t =>
      refine ⟨c, rfl, { same with consistent := consistent, writes := ?_ }⟩
      intro other member
      exact same.writes other (mem_enter _ _ enabled member)
  | applySet t =>
      have sent : t ∈ w.writes.calls := mem_calls_of_sent enabled
      have worth := (same.writes t sent).2.worthStoring spec
      refine ⟨_, (Transition.run_cons _).mpr ⟨_, if_pos worth, rfl⟩, ?_⟩
      exact { same with
        consistent := consistent
        shelves := fun other member => same.shelves_write opts apart sent member }
  | endSet t =>
      refine ⟨c, rfl, { same with consistent := consistent, writes := ?_ }⟩
      intro other member
      exact same.writes other (mem_leave member)
  | enterEvict t =>
      have none := mem_calls_of_waiting enabled
      rw [same.evictions] at none
      cases none
  | applyEvict t =>
      have none := mem_calls_of_sent enabled
      rw [same.evictions] at none
      cases none
  | endEvict t =>
      have none := mem_calls_of_running enabled
      rw [same.evictions] at none
      cases none
  | tick ms =>
      refine ⟨_, rfl, ?_⟩
      refine { same with consistent := consistent, now := ?_, lookups := ?_ }
      · show w.now + ms = c.now + ms
        rw [same.now]
      · intro l member
        obtain ⟨inside, asked, zone⟩ := same.lookups l member
        exact ⟨inside, Nat.le_trans asked (Nat.le_add_right _ _), zone⟩

end Steps

/-- Where no two tuples of a run from an empty Redis share a key, the run is one of the
answer cache: every request ends as the cache answers it. -/
theorem fleet_refines_answerCache {d : Deps} (spec : d.MatchSpec) (opts : d.TypifyOpt)
    (undo : d.UnpackPack) (codes : d.PackRcode) (copies : d.SetReplySpec) (fleet : Fleet)
    {now : Nat} {acts : List Action} {w : World}
    (apart : ∀ left ∈ occurring d acts, ∀ right ∈ occurring d acts,
      fleet.keyer.key d left = fleet.keyer.key d right → left = right)
    (ran : run d fleet (World.start (fun _ => []) now) acts = some w) :
    ∃ c, AnswerCache.run d fleet (.empty now) (acts.flatMap Action.deeds) = some c ∧
      w.log.map Event.observed = c.log.map Answer.observed ∧
      ∀ t ∈ occurring d acts,
        (w.store (fleet.keyer.key d t)).length = (c.shelf t).length := by
  have start : Mirrors d fleet (occurring d acts) (World.start (fun _ => []) now) (.empty now) :=
    { now := rfl
      shelves := fun _ _ => .nil
      consistent := start_consistent d fleet _ now
      lookups := by simp [World.start]
      writes := by simp [World.start, Pool.calls, Pool.empty]
      evictions := rfl
      log := rfl }
  obtain ⟨c, reached, same⟩ := Transition.run_simulates (step d fleet) (AnswerCache.step d fleet)
    Action.deeds (fun a => ∀ t ∈ a.tuples d, t ∈ occurring d acts)
    (Mirrors d fleet (occurring d acts))
    (fun _ _ _ _ same legal stepped =>
      same.step spec opts undo codes copies apart legal stepped)
    start (fun a member t inside => List.mem_flatMap.mpr ⟨a, member, inside⟩) ran
  exact ⟨c, reached, same.log, fun t member => (same.shelves t member).length_eq⟩

/-- `hitRun` is a run of the cache, whose last answer has 42 seconds left. -/
theorem hitRun_refines :
    ∃ w c, run sampleDeps sampleFleet (World.start (fun _ => []) 0) hitRun = some w ∧
      AnswerCache.run sampleDeps sampleFleet (.empty 0) (hitRun.flatMap Action.deeds) = some c ∧
      w.log.map Event.observed = c.log.map Answer.observed ∧ c.log.length = 2 := by
  obtain ⟨w, ran, _, replies⟩ := hitRun_ran
  obtain ⟨c, reached, same, _⟩ := fleet_refines_answerCache sample_match sample_typifyOpt
    sample_unpackPack sample_packRcode sample_setReply sampleFleet hitRun_apart ran
  refine ⟨w, c, ran, reached, same, ?_⟩
  have events : w.log.length = 2 := by
    rw [← List.length_map (fun ev : Event => ev.lookup.reply), replies]
    rfl
  rw [← List.length_map Answer.observed, ← same, List.length_map, events]

end RedisCache
