import RedisCache.StoreInvariant

set_option autoImplicit false

/- Which entry the TTL of a served reply belongs to, when GET and TTL are two
commands that may reach two servers. -/

namespace RedisCache

open Versions

theorem get_hit_reply {d : Deps} {re : Redis} {r : Msg} {getCmd : Except GoError Bytes}
    {ttlCmd : Except GoError Int} {out : LookupResult} {m : Msg}
    (ran : Redis.get d re r getCmd ttlCmd = .ok out) (hit : out.hit = some m) :
    ∃ b, getCmd = .ok b := by
  cases getCmd with
  | ok b => exact ⟨b, rfl⟩
  | error err => cases err <;> cases ran <;> cases hit

theorem hitReply_records {d : Deps} (copies : d.SetReplySpec) (r m : Msg) :
    (hitReply d r m).records = m.records := by
  obtain ⟨answer, ns, extra⟩ := hitReply_sections copies r m
  rw [Msg.records, answer, ns, extra, Msg.records]

/-- A reply that a lookup served from the bytes of an entry with a TTL. -/
structure ServedFrom (d : Deps) (fleet : Fleet) (w : World) (ev : Event) (m : Msg) (n : Nat)
    (e : Entry) (ttl : UInt32) : Prop where
  source : ev.lookup.source = .version n
  entry : visible (w.store (fleet.lookupKey d ev.lookup.request)) ev.lookup.time n = some e
  decoded : ∃ fetched storedDO, fromBytes d e.wire ttl = .ok (.ok (fetched, storedDO)) ∧
    m = hitReply d ev.lookup.request fetched
  stamped : ∀ rr ∈ m.records, rr.isOPT = false → rr.ttl = ttl

section Served

variable {d : Deps} {fleet : Fleet} {w : World} {ev : Event} {result : ServeResult} {m : Msg}
  {rcode : Nat} {err : Option GoError}

theorem Event.Read.servedFrom (spec : d.MatchSpec) (copies : d.SetReplySpec)
    (read : ev.Read d fleet w) (ended : ev.result = .ok result)
    (answered : result.ending = .answered m rcode err) :
    ∃ n e, ServedFrom d fleet w ev m n e (replyTTL d ev.ttlCmd) := by
  have served := read.result
  rw [ended] at served
  obtain ⟨out, fetched, got, hit, message, _⟩ := serveDNS_answered served.symm answered
  obtain ⟨b, found⟩ := get_hit_reply got hit
  have held := read.lookup.reply
  rw [found] at held got
  obtain ⟨n, e, source, shown, rfl⟩ := getReply_ok held.symm
  cases get_outcome d _ _ _ spec got with
  | evicted metrics => cases hit
  | served other q storedDO metrics decoded answers doBit =>
      cases hit
      refine ⟨n, e, source, shown, ⟨fetched, storedDO, decoded, message⟩, ?_⟩
      intro rr member plain
      rw [message, hitReply_records copies] at member
      obtain ⟨_, packed, _, _, rfl⟩ := fromBytes_ok decoded
      exact setMsgTTL_ttl member plain

theorem reported_le (e : Entry) (now : Nat) :
    1000 * e.reported now ≤ e.deadline - now + 500 := by
  unfold Entry.reported
  omega

/-- A TTL reply never yields more than what the server reported, and nothing when
it reported no life. -/
theorem replyTTL_ttlReply (d : Deps) (history : History) (now : Nat) (source : Source) :
    replyTTL d (ttlReply history now source) = 0 ∨
      ∃ n e, source = .version n ∧ visible history now n = some e ∧
        (replyTTL d (ttlReply history now source)).toNat ≤ e.reported now := by
  cases source with
  | failed err => exact Or.inl rfl
  | version n =>
      cases shown : visible history now n with
      | none =>
          rw [ttlReply, shown]
          exact Or.inl rfl
      | some e =>
          refine Or.inr ⟨n, e, rfl, shown, ?_⟩
          rw [ttlReply, shown]
          dsimp only [replyTTL]
          split
          · rename_i positive
            have bound := secondsU32_le d.castU32 (Int.le_of_lt positive)
            unfold second at bound ⊢
            omega
          · exact Nat.zero_le _

/-- The TTL of a served reply is zero or at most what Redis reported, to the
nearest second, for the entry that the TTL command found; and that is the entry
served whenever both commands saw the same write. -/
theorem served_ttl_bounded (spec : d.MatchSpec) (copies : d.SetReplySpec) {store : Store}
    {now : Nat} {acts : List Action}
    (ran : run d fleet (World.start store now) acts = some w) (logged : ev ∈ w.log)
    (ended : ev.result = .ok result) (answered : result.ending = .answered m rcode err) :
    ∃ n e ttl, ServedFrom d fleet w ev m n e ttl ∧
      (ttl = 0 ∨ ∃ later found, ev.source = .version later ∧
        visible (w.store (fleet.lookupKey d ev.lookup.request)) ev.time later = some found ∧
        1000 * ttl.toNat ≤ found.deadline - ev.time + 500 ∧ (later = n → found = e)) := by
  have read := (run_consistent ran).log ev logged
  obtain ⟨n, e, served⟩ := read.servedFrom spec copies ended answered
  refine ⟨n, e, _, served, ?_⟩
  rw [read.ttlCmd]
  rcases replyTTL_ttlReply d (w.store (fleet.lookupKey d ev.lookup.request)) ev.time ev.source with
    zero | ⟨later, found, source, shown, bound⟩
  · exact Or.inl zero
  · refine Or.inr ⟨later, found, source, shown, ?_, ?_⟩
    · have rounded := reported_le found ev.time
      omega
    · intro same
      subst same
      have own := (visible_asOf served.entry).1
      rw [(visible_asOf shown).1] at own
      exact Option.some.inj own

end Served

/-- While a lookup stands between GET and TTL, another instance, whose own GET had
timed out, replaces the entry in its last second. -/
def mixedRun : List Action := storeRun ++
  [.get 1 sampleQuery (.failed .deadlineExceeded),
    .ttl ⟨1, sampleQuery, .failed .deadlineExceeded, 0, 1, .error .deadlineExceeded⟩
      (.failed .deadlineExceeded),
    .reply 1 sampleQuery 0 sampleReply,
    .enterSet (sampleTask 1),
    .tick 59000,
    .get 0 sampleQuery (.version 1),
    .applySet (sampleTask 1),
    .ttl ⟨0, sampleQuery, .version 1, 59000, 1, .ok storedWire⟩ (.version 2)]

/-- The reply is served for sixty seconds from an entry with one second to live. -/
theorem mixedRun_mixes_lives :
    ∃ w ev m, run sampleDeps sampleFleet (World.start (fun _ => []) 0) mixedRun = some w ∧
      ev ∈ w.log ∧ ev.result = .ok ⟨.answered m 0 none, [], [.hits]⟩ ∧
      (∃ rr ∈ m.answer, rr.isOPT = false ∧ rr.ttl = 60) ∧
      ∃ e, ServedFrom sampleDeps sampleFleet w ev m 1 e 60 ∧ e.deadline - ev.time = 1000 := by
  have computed : (run sampleDeps sampleFleet (World.start (fun _ => []) 0) mixedRun).any (fun w =>
      decide (∃ ev ∈ w.log,
        ev.result = .ok ⟨.answered (transparentReply sampleDeps sampleReply sampleQuery 60) 0 none,
          [], [.hits]⟩ ∧
        ev.lookup.source = .version 1 ∧ ev.lookup.request = sampleQuery ∧
        visible (w.store sampleKey) ev.lookup.time 1 = some ⟨storedWire, 60 * second, 0⟩ ∧
        ev.time = 59000 ∧ replyTTL sampleDeps ev.ttlCmd = 60)) = true := by
    decide +kernel
  obtain ⟨w, ran, ev, logged, ended, source, request, shown, time, ttl⟩ :=
    Transition.exists_of_any computed
  obtain ⟨n, e, served⟩ := ((run_consistent ran).log ev logged).servedFrom sample_match
    sample_setReply ended rfl
  have version : n = 1 := by
    have same := served.source.symm.trans source
    exact Source.version.inj same
  subst version
  have entry := served.entry
  rw [request] at entry
  have same := Option.some.inj (entry.symm.trans shown)
  rw [ttl] at served
  refine ⟨w, ev, _, ran, logged, ended, ⟨_, List.mem_singleton_self _, rfl, rfl⟩, e, served, ?_⟩
  rw [same, time]
  decide

theorem hitRun_ttl :
    ∃ w ev m, run sampleDeps sampleFleet (World.start (fun _ => []) 0) hitRun = some w ∧
      ev ∈ w.log ∧ ev.result = .ok ⟨.answered m 0 none, [], [.hits]⟩ ∧
      ∃ n e ttl, ServedFrom sampleDeps sampleFleet w ev m n e ttl ∧
        (ttl = 0 ∨ ∃ later found, ev.source = .version later ∧
          visible (w.store (sampleFleet.lookupKey sampleDeps ev.lookup.request)) ev.time later =
            some found ∧
          1000 * ttl.toNat ≤ found.deadline - ev.time + 500 ∧ (later = n → found = e)) := by
  have computed : (run sampleDeps sampleFleet (World.start (fun _ => []) 0) hitRun).any (fun w =>
      decide (∃ ev ∈ w.log, ev.result =
        .ok ⟨.answered (transparentReply sampleDeps sampleReply sampleQuery 42) 0 none,
          [], [.hits]⟩)) = true := by
    decide +kernel
  obtain ⟨w, ran, ev, logged, ended⟩ := Transition.exists_of_any computed
  exact ⟨w, ev, _, ran, logged, ended,
    served_ttl_bounded sample_match sample_setReply ran logged ended rfl⟩

end RedisCache
