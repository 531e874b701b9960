import RedisCache.World

set_option autoImplicit false

/- Histories only grow, so what a read returned can be told from any later state. -/

namespace RedisCache

open SingleFlight Versions

theorem within_of_isPrefix {old new : History} (grown : old <+: new) {source : Source}
    (inside : source.within old) : source.within new := by
  cases source with
  | version n => exact Nat.le_trans inside grown.length_le
  | failed err => exact inside

theorem visible_of_isPrefix {old new : History} (grown : old <+: new) {n : Nat}
    (inside : n ≤ old.length) (now : Nat) : visible new now n = visible old now n := by
  obtain ⟨more, rfl⟩ := grown
  rw [visible, asOf_append inside, visible]

theorem getReply_of_isPrefix {old new : History} (grown : old <+: new) {source : Source}
    (inside : source.within old) (now : Nat) : getReply new now source = getReply old now source := by
  cases source with
  | version n => rw [getReply, visible_of_isPrefix grown inside, getReply]
  | failed err => rfl

theorem ttlReply_of_isPrefix {old new : History} (grown : old <+: new) {source : Source}
    (inside : source.within old) (now : Nat) : ttlReply new now source = ttlReply old now source := by
  cases source with
  | version n => rw [ttlReply, visible_of_isPrefix grown inside, ttlReply]
  | failed err => rfl

theorem write_isPrefix (store : Store) (k : Key) (value : Option Entry) (other : Key) :
    store other <+: store.write k value other := by
  by_cases same : other = k
  · subst same
    rw [write_self]
    exact List.prefix_append _ _
  · exact ⟨[], by rw [List.append_nil, write_of_ne store same]⟩

/-- One more write behind a history leaves what is known of the newer part. -/
theorem write_newer {older : History} {current : Store} {key k : Key} {value : Option Entry}
    {justified : Entry → Prop}
    (before : ∃ newer, current k = older ++ newer ∧ ∀ e, some e ∈ newer → justified e)
    (new : ∀ e, k = key → value = some e → justified e) :
    ∃ newer, current.write key value k = older ++ newer ∧
      ∀ e, some e ∈ newer → justified e := by
  obtain ⟨newer, shape, known⟩ := before
  by_cases same : k = key
  · subst same
    refine ⟨newer ++ [value], ?_, ?_⟩
    · rw [write_self, shape, List.append_assoc]
    · intro e member
      rcases List.mem_append.mp member with old | last
      · exact known e old
      · exact new e rfl (List.mem_singleton.mp last).symm
  · exact ⟨newer, by rw [write_of_ne current same, shape], known⟩

section Runs

variable {d : Deps} {fleet : Fleet} {w after : World} {a : Action}

theorem step_isPrefix (stepped : step d fleet w a = some after) (k : Key) :
    w.store k <+: after.store k := by
  rcases step_store stepped with same | ⟨t, _, _, wrote⟩ | ⟨t, _, _, wrote⟩
  · exact ⟨[], by rw [List.append_nil, same]⟩
  · rw [wrote]
    exact write_isPrefix _ _ _ k
  · rw [wrote]
    exact write_isPrefix _ _ _ k

/-- The reply to a lookup's GET is what its source held then. -/
structure Lookup.Read (d : Deps) (fleet : Fleet) (w : World) (l : Lookup) : Prop where
  within : l.source.within (w.store (fleet.lookupKey d l.request))
  seen : ∀ n, l.source = .version n → n ≤ l.total
  total : l.total ≤ (w.store (fleet.lookupKey d l.request)).length
  reply : l.reply = getReply (w.store (fleet.lookupKey d l.request)) l.time l.source

/-- A finished lookup is `ServeDNS` on what its two sources held. -/
structure Event.Read (d : Deps) (fleet : Fleet) (w : World) (ev : Event) : Prop where
  lookup : ev.lookup.Read d fleet w
  within : ev.source.within (w.store (fleet.lookupKey d ev.lookup.request))
  ttlCmd : ev.ttlCmd = ttlReply (w.store (fleet.lookupKey d ev.lookup.request)) ev.time ev.source
  result : ev.result = serveDNS d (fleet.config ev.lookup.inst) ev.lookup.request
    (fun _ => none) ev.lookup.reply ev.ttlCmd

theorem Lookup.Read.mono {l : Lookup} (read : l.Read d fleet w)
    (stepped : step d fleet w a = some after) : l.Read d fleet after := by
  have grown := step_isPrefix stepped (fleet.lookupKey d l.request)
  exact
    { within := within_of_isPrefix grown read.within
      seen := read.seen
      total := Nat.le_trans read.total grown.length_le
      reply := by rw [getReply_of_isPrefix grown read.within, read.reply] }

theorem Event.Read.mono {ev : Event} (read : ev.Read d fleet w)
    (stepped : step d fleet w a = some after) : ev.Read d fleet after := by
  have grown := step_isPrefix stepped (fleet.lookupKey d ev.lookup.request)
  exact
    { lookup := read.lookup.mono stepped
      within := within_of_isPrefix grown read.within
      ttlCmd := by rw [ttlReply_of_isPrefix grown read.within, read.ttlCmd]
      result := read.result }

theorem fetched_read {i : Nat} {r : Msg} {source : Source}
    (inside : source.within (w.store (fleet.lookupKey d r))) :
    (fetched d fleet w i r source).Read d fleet w where
  within := inside
  seen := by
    intro n version
    have shape : source = .version n := version
    rw [shape] at inside
    exact inside
  total := Nat.le_refl _
  reply := rfl

/-- Every lookup under way, every finished one, and the cause of every eviction. -/
structure World.Consistent (d : Deps) (fleet : Fleet) (w : World) : Prop where
  lookups : ∀ l ∈ w.lookups, l.Read d fleet w
  log : ∀ ev ∈ w.log, ev.Read d fleet w
  evictions : ∀ t ∈ w.evictions.calls, ∃ ev ∈ w.log, t ∈ ev.evicts

theorem start_consistent (d : Deps) (fleet : Fleet) (store : Store) (now : Nat) :
    (World.start store now).Consistent d fleet where
  lookups := by simp [World.start]
  log := by simp [World.start]
  evictions := by simp [World.start, Pool.calls, Pool.empty]

theorem step_consistent (valid : w.Consistent d fleet)
    (stepped : step d fleet w a = some after) : after.Consistent d fleet where
  lookups := by
    intro l member
    rcases step_lookups stepped member with old | ⟨i, r, source, _, rfl, inside⟩
    · exact (valid.lookups l old).mono stepped
    · exact (fetched_read inside).mono stepped
  log := by
    intro ev member
    rcases step_log stepped member with old | ⟨l, source, _, looked, inside, rfl⟩
    · exact (valid.log ev old).mono stepped
    · have read : (finished d fleet w l source).Read d fleet w :=
        ⟨valid.lookups l looked, inside, rfl, rfl⟩
      exact read.mono stepped
  evictions := by
    intro t member
    rcases step_evictions stepped member with old | new
    · obtain ⟨ev, logged, made⟩ := valid.evictions t old
      exact ⟨ev, step_log_kept stepped logged, made⟩
    · exact new

/-- In every state of every run each reply is what a server of the run held. -/
theorem run_consistent {store : Store} {now : Nat} {acts : List Action}
    (ran : run d fleet (World.start store now) acts = some w) : w.Consistent d fleet :=
  Transition.run_invariant (step d fleet) (fun _ state => state.Consistent d fleet)
    (fun _ _ _ _ valid stepped => step_consistent valid stepped)
    (start_consistent d fleet store now) ran

end Runs

/-- A lookup of the run so far was made by one of its steps. -/
def Lookup.FromGet (d : Deps) (fleet : Fleet) (l : Lookup) (start : World) (past : List Action) :
    Prop :=
  ∃ asking between, Transition.Taken (step d fleet) start past (.get l.inst l.request l.source)
    asking between ∧ l = fetched d fleet asking l.inst l.request l.source

/-- Every lookup was started by a GET of the steps so far. -/
structure World.FromGets (d : Deps) (fleet : Fleet) (w start : World) (past : List Action) :
    Prop where
  lookups : ∀ l ∈ w.lookups, l.FromGet d fleet start past
  log : ∀ ev ∈ w.log, ev.lookup.FromGet d fleet start past

section Gets

variable {d : Deps} {fleet : Fleet} {start w after : World} {past : List Action} {a : Action}

theorem Lookup.FromGet.mem {l : Lookup} (made : l.FromGet d fleet start past) :
    .get l.inst l.request l.source ∈ past := by
  obtain ⟨_, _, ⟨_, rfl, _⟩, _⟩ := made
  simp

theorem Lookup.FromGet.append {l : Lookup} (made : l.FromGet d fleet start past) (a : Action) :
    l.FromGet d fleet start (past ++ [a]) := by
  obtain ⟨asking, between, taken, read⟩ := made
  exact ⟨asking, _, taken.append a, read⟩

theorem step_fromGets (reached : run d fleet start past = some w)
    (valid : w.FromGets d fleet start past) (stepped : step d fleet w a = some after) :
    after.FromGets d fleet start (past ++ [a]) where
  lookups := by
    intro l member
    rcases step_lookups stepped member with old | ⟨i, r, source, rfl, rfl, _⟩
    · exact (valid.lookups l old).append a
    · exact ⟨w, [], Transition.taken_last _ reached _, rfl⟩
  log := by
    intro ev member
    rcases step_log stepped member with old | ⟨l, source, _, looked, _, rfl⟩
    · exact (valid.log ev old).append a
    · exact (valid.lookups l looked).append a

theorem run_fromGets {store : Store} {now : Nat} {acts : List Action}
    (ran : run d fleet (World.start store now) acts = some w) :
    w.FromGets d fleet (World.start store now) acts :=
  Transition.run_invariant_reached (step d fleet)
    (fun past state => state.FromGets d fleet (World.start store now) past)
    (fun _ _ _ _ reached valid stepped => step_fromGets reached valid stepped)
    ⟨by simp [World.start], by simp [World.start]⟩ ran

end Gets

/-- A GET that returned bytes found an entry. -/
theorem getReply_ok {history : History} {now : Nat} {source : Source} {b : Bytes}
    (found : getReply history now source = .ok b) :
    ∃ n e, source = .version n ∧ visible history now n = some e ∧ e.wire = b := by
  cases source with
  | failed err => cases found
  | version n =>
      rw [getReply] at found
      split at found
      · rename_i e shown
        cases found
        exact ⟨n, e, rfl, shown, rfl⟩
      · cases found

theorem visible_asOf {history : History} {now n : Nat} {e : Entry}
    (shown : visible history now n = some e) : asOf history n = some e ∧ now < e.deadline := by
  have parts := Option.filter_eq_some_iff.mp shown
  simpa using parts

end RedisCache
