import RedisCache.TtlLaw

set_option autoImplicit false

/- The zones of a block. Each origin is replaced by the first of the names that it
normalises to, whatever their number is. -/

namespace RedisCache

/-- The positional arguments, or else the keys of the server block. -/
def Block.origins (block : Block) : List String :=
  if block.args ≠ [] then block.args else block.serverBlockKeys

/-- `parse` rejects the block or has the names of all origins, in order, as zones. -/
def ZonesComplete (std : Std) (block : Block) : Prop :=
  (∃ err, parse std (some block) = .ok (.error err)) ∨
    ∃ re, parse std (some block) = .ok (.ok (some re)) ∧
      re.zones = block.origins.flatMap std.normalizeExact

section FirstNames

variable {α β : Type} {names : α → List β}

/-- Every item has a name, and the results are the first ones. -/
abbrev FirstNames (names : α → List β) : List α → List β → Prop :=
  List.Forall₂ fun item first => ∃ more, names item = first :: more

theorem FirstNames.length_le {items : List α} {firsts : List β}
    (found : FirstNames names items firsts) : items.length ≤ (items.flatMap names).length := by
  induction found with
  | nil => exact Nat.le_refl _
  | cons first later ih =>
      obtain ⟨more, split⟩ := first
      rw [List.flatMap_cons, List.length_append, List.length_cons, split, List.length_cons]
      omega

/-- The first names are all names only where no item has a second one. -/
theorem firstNames_flatMap_iff (items : List α) :
    FirstNames names items (items.flatMap names) ↔ ∀ item ∈ items, ∃ name, names item = [name] := by
  induction items with
  | nil => simp [FirstNames]
  | cons item rest ih =>
      constructor
      · intro found
        rw [List.flatMap_cons] at found
        cases split : names item with
        | nil =>
            obtain ⟨first, _, ⟨_, named⟩, _⟩ := List.forall₂_cons_left_iff.mp found
            rw [split] at named
            cases named
        | cons first more =>
            rw [split, List.cons_append, FirstNames, List.forall₂_cons] at found
            have lengths := found.2.length_eq
            have room := FirstNames.length_le found.2
            rw [List.length_append] at lengths
            have alone : more = [] := List.length_eq_zero_iff.mp (by omega)
            subst alone
            intro other member
            rcases List.mem_cons.mp member with rfl | later
            · exact ⟨first, split⟩
            · exact ih.mp found.2 other later
      · intro single
        obtain ⟨name, named⟩ := single item List.mem_cons_self
        rw [List.flatMap_cons, named]
        refine .cons ⟨[], named⟩ (ih.mpr ?_)
        exact fun other later => single other (List.mem_cons_of_mem _ later)

theorem exists_firstNames_iff (items : List α) :
    (∃ firsts, FirstNames names items firsts) ↔ ∀ item ∈ items, names item ≠ [] := by
  induction items with
  | nil => simp [FirstNames]
  | cons item rest ih =>
      constructor
      · rintro ⟨firsts, found⟩
        cases found with
        | cons first later =>
            obtain ⟨more, split⟩ := first
            intro other member
            rcases List.mem_cons.mp member with rfl | inside
            · rw [split]
              exact List.cons_ne_nil _ _
            · exact ih.mp ⟨_, later⟩ other inside
      · intro named
        obtain ⟨first, more, split⟩ := List.exists_cons_of_ne_nil (named item List.mem_cons_self)
        obtain ⟨firsts, found⟩ :=
          ih.mpr fun other inside => named other (List.mem_cons_of_mem _ inside)
        exact ⟨first :: firsts, .cons ⟨more, split⟩ found⟩

end FirstNames

theorem index_zero_iff {α : Type} {xs : List α} {x : α} :
    index xs 0 = .ok x ↔ ∃ rest, xs = x :: rest := by
  cases xs with
  | nil => simp
  | cons y rest => simp

theorem normalizeZones_ok_iff {std : Std} {origins zones : List String} :
    normalizeZones std origins = .ok zones ↔ FirstNames std.normalizeExact origins zones := by
  rw [normalizeZones, Checked.mapM_ok_iff]
  simp only [index_zero_iff, FirstNames]

/-- `parse` behind the directives and the checks across them. -/
theorem parse_of_parseBlock {std : Std} {block : Block} {re : Redis}
    (passed : parseBlock std block.directives = .ok re) :
    parse std (some block) = (normalizeZones std block.origins).bind fun zones =>
      if block.another then .ok (.error (.errf "only one redis_cache block per server"))
      else .ok (.ok (some { re with zones := zones })) := by
  simp only [parse, passed]
  rfl

/-- `parse` faults on a block whose directives it accepts exactly if an origin has no name. -/
theorem parse_faults_iff (std : Std) (block : Block) :
    (∃ fault, parse std (some block) = .error fault) ↔
      (∃ re, parseBlock std block.directives = .ok re) ∧
        ∃ origin ∈ block.origins, std.normalizeExact origin = [] := by
  cases passed : parseBlock std block.directives with
  | error err =>
      have rejected : parse std (some block) = .ok (.error err) := by simp only [parse, passed]
      simp [rejected]
  | ok re =>
      have named : (∃ zones, normalizeZones std block.origins = .ok zones) ↔
          ∀ origin ∈ block.origins, std.normalizeExact origin ≠ [] := by
        rw [← exists_firstNames_iff]
        simp only [normalizeZones_ok_iff]
      rw [parse_of_parseBlock passed]
      cases zones : normalizeZones std block.origins with
      | error fault =>
          simp only [zones, reduceCtorEq, exists_false, false_iff, not_forall] at named
          obtain ⟨origin, member, nameless⟩ := named
          exact ⟨fun _ => ⟨⟨re, rfl⟩, origin, member, not_not.mp nameless⟩, fun _ => ⟨fault, rfl⟩⟩
      | ok firsts =>
          have all := named.mp ⟨firsts, zones⟩
          constructor
          · rintro ⟨fault, faulted⟩
            simp only [Except.bind] at faulted
            split at faulted <;> cases faulted
          · rintro ⟨_, origin, member, nameless⟩
            exact absurd nameless (all origin member)

/-- The zones are complete exactly if the block is rejected before they are looked at,
or every origin has one name, or every origin has a name and a second block follows. -/
theorem zonesComplete_iff (std : Std) (block : Block) :
    ZonesComplete std block ↔
      (∃ err, parseBlock std block.directives = .error err) ∨
      (∀ origin ∈ block.origins, ∃ name, std.normalizeExact origin = [name]) ∨
      (block.another = true ∧ ∀ origin ∈ block.origins, std.normalizeExact origin ≠ []) := by
  cases passed : parseBlock std block.directives with
  | error err =>
      have rejected : parse std (some block) = .ok (.error err) := by simp only [parse, passed]
      exact ⟨fun _ => Or.inl ⟨err, rfl⟩, fun _ => Or.inl ⟨err, rejected⟩⟩
  | ok re =>
      rw [ZonesComplete, parse_of_parseBlock passed, ← firstNames_flatMap_iff,
        ← exists_firstNames_iff, ← normalizeZones_ok_iff]
      simp only [← normalizeZones_ok_iff]
      cases named : normalizeZones std block.origins with
      | error fault => simp [Except.bind]
      | ok zones =>
          cases followed : block.another with
          | true => simp [Except.bind]
          | false => simp [Except.bind]

/-- CoreDNS on two arguments: a reverse zone of four octet-aligned parts, and a name
with nothing after its colon. -/
def reverseStd : Std :=
  { plainStd with
    normalizeExact := fun s =>
      if s = "10.0.0.0/22" then
        ["0.0.10.in-addr.arpa.", "1.0.10.in-addr.arpa.", "2.0.10.in-addr.arpa.",
          "3.0.10.in-addr.arpa."]
      else if s = "example.org:" then []
      else [s] }

/-- Three of the four zones are lost, and the malformed argument ends the process. -/
theorem reverseZone_incomplete :
    parse reverseStd (some ⟨["10.0.0.0/22"], [], [], false⟩) =
        .ok (.ok (some { Redis.new with zones := ["0.0.10.in-addr.arpa."] })) ∧
      ¬ ZonesComplete reverseStd ⟨["10.0.0.0/22"], [], [], false⟩ ∧
      parse reverseStd (some ⟨["example.org:"], [], [], false⟩) = .error .indexOutOfRange ∧
      ¬ ZonesComplete reverseStd ⟨["example.org:"], [], [], false⟩ := by
  have kept : parse reverseStd (some ⟨["10.0.0.0/22"], [], [], false⟩) =
      .ok (.ok (some { Redis.new with zones := ["0.0.10.in-addr.arpa."] })) := by decide +kernel
  have fault : parse reverseStd (some ⟨["example.org:"], [], [], false⟩) =
      .error .indexOutOfRange := by decide +kernel
  refine ⟨kept, ?_, fault, ?_⟩
  · rintro (⟨err, rejected⟩ | ⟨re, accepted, complete⟩)
    · rw [kept] at rejected
      cases rejected
    · rw [kept] at accepted
      cases accepted
      revert complete
      decide +kernel
  · rintro (⟨err, rejected⟩ | ⟨re, accepted, _⟩)
    · rw [fault] at rejected
      cases rejected
    · rw [fault] at accepted
      cases accepted

end RedisCache
