import RedisCache.Deps

set_option autoImplicit false

namespace RedisCache

def maxTTL : Int := 3600 * second
def failSafeTTL : Int := 5 * second

/-- The two nested loops of `minMsgTTL`, over the records of all sections. A
denial is decided by its first SOA; a positive reply by its smallest TTL. The
TTL field of an OPT record holds flags, so these records are passed over. -/
def minMsgTTLLoop (d : Deps) (mt : ResponseType) : List RR → Int → Int
  | [], minTTL => minTTL
  | r :: rest, minTTL =>
      if r.isOPT then minMsgTTLLoop d mt rest minTTL
      else if mt = .nameError ∨ mt = .noData then
        if soa : r.rrtype = typeSOA then ofSeconds (r.minttl soa).toNat
        else minMsgTTLLoop d mt rest minTTL
      else if mt = .noError ∨ mt = .delegation then
        if r.ttl < secondsU32 d.castU32 minTTL then
          minMsgTTLLoop d mt rest (ofSeconds r.ttl.toNat)
        else minMsgTTLLoop d mt rest minTTL
      else minMsgTTLLoop d mt rest minTTL

def minMsgTTL (d : Deps) (m : Msg) (mt : ResponseType) : Int :=
  if mt ≠ .noError ∧ mt ≠ .delegation ∧ mt ≠ .nameError ∧ mt ≠ .noData then 0
  else if m.answer.length + m.ns.length = 0 then failSafeTTL
  else minMsgTTLLoop d mt m.records maxTTL

def RR.setTTL (ttl : UInt32) (rr : RR) : RR := { rr with ttl := ttl }

def setMsgTTL (m : Msg) (ttl : UInt32) : Msg :=
  { m with
    answer := m.answer.map (RR.setTTL ttl)
    ns := m.ns.map (RR.setTTL ttl)
    extra := m.extra.map fun rr => if rr.isOPT then rr else rr.setTTL ttl }

@[simp] theorem setTTL_ttl (ttl : UInt32) (rr : RR) : (rr.setTTL ttl).ttl = ttl := rfl

/-- Every record of the rewritten message comes from one of the old message,
and only an OPT record can keep its TTL. -/
theorem setMsgTTL_mem {m : Msg} {ttl : UInt32} {rr : RR}
    (member : rr ∈ (setMsgTTL m ttl).records) :
    ∃ old ∈ m.records, rr.isOPT = old.isOPT ∧ (rr.isOPT = false → rr = old.setTTL ttl) := by
  simp only [Msg.records, setMsgTTL, List.mem_append, List.mem_map] at member ⊢
  rcases member with (⟨old, inside, rfl⟩ | ⟨old, inside, rfl⟩) | ⟨old, inside, rfl⟩
  · exact ⟨old, Or.inl (Or.inl inside), rfl, fun _ => rfl⟩
  · exact ⟨old, Or.inl (Or.inr inside), rfl, fun _ => rfl⟩
  · refine ⟨old, Or.inr inside, ?_, ?_⟩
    · split <;> rfl
    · split
      · rename_i opt
        simp [opt]
      · exact fun _ => rfl

theorem setMsgTTL_ttl {m : Msg} {ttl : UInt32} {rr : RR}
    (member : rr ∈ (setMsgTTL m ttl).records) (plain : rr.isOPT = false) : rr.ttl = ttl := by
  obtain ⟨old, _, _, rewritten⟩ := setMsgTTL_mem member
  rw [rewritten plain, setTTL_ttl]

/-- Each non-OPT record of a message has its rewritten copy in the result. -/
theorem mem_setMsgTTL {m : Msg} (ttl : UInt32) {rr : RR} (member : rr ∈ m.records)
    (plain : rr.isOPT = false) : rr.setTTL ttl ∈ (setMsgTTL m ttl).records := by
  simp only [Msg.records, setMsgTTL, List.mem_append, List.mem_map] at member ⊢
  rcases member with (inside | inside) | inside
  · exact Or.inl (Or.inl ⟨rr, inside, rfl⟩)
  · exact Or.inl (Or.inr ⟨rr, inside, rfl⟩)
  · exact Or.inr ⟨rr, inside, by simp [plain]⟩

/-- The TTLs that the documentation speaks of: those of the non-OPT records. -/
def plainTTLs (records : List RR) : List Nat :=
  (records.filter fun rr => !rr.isOPT).map fun rr => rr.ttl.toNat

theorem mem_plainTTLs {records : List RR} {ttl : Nat} :
    ttl ∈ plainTTLs records ↔ ∃ rr ∈ records, rr.isOPT = false ∧ rr.ttl.toNat = ttl := by
  simp only [plainTTLs, List.mem_map, List.mem_filter, Bool.not_eq_true', and_assoc]

/-- On a positive reply the loop computes a minimum, in whole seconds, that
starts from the accumulator it is given. -/
theorem minMsgTTLLoop_positive (d : Deps) (mt : ResponseType)
    (positive : mt = .noError ∨ mt = .delegation) (records : List RR) (start : Nat)
    (small : start < 2 ^ 32) :
    minMsgTTLLoop d mt records (start * second) =
      ((plainTTLs records).foldl min start : Nat) * second := by
  induction records generalizing start with
  | nil => rfl
  | cons r rest ih =>
      have bound : (start : Int) * second < 2 ^ 32 * second := by
        unfold second
        omega
      have current : (secondsU32 d.castU32 (start * second)).toNat = start := by
        have exact := secondsU32_toNat d.castU32 (by unfold second; omega) bound
        unfold second at exact ⊢
        omega
      by_cases opt : r.isOPT = true
      · have skipped : plainTTLs (r :: rest) = plainTTLs rest := by
          simp [plainTTLs, opt]
        rw [skipped, ← ih start small, minMsgTTLLoop, if_pos opt]
      · have kept : plainTTLs (r :: rest) = r.ttl.toNat :: plainTTLs rest := by
          simp [plainTTLs, opt]
        have affirmative : ¬ (mt = .nameError ∨ mt = .noData) := by
          rcases positive with rfl | rfl <;> decide
        have order : r.ttl < secondsU32 d.castU32 (start * second) ↔ r.ttl.toNat < start := by
          rw [UInt32.lt_iff_toNat_lt, current]
        rw [kept, List.foldl_cons, minMsgTTLLoop, if_neg opt, if_neg affirmative,
          if_pos positive]
        simp only [order]
        split
        · rename_i lower
          rw [ofSeconds_uint32, ih _ r.ttl.toNat_lt, Nat.min_eq_right (Nat.le_of_lt lower)]
        · rename_i higher
          rw [ih start small, Nat.min_eq_left (Nat.le_of_not_lt higher)]

/-- A positive reply with data: its smallest TTL, but never more than the hour
that the loop starts from. -/
theorem minMsgTTL_positive (d : Deps) (m : Msg) (mt : ResponseType)
    (positive : mt = .noError ∨ mt = .delegation) (data : m.answer.length + m.ns.length ≠ 0)
    (smallest : Nat) (found : (plainTTLs m.records).min? = some smallest) :
    minMsgTTL d m mt = min maxTTL (smallest * second) := by
  have known : ¬ (mt ≠ .noError ∧ mt ≠ .delegation ∧ mt ≠ .nameError ∧ mt ≠ .noData) := by
    rcases positive with rfl | rfl <;> simp
  have loop := minMsgTTLLoop_positive d mt positive m.records 3600 (by decide)
  rw [List.foldl_min, found, Option.getD_some] at loop
  rw [minMsgTTL, if_neg known, if_neg data, show maxTTL = (3600 : Nat) * second from rfl, loop]
  unfold second
  omega

/-- The MINIMUM of the first SOA record. -/
def soaMinimum (records : List RR) : Option Nat :=
  records.findSome? fun rr =>
    if soa : rr.rrtype = typeSOA then some (rr.minttl soa).toNat else none

theorem soaMinimum_lt {records : List RR} {minimum : Nat}
    (found : soaMinimum records = some minimum) : minimum < 2 ^ 32 := by
  obtain ⟨rr, _, value⟩ := List.exists_of_findSome?_eq_some found
  split at value
  · cases value
    exact UInt32.toNat_lt _
  · cases value

theorem soa_of_soaMinimum {records : List RR} {minimum : Nat}
    (found : soaMinimum records = some minimum) : ∃ rr ∈ records, rr.rrtype = typeSOA := by
  obtain ⟨rr, member, value⟩ := List.exists_of_findSome?_eq_some found
  split at value
  · rename_i soa
    exact ⟨rr, member, soa⟩
  · cases value

/-- A denial takes the MINIMUM of its first SOA and looks at no TTL. -/
theorem minMsgTTLLoop_denial (d : Deps) (mt : ResponseType)
    (denial : mt = .nameError ∨ mt = .noData) (records : List RR) (start : Nat) :
    minMsgTTLLoop d mt records (start * second) =
      ((soaMinimum records).getD start : Nat) * second := by
  induction records with
  | nil => rfl
  | cons r rest ih =>
      by_cases soa : r.rrtype = typeSOA
      · have plain : r.isOPT = false := by rw [RR.isOPT, soa]; rfl
        have first : soaMinimum (r :: rest) = some (r.minttl soa).toNat := by
          simp only [soaMinimum, List.findSome?_cons, soa, ↓reduceDIte]
        rw [minMsgTTLLoop, plain, if_neg (by decide), if_pos denial, dif_pos soa,
          ofSeconds_uint32, first, Option.getD_some]
      · have later : soaMinimum (r :: rest) = soaMinimum rest := by
          simp only [soaMinimum, List.findSome?_cons, soa, ↓reduceDIte]
        rw [minMsgTTLLoop, if_pos denial, dif_neg soa, ih, ite_self, later]

/-- The seconds a denial is worth: the MINIMUM of the first SOA in any section, an hour
where there is none, and five seconds where the first two sections are empty. -/
def denialSeconds (m : Msg) : Nat :=
  if m.answer.length + m.ns.length = 0 then 5 else (soaMinimum m.records).getD 3600

theorem minMsgTTL_denial (d : Deps) (m : Msg) {mt : ResponseType}
    (denial : mt = .nameError ∨ mt = .noData) : minMsgTTL d m mt = denialSeconds m * second := by
  have known : ¬ (mt ≠ .noError ∧ mt ≠ .delegation ∧ mt ≠ .nameError ∧ mt ≠ .noData) := by
    rcases denial with rfl | rfl <;> simp
  rw [minMsgTTL, if_neg known, denialSeconds]
  split
  · rfl
  · exact minMsgTTLLoop_denial d mt denial m.records 3600

theorem minMsgTTL_other (d : Deps) (m : Msg) {mt : ResponseType}
    (other : mt ≠ .noError ∧ mt ≠ .delegation ∧ mt ≠ .nameError ∧ mt ≠ .noData) :
    minMsgTTL d m mt = 0 :=
  if_pos other

/-- The products `time.Duration(ttl) * time.Second` that the loop forms, in order and as
integers that do not wrap. -/
def minMsgTTLProducts (d : Deps) (mt : ResponseType) : List RR → Int → List Int
  | [], _ => []
  | r :: rest, minTTL =>
      if r.isOPT then minMsgTTLProducts d mt rest minTTL
      else if mt = .nameError ∨ mt = .noData then
        if soa : r.rrtype = typeSOA then [(r.minttl soa).toNat * second]
        else minMsgTTLProducts d mt rest minTTL
      else if mt = .noError ∨ mt = .delegation then
        if r.ttl < secondsU32 d.castU32 minTTL then
          r.ttl.toNat * second :: minMsgTTLProducts d mt rest (ofSeconds r.ttl.toNat)
        else minMsgTTLProducts d mt rest minTTL
      else minMsgTTLProducts d mt rest minTTL

/-- Every product is one of a 32-bit number of seconds. -/
theorem mem_minMsgTTLProducts {d : Deps} {mt : ResponseType} {records : List RR} {start p : Int}
    (member : p ∈ minMsgTTLProducts d mt records start) :
    ∃ seconds : UInt32, p = seconds.toNat * second := by
  induction records generalizing start with
  | nil => cases member
  | cons r rest ih =>
      rw [minMsgTTLProducts] at member
      split at member
      · exact ih member
      · split at member
        · split at member
          · exact ⟨_, List.mem_singleton.mp member⟩
          · exact ih member
        · split at member
          · split at member
            · rcases List.mem_cons.mp member with same | later
              · exact ⟨_, same⟩
              · exact ih later
            · exact ih member
          · exact ih member

/-- The loop ends with the last product that it formed, so that none has wrapped. -/
theorem minMsgTTLLoop_eq_last (d : Deps) (mt : ResponseType) (records : List RR) (start : Int) :
    minMsgTTLLoop d mt records start = (minMsgTTLProducts d mt records start).getLastD start := by
  induction records generalizing start with
  | nil => rfl
  | cons r rest ih =>
      rw [minMsgTTLLoop, minMsgTTLProducts]
      split
      · exact ih start
      · split
        · split
          · exact ofSeconds_uint32 _
          · exact ih start
        · split
          · split
            · rw [List.getLastD_cons, ih, ofSeconds_uint32]
            · exact ih start
          · exact ih start

/-- The TTL of a message is a 32-bit number of seconds. -/
theorem minMsgTTL_seconds (d : Deps) (m : Msg) (mt : ResponseType) :
    ∃ seconds : UInt32, minMsgTTL d m mt = seconds.toNat * second := by
  unfold minMsgTTL
  split
  · exact ⟨0, rfl⟩
  · split
    · exact ⟨5, rfl⟩
    · rw [minMsgTTLLoop_eq_last]
      cases formed : minMsgTTLProducts d mt m.records maxTTL with
      | nil => exact ⟨3600, rfl⟩
      | cons first rest =>
          apply mem_minMsgTTLProducts
          rw [formed, List.getLastD_eq_getLast?, List.getLast?_eq_some_getLast (List.cons_ne_nil _ _)]
          exact List.getLast_mem _

end RedisCache
