import RedisCache.GoText

set_option autoImplicit false

/- The addresses that `net.SplitHostPort` accepts, and what `net.JoinHostPort` makes
of their parts. -/

namespace GoText

section Index

variable {c : Char} {s front tail : List Char} {i : Nat}

theorem findIdx?_eq_none : s.findIdx? (· == c) = none ↔ c ∉ s := by
  rw [List.findIdx?_eq_none_iff]
  constructor
  · intro absent member
    simpa using absent c member
  · intro absent x member
    exact beq_eq_false_iff_ne.mpr fun same => absent (same ▸ member)

theorem findIdx?_append_cons (fresh : c ∉ front) :
    (front ++ c :: tail).findIdx? (· == c) = some front.length := by
  rw [List.findIdx?_append, findIdx?_eq_none.mpr fresh, List.findIdx?_cons]
  simp

theorem findIdx?_split (found : s.findIdx? (· == c) = some i) :
    ∃ front tail, s = front ++ c :: tail ∧ front.length = i ∧ c ∉ front := by
  have member : c ∈ s := by
    by_contra absent
    rw [findIdx?_eq_none.mpr absent] at found
    cases found
  obtain ⟨front, tail, rfl, fresh⟩ := List.eq_append_cons_of_mem member
  rw [findIdx?_append_cons fresh] at found
  exact ⟨front, tail, rfl, Option.some.inj found, fresh⟩

theorem lastIndexOf_append_cons (fresh : c ∉ tail) :
    lastIndexOf c (front ++ c :: tail) = some front.length := by
  have reversed : (front ++ c :: tail).reverse = tail.reverse ++ c :: front.reverse := by simp
  rw [lastIndexOf, reversed, findIdx?_append_cons (by simpa using fresh)]
  simp only [Option.map_some, List.length_append, List.length_cons, List.length_reverse,
    Option.some.injEq]
  omega

theorem lastIndexOf_split (found : lastIndexOf c s = some i) :
    ∃ front tail, s = front ++ c :: tail ∧ front.length = i ∧ c ∉ tail := by
  obtain ⟨j, index, _⟩ := Option.map_eq_some_iff.mp found
  obtain ⟨back, ahead, split, _, fresh⟩ := findIdx?_split index
  have whole : s = ahead.reverse ++ c :: back.reverse := by
    rw [← List.reverse_reverse s, split]
    simp
  have absent : c ∉ back.reverse := by simpa using fresh
  rw [whole, lastIndexOf_append_cons absent] at found
  exact ⟨ahead.reverse, back.reverse, whole, Option.some.inj found, absent⟩

/-- The last occurrence of a character splits a text in one way. -/
theorem append_cons_inj {left right : List Char} (fresh : c ∉ tail) (absent : c ∉ right)
    (same : front ++ c :: tail = left ++ c :: right) : front = left ∧ tail = right := by
  have index : lastIndexOf c (front ++ c :: tail) = some front.length :=
    lastIndexOf_append_cons fresh
  rw [same, lastIndexOf_append_cons absent] at index
  obtain ⟨fronts, tails⟩ := List.append_inj same (Option.some.inj index).symm
  exact ⟨fronts, (List.cons.inj tails).2⟩

end Index

/-- Without brackets, as the host of an address is. -/
def Unbracketed (s : List Char) : Prop := '[' ∉ s ∧ ']' ∉ s

/-- Without colons and brackets, as the port of an address is. -/
def Plain (s : List Char) : Prop := ':' ∉ s ∧ Unbracketed s

instance (s : List Char) : Decidable (Unbracketed s) := inferInstanceAs (Decidable (_ ∧ _))

instance (s : List Char) : Decidable (Plain s) := inferInstanceAs (Decidable (_ ∧ _))

/-- An address with its host and its port, in the two forms that there are. -/
inductive HostPort : List Char → List Char → List Char → Prop
  | plain {host port : List Char} (name : Plain host) (number : Plain port) :
      HostPort (host ++ ':' :: port) host port
  | bracketed {host port : List Char} (name : Unbracketed host) (number : Plain port) :
      HostPort ('[' :: host ++ ']' :: ':' :: port) host port

section Split

variable {s host port : List Char}

theorem HostPort.unbracketed (parts : HostPort s host port) : Unbracketed host := by
  cases parts with
  | plain name number => exact name.2
  | bracketed name number => exact name

theorem HostPort.number (parts : HostPort s host port) : Plain port := by
  cases parts with
  | plain name number => exact number
  | bracketed name number => exact number

theorem splitTail_ok_iff {start : List Char} {i j k : Nat} :
    splitTail s start i j k = .ok (host, port) ↔
      '[' ∉ s.drop j ∧ ']' ∉ s.drop k ∧ host = start ∧ port = s.drop (i + 1) := by
  unfold splitTail
  split
  · rename_i opened
    have inside := List.contains_iff_mem.mp opened
    simp [inside]
  · rename_i unopened
    split
    · rename_i closed
      have inside := List.contains_iff_mem.mp closed
      simp [inside]
    · rename_i unclosed
      rw [List.contains_iff_mem] at unopened unclosed
      simp only [Except.ok.injEq, Prod.mk.injEq, unopened, unclosed, not_false_eq_true, true_and]
      exact ⟨fun same => ⟨same.1.symm, same.2.symm⟩, fun same => ⟨same.1.symm, same.2.symm⟩⟩

theorem splitHostPort_of_plain (name : Plain host) (number : Plain port) :
    splitHostPort (host ++ ':' :: port) = .ok (host, port) := by
  have first : (host ++ ':' :: port).head? ≠ some '[' := by
    cases host with
    | nil =>
        intro opened
        cases opened
    | cons c rest =>
        intro opened
        cases opened
        exact name.2.1 List.mem_cons_self
  have single : host.contains ':' = false := by simpa using name.1
  have whole : Unbracketed (host ++ ':' :: port) := by
    simp [Unbracketed, name.2.1, name.2.2, number.2.1, number.2.2]
  simp only [splitHostPort, lastIndexOf_append_cons number.1, first, ↓reduceIte,
    List.take_left, single, Bool.false_eq_true]
  rw [splitTail_ok_iff]
  refine ⟨whole.1, whole.2, rfl, ?_⟩
  simp

theorem splitHostPort_of_bracketed (name : Unbracketed host) (number : Plain port) :
    splitHostPort ('[' :: host ++ ']' :: ':' :: port) = .ok (host, port) := by
  have last : lastIndexOf ':' ('[' :: host ++ ']' :: ':' :: port) = some (host.length + 2) := by
    have split : '[' :: host ++ ']' :: ':' :: port = ('[' :: host ++ [']']) ++ ':' :: port := by
      simp
    rw [split, lastIndexOf_append_cons number.1]
    simp
  have stop : ('[' :: host ++ ']' :: ':' :: port).findIdx? (· == ']') = some (host.length + 1) :=
    findIdx?_append_cons (by simp [name.2])
  have open' : ('[' :: host ++ ']' :: ':' :: port).head? = some '[' := rfl
  simp only [splitHostPort, last, open', ↓reduceIte, stop]
  rw [if_neg (by simp), splitTail_ok_iff]
  refine ⟨?_, ?_, ?_, ?_⟩
  · simp [name.1, number.2.1]
  · simp [number.2.2]
  · simp
  · simp

/-- A first character `[` and a first `]` right before the last colon. -/
theorem brackets_around {front tail : List Char} {stop : Nat}
    (opened : (front ++ ':' :: tail).head? = some '[')
    (closed : (front ++ ':' :: tail).findIdx? (· == ']') = some stop)
    (adjacent : stop + 1 = front.length) :
    ∃ host, front = '[' :: host ++ [']'] ∧ ']' ∉ host ∧ stop = host.length + 1 := by
  obtain ⟨before, after, split, rfl, absent⟩ := findIdx?_split closed
  have aligned : front ++ ':' :: tail = (before ++ [']']) ++ after := by
    rw [split, List.append_assoc, List.singleton_append]
  have ends := (List.append_inj aligned (by simp [adjacent])).1
  subst ends
  cases before with
  | nil => cases opened
  | cons c host =>
      cases opened
      exact ⟨host, rfl, fun member => absent (List.mem_cons_of_mem _ member), rfl⟩

theorem hostPort_of_brackets {front tail : List Char} {stop : Nat} (fresh : ':' ∉ tail)
    (opened : (front ++ ':' :: tail).head? = some '[')
    (closed : (front ++ ':' :: tail).findIdx? (· == ']') = some stop)
    (adjacent : stop + 1 = front.length)
    (accepted : splitTail (front ++ ':' :: tail) (((front ++ ':' :: tail).take stop).drop 1)
      front.length 1 (stop + 1) = .ok (host, port)) :
    HostPort (front ++ ':' :: tail) host port := by
  obtain ⟨unopened, unclosed, inside, behind⟩ := splitTail_ok_iff.mp accepted
  obtain ⟨inner, rfl, absent, rfl⟩ := brackets_around opened closed adjacent
  have name : host = inner := by
    rw [inside]
    simp
  have number : port = tail := by
    rw [behind]
    simp
  subst name number
  have opening : '[' ∉ host ∧ '[' ∉ port := by simpa using unopened
  have closing : ']' ∉ port := by simpa using unclosed
  rw [List.append_assoc]
  exact .bracketed ⟨opening.1, absent⟩ ⟨fresh, opening.2, closing⟩

theorem hostPort_of_single {front tail : List Char} (fresh : ':' ∉ tail) (single : ':' ∉ front)
    (accepted : splitTail (front ++ ':' :: tail) ((front ++ ':' :: tail).take front.length)
      front.length 0 0 = .ok (host, port)) :
    HostPort (front ++ ':' :: tail) host port := by
  obtain ⟨unopened, unclosed, inside, behind⟩ := splitTail_ok_iff.mp accepted
  have name : host = front := by rw [inside, List.take_left]
  have number : port = tail := by
    rw [behind]
    simp
  subst name number
  have opening : '[' ∉ host ∧ '[' ∉ port := by simpa using unopened
  have closing : ']' ∉ host ∧ ']' ∉ port := by simpa using unclosed
  exact .plain ⟨single, opening.1, closing.1⟩ ⟨fresh, opening.2, closing.2⟩

/-- `SplitHostPort` accepts exactly the two forms. -/
theorem splitHostPort_ok_iff :
    splitHostPort s = .ok (host, port) ↔ HostPort s host port := by
  constructor
  · intro accepted
    unfold splitHostPort at accepted
    split at accepted
    · cases accepted
    · rename_i i found
      obtain ⟨front, tail, rfl, rfl, fresh⟩ := lastIndexOf_split found
      split at accepted
      · rename_i opened
        split at accepted
        · cases accepted
        · rename_i stop closed
          split at accepted
          · cases accepted
          · split at accepted
            · rename_i adjacent
              exact hostPort_of_brackets fresh opened closed adjacent accepted
            · split at accepted <;> cases accepted
      · split at accepted
        · cases accepted
        · rename_i single
          exact hostPort_of_single fresh (by simpa using single) accepted
  · intro parts
    cases parts with
    | plain name number => exact splitHostPort_of_plain name number
    | bracketed name number => exact splitHostPort_of_bracketed name number

/-- What was joined is split again, if the host has no bracket and the port is plain. -/
theorem hostPort_joinHostPort (name : Unbracketed host) (number : Plain port) :
    HostPort (joinHostPort host port) host port := by
  unfold joinHostPort
  split
  · exact .bracketed name number
  · rename_i single
    exact .plain ⟨by simpa using single, name⟩ number

/-- The only other text that can be joined to an address is one that brings brackets of
its own along. -/
theorem hostPort_of_join {text number : List Char} (plain : Plain number)
    (parts : HostPort (joinHostPort text number) host port) :
    port = number ∧ ((Unbracketed text ∧ host = text) ∨
      (':' ∉ text ∧ text = '[' :: host ++ [']'])) := by
  unfold joinHostPort at parts
  split at parts
  · generalize whole : '[' :: text ++ ']' :: ':' :: number = s at parts
    cases parts with
    | plain name digits =>
        cases host with
        | nil => cases whole
        | cons c rest =>
            have first : '[' = c := (List.cons.inj whole).1
            subst first
            exact absurd List.mem_cons_self name.2.1
    | bracketed name digits =>
        have same : ('[' :: text ++ [']']) ++ ':' :: number =
            ('[' :: host ++ [']']) ++ ':' :: port := by simpa using whole
        obtain ⟨texts, rfl⟩ := append_cons_inj plain.1 digits.1 same
        have equal : text = host := by simpa using texts
        subst equal
        exact ⟨rfl, Or.inl ⟨name, rfl⟩⟩
  · rename_i single
    have uncoloned : ':' ∉ text := by simpa using single
    generalize whole : text ++ ':' :: number = s at parts
    cases parts with
    | plain name digits =>
        obtain ⟨rfl, rfl⟩ := append_cons_inj plain.1 digits.1 whole
        exact ⟨rfl, Or.inl ⟨name.2, rfl⟩⟩
    | bracketed name digits =>
        have same : text ++ ':' :: number = ('[' :: host ++ [']']) ++ ':' :: port := by
          simpa using whole
        obtain ⟨texts, rfl⟩ := append_cons_inj plain.1 digits.1 same
        exact ⟨rfl, Or.inr ⟨uncoloned, texts⟩⟩

end Split

end GoText
