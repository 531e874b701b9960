import RedisCache.HostPort
import RedisCache.TtlLaw

set_option autoImplicit false

/- The addresses of Redis servers, as `normalizeAddr` rewrites them. -/

namespace RedisCache

open GoText

def defaultPort : List Char := "6379".toList

/-- The host that an address names and the port, if it gives one. Without brackets and
not of the form `host:port`, an address is a host as it stands. -/
inductive Written : List Char → List Char → Option (List Char) → Prop
  | host {s : List Char} (name : Unbracketed s) (alone : ∀ host port, ¬ HostPort s host port) :
      Written s s none
  | bracketed {host : List Char} (name : Unbracketed host) : Written ('[' :: host ++ [']']) host none
  | hostPort {s host port : List Char} (parts : HostPort s host port) (given : port ≠ []) :
      Written s host (some port)
  | emptyPort {s host : List Char} (parts : HostPort s host []) : Written s host none

/-- A normalised address that can be dialled: it splits into the host and the port that
were written, and normalising it again changes nothing. -/
structure Dialable (std : Std) (addr result : String) : Prop where
  splits : ∃ host port given, splitHostPort result.toList = .ok (host, port) ∧ host ≠ [] ∧
    port ≠ [] ∧ Written addr.toList host given ∧ port = given.getD defaultPort
  stable : normalizeAddr std result = .ok result

theorem plain_defaultPort : Plain defaultPort := by decide

theorem normalizeAddr_of_split {std : Std} {addr : String} {host port : List Char}
    (split : splitHostPort addr.toList = .ok (host, port)) (named : host ≠ []) :
    normalizeAddr std addr = .ok (String.ofList
      (joinHostPort host (if port = [] then defaultPort else port))) := by
  rw [normalizeAddr, split]
  dsimp only
  rw [if_neg named]
  split
  · rfl
  · rfl

/-- The two ways to a result: an address that splits, and one that is taken for a host. -/
theorem normalizeAddr_cases {std : Std} {addr result : String}
    (normalized : normalizeAddr std addr = .ok result) :
    (∃ host port, splitHostPort addr.toList = .ok (host, port) ∧ host ≠ [] ∧
      result = String.ofList (joinHostPort host (if port = [] then defaultPort else port))) ∨
    ((∀ parts, splitHostPort addr.toList ≠ .ok parts) ∧
      result = String.ofList (joinHostPort addr.toList defaultPort)) := by
  cases split : splitHostPort addr.toList with
  | error why =>
      rw [normalizeAddr, split] at normalized
      dsimp only at normalized
      split at normalized
      · cases normalized
      · cases normalized
        refine Or.inr ⟨?_, rfl⟩
        intro parts accepted
        cases accepted
  | ok parts =>
      obtain ⟨host, port⟩ := parts
      by_cases named : host = []
      · rw [normalizeAddr, split] at normalized
        dsimp only at normalized
        rw [if_pos named] at normalized
        cases normalized
      · rw [normalizeAddr_of_split split named] at normalized
        cases normalized
        exact Or.inl ⟨host, port, rfl, named, rfl⟩

section Joined

variable {std : Std} {host port : List Char}

theorem splitHostPort_joined (name : Unbracketed host) (number : Plain port) :
    splitHostPort (String.ofList (joinHostPort host port)).toList = .ok (host, port) := by
  rw [String.toList_ofList]
  exact splitHostPort_ok_iff.mpr (hostPort_joinHostPort name number)

theorem normalizeAddr_joined (name : Unbracketed host) (number : Plain port) (named : host ≠ [])
    (given : port ≠ []) :
    normalizeAddr std (String.ofList (joinHostPort host port)) =
      .ok (String.ofList (joinHostPort host port)) := by
  rw [normalizeAddr_of_split (splitHostPort_joined name number) named, if_neg given]

end Joined

/-- An address that splits is normalised to its own host and port. -/
theorem dialable_of_split {std : Std} {addr : String} {host port : List Char}
    (split : splitHostPort addr.toList = .ok (host, port)) (named : host ≠ []) :
    Dialable std addr (String.ofList
      (joinHostPort host (if port = [] then defaultPort else port))) := by
  have parts := splitHostPort_ok_iff.mp split
  by_cases empty : port = []
  · subst empty
    rw [if_pos rfl]
    exact
      { splits := ⟨host, defaultPort, none,
          splitHostPort_joined parts.unbracketed plain_defaultPort, named, by decide,
          .emptyPort parts, rfl⟩
        stable := normalizeAddr_joined parts.unbracketed plain_defaultPort named (by decide) }
  · rw [if_neg empty]
    exact
      { splits := ⟨host, port, some port, splitHostPort_joined parts.unbracketed parts.number,
          named, empty, .hostPort parts empty, rfl⟩
        stable := normalizeAddr_joined parts.unbracketed parts.number named empty }

/-- A host that brings its brackets along splits, but into another address. -/
theorem normalizeAddr_bracketed {std : Std} {host : List Char} (name : Unbracketed host)
    (named : host ≠ []) (single : ':' ∉ host) :
    normalizeAddr std (String.ofList (joinHostPort ('[' :: host ++ [']']) defaultPort)) ≠
      .ok (String.ofList (joinHostPort ('[' :: host ++ [']']) defaultPort)) := by
  have joined : joinHostPort ('[' :: host ++ [']']) defaultPort =
      '[' :: host ++ ']' :: ':' :: defaultPort := by
    rw [joinHostPort, if_neg (by simpa using single)]
    simp
  have split : splitHostPort (String.ofList ('[' :: host ++ ']' :: ':' :: defaultPort)).toList =
      .ok (host, defaultPort) := by
    rw [String.toList_ofList]
    exact splitHostPort_of_bracketed name plain_defaultPort
  rw [joined, normalizeAddr_of_split split named, if_neg (by decide), joinHostPort,
    if_neg (by simpa using single)]
  intro same
  have texts := congrArg String.toList (Except.ok.inj same)
  rw [String.toList_ofList, String.toList_ofList] at texts
  have lengths := congrArg List.length texts
  simp only [List.cons_append, List.length_append, List.length_cons] at lengths
  omega

/-- A result of `normalizeAddr` can be dialled exactly if the address splits, or is a
non-empty host without brackets. -/
theorem dialable_iff {std : Std} {addr result : String}
    (normalized : normalizeAddr std addr = .ok result) :
    Dialable std addr result ↔
      (∃ parts, splitHostPort addr.toList = .ok parts) ∨
        (addr ≠ "" ∧ Unbracketed addr.toList) := by
  rcases normalizeAddr_cases normalized with ⟨host, port, split, named, rfl⟩ | ⟨unsplit, rfl⟩
  · constructor
    · intro _
      exact Or.inl ⟨_, split⟩
    · intro _
      exact dialable_of_split split named
  · constructor
    · intro dialable
      obtain ⟨host, port, _, split, named, _⟩ := dialable.splits
      rw [String.toList_ofList] at split
      obtain ⟨_, ⟨name, rfl⟩ | ⟨single, bracketed⟩⟩ :=
        hostPort_of_join plain_defaultPort (splitHostPort_ok_iff.mp split)
      · refine Or.inr ⟨?_, name⟩
        rintro rfl
        exact named rfl
      · have stable := dialable.stable
        rw [bracketed] at stable single
        have name := (splitHostPort_ok_iff.mp split).unbracketed
        exact absurd stable (normalizeAddr_bracketed name named (by simpa using single))
    · rintro (⟨parts, split⟩ | ⟨nonempty, name⟩)
      · exact absurd split (unsplit parts)
      · have named : addr.toList ≠ [] := by simpa using nonempty
        have alone : ∀ host port, ¬ HostPort addr.toList host port :=
          fun host port parts => unsplit _ (splitHostPort_ok_iff.mpr parts)
        exact
          { splits := ⟨addr.toList, defaultPort, none,
              splitHostPort_joined name plain_defaultPort, named, by decide, .host name alone, rfl⟩
            stable := normalizeAddr_joined name plain_defaultPort named (by decide) }

/-- The configuration `endpoint [::1]`. -/
def loopbackConfig : Redis := { Redis.new with addr := "[[::1]]:6379", endpointSet := true }

/-- A bracketed IPv6 address without a port is accepted and turned into a text that is
no address. -/
theorem loopback_not_dialable :
    normalizeAddr plainStd "[::1]" = .ok "[[::1]]:6379" ∧
      parse plainStd (some ⟨["."], [], [.endpoint ["[::1]"]], false⟩) =
        .ok (.ok (some loopbackConfig)) ∧
      splitHostPort "[[::1]]:6379".toList = .error missingPort ∧
      ¬ Dialable plainStd "[::1]" "[[::1]]:6379" := by
  have refused : splitHostPort "[[::1]]:6379".toList = .error missingPort := by decide +kernel
  refine ⟨by decide +kernel, by decide +kernel, refused, ?_⟩
  intro dialable
  obtain ⟨host, port, _, split, _⟩ := dialable.splits
  rw [refused] at split
  cases split

theorem redisHost_dialable :
    normalizeAddr plainStd "redis" = .ok "redis:6379" ∧
      Dialable plainStd "redis" "redis:6379" := by
  have normalized : normalizeAddr plainStd "redis" = .ok "redis:6379" := by decide +kernel
  exact ⟨normalized, (dialable_iff normalized).mpr (Or.inr ⟨by decide, by decide⟩)⟩

end RedisCache
