import RedisCache.Checked
import RedisCache.Setup

set_option autoImplicit false

/- What one directive of a block does to the configuration. -/

namespace RedisCache

open Checked

/-- The fields that the TTL bounds and the choice of topology rest on. -/
structure Settings where
  pMaxTTL : Int
  nMaxTTL : Int
  pMinTTL : Int
  nMinTTL : Int
  endpointSet : Bool
  readEndpoints : List String
  masterName : String
  clusterAddrs : List String
  readFrom : String

def Redis.settings (re : Redis) : Settings where
  pMaxTTL := re.pMaxTTL
  nMaxTTL := re.nMaxTTL
  pMinTTL := re.pMinTTL
  nMinTTL := re.nMinTTL
  endpointSet := re.endpointSet
  readEndpoints := re.readEndpoints
  masterName := re.masterName
  clusterAddrs := re.clusterAddrs
  readFrom := re.readFrom

/-- The settings behind a directive that was accepted. All directives that are not
listed leave them alone. -/
def Settings.After (std : Std) (old new : Settings) : Directive → Prop
  | .success args => ∃ bounds, parseBounds std "success" args = .ok bounds ∧
      new = { old with pMaxTTL := bounds.1, pMinTTL := bounds.2.getD old.pMinTTL }
  | .denial args => ∃ bounds, parseBounds std "denial" args = .ok bounds ∧
      new = { old with nMaxTTL := bounds.1, nMinTTL := bounds.2.getD old.nMinTTL }
  | .endpoint _ => new = { old with endpointSet := true }
  | .readEndpoint _ => ∃ addrs, addrs ≠ [] ∧
      new = { old with readEndpoints := old.readEndpoints ++ addrs }
  | .sentinel args => ∃ master rest, args = master :: rest ∧ new = { old with masterName := master }
  | .cluster _ => ∃ addrs, addrs ≠ [] ∧
      new = { old with clusterAddrs := old.clusterAddrs ++ addrs }
  | .readFrom _ => ∃ value, value ≠ "" ∧ new = { old with readFrom := value }
  | _ => new = old

section Frames

variable {std : Std} {re fresh : Redis}

theorem parseTimeout_settings {line : TimeoutWord × List String}
    (parsed : parseTimeout std re line = .ok fresh) : fresh.settings = re.settings := by
  obtain ⟨arg, _, parsed⟩ := bind_ok parsed
  obtain ⟨d, _, parsed⟩ := bind_ok parsed
  split at parsed <;> cases parsed <;> rfl

theorem parsePool_settings {line : PoolWord × List String}
    (parsed : parsePool std re line = .ok fresh) : fresh.settings = re.settings := by
  obtain ⟨arg, _, parsed⟩ := bind_ok parsed
  split at parsed
  case h_8 => cases parsed
  all_goals
    obtain ⟨value, _, rfl⟩ := map_ok parsed
    rfl

theorem parseRetries_settings {line : RetriesWord × List String}
    (parsed : parseRetries std re line = .ok fresh) : fresh.settings = re.settings := by
  obtain ⟨arg, _, parsed⟩ := bind_ok parsed
  split at parsed
  case h_4 => cases parsed
  all_goals
    obtain ⟨value, _, rfl⟩ := map_ok parsed
    rfl

theorem lines_settings {α : Type} (step : Redis → α → Parse Redis)
    (frame : ∀ before line after, step before line = .ok after → after.settings = before.settings)
    {lines : List α} (parsed : lines.foldlM step re = .ok fresh) :
    fresh.settings = re.settings :=
  foldlM_invariant step (fun state => state.settings = re.settings)
    (fun before line after same ran => (frame before line after ran).trans same)
    lines re fresh rfl parsed

theorem normalizeAll_ne_nil {wrap : String → String → ParseError} {args addrs : List String}
    (some : args ≠ []) (parsed : normalizeAll std wrap args = .ok addrs) : addrs ≠ [] := by
  cases args with
  | nil => exact absurd rfl some
  | cons first rest =>
      unfold normalizeAll at parsed
      split at parsed
      · cases parsed
      · split at parsed
        · cases parsed
        · cases parsed
          exact List.cons_ne_nil _ _

theorem parseReadFrom_settings {arg : String} (parsed : parseReadFrom std re arg = .ok fresh) :
    ∃ value, value ≠ "" ∧ fresh.settings = { re.settings with readFrom := value } := by
  unfold parseReadFrom at parsed
  split at parsed
  · rename_i known
    cases parsed
    refine ⟨arg, ?_, rfl⟩
    rintro rfl
    revert known
    decide
  · cases parsed

end Frames

/-- One case per directive. -/
theorem parseDirective_after {std : Std} {re fresh : Redis} {directive : Directive}
    (parsed : parseDirective std re directive = .ok fresh) :
    re.settings.After std fresh.settings directive := by
  cases directive with
  | success args =>
      obtain ⟨bounds, found, rfl⟩ := map_ok parsed
      exact ⟨bounds, found, rfl⟩
  | denial args =>
      obtain ⟨bounds, found, rfl⟩ := map_ok parsed
      exact ⟨bounds, found, rfl⟩
  | endpoint args =>
      simp only [parseDirective] at parsed
      split at parsed
      · cases parsed
      · split at parsed <;> cases parsed
        rfl
  | readEndpoint args =>
      simp only [parseDirective] at parsed
      split at parsed
      · cases parsed
      · rename_i given
        obtain ⟨addrs, found, rfl⟩ := map_ok parsed
        exact ⟨addrs, normalizeAll_ne_nil given found, rfl⟩
  | sentinel args =>
      simp only [parseDirective, parseSentinel] at parsed
      split at parsed
      · rename_i master first rest
        obtain ⟨addrs, _, rfl⟩ := map_ok parsed
        exact ⟨master, first :: rest, rfl, rfl⟩
      · cases parsed
  | cluster args =>
      simp only [parseDirective, parseCluster] at parsed
      split at parsed
      · cases parsed
      · rename_i given
        obtain ⟨addrs, found, rfl⟩ := map_ok parsed
        exact ⟨addrs, normalizeAll_ne_nil given found, rfl⟩
  | readFrom args =>
      obtain ⟨arg, _, parsed⟩ := bind_ok parsed
      exact parseReadFrom_settings parsed
  | timeout lines => exact lines_settings _ (fun _ _ _ => parseTimeout_settings) parsed
  | pool lines => exact lines_settings _ (fun _ _ _ => parsePool_settings) parsed
  | retries lines => exact lines_settings _ (fun _ _ _ => parseRetries_settings) parsed
  | tcpKeepalive args =>
      obtain ⟨d, _, parsed⟩ := bind_ok parsed
      cases parsed
      rfl
  | tls args =>
      simp only [parseDirective] at parsed
      split at parsed <;> cases parsed
      rfl
  | unknown word => cases parsed
  | _ args =>
      obtain ⟨value, _, rfl⟩ := map_ok parsed
      rfl

/-- What `parse` accepts went through the loop and through the checks behind it. -/
theorem parse_accepted {std : Std} {block : Block} {re : Redis}
    (parsed : parse std (some block) = .ok (.ok (some re))) :
    ∃ base zones, block.directives.foldlM (parseDirective std) Redis.new = .ok base ∧
      checkTopology base = .ok () ∧ re = { base with zones := zones } := by
  simp only [parse] at parsed
  split at parsed
  · cases parsed
  · rename_i base based
    obtain ⟨zones, _, parsed⟩ := bind_ok parsed
    obtain ⟨_, looped, based⟩ := bind_ok based
    obtain ⟨_, checked, based⟩ := bind_ok based
    obtain ⟨_, _, based⟩ := bind_ok based
    cases based
    split at parsed
    · cases parsed
    · cases parsed
      exact ⟨base, zones, looped, checked, rfl⟩

/-- The bounds that a `success` directive gives. -/
def Directive.successBounds (std : Std) : Directive → Option (Int × Option Int)
  | .success args => (parseBounds std "success" args).toOption
  | _ => none

/-- The bounds that a `denial` directive gives. -/
def Directive.denialBounds (std : Std) : Directive → Option (Int × Option Int)
  | .denial args => (parseBounds std "denial" args).toOption
  | _ => none

/-- A maximum and a minimum, overwritten by what a directive gives of them. -/
def overwrite (old : Int × Int) : Option (Int × Option Int) → Int × Int
  | none => old
  | some given => (given.1, given.2.getD old.2)

section Bounds

variable {std : Std} {old new : Settings} {directive : Directive}

theorem Settings.After.positive (after : old.After std new directive) :
    (new.pMaxTTL, new.pMinTTL) =
      overwrite (old.pMaxTTL, old.pMinTTL) (directive.successBounds std) := by
  cases directive with
  | success args =>
      obtain ⟨bounds, found, rfl⟩ := after
      rw [Directive.successBounds, found]
      rfl
  | denial args => obtain ⟨_, _, rfl⟩ := after; rfl
  | readEndpoint args => obtain ⟨_, _, rfl⟩ := after; rfl
  | sentinel args => obtain ⟨_, _, _, rfl⟩ := after; rfl
  | cluster args => obtain ⟨_, _, rfl⟩ := after; rfl
  | readFrom args => obtain ⟨_, _, rfl⟩ := after; rfl
  | _ => cases after; rfl

theorem Settings.After.negative (after : old.After std new directive) :
    (new.nMaxTTL, new.nMinTTL) =
      overwrite (old.nMaxTTL, old.nMinTTL) (directive.denialBounds std) := by
  cases directive with
  | denial args =>
      obtain ⟨bounds, found, rfl⟩ := after
      rw [Directive.denialBounds, found]
      rfl
  | success args => obtain ⟨_, _, rfl⟩ := after; rfl
  | readEndpoint args => obtain ⟨_, _, rfl⟩ := after; rfl
  | sentinel args => obtain ⟨_, _, _, rfl⟩ := after; rfl
  | cluster args => obtain ⟨_, _, rfl⟩ := after; rfl
  | readFrom args => obtain ⟨_, _, rfl⟩ := after; rfl
  | _ => cases after; rfl

end Bounds

end RedisCache
