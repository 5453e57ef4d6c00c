import Nebula.ControlPlane.RowSteps

/-!
# Removal is final

A row marked `revoking` is meant to end `revoked` and stay there. Every writer of a row's state
except a finalization looks at the state it finds; a finalization writes its verdict whatever
happened meanwhile.
-/

namespace Nebula.Lifecycle

open Schema Runs ControlPlane

structure Absorbing (kept : ProvisioningState → Bool) : Prop where
  notRequested : kept .requested = false
  notApplying : kept .applying = false
  notActive : kept .active = false
  settles : kept .revoking = true → kept .revoked = true

theorem leaving_absorbing : Absorbing ProvisioningState.leaving :=
  ⟨rfl, rfl, rfl, fun _ => rfl⟩

theorem revoked_absorbing : Absorbing (· == .revoked) :=
  ⟨rfl, rfl, rfl, fun _ => rfl⟩

def finalizationKeeps (kept : ProvisioningState → Bool) (state : State) (event : Event) :
    Bool :=
  match finalizes state event with
  | none => true
  | some (id, final) =>
    match state.tables.row id with
    | none => true
    | some row => !kept row.state || kept final

variable {kept : ProvisioningState → Bool}

section

variable (absorbing : Absorbing kept)
include absorbing

theorem Absorbing.notRevocable {state : ProvisioningState}
    (revocable : state.revocable = true) : kept state = false := by
  cases state with
  | requested => exact absorbing.notRequested
  | applying => exact absorbing.notApplying
  | active => exact absorbing.notActive
  | revoking | revoked | failed => cases revocable

theorem rowChange_kept {state : State} {event : Event} {old new : Row}
    (change : RowChange state event old new) (found : state.tables.row old.id = some old)
    (keeps : finalizationKeeps kept state event = true) (inside : kept old.state = true) :
    kept new.state = true := by
  cases change with
  | kept => exact inside
  | reconnected task connect _ taken checked active =>
    rw [active, absorbing.notActive] at inside
    cases inside
  | marked now _ revocable =>
    rw [absorbing.notRevocable revocable] at inside
    cases inside
  | recovered task now check observed _ taken recovering target stuck =>
    unfold recoveredRow
    cases found : old.state with
    | applying =>
      rw [found, absorbing.notApplying] at inside
      cases inside
    | revoking =>
      rw [found] at inside
      exact absorbing.settles inside
    | requested | active | revoked | failed => simp [found, ProvisioningState.stuck] at stuck
  | finalized _ _ written same =>
    simpa [finalizationKeeps, written, found, inside] using keeps

theorem kept_between {earlier later rest : List Event}
    {start middle final : State} {id : Uuid} {row : Row}
    (meets : RunMeets step (finalizationKeeps kept · ·)
      (earlier ++ later ++ rest) start) (earlierRun : runEvents step earlier start = some middle)
    (laterRun : runEvents step later middle = some final) (found : middle.tables.row id = some row)
    (inside : kept row.state = true) :
    ∃ last, final.tables.row id = some last ∧ kept last.state = true := by
  rw [List.append_assoc] at meets
  obtain ⟨_, meetsLater⟩ := runMeets_append _ start middle earlierRun meets
  obtain ⟨meetsLater, _⟩ := runMeets_append _ middle final laterRun meetsLater
  refine runEvents_invariant
    (fun state => ∃ later, state.tables.row id = some later ∧ kept later.state = true)
    ?_ middle ⟨row, found, inside⟩ meetsLater laterRun
  intro state event next present keeps taken
  obtain ⟨current, here, held⟩ := present
  obtain ⟨changed, there, change⟩ := step_row taken here
  have named : current.id = id := (Nebula.Store.lookup_mem here).2
  have own : state.tables.row current.id = some current := by rw [named, here]
  exact ⟨changed, there, rowChange_kept absorbing change own keeps held⟩

end

variable (start : State)

def RevocationKept (events : List Event) : Prop :=
  ∀ earlier later rest middle final id row,
    events = earlier ++ later ++ rest →
    runEvents step earlier start = some middle →
    middle.tables.row id = some row → row.state = .revoking →
    runEvents step later middle = some final →
    ∃ kept, final.tables.row id = some kept ∧
      (kept.state = .revoking ∨ kept.state = .revoked)

/-- A provision that finalizes finds its row neither `revoking` nor `revoked`. -/
def NoProvisionFinalizedOnLeaving (state : State) (event : Event) : Prop :=
  finalizationKeeps ProvisioningState.leaving state event = true
  deriving Decidable

theorem revocation_kept (events : List Event)
    (meets : RunMeets step NoProvisionFinalizedOnLeaving events start) :
    RevocationKept start events := by
  intro earlier later rest middle final id row split earlierRun found revoking laterRun
  subst split
  have inside : row.state.leaving = true := by rw [revoking]; rfl
  obtain ⟨kept, present, leaving⟩ := kept_between leaving_absorbing meets earlierRun laterRun found
    inside
  exact ⟨kept, present, leaving_iff.mp leaving⟩

def orderlyRemoval : List Event :=
  peerConnected ++ [.disconnect ⟨1, 2, 30, none⟩ true 12, .answer 1 (.applied 1), .finalize 1 13]

theorem revocation_kept_orderlyRemoval :
    RunMeets step NoProvisionFinalizedOnLeaving orderlyRemoval smallStart ∧
      RevocationKept smallStart orderlyRemoval :=
  ⟨by decide +kernel, revocation_kept smallStart orderlyRemoval (by decide +kernel)⟩

/-- The device is revoked while its connect waits for the agent, which then succeeds. -/
def revokedWhileConnecting : List Event :=
  peerInserted ++ [.revokeDevice 2 11, .answer 0 (.applied 1), .finalize 0 12]

theorem revocation_lost_revokedWhileConnecting :
    ¬ RevocationKept smallStart revokedWhileConnecting := by
  intro kept
  obtain ⟨middle, final, earlierRun, ⟨row, found, revoking⟩, laterRun, ⟨last, present, active⟩⟩ :=
    runEvents_exists_between step 4 revokedWhileConnecting smallStart
      (fun state => ∃ row ∈ state.tables.row 111, row.state = .revoking)
      (fun state => ∃ row ∈ state.tables.row 111, row.state = .active)
      (by decide +kernel) (by decide +kernel)
  obtain ⟨other, there, leaving⟩ := kept _ _ [] middle final 111 row rfl earlierRun found
    revoking laterRun
  rw [present] at there
  cases there
  simp [active] at leaving

def RevokedFinal (events : List Event) : Prop :=
  ∀ earlier later rest middle final id row,
    events = earlier ++ later ++ rest →
    runEvents step earlier start = some middle →
    middle.tables.row id = some row → row.state = .revoked →
    runEvents step later middle = some final →
    ∃ kept, final.tables.row id = some kept ∧ kept.state = .revoked

/-- Only a successful removal finalizes on a row that is `revoked` already. -/
def OnlyRemovalFinalizedOnRevoked (state : State) (event : Event) : Prop :=
  finalizationKeeps (· == .revoked) state event = true
  deriving Decidable

theorem revoked_final (events : List Event)
    (meets : RunMeets step OnlyRemovalFinalizedOnRevoked events start) :
    RevokedFinal start events := by
  intro earlier later rest middle final id row split earlierRun found revoked laterRun
  subst split
  obtain ⟨kept, present, held⟩ := kept_between revoked_absorbing meets earlierRun laterRun found
    (by simpa using revoked)
  exact ⟨kept, present, by simpa using held⟩

def removedTwice : List Event :=
  peerConnected ++ [.disconnect ⟨1, 2, 30, none⟩ true 12,
    .passBegin ⟨.wireguardPeer, false, none⟩ 13, .passRead 2 50, .rowStart 3,
    .answer 3 (.observed .driftDetected none), .recover 3 14, .answer 1 (.applied 1),
    .finalize 1 15]

theorem revoked_final_removedTwice :
    RunMeets step OnlyRemovalFinalizedOnRevoked removedTwice smallStart ∧
      RevokedFinal smallStart removedTwice :=
  ⟨by decide +kernel, revoked_final smallStart removedTwice (by decide +kernel)⟩

/-- The device is revoked and its row settled while an earlier pass's repair waits; the repair then
finalizes. -/
def settledDuringRepair : List Event :=
  peerConnected ++ [.passBegin ⟨.wireguardPeer, false, none⟩ 12, .passRead 1 50, .rowStart 2,
    .answer 2 (.observed .driftDetected none), .repairBegin 2 13, .revokeDevice 2 14,
    .passBegin ⟨.wireguardPeer, true, none⟩ 15, .passRead 3 50, .rowStart 4,
    .answer 4 (.observed .driftDetected none), .recover 4 16, .answer 2 (.applied 1),
    .repairFinalize 2]

theorem revoked_revived_settledDuringRepair : ¬ RevokedFinal smallStart settledDuringRepair := by
  intro final
  obtain ⟨middle, last, earlierRun, ⟨row, found, revoked⟩, laterRun, ⟨kept, present, active⟩⟩ :=
    runEvents_exists_between step 16 settledDuringRepair smallStart
      (fun state => ∃ row ∈ state.tables.row 111, row.state = .revoked)
      (fun state => ∃ row ∈ state.tables.row 111, row.state = .active)
      (by decide +kernel) (by decide +kernel)
  obtain ⟨other, there, held⟩ := final _ _ [] middle last 111 row rfl earlierRun found revoked
    laterRun
  rw [present] at there
  cases there
  rw [active] at held
  cases held

end Nebula.Lifecycle
