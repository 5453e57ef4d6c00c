import Nebula.ControlPlane.AccountSteps
import Nebula.Lifecycle.InFlight

/-!
# Keys and the rows they stand for

A new operation gets a key that was never used. While an operation is in flight its row is
there and keeps its credential: the one thing that changes a credential is a reconnect under a
new key, and it opens an operation of its own, which the index forbids beside the other.
-/

namespace Nebula.Lifecycle

open Schema Store ControlPlane List

structure Keyed (state : State) : Prop where
  profileIds : (state.tables.profiles.map Profile.id).Nodup
  connects : ∀ entry ∈ state.tasks, ∀ connect, entry.2.connect = some connect →
    (state.tables.profile connect.profile.id).map Profile.agentCode = some connect.profile.agentCode
  checks : ChecksPlaced state
  keys : ∀ operation ∈ state.tables.operations, operation.idempotencyKey < state.nextUuid
  placed : ∀ operation ∈ state.tables.operations, operation.state.inflight = true →
    ∃ row ∈ state.tables.rows,
      RowOf operation.targetKind operation.targetId operation.serverId row

section

variable {state next : State} {event : Event}

theorem added_key {rows : List Row} {operation : Operation}
    (added : OperationAdded state event rows operation) :
    state.nextUuid ≤ operation.idempotencyKey ∧
      operation.idempotencyKey < state.nextUuid + uuidsPerStep := by
  have drawn : ∀ offset, offset < uuidsPerStep → state.nextUuid ≤ state.nextUuid + offset ∧
      state.nextUuid + offset < state.nextUuid + uuidsPerStep := by
    intro offset small
    exact ⟨Nat.le_add_right _ _, Nat.add_lt_add_left small _⟩
  cases added with
  | reconnecting | disconnecting | repairing => exact drawn 1 (by decide)
  | connecting => exact drawn 3 (by decide)

section

variable (taken : step state event = some next)
include taken

theorem step_keys (keyed : Keyed state)
    (operation : Operation) (member : operation ∈ next.tables.operations) :
    operation.idempotencyKey < next.nextUuid := by
  rw [step_nextUuid state taken]
  obtain ⟨change, added, operations, changes, inserted, _⟩ := step_operations taken
  rw [operations] at member
  rcases mem_append.mp member with kept | new
  · obtain ⟨old, oldMember, written⟩ := mem_map.mp kept
    have changed := changes old oldMember
    rw [written] at changed
    have same : operation.idempotencyKey = old.idempotencyKey := by
      cases changed <;> rfl
    rw [same]
    exact Nat.lt_add_right _ (keyed.keys old oldMember)
  · exact (added_key (inserted operation new)).2

theorem step_placed (keyed : Keyed state)
    (operation : Operation) (member : operation ∈ next.tables.operations)
    (inflight : operation.state.inflight = true) :
    ∃ row ∈ next.tables.rows,
      RowOf operation.targetKind operation.targetId operation.serverId row := by
  obtain ⟨change, added, rows, changes, _⟩ := step_rows taken
  rcases operations_inflight (step_operations taken) member inflight with
    ⟨old, oldMember, sameState, sameKind, sameTarget, sameServer, _⟩ | added
  · obtain ⟨row, rowMember, named⟩ := keyed.placed old oldMember (by rw [sameState]; exact inflight)
    refine ⟨change row, ?_, ?_⟩
    · rw [rows]
      exact mem_append_left _ (mem_map_of_mem rowMember)
    · rw [← sameKind, ← sameTarget, ← sameServer]
      exact named.change state event (changes row rowMember)
  · obtain ⟨_, row, rowMember, named, _⟩ := added_placed state keyed.checks added
    exact ⟨row, rowMember, named⟩

theorem step_profileIds (distinct : (state.tables.profiles.map Profile.id).Nodup) :
    (next.tables.profiles.map Profile.id).Nodup := by
  obtain ⟨write, profiles, switched⟩ := (step_topology taken).profiles
  have same : next.tables.profiles.map Profile.id = state.tables.profiles.map Profile.id := by
    rw [profiles, map_map]
    refine map_congr_left ?_
    intro profile _
    obtain ⟨final, written⟩ := switched profile
    simp [written]
  rw [same]
  exact distinct

theorem step_connects (keyed : Keyed state)
    (entry : TaskId × Task) (member : entry ∈ next.tasks) (connect : Connect)
    (connects : entry.2.connect = some connect) :
    (next.tables.profile connect.profile.id).map Profile.agentCode =
      some connect.profile.agentCode := by
  rw [step_agentCode taken]
  rcases step_tasks taken member with ⟨old, _⟩ | start
  · exact keyed.connects entry old connect connects
  generalize entry.2 = task at start connects
  cases start with
  | connectChecked request allowed now _ _ accepted =>
    cases connects
    have known := connectChecks_profile accepted
    have looked := lookup_of_mem_nodup _ keyed.profileIds known
    simp [Tables.profile, looked]
  | connectAllocated _ address _ found =>
    cases connects
    exact keyed.connects _ (task_mem found) connect rfl
  | resumed received old _ _ _ resumes => cases resumes <;> cases connects
  | _ => cases connects

end

variable (state next)

def OpenedFor (row : Row) : Prop :=
  ∃ operation ∈ next.tables.operations, operation.state.inflight = true ∧
    state.nextUuid ≤ operation.idempotencyKey ∧ operation.serverId = row.serverId ∧
    operation.targetKind = row.kind ∧ operation.targetId = row.id

variable {state next}

theorem step_rekeyed (taken : step state event = some next) {old new : Row}
    (oldMember : old ∈ state.tables.rows) (newMember : new ∈ next.tables.rows)
    (same : new.id = old.id) :
    (new.runtime = old.runtime ∧ new.profileId = old.profileId) ∨ OpenedFor state next old := by
  have unwritten : new ∈ state.tables.rows →
      (new.runtime = old.runtime ∧ new.profileId = old.profileId) ∨ OpenedFor state next old := by
    intro present
    rw [row_unique new old present oldMember same]
    exact Or.inl ⟨rfl, rfl⟩
  cases step_rowChange taken oldMember newMember same with
  | kept | marked => exact Or.inl ⟨rfl, rfl⟩
  | recovered _ now _ observed =>
    have sameRow := recoveredRow_same observed now old
    exact Or.inl ⟨sameRow.runtime, sameRow.profileId⟩
  | finalized _ _ _ sameRow => exact Or.inl ⟨sameRow.runtime, sameRow.profileId⟩
  | reconnected task connect _ happened =>
    subst happened
    obtain ⟨planned, success, committed | aborted⟩ := step_cases taken
    swap
    · rw [aborted.tables] at newMember
      exact unwritten newMember
    rw [committed.tables] at newMember
    cases connectLookup_cases success with
    | ended | allocated => exact unwritten newMember
    | reconnected other row _ operation _ member _ _ _ server _ _ opened =>
      obtain ⟨read, present, written⟩ := mem_map.mp newMember
      split at written
      swap
      · subst written
        exact unwritten present
      rename_i own
      have one : read = row := row_unique read row present member (by simpa using own)
      have target : row = old := by
        refine row_unique row old member oldMember ?_
        rw [← same, ← written, reconnectedRow_identity.id, one]
      have added : operation ∈ next.tables.operations := by
        rw [committed.tables]
        exact mem_append_right _ mem_cons_self
      subst opened
      refine Or.inr ⟨_, added, rfl, Nat.le_add_right _ _, ?_, ?_, ?_⟩
      · exact server.symm.trans (by rw [target])
      · rw [target]
        rfl
      · rw [target]
        rfl

theorem step_keyed (taken : step state event = some next) (keyed : Keyed state) : Keyed next where
  profileIds := step_profileIds taken keyed.profileIds
  connects := step_connects taken keyed
  checks := step_checksPlaced taken keyed.checks
  keys := step_keys taken keyed
  placed := step_placed taken keyed

end

end Nebula.Lifecycle
