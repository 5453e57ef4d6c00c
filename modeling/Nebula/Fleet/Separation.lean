import Nebula.Fleet.Flows

/-!
# Provisions and removals apart

Nothing in the source keeps a provision from running beside a removal of the same row or the same
key.
-/

namespace Nebula.Fleet

open Schema ControlPlane List

variable (world : World)

variable (planned : Plan)

def begunProvisions : List Flow :=
  (flowsOf .provisionDevice (plannedFlows world.plane planned)).filter fun flow =>
    flow ∉ world.provisions

def begunRemovals : List Flow :=
  (flowsOf .revokeDevice (plannedFlows world.plane planned) ++
    revokingFlows planned.tables).filter fun flow => flow ∉ world.removals

/-- No provision begins while a conflicting removal is under way, and no removal beside a provision.
-/
@[mk_iff]
structure BeginsApart : Prop where
  provisions : ∀ provision ∈ begunProvisions world planned,
    ∀ removal ∈ world.removals ++ begunRemovals world planned, ¬ provision.Conflicts removal
  removals : ∀ removal ∈ begunRemovals world planned,
    ∀ provision ∈ world.provisions, ¬ provision.Conflicts removal

instance : Decidable (BeginsApart world planned) :=
  decidable_of_iff' _ (beginsApart_iff world planned)

def keepsApart : WorldEvent → Bool
  | .plane event =>
    match plan world.plane event with
    | some planned => decide (BeginsApart world planned)
    | none => true
  | _ => true

structure Apart : Prop where
  separate : ∀ provision ∈ world.provisions, ∀ removal ∈ world.removals,
    ¬ provision.Conflicts removal
  owned : ∀ removal ∈ world.removals, ∃ row ∈ world.plane.tables.rows,
    rowFlow row = removal ∧ row.state.leaving = true
  present : ∀ provision ∈ world.provisions, ∀ row ∈ world.plane.tables.rows,
    row.id = provision.targetId → row.state.leaving = false

section

variable {world next : World} {event : Event} {final : ProvisioningState}

theorem finalizes_flow {id : Uuid} (written : finalizes world.plane event = some (id, final)) :
    ∃ entry ∈ world.plane.tasks, ∃ kind flow, event.task = some entry.1 ∧
      taskFlow entry.2 = some (kind, flow) ∧ flow.targetId = id ∧
      (final.leaving = true ↔ kind = .revokeDevice) := by
  rcases finalizes_cases written with
    ⟨task, now, call, applied, happened, found, target, wrote⟩ |
      ⟨task, check, now, succeeded, applied, happened, found, target, wrote⟩
  · subst happened wrote
    refine ⟨_, task_mem found, _, _, rfl, rfl, target, ?_⟩
    cases call.request.operationKind <;> cases applied <;> simp [finalState]
  subst happened wrote
  refine ⟨_, task_mem found, _, _, rfl, rfl, target, ?_⟩
  cases present : check.wantsPresent <;> cases succeeded <;>
    simp [RowCheck.operationKind, present, repairState]

theorem finalizes_provision (apart : Apart world) {row : Row}
    (member : row ∈ world.plane.tables.rows) (leaving : row.state.leaving = true)
    (written : finalizes world.plane event = some (row.id, final)) :
    final.leaving = true := by
  obtain ⟨entry, present, kind, flow, _, works, target, direction⟩ := finalizes_flow written
  cases kind with
  | revokeDevice => exact direction.mpr rfl
  | provisionDevice =>
    have provision := provision_of_task present works
    rw [apart.present flow provision row member target.symm] at leaving
    cases leaving

variable {old new : Row}

theorem rowChange_leaves (apart : Apart world)
    (member : old ∈ world.plane.tables.rows) (leaving : old.state.leaving = true)
    (change : RowChange world.plane event old new) :
    new.state.leaving = true ∧ new.runtime = old.runtime ∧ new.profileId = old.profileId := by
  cases change with
  | kept => exact ⟨leaving, rfl, rfl⟩
  | reconnected task connect row _ _ active =>
    rw [active] at leaving
    cases leaving
  | marked now row revocable => exact ⟨rfl, rfl, rfl⟩
  | recovered task now check observed row _ _ _ stuck =>
    cases state : old.state with
    | revoking => simp [recoveredRow, state]
    | applying => simp [state] at leaving
    | _ => simp [state, ProvisioningState.stuck] at stuck
  | finalized _ _ written same =>
    exact ⟨finalizes_provision apart member leaving written, same.runtime, same.profileId⟩

theorem rowFlow_of_change (change : RowChange world.plane event old new)
    (runtime : new.runtime = old.runtime) : rowFlow new = rowFlow old := by
  simp [rowFlow, change.identity.id, change.identity.serverId, Row.identity, runtime]

theorem advances_leaving (apart : Apart world) (advances : Advances world next event) {row : Row}
    (member : row ∈ world.plane.tables.rows) (leaving : row.state.leaving = true) :
    ∃ changed ∈ next.plane.tables.rows, rowFlow changed = rowFlow row ∧
      changed.state.leaving = true ∧ changed.kind = row.kind ∧
      changed.profileId = row.profileId := by
  obtain ⟨change, added, rows, changes, _⟩ := step_rows advances.taken
  obtain ⟨stays, runtime, profile⟩ := rowChange_leaves apart member leaving (changes row member)
  refine ⟨change row, ?_, rowFlow_of_change (changes row member) runtime, stays,
    (changes row member).identity.kind, profile⟩
  rw [rows]
  exact mem_append_left _ (mem_map_of_mem member)

theorem advances_provisions (advances : Advances world next event) {provision : Flow}
    (member : provision ∈ next.provisions) :
    provision ∈ world.provisions ∨ ∃ planned, plan world.plane event = some planned ∧
      Committed world.plane next.plane planned ∧ provision ∈ begunProvisions world planned := by
  by_cases known : provision ∈ world.provisions
  · exact Or.inl known
  rcases advances_flows advances (mem_flowsOf.mp member) with
    old | ⟨planned, success, committed, begun⟩
  · exact absurd (mem_flowsOf.mpr old) known
  · exact Or.inr ⟨planned, success, committed,
      mem_filter.mpr ⟨mem_flowsOf.mpr begun, by simpa using known⟩⟩

theorem advances_removals (advances : Advances world next event) {removal : Flow}
    (member : removal ∈ next.removals) :
    removal ∈ world.removals ∨ ∃ planned, plan world.plane event = some planned ∧
      Committed world.plane next.plane planned ∧ removal ∈ begunRemovals world planned := by
  by_cases known : removal ∈ world.removals
  · exact Or.inl known
  have begins : ∀ planned, removal ∈ flowsOf .revokeDevice (plannedFlows world.plane planned) ++
      revokingFlows planned.tables → removal ∈ begunRemovals world planned := by
    intro planned listed
    exact mem_filter.mpr ⟨listed, by simpa using known⟩
  rcases mem_removals.mp member with flow | revoking
  · rcases advances_flows advances flow with old | ⟨planned, success, committed, begun⟩
    · exact absurd (mem_removals.mpr (Or.inl old)) known
    · exact Or.inr ⟨planned, success, committed,
        begins planned (mem_append_left _ (mem_flowsOf.mpr begun))⟩
  · obtain ⟨planned, success, ended⟩ := step_cases advances.taken
    rcases ended with committed | aborted
    · rw [committed.tables] at revoking
      exact Or.inr ⟨planned, success, committed, begins planned (mem_append_right _ revoking)⟩
    · rw [aborted.tables] at revoking
      exact absurd (mem_removals.mpr (Or.inr revoking)) known

theorem advances_separate (apart : Apart world) (advances : Advances world next event)
    (begins : ∀ planned, plan world.plane event = some planned → BeginsApart world planned) :
    ∀ provision ∈ next.provisions, ∀ removal ∈ next.removals,
      ¬ provision.Conflicts removal := by
  intro provision provides removal removes
  rcases advances_removals advances removes with oldRemoval | ⟨planned, success, _, begunRemoval⟩
  · rcases advances_provisions advances provides with
      oldProvision | ⟨planned, success, _, begunProvision⟩
    · exact apart.separate provision oldProvision removal oldRemoval
    · exact (begins planned success).provisions provision begunProvision removal
        (mem_append_left _ oldRemoval)
  · rcases advances_provisions advances provides with
      oldProvision | ⟨other, otherSuccess, _, begunProvision⟩
    · exact (begins planned success).removals removal begunRemoval provision oldProvision
    rw [success] at otherSuccess
    cases otherSuccess
    exact (begins planned success).provisions provision begunProvision removal
      (mem_append_right _ begunRemoval)

variable {flow : Flow}

theorem planned_begins {planned : Plan} (success : plan world.plane event = some planned)
    {kind : OperationKind} (member : (kind, flow) ∈ plannedFlows world.plane planned) :
    (kind, flow) ∈ world.flows ∨ Begun world.plane event planned.tables kind flow := by
  obtain ⟨entry, started, works⟩ := mem_filterMap.mp member
  have start := (plan_starts success).starts entry started
  rcases start_flow event start works with ⟨old, present, same⟩ | begun
  · exact Or.inl (mem_flows.mpr (Or.inl ⟨_, present, same⟩))
  · exact Or.inr begun

theorem advances_owned (apart : Apart world) (advances : Advances world next event)
    (removal : Flow) (member : removal ∈ next.removals) :
    ∃ row ∈ next.plane.tables.rows, rowFlow row = removal ∧ row.state.leaving = true := by
  have stays : ∀ row ∈ world.plane.tables.rows, rowFlow row = removal →
      row.state.leaving = true →
      ∃ row ∈ next.plane.tables.rows, rowFlow row = removal ∧ row.state.leaving = true := by
    intro row present same leaving
    obtain ⟨changed, kept, flow, still, _⟩ := advances_leaving apart advances present leaving
    exact ⟨changed, kept, flow.trans same, still⟩
  have carried : (.revokeDevice, removal) ∈ world.flows →
      ∃ row ∈ next.plane.tables.rows, rowFlow row = removal ∧ row.state.leaving = true := by
    intro flow
    obtain ⟨row, present, same, leaving⟩ := apart.owned removal (mem_removals.mpr (Or.inl flow))
    exact stays row present same leaving
  rcases mem_removals.mp member with flow | revoking
  swap
  · obtain ⟨row, present, revoking, same⟩ := mem_revokingFlows.mp revoking
    exact ⟨row, present, same, by rw [revoking]; rfl⟩
  rcases advances_flows advances flow with old | ⟨planned, success, committed, planned'⟩
  · exact carried old
  rcases planned_begins success planned' with old | begun
  · exact carried old
  generalize kindOf : OperationKind.revokeDevice = kind at begun
  cases begun with
  | reconnecting | connecting => cases kindOf
  | disconnecting now row present _ rewritten =>
    refine ⟨revokingRow now row, ?_, rfl, rfl⟩
    rw [committed.tables, rewritten]
    exact mem_writeRow present
  | checking task batchSize row _ present _ =>
    by_cases revoking : row.state = .revoking
    · exact stays row present rfl (by rw [revoking]; rfl)
    · rw [if_neg revoking] at kindOf
      cases kindOf

theorem rowChange_revoked (change : RowChange world.plane event old new)
    (staying : old.state.leaving = false) (revoked : new.state = .revoked) :
    finalizes world.plane event = some (old.id, .revoked) := by
  cases change with
  | kept =>
    rw [revoked] at staying
    cases staying
  | reconnected task connect row =>
    unfold reconnectedRow at revoked
    split at revoked <;> cases revoked
  | marked now row revocable => cases revoked
  | recovered task now check observed row _ _ _ stuck =>
    cases state : old.state with
    | revoking =>
      rw [state] at staying
      cases staying
    | applying => simp [recoveredRow, state] at revoked
    | _ => simp [state, ProvisioningState.stuck] at stuck
  | finalized _ _ written same => rw [written, revoked]

theorem begun_row {planned : Plan} (committed : Committed world.plane next.plane planned)
    (begun : Begun world.plane event planned.tables .provisionDevice flow) {row : Row}
    (member : row ∈ next.plane.tables.rows) (target : row.id = flow.targetId) :
    row.state = .applying ∨
      ∃ old ∈ world.plane.tables.rows, old.id = row.id ∧ old.state.leaving = false ∧
        finalizes world.plane event = none := by
  have rowMember := member
  rw [committed.tables] at member
  generalize kindOf : OperationKind.provisionDevice = kind at begun
  cases begun with
  | reconnecting connect read _ rewritten =>
    rw [rewritten] at member
    obtain ⟨old, _, same⟩ := mem_map.mp member
    left
    split at same
    · rw [← same]
      unfold reconnectedRow
      split <;> rfl
    · rename_i other
      rw [← same] at target
      simp [target, rowFlow, reconnectedRow_identity.id] at other
  | connecting new applying appended =>
    have newMember : new ∈ next.plane.tables.rows := by
      rw [committed.tables, appended]
      simp
    left
    rw [row_unique row new rowMember newMember target]
    exact applying
  | disconnecting => cases kindOf
  | checking task batchSize read happened present candidate =>
    refine Or.inr ⟨read, present, target.symm, ?_, by rw [happened]; rfl⟩
    by_cases revoking : read.state = .revoking
    · rw [if_pos revoking] at kindOf
      cases kindOf
    · cases held : read.state <;>
        simp_all [ProvisioningState.candidate, ProvisioningState.leaving]

theorem advances_present (apart : Apart world) (advances : Advances world next event)
    (begins : ∀ planned, plan world.plane event = some planned → BeginsApart world planned)
    (provision : Flow) (member : provision ∈ next.provisions) (row : Row)
    (present : row ∈ next.plane.tables.rows) (target : row.id = provision.targetId) :
    row.state.leaving = false := by
  by_contra leaves
  rcases leaving_iff.mp (by simpa using leaves) with revoking | revoked
  · -- A `revoking` row is a removal, and those are apart after the step.
    have removal : rowFlow row ∈ next.removals :=
      mem_removals.mpr (Or.inr (mem_revokingFlows.mpr ⟨row, present, revoking, rfl⟩))
    exact advances_separate apart advances begins provision member _ removal (Or.inl target.symm)
  · -- A `revoked` row was finalized in this step by a task that removes it.
    obtain ⟨change, added, rows, changes, additions, _⟩ := step_rows advances.taken
    rcases mem_append.mp (rows ▸ present) with changed | new
    · obtain ⟨old, oldMember, same⟩ := mem_map.mp changed
      have oldId : old.id = row.id := by rw [← same, (changes old oldMember).identity.id]
      have change := changes old oldMember
      rw [same] at change
      rcases advances_provisions advances member with known | ⟨planned, success, committed, begun⟩
      · have staying := apart.present provision known old oldMember (oldId.trans target)
        have written := rowChange_revoked change staying revoked
        obtain ⟨entry, entryMember, kind, flow, _, works, flowTarget, direction⟩ :=
          finalizes_flow written
        rw [direction.mp rfl] at works
        have removal := removal_of_task entryMember works
        exact apart.separate provision known flow removal
          (Or.inl (target.symm.trans (oldId.symm.trans flowTarget.symm)))
      · have listed := mem_flowsOf.mp (mem_filter.mp begun).1
        have unknown := (mem_filter.mp begun).2
        rcases planned_begins success listed with known | begins
        · simp [World.provisions, mem_flowsOf, known] at unknown
        rcases begun_row committed begins present
            target with applying | ⟨read, readMember, readId, staying, unwritten⟩
        · rw [applying] at revoked
          cases revoked
        have one := row_unique read old readMember oldMember (readId.trans oldId.symm)
        rw [one] at staying
        rw [rowChange_revoked change staying revoked] at unwritten
        cases unwritten
    · obtain ⟨task, connect, address, runtime, _, _, _, created⟩ := additions row new
      rw [created] at revoked
      cases revoked

theorem advances_apart (apart : Apart world) (advances : Advances world next event)
    (begins : ∀ planned, plan world.plane event = some planned → BeginsApart world planned) :
    Apart next where
  separate := advances_separate apart advances begins
  owned := advances_owned apart advances
  present := advances_present apart advances begins

theorem answer_begins {world : World} {task : TaskId} {received : AgentAnswer} (planned : Plan)
    (success : plan world.plane (.answer task received) = some planned) :
    BeginsApart world planned := by
  have carried : ∀ kind flow, (kind, flow) ∈ plannedFlows world.plane planned →
      (kind, flow) ∈ world.flows := by
    intro kind flow member
    obtain ⟨entry, started, works⟩ := mem_filterMap.mp member
    simp only [plan, answer] at success
    split at success
    swap
    · cases success
    rename_i old found
    obtain ⟨following, resumes, same⟩ := Option.map_eq_some_iff.mp success
    subst same
    cases following with
    | none => exact (started_endTask started).elim
    | some following =>
      rw [started_next started,
        resumes_flow (resume_resumes resumes)]
        at works
      exact mem_flows.mpr (Or.inl ⟨_, task_mem found, works⟩)
  have noProvision : begunProvisions world planned = [] := by
    refine filter_eq_nil_iff.mpr ?_
    intro flow member
    have known := carried _ flow (mem_flowsOf.mp member)
    simpa [World.provisions, mem_flowsOf] using known
  have noRemoval : begunRemovals world planned = [] := by
    refine filter_eq_nil_iff.mpr ?_
    intro flow member
    have known : flow ∈ world.removals := by
      rw [mem_removals]
      rcases mem_append.mp member with begun | revoking
      · exact Or.inl (carried _ flow (mem_flowsOf.mp begun))
      · rw [answer_tables success] at revoking
        exact Or.inr revoking
    simpa using known
  constructor
  · rw [noProvision]
    intro provision member
    cases member
  · rw [noRemoval]
    intro removal member
    cases member

theorem idle_removals {worldEvent : WorldEvent} (taken : world.step worldEvent = some next)
    (plane : next.plane = world.plane) (removal : Flow) (member : removal ∈ next.removals) :
    removal ∈ world.removals := by
  rcases mem_removals.mp member with flow | revoking
  · exact mem_removals.mpr (Or.inl (idle_flows taken plane flow))
  · rw [plane] at revoking
    exact mem_removals.mpr (Or.inr revoking)

theorem step_apart {worldEvent : WorldEvent} (keeps : keepsApart world worldEvent = true)
    (taken : world.step worldEvent = some next) (apart : Apart world) : Apart next := by
  rcases step_plane taken with
    ⟨planeEvent, happened, _, advances, _⟩ | ⟨task, answer, advances, _⟩ | ⟨plane, _⟩
  · refine advances_apart apart advances ?_
    intro planned success
    simpa [happened, keepsApart, success] using keeps
  · exact advances_apart apart advances answer_begins
  have provisions : ∀ provision ∈ next.provisions, provision ∈ world.provisions :=
    fun provision member =>
      mem_flowsOf.mpr (idle_flows taken plane (mem_flowsOf.mp member))
  have removals := idle_removals taken plane
  refine ⟨?_, ?_, ?_⟩
  · intro provision provides removal removes
    exact apart.separate provision (provisions provision provides) removal
      (removals removal removes)
  · intro removal removes
    rw [plane]
    exact apart.owned removal (removals removal removes)
  · intro provision provides
    rw [plane]
    exact apart.present provision (provisions provision provides)

theorem row_of_flow {first second : Row} (firstMember : first ∈ world.plane.tables.rows)
    (secondMember : second ∈ world.plane.tables.rows) (same : rowFlow first = rowFlow second) :
    first = second :=
  row_unique first second firstMember secondMember (congrArg Flow.targetId same)

theorem begun_removal {written : Tables}
    (begun : Begun world.plane event written .revokeDevice flow) :
    ∃ row ∈ world.plane.tables.rows, rowFlow row = flow ∧
      (row.state = .active ∨ row.state = .revoking) := by
  generalize kindOf : OperationKind.revokeDevice = kind at begun
  cases begun with
  | reconnecting => cases kindOf
  | connecting => cases kindOf
  | disconnecting now row member active _ => exact ⟨row, member, rfl, Or.inl active⟩
  | checking task batchSize row _ member _ =>
    by_cases revoking : row.state = .revoking
    · exact ⟨row, member, rfl, Or.inr revoking⟩
    · rw [if_neg revoking] at kindOf
      cases kindOf

theorem rowChange_revoking (apart : Apart world)
    (member : old ∈ world.plane.tables.rows) (leaving : old.state.leaving = true)
    (change : RowChange world.plane event old new) (revoking : new.state = .revoking) :
    rowFlow old ∈ world.removals := by
  have known := removal_of_revoking member
  cases change with
  | kept => exact known revoking
  | reconnected task connect row _ _ active =>
    rw [active] at leaving
    cases leaving
  | marked now row revocable =>
    rw [revocable_not_leaving revocable] at leaving
    cases leaving
  | recovered task now check observed row _ _ _ stuck =>
    cases state : old.state with
    | revoking => exact known state
    | applying =>
      rw [state] at leaving
      cases leaving
    | _ => simp [state, ProvisioningState.stuck] at stuck
  | finalized _ _ written same =>
    rw [revoking] at written
    obtain ⟨entry, present, kind, flow, _, works, target, direction⟩ := finalizes_flow written
    rw [direction.mp rfl] at works
    have removal := removal_of_task present works
    obtain ⟨owner, ownerMember, owned, _⟩ := apart.owned flow removal
    have one : owner = old := by
      refine row_unique owner old ownerMember member ?_
      rw [← target, ← owned]
      rfl
    rw [← one, owned]
    exact removal

theorem advances_removal_known (apart : Apart world) (advances : Advances world next event)
    {removal : Flow} (member : removal ∈ next.removals) {old : Row}
    (oldMember : old ∈ world.plane.tables.rows) (target : old.id = removal.targetId)
    (leaving : old.state.leaving = true) : removal ∈ world.removals := by
  obtain ⟨change, added, rows, changes, _⟩ := step_rows advances.taken
  obtain ⟨_, runtime, _⟩ := rowChange_leaves apart oldMember leaving (changes old oldMember)
  have flow := rowFlow_of_change (changes old oldMember) runtime
  have changedMember : change old ∈ next.plane.tables.rows := by
    rw [rows]
    exact mem_append_left _ (mem_map_of_mem oldMember)
  have sameFlow : rowFlow old = removal := by
    obtain ⟨row, rowMember, same, _⟩ := advances_owned apart advances removal member
    have one : change old = row := by
      refine row_unique (change old) row changedMember rowMember ?_
      have second : (rowFlow row).targetId = removal.targetId := by rw [same]
      exact (changes old oldMember).identity.id.trans (target.trans second.symm)
    rw [← flow, one, same]
  have revokingKnown : old.state = .revoking → removal ∈ world.removals := by
    intro revoking
    rw [← sameFlow]
    exact removal_of_revoking oldMember revoking
  rcases mem_removals.mp member with nextFlow | revoking
  · rcases advances_flows advances nextFlow with known | ⟨planned, success, _, listed⟩
    · exact mem_removals.mpr (Or.inl known)
    rcases planned_begins success listed with known | begun
    · exact mem_removals.mpr (Or.inl known)
    -- What begins is a disconnect of an active row, or the check of this row.
    rcases begun_removal begun with ⟨read, readMember, readFlow, state⟩
    have one := row_of_flow readMember oldMember (readFlow.trans sameFlow.symm)
    rw [one] at state
    rcases state with active | revoking
    · rw [active] at leaving
      cases leaving
    · exact revokingKnown revoking
  · obtain ⟨after, afterMember, revoking, afterFlow⟩ := mem_revokingFlows.mp revoking
    have oneAfter : after = change old :=
      row_of_flow afterMember changedMember
        (afterFlow.trans (sameFlow.symm.trans flow.symm))
    rw [oneAfter] at revoking
    rw [← sameFlow]
    exact rowChange_revoking apart oldMember leaving (changes old oldMember) revoking

end

theorem apart_of_idle {world : World} (tasks : world.plane.tasks = [])
    (idle : world.underWay = []) : Apart world := by
  have flows : world.flows = [] := by simp [World.flows, tasks, idle]
  have provisions : world.provisions = [] := by simp [World.provisions, flowsOf, flows]
  refine ⟨?_, ?_, ?_⟩
  · intro provision member
    rw [provisions] at member
    cases member
  · intro removal member
    rcases mem_removals.mp member with flow | revoking
    · rw [flows] at flow
      cases flow
    · obtain ⟨row, present, state, same⟩ := mem_revokingFlows.mp revoking
      exact ⟨row, present, same, by rw [state]; rfl⟩
  · intro provision member
    rw [provisions] at member
    cases member

end Nebula.Fleet
