import Nebula.Fleet.Removal
import Nebula.Fleet.Retries

/-!
# Rows written active on an agent's answer

A provision is confirmed by a driver that has just applied it or by a ledger that repeats its
answer. A task that writes a row `active` has received such a confirmation, of the credential
it had asked for.
-/

namespace Nebula.Fleet

open Schema ControlPlane Agent List Option

def Reply.Confirms (reply : Reply) (holding : Holding) : Prop :=
  ∃ request generation, reply.envelope.call = .operate request ∧
    request.operationKind = .provisionDevice ∧
    requestHolding reply.envelope.serverId request = holding ∧
    reply.answer = .applied generation

section

variable {world next : World}

theorem gives_confirmation {event : WorldEvent} (taken : world.step event = some next)
    {reply : Reply} (gives : Gives world next reply) {holding : Holding}
    (confirms : reply.Confirms holding) :
    world.provides event holding ∨ (holding ∈ world.promised ∧ next.agents = world.agents) := by
  obtain ⟨request, generation, call, provides, same, answer⟩ := confirms
  have silent : next.replies.Sublist world.replies → world.provides event holding ∨
      (holding ∈ world.promised ∧ next.agents = world.agents) :=
    fun fewer => absurd gives (not_gives world next fewer)
  cases step_change world taken with
  | planned planeEvent _ _ advances _ | told task answer advances _ => exact silent advances.replies
  | dropped plane agents net jobs replies _ => exact silent replies
  | delivered task readable envelope agent outcome _ _ present accepted at_agent _ handled _ =>
    cases handled with
    | goesOn phase _ _ replies => exact silent (by rw [replies])
    | answers given _ replies =>
      obtain ⟨rfl, -⟩ := cons.inj (append_cancel_left (replies.symm.trans gives.replies))
      subst answer same
      rw [call] at accepted
      obtain ⟨unchanged, replayed⟩ := accept_applied accepted
      refine Or.inr ⟨?_, ?_⟩
      · obtain ⟨entry, recorded, key, kind, target, answer⟩ := dispatchLedgered_applied replayed
        refine (mem_promised world).mpr ⟨_, retry_of_call world
          (mem_append_left _ present) call provides, ?_, rfl⟩
        exact replays_spec.mpr
          ⟨entry, recorded, key, kind.trans provides, target, generation, answer⟩
      · rw [at_agent.agents, unchanged]
        funext id
        split
        · rename_i own
          rw [own]
        · rfl
  | driven task driverEvent job agent outcome happened _ _ _ stepped at_agent _ handled _ first =>
    cases handled with
    | goesOn phase _ _ replies => exact silent (by rw [replies])
    | answers given _ replies =>
      obtain ⟨rfl, -⟩ := cons.inj (append_cancel_left (replies.symm.trans gives.replies))
      dsimp only at call answer same
      subst answer same
      refine Or.inl ⟨request, ?_, provides, rfl⟩
      rw [happened]
      simp [World.appliedBy, first, call, requestHolding, call ▸ stepped]
  | shifted serverId agent _ _ _ _ _ _ replies => exact silent (by rw [replies])

variable {settled : Uuid × Holding}

theorem activation_answered {task : Task}
    (activates : activation task = some settled) : task.answered = true := by
  cases task with
  | finalizing => rfl
  | repairFinalizing => rfl
  | _ => cases activates

theorem resumes_activation {received : AgentAnswer} {old following : Task}
    (resumes : Resumes received old following) (activates : activation following = some settled) :
    ∃ serverId request generation, old.outgoing = some (serverId, .operate request) ∧
      request.operationKind = .provisionDevice ∧ requestHolding serverId request = settled.2 ∧
      received = .applied generation := by
  cases resumes with
  | finalizing call applied verdict =>
    cases applied with
    | none => cases activates
    | some generation =>
      obtain ⟨provides, activates⟩ := ite_none_right_eq_some.mp activates
      cases activates
      exact ⟨_, _, generation, rfl, provides, rfl, verdict generation rfl⟩
  | repairFinalizing check key now succeeded applied verdict =>
    cases succeeded with
    | false => cases activates
    | true =>
      obtain ⟨generation, answer⟩ := verdict rfl
      obtain ⟨wanted, activates⟩ := ite_none_right_eq_some.mp activates
      cases activates
      refine ⟨_, _, generation, rfl, ?_, rfl, answer⟩
      simp [RowCheck.request, RowCheck.operationKind, wanted]
  | _ => cases activates

theorem step_activation {event : WorldEvent} (taken : world.step event = some next)
    {entry : TaskId × Task} (member : entry ∈ next.plane.tasks)
    (activates : activation entry.2 = some settled) :
    (entry ∈ world.plane.tasks ∧ next.evidence entry.1 = world.evidence entry.1) ∨
      ∃ reply ∈ world.replies, reply.Confirms settled.2 ∧
        next.evidence entry.1 = some reply.evidence := by
  rcases step_answered taken member
      (activation_answered activates) with
    old | ⟨received, old, resumes, source⟩
  · exact Or.inl old
  obtain ⟨serverId, request, generation, calls, provides, same, applied⟩ :=
    resumes_activation resumes activates
  rcases source with verdict | ⟨reply, present, answered, _, outgoing, evidence⟩
  · simp [applied] at verdict
  rw [calls] at outgoing
  obtain ⟨server, call⟩ := Prod.mk.inj (some.inj outgoing)
  refine Or.inr ⟨reply, present, ?_, evidence⟩
  refine ⟨request, generation, call.symm, provides, ?_, answered.symm.trans applied⟩
  rw [← server]
  exact same

end

def activatedRows (world : World) (event : WorldEvent) (next : World) : List Row :=
  match event with
  | .plane planeEvent =>
    match finalizes world.plane planeEvent with
    | some (id, .active) =>
      next.plane.tables.rows.filter fun row => row.id == id && row.state == .active
    | _ => []
  | _ => []

section

variable {state : State} {next : State} {event : Event}

theorem finalizes_activation {id : Uuid} (written : finalizes state event = some (id, .active))
    (keeps : keepsCredential state event = true) :
    ∃ entry ∈ state.tasks, event.task = some entry.1 ∧
      ∃ holding, activation entry.2 = some (id, holding) ∧
        carriesHolding state.tables id holding = true := by
  rcases finalizes_cases written with
    ⟨task, now, call, applied, happened, found, target, final⟩ |
      ⟨task, check, now, succeeded, applied, happened, found, target, final⟩
  · subst happened target
    cases kind : call.request.operationKind <;> cases applied <;>
      simp only [kind, finalState, reduceCtorEq] at final
    rename_i generation
    have activates : activation (.finalizing call (some generation)) =
        some (call.request.targetId, requestHolding call.serverId call.request) := if_pos kind
    refine ⟨_, task_mem found, rfl, _, activates, ?_⟩
    simpa [keepsCredential, found, activates] using keeps
  · subst happened target
    cases wanted : check.wantsPresent <;> cases succeeded <;>
      simp only [wanted, repairState, reduceCtorEq] at final
    have activates : activation (.repairFinalizing check now true applied) =
        some (check.snapshot.id, checkHolding check) := if_pos wanted
    refine ⟨_, task_mem found, rfl, _, activates, ?_⟩
    simpa [keepsCredential, found, activates] using keeps

theorem finalizes_holding (taken : step state event = some next) {id : Uuid}
    {final : ProvisioningState} (written : finalizes state event = some (id, final)) {row : Row}
    (member : row ∈ next.tables.rows) :
    ∃ old ∈ state.tables.rows, old.id = row.id ∧
      rowHolding next.tables row = rowHolding state.tables old := by
  have finalizing : (∃ task now, event = .finalize task now) ∨
      ∃ task, event = .repairFinalize task := by
    rcases finalizes_cases written with
      ⟨task, now, _, _, happened, _⟩ | ⟨task, _, _, _, _, happened, _⟩
    · exact Or.inl ⟨task, now, happened⟩
    · exact Or.inr ⟨task, happened⟩
  obtain ⟨change, added, rows, changes, additions, _⟩ := step_rows taken
  rcases mem_append.mp (rows ▸ member) with changed | new
  swap
  · obtain ⟨task, _, _, _, happened, _⟩ := additions row new
    simp [happened] at finalizing
  obtain ⟨old, present, same⟩ := mem_map.mp changed
  have changed := changes old present
  rw [same] at changed
  have credential : row.runtime = old.runtime ∧ row.profileId = old.profileId := by
    cases changed with
    | kept | marked => exact ⟨rfl, rfl⟩
    | recovered _ _ _ _ _ happened | reconnected _ _ _ happened => simp [happened] at finalizing
    | finalized _ _ _ sameRow => exact ⟨sameRow.runtime, sameRow.profileId⟩
  exact ⟨old, present, changed.identity.id.symm, rowHolding_step taken
    changed.identity.serverId credential.1 credential.2⟩

end

theorem activatedRows_spec {world next : World} {event : WorldEvent}
    (taken : world.step event = some next) (keeps : ∀ planeEvent, event = .plane planeEvent →
      keepsCredential world.plane planeEvent = true) {row : Row}
    (activated : row ∈ activatedRows world event next) :
    ∃ entry ∈ world.plane.tasks, world.answerBehind event = world.evidence entry.1 ∧
      ∃ id, activation entry.2 = some (id, rowHolding next.plane.tables row) := by
  unfold activatedRows at activated
  split at activated
  swap
  · cases activated
  rename_i planeEvent
  split at activated
  swap
  · cases activated
  rename_i id written
  obtain ⟨member, selected⟩ := mem_filter.mp activated
  have target : row.id = id := by
    simp only [Bool.and_eq_true, beq_iff_eq] at selected
    exact selected.1
  obtain ⟨entry, present, own, holding, activates, carries⟩ :=
    finalizes_activation written (keeps planeEvent rfl)
  have planned : ControlPlane.step world.plane planeEvent = some next.plane := by
    obtain ⟨_, taken⟩ := ite_none_left_eq_some.mp taken
    exact (advance_advances taken).1.taken
  obtain ⟨old, oldMember, same, held⟩ := finalizes_holding planned written member
  refine ⟨entry, present, by simp [World.answerBehind, own], id, ?_⟩
  rw [held, carriesHolding_spec carries oldMember (same.trans target)]
  exact activates

end Nebula.Fleet
