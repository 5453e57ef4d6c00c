import Nebula.Fleet.Holding
import Nebula.Lifecycle.Keys

/-!
# Retries under one key

Every provision that is under way, and every operation in flight whose key a repair may take
over, stands for one credential, and all that share a key stand for the same one.
-/

namespace Nebula.Fleet

open Schema ControlPlane Agent Lifecycle List

def rowHolding (tables : Tables) (row : Row) : Holding :=
  ⟨row.serverId, row.identity, agentProfileCode tables row⟩

def checkHolding (check : RowCheck) : Holding :=
  ⟨check.snapshot.serverId, check.snapshot.identity, check.profileCode⟩

structure Retry where
  idempotencyKey : Uuid
  targetId : Uuid
  holding : Holding

def envelopeRetry (envelope : Envelope) : Option Retry :=
  match envelope.call with
  | .operate request =>
    if request.operationKind = .provisionDevice then
      some ⟨request.idempotencyKey, request.targetId, requestHolding envelope.serverId request⟩
    else none
  | .reconcile _ _ _ _ => none

def openRetries (tables : Tables) : List Retry :=
  (tables.operations.filter fun operation => operation.state.inflight).flatMap fun operation =>
    (tables.rows.filter fun row => row.id == operation.targetId).map fun row =>
      ⟨operation.idempotencyKey, operation.targetId, rowHolding tables row⟩

def World.retries (world : World) : List Retry :=
  world.underWay.filterMap envelopeRetry ++ openRetries world.plane.tables

def AgentAnswer.isApplied : AgentAnswer → Bool
  | .applied _ => true
  | _ => false

def AgentState.replays (agent : AgentState) (retry : Retry) : Bool :=
  agent.ledger.entries.any fun entry =>
    entry.idempotencyKey == retry.idempotencyKey && entry.operationKind == .provisionDevice &&
      entry.targetId == retry.targetId && AgentAnswer.isApplied entry.answer

def World.promised (world : World) : List Holding :=
  (world.retries.filter fun retry =>
    (world.agents retry.holding.serverId).replays retry).map Retry.holding

def carriesHolding (tables : Tables) (id : Uuid) (holding : Holding) : Bool :=
  tables.rows.all fun row => row.id != id || rowHolding tables row == holding

/-- The row a task is about to write `active`, and the credential it had asked for. -/
def activation : Task → Option (Uuid × Holding)
  | .finalizing call (some _) =>
    if call.request.operationKind = .provisionDevice then
      some (call.request.targetId, requestHolding call.serverId call.request)
    else none
  | .repairFinalizing check _ true _ =>
    if check.wantsPresent then some (check.snapshot.id, checkHolding check) else none
  | _ => none

/-- A repair begins, and a provision is settled, while the row has the credential that was
read. -/
def keepsCredential (state : State) : Event → Bool
  | .repairBegin task _ =>
    match state.task task with
    | some (.repairing check) =>
      !check.wantsPresent ||
        carriesHolding state.tables check.snapshot.id (checkHolding check)
    | _ => true
  | .finalize task _ | .repairFinalize task =>
    ((state.task task).bind activation).all fun settled =>
      carriesHolding state.tables settled.1 settled.2
  | _ => true

section

variable (world : World)

variable {retry : Retry}

theorem mem_openRetries (tables : Tables) :
    retry ∈ openRetries tables ↔
      ∃ operation ∈ tables.operations, operation.state.inflight = true ∧
        ∃ row ∈ tables.rows, row.id = operation.targetId ∧
          retry = ⟨operation.idempotencyKey, operation.targetId, rowHolding tables row⟩ := by
  simp only [openRetries, mem_flatMap, mem_map, mem_filter, beq_iff_eq]
  constructor
  · rintro ⟨operation, ⟨member, inflight⟩, row, ⟨present, target⟩, same⟩
    exact ⟨operation, member, inflight, row, present, target, same.symm⟩
  · rintro ⟨operation, member, inflight, row, present, target, same⟩
    exact ⟨operation, ⟨member, inflight⟩, row, ⟨present, target⟩, same.symm⟩

theorem mem_retries :
    retry ∈ world.retries ↔
      (∃ envelope ∈ world.underWay, envelopeRetry envelope = some retry) ∨
        retry ∈ openRetries world.plane.tables := by
  simp only [World.retries, mem_append, mem_filterMap]

theorem envelopeRetry_spec {envelope : Envelope}
    (stands : envelopeRetry envelope = some retry) :
    ∃ request, envelope.call = .operate request ∧ request.operationKind = .provisionDevice ∧
      retry = ⟨request.idempotencyKey, request.targetId,
        requestHolding envelope.serverId request⟩ := by
  unfold envelopeRetry at stands
  split at stands
  · rename_i request call
    split at stands
    · rename_i provides
      cases stands
      exact ⟨request, call, provides, rfl⟩
    · cases stands
  · cases stands

theorem retry_of_call {envelope : Envelope} {request : AgentRequest}
    (underWay : envelope ∈ world.underWay) (call : envelope.call = .operate request)
    (provides : request.operationKind = .provisionDevice) :
    ⟨request.idempotencyKey, request.targetId, requestHolding envelope.serverId request⟩ ∈
      world.retries := by
  refine (mem_retries world).mpr (Or.inl ⟨envelope, underWay, ?_⟩)
  simp [envelopeRetry, call, provides]

theorem isApplied_spec (answer : AgentAnswer) :
    AgentAnswer.isApplied answer = true ↔ ∃ generation, answer = .applied generation := by
  cases answer <;> simp [AgentAnswer.isApplied]

theorem replays_spec {agent : AgentState} :
    agent.replays retry = true ↔
      ∃ entry ∈ agent.ledger.entries, entry.idempotencyKey = retry.idempotencyKey ∧
        entry.operationKind = .provisionDevice ∧ entry.targetId = retry.targetId ∧
        ∃ generation, entry.answer = .applied generation := by
  simp only [AgentState.replays, any_eq_true, Bool.and_eq_true, beq_iff_eq, isApplied_spec,
    and_assoc]

theorem mem_promised {holding : Holding} :
    holding ∈ world.promised ↔
      ∃ retry ∈ world.retries, (world.agents retry.holding.serverId).replays retry = true ∧
        retry.holding = holding := by
  simp [World.promised, and_assoc]

theorem carriesHolding_spec {tables : Tables} {id : Uuid} {holding : Holding} {row : Row}
    (carries : carriesHolding tables id holding = true) (member : row ∈ tables.rows)
    (target : row.id = id) : rowHolding tables row = holding := by
  simpa [target] using all_eq_true.mp carries row member

end

/-! ## Steps of the control plane -/

section

variable {state next : State} {event : Event}

theorem rowHolding_step (taken : step state event = some next) {old new : Row}
    (server : new.serverId = old.serverId) (runtime : new.runtime = old.runtime)
    (profile : new.profileId = old.profileId) :
    rowHolding next.tables new = rowHolding state.tables old := by
  have kind : new.kind = old.kind := by simp [Row.kind, runtime]
  simp [rowHolding, Row.identity, server, runtime, agentProfileCode_step taken kind profile]

theorem step_openRetries (taken : step state event = some next) (keyed : Keyed state)
    {retry : Retry} (stands : retry ∈ openRetries next.tables) :
    retry ∈ openRetries state.tables ∨ state.nextUuid ≤ retry.idempotencyKey := by
  obtain ⟨operation, member, inflight, row, present, target, written⟩ :=
    (mem_openRetries _).mp stands
  subst written
  rcases operations_inflight (step_operations taken) member inflight with
    ⟨old, oldMember, sameState, _, oldTarget, _, oldKey⟩ | added
  swap
  · exact Or.inr (added_key added).1
  have oldInflight : old.state.inflight = true := sameState ▸ inflight
  left
  obtain ⟨oldRow, oldPresent, named⟩ := keyed.placed old oldMember oldInflight
  have same : row.id = oldRow.id := by rw [target, named.id, oldTarget]
  have known : operation.idempotencyKey < state.nextUuid := by
    rw [← oldKey]
    exact keyed.keys old oldMember
  obtain ⟨runtime, profile⟩ : row.runtime = oldRow.runtime ∧ row.profileId = oldRow.profileId :=
      by
    -- While an operation in flight for it was there before the step and still is, a row keeps
    -- its credential.
    rcases step_rekeyed taken oldPresent present same with
      kept | ⟨opened, openedMember, openedInflight, fresh, server, kind, openedTarget⟩
    · exact kept
    exfalso
    obtain ⟨row, rowMember, named⟩ := step_placed taken keyed operation member inflight
    obtain ⟨other, otherMember, otherNamed⟩ :=
      step_placed taken keyed opened openedMember openedInflight
    have one : row = other := by
      refine row_unique row other rowMember otherMember ?_
      rw [named.id, otherNamed.id, target.symm, same, openedTarget]
    subst one
    have both : operation = opened := by
      apply next.database.consistent.inflight.eq_of_key member openedMember
      · exact if_pos inflight
      · rw [operationInflight, if_pos openedInflight, ← named.server, ← named.kind, ← named.id,
          otherNamed.server, otherNamed.kind, otherNamed.id]
    rw [both] at known
    exact absurd known (Nat.not_lt.mpr fresh)
  have server : row.serverId = oldRow.serverId :=
    (step_rowChange taken oldPresent present same).identity.serverId
  rw [rowHolding_step taken server runtime profile, ← oldKey, ← oldTarget]
  exact (mem_openRetries _).mpr ⟨old, oldMember, oldInflight, oldRow, oldPresent, named.id, rfl⟩

section

variable (taken : step state event = some next) (keyed : Keyed state)
include taken keyed

theorem connect_retry {connect : Connect} {row : Row} {operation : Operation}
    (opened : operation ∈ next.tables.operations) (inflight : operation.state.inflight = true)
    (written : row ∈ next.tables.rows) (target : operation.targetId = row.id)
    (server : row.serverId = operation.serverId) (kind : row.kind = connect.kind)
    (profile : connect.kind = .xrayClient → row.profileId = connect.profile.id)
    {id : TaskId} {task : Task} (found : state.task id = some task)
    (connects : task.connect = some connect) :
    ⟨operation.idempotencyKey, row.id, requestHolding operation.serverId
      (serviceCall operation row connect.profileCode).request⟩ ∈ openRetries next.tables := by
  have known : (next.tables.profile connect.profile.id).map Profile.agentCode =
      some connect.profile.agentCode := by
    rw [step_agentCode taken]
    exact keyed.connects _ (task_mem found) connect connects
  refine (mem_openRetries _).mpr ⟨operation, opened, inflight, row, written, target.symm, ?_⟩
  have code : agentProfileCode next.tables row = connect.profileCode := by
    unfold agentProfileCode Connect.profileCode
    rw [kind]
    cases served : connect.kind with
    | wireguardPeer => rfl
    | xrayClient =>
      rw [profile served]
      exact known
  simp [rowHolding, requestHolding, serviceCall, Row.identity, target, server, code]

theorem check_holding (keeps : keepsCredential state event = true) {id : TaskId} {now : Instant}
    {check : RowCheck} (happened : event = .repairBegin id now)
    (found : state.task id = some (.repairing check)) (wanted : check.wantsPresent = true) :
    ∃ row ∈ state.tables.rows, row.id = check.snapshot.id ∧
      rowHolding state.tables row = checkHolding check ∧ row ∈ next.tables.rows ∧
      rowHolding next.tables row = checkHolding check := by
  subst happened
  obtain ⟨row, member, named⟩ := keyed.checks _ (task_mem found) check rfl
  have carries : carriesHolding state.tables check.snapshot.id (checkHolding check) = true := by
    simpa [keepsCredential, found, wanted] using keeps
  have held := carriesHolding_spec carries member named.id
  have kept : next.tables.rows = state.tables.rows := by
    obtain ⟨planned, success, committed | aborted⟩ := step_cases taken
    · rw [committed.tables]
      change repairBegin state id now = some planned at success
      simp only [repairBegin, found] at success
      split at success <;> cases success <;> rfl
    · rw [aborted.tables]
  refine ⟨row, member, named.id, held, by rw [kept]; exact member, ?_⟩
  rw [rowHolding_step taken rfl rfl rfl]
  exact held

theorem start_retry (keeps : keepsCredential state event = true) {envelope : Envelope}
    {task : Task} (start : TaskStart state event next.tables envelope.task task)
    (calls : task.outgoing = some (envelope.serverId, envelope.call)) {retry : Retry}
    (stands : envelopeRetry envelope = some retry) :
    retry ∈ openRetries state.tables ∨
      (state.nextUuid ≤ retry.idempotencyKey ∧ retry ∈ openRetries next.tables) := by
  obtain ⟨request, call, provides, same⟩ := envelopeRetry_spec stands
  obtain ⟨id, serverId, _⟩ := envelope
  subst same call
  cases start with
  | reconnecting connect row operation _ found member _ kind server created inserted rewritten
      profile =>
      have written : reconnectedRow connect row ∈ next.tables.rows := by
        rw [rewritten]
        exact mem_writeRow member
      have profileKept : connect.kind = .xrayClient →
          (reconnectedRow connect row).profileId = connect.profile.id := by
        intro xray
        rw [← profile xray]
        unfold reconnectedRow
        split
        · rename_i key _
          simp [Connect.kind, key] at xray
        · rfl
      subst created
      cases calls
      refine Or.inr ⟨Nat.le_add_right _ _, ?_⟩
      exact connect_retry taken keyed inserted rfl written
        reconnectedRow_identity.id.symm
        (reconnectedRow_identity.serverId.trans server)
        (reconnectedRow_identity.kind.trans kind) profileKept found rfl
  | connecting connect address runtime row operation _ found addressed createdRow created
      inserted appended =>
      have written : row ∈ next.tables.rows := by
        rw [appended]
        exact mem_append_right _ mem_cons_self
      subst created createdRow
      cases calls
      refine Or.inr ⟨Nat.le_add_right _ _, ?_⟩
      exact connect_retry taken keyed inserted rfl written rfl rfl
        (newRuntime_kind addressed) (fun _ => rfl) found rfl
  | disconnecting _ _ _ _ operation _ _ created _ _ =>
    subst created
    cases calls
    cases provides
  | takingOver now check operation happened found running =>
    cases calls
    obtain ⟨member, _, target, runs⟩ := runningOperation_spec running
    obtain ⟨row, present, named, held, _⟩ := check_holding taken keyed keeps
      happened found
      (by simpa [RowCheck.request, RowCheck.operationKind] using provides)
    refine Or.inl ((mem_openRetries _).mpr
      ⟨operation, member, by rw [runs]; rfl, row, present, named.trans target.symm, ?_⟩)
    rw [held, target]
    rfl
  | repairing now check operation happened found created inserted =>
    subst created
    cases calls
    obtain ⟨row, _, named, _, present, held⟩ := check_holding taken keyed keeps
      happened found
      (by simpa [RowCheck.request, RowCheck.operationKind] using provides)
    refine Or.inr ⟨Nat.le_add_right _ _, (mem_openRetries _).mpr
      ⟨_, inserted, rfl, row, present, named, ?_⟩⟩
    rw [held]
    rfl
  | resumed received old _ _ _ resumes => cases resumes <;> cases calls
  | _ => cases calls

end

end

structure KeysAgree (world : World) : Prop where
  keyed : Keyed world.plane
  known : ∀ retry ∈ world.retries, retry.idempotencyKey < world.plane.nextUuid
  recorded : ∀ serverId, ∀ entry ∈ (world.agents serverId).ledger.entries,
    entry.operationKind = .provisionDevice → entry.idempotencyKey < world.plane.nextUuid
  agree : ∀ first ∈ world.retries, ∀ second ∈ world.retries,
    first.idempotencyKey = second.idempotencyKey → first.holding = second.holding

section

variable {world next : World}

theorem advances_retries {event : Event} (advances : Advances world next event)
    (keyed : Keyed world.plane) (keeps : keepsCredential world.plane event = true) {retry : Retry}
    (stands : retry ∈ next.retries) :
    retry ∈ world.retries ∨
      (world.plane.nextUuid ≤ retry.idempotencyKey ∧ retry ∈ openRetries next.plane.tables) := by
  have stays : retry ∈ openRetries world.plane.tables → retry ∈ world.retries :=
    fun before => (mem_retries world).mpr (Or.inr before)
  rcases (mem_retries next).mp stands with ⟨envelope, underWay, call⟩ | opened
  · rcases advances_underWay advances underWay with old | new
    · exact Or.inl ((mem_retries world).mpr (Or.inl ⟨envelope, old, call⟩))
    · obtain ⟨task, start, calls⟩ := advances_calls advances new
      exact (start_retry advances.taken keyed keeps start calls call).imp_left stays
  · rcases step_openRetries advances.taken keyed opened with before | fresh
    · exact Or.inl (stays before)
    · exact Or.inr ⟨fresh, opened⟩

theorem idle_retries {event : WorldEvent} (taken : world.step event = some next)
    (plane : next.plane = world.plane) {retry : Retry} (stands : retry ∈ next.retries) :
    retry ∈ world.retries := by
  rcases (mem_retries next).mp stands with ⟨envelope, underWay, call⟩ | opened
  · exact (mem_retries world).mpr (Or.inl ⟨envelope,
      step_underWay_of_plane taken plane underWay, call⟩)
  · rw [plane] at opened
    exact (mem_retries world).mpr (Or.inr opened)

theorem step_retries {event : WorldEvent} (taken : world.step event = some next)
    (keyed : Keyed world.plane) (keeps : ∀ planeEvent, event = .plane planeEvent →
      keepsCredential world.plane planeEvent = true)
    (retry : Retry) (stands : retry ∈ next.retries) :
    retry ∈ world.retries ∨
      (world.plane.nextUuid ≤ retry.idempotencyKey ∧ retry ∈ openRetries next.plane.tables) := by
  rcases step_plane taken with
    ⟨planeEvent, happened, _, advances, _⟩ | ⟨task, answer, advances, _⟩ | ⟨plane, _⟩
  · exact advances_retries advances keyed (keeps planeEvent happened) stands
  · exact advances_retries advances keyed rfl stands
  · exact Or.inl (idle_retries taken plane stands)

section

variable {event : WorldEvent} (taken : world.step event = some next) (keys : KeysAgree world)
variable (keeps : ∀ planeEvent, event = .plane planeEvent →
  keepsCredential world.plane planeEvent = true)
include taken keys keeps

theorem step_keysAgree : KeysAgree next := by
  obtain ⟨keyed, later⟩ : Keyed next.plane ∧ world.plane.nextUuid ≤ next.plane.nextUuid := by
    rcases step_advances taken with ⟨planeEvent, advances⟩ | plane
    · refine ⟨step_keyed advances.taken keys.keyed, ?_⟩
      rw [step_nextUuid world.plane advances.taken]
      exact Nat.le_add_right _ _
    · rw [plane]
      exact ⟨keys.keyed, Nat.le_refl _⟩
  have retries := step_retries taken keys.keyed keeps
  refine ⟨keyed, ?_, ?_, ?_⟩
  · intro retry stands
    rcases retries retry stands with old | ⟨_, opened⟩
    · exact Nat.lt_of_lt_of_le (keys.known retry old) later
    · obtain ⟨operation, member, _, _, _, _, written⟩ := (mem_openRetries _).mp opened
      rw [written]
      exact keyed.keys operation member
  · intro serverId entry member provides
    refine Nat.lt_of_lt_of_le ?_ later
    rcases step_ledger world next taken member with
      old | ⟨envelope, request, answer, _, call, produced, recorded⟩
    · exact keys.recorded serverId entry old provides
    · subst recorded
      exact keys.known _ (retry_of_call world produced.underWay call provides)
  · intro first firstStands second secondStands same
    -- A new key is not among the old ones, so two that are equal are both old or both new.
    rcases retries first firstStands with firstOld | ⟨firstFresh, firstOpen⟩
    · rcases retries second secondStands with secondOld | ⟨secondFresh, _⟩
      · exact keys.agree first firstOld second secondOld same
      · rw [← same] at secondFresh
        exact absurd (keys.known first firstOld) (Nat.not_lt.mpr secondFresh)
    · rcases retries second secondStands with secondOld | ⟨_, secondOpen⟩
      · rw [same] at firstFresh
        exact absurd (keys.known second secondOld) (Nat.not_lt.mpr firstFresh)
      -- Keys are unique, and so are the ids of rows.
      obtain ⟨operation, member, _, row, present, target, written⟩ :=
        (mem_openRetries _).mp firstOpen
      obtain ⟨other, otherMember, _, otherRow, otherPresent, otherTarget, otherWritten⟩ :=
        (mem_openRetries _).mp secondOpen
      subst written otherWritten
      have one : operation = other :=
        inj_on_of_nodup_map next.plane.database.consistent.idempotencyKeys member
            otherMember same
      subst one
      rw [row_unique row otherRow present otherPresent (target.trans otherTarget.symm)]

theorem step_promised {holding : Holding} (promised : holding ∈ next.promised) :
    holding ∈ world.promised ∨ world.provides event holding := by
  obtain ⟨retry, stands, replays, same⟩ := (mem_promised next).mp promised
  obtain ⟨entry, member, key, provides, target, generation, answer⟩ := replays_spec.mp replays
  have before := step_retries taken keys.keyed keeps retry stands
  rcases step_recorded world next event taken _ entry member with
    old | ⟨task, driverEvent, job, agent, request, given, happened, first, server, call, driven,
      at_agent, recorded⟩
  · rcases before with known | ⟨fresh, _⟩
    · exact Or.inl ((mem_promised world).mpr ⟨retry, known, replays_spec.mpr
        ⟨entry, old, key, provides, target, generation, answer⟩, same⟩)
    · rw [← key] at fresh
      exact absurd (keys.recorded _ entry old provides) (Nat.not_lt.mpr fresh)
  · right
    subst recorded
    subst answer
    have asked := retry_of_call world
      (underWay_of_job world job (mem_of_find?_eq_some first)) call provides
    have known := idle_retries taken at_agent.plane stands
    have one := keys.agree _ asked retry known key
    rw [server, same] at one
    subst same
    refine ⟨request, ?_, provides, one⟩
    rw [happened]
    simp [World.appliedBy, first, call, server, call ▸ driven]

end

end

end Nebula.Fleet
