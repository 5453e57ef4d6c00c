import Nebula.Fleet.Separation

/-!
# Removals settled on an agent's answer

A row is written `revoked` on the strength of one answer: a revocation that was applied, or a
probe that found the credential gone. `DriverContract` gathers what the argument needs of a
driver; the rest is the same for WireGuard and Xray.
-/

namespace Nebula.Fleet

open Schema Runs ControlPlane Agent Option

def ChecksOwned (world : World) : Prop :=
  ∀ entry ∈ world.plane.tasks, ∀ check, entry.2.rowCheck = some check →
    check.operationKind = .revokeDevice →
    ∃ row ∈ world.plane.tables.rows, rowFlow row = checkFlow check ∧
      agentProfileCode world.plane.tables row = check.profileCode

def AgentCall.isProbe : AgentCall → Bool
  | .reconcile _ _ _ _ => true
  | .operate _ => false

structure ProbesSent (world : World) : Prop where
  numbered : world.plane.Numbered
  sent : ∀ envelope,
    envelope ∈ world.underWay ∨ (∃ reply ∈ world.replies, reply.envelope = envelope) →
    AgentCall.isProbe envelope.call = true →
    envelope.task < world.plane.nextTask ∧
      ∀ check, (envelope.task, .queued check) ∉ world.plane.tasks

section

variable {world next : World} {event : Event}

theorem start_probe {state : State} {written : Tables} {envelope : Envelope} {task : Task}
    (start : TaskStart state event written envelope.task task)
    (calls : task.outgoing = some (envelope.serverId, envelope.call))
    (probe : AgentCall.isProbe envelope.call = true) :
    ∃ check, event = .rowStart envelope.task ∧ state.task envelope.task = some (.queued check) := by
  have operates : ∀ request, envelope.call ≠ .operate request := by
    intro request same
    rw [same] at probe
    cases probe
  cases start with
  | probing check happened found => exact ⟨check, happened, found⟩
  | resumed received old _ _ _ resumes => cases resumes <;> cases calls
  | reconnecting | connecting | disconnecting | takingOver | repairing =>
    exact absurd (Prod.mk.inj (some.inj calls)).2.symm (operates _)
  | _ => cases calls

theorem advances_checksOwned (apart : Apart world) (advances : Advances world next event)
    (owned : ChecksOwned world) : ChecksOwned next := by
  intro entry member check checks removes
  have stays : ∀ row ∈ world.plane.tables.rows, row.state.leaving = true →
      rowFlow row = checkFlow check →
      agentProfileCode world.plane.tables row = check.profileCode →
      ∃ row ∈ next.plane.tables.rows, rowFlow row = checkFlow check ∧
        agentProfileCode next.plane.tables row = check.profileCode := by
    intro row present leaving same code
    obtain ⟨changed, kept, flow, _, kind, profile⟩ :=
      advances_leaving apart advances present leaving
    refine ⟨changed, kept, flow.trans same, ?_⟩
    rw [← code]
    exact agentProfileCode_step advances.taken kind profile
  have carried : ∀ old, (entry.1, old) ∈ world.plane.tasks → old.rowCheck = some check →
      ∃ row ∈ next.plane.tables.rows, rowFlow row = checkFlow check ∧
        agentProfileCode next.plane.tables row = check.profileCode := by
    intro old present same
    obtain ⟨row, rowMember, flow, code⟩ := owned _ present check same removes
    have removal : checkFlow check ∈ world.removals := by
      refine removal_of_task present ?_
      rw [← removes]
      exact rowCheck_taskFlow old same
    obtain ⟨owner, ownerMember, ownerFlow, leaving⟩ := apart.owned _ removal
    have one := row_of_flow rowMember ownerMember (flow.trans ownerFlow.symm)
    exact stays row rowMember (one ▸ leaving) flow code
  rcases step_tasks advances.taken member with ⟨old, _⟩ | start
  · exact carried entry.2 old checks
  rcases start_check start checks with
    ⟨old, found, same, _⟩ | ⟨passId, batchSize, pass, row, _, _, _, present, _, same, _⟩
  · exact carried old (task_mem found) same
  subst same
  have revoking : row.state = .revoking := by
    by_contra other
    simp [RowCheck.operationKind, RowCheck.wantsPresent, rowCheck, other] at removes
  exact stays row present (by rw [revoking]; rfl) rfl rfl

theorem step_queued {state after : State} (taken : ControlPlane.step state event = some after)
    {id : TaskId} {check : RowCheck} (member : (id, .queued check) ∈ after.tasks) :
    ((id, .queued check) ∈ state.tasks ∧ event.task ≠ some id) ∨ state.nextTask ≤ id := by
  rcases step_tasks taken member with old | start
  · exact Or.inl old
  right
  generalize queued : Task.queued check = task at start
  cases start with
  | queued _ _ _ _ fresh => exact fresh
  | resumed received old _ _ _ resumes =>
    rw [← queued] at resumes
    cases resumes
  | _ => cases queued

theorem advances_probesSent (advances : Advances world next event) (probes : ProbesSent world) :
    ProbesSent next where
  numbered := step_numbered world.plane advances.taken probes.numbered
  sent := by
    have known : ∀ envelope, envelope ∈ world.underWay ∨
          (∃ reply ∈ world.replies, reply.envelope = envelope) →
        AgentCall.isProbe envelope.call = true →
        envelope.task < next.plane.nextTask ∧
          ∀ check, (envelope.task, .queued check) ∉ next.plane.tasks := by
      intro envelope old probe
      obtain ⟨below, unqueued⟩ := probes.sent envelope old probe
      refine ⟨Nat.lt_of_lt_of_le below (step_nextTask _ advances.taken), ?_⟩
      intro check queued
      rcases step_queued advances.taken queued with ⟨before, _⟩ | fresh
      · exact unqueued check before
      · exact absurd below (Nat.not_lt_of_le fresh)
    intro envelope present probe
    rcases present with underWay | ⟨reply, replied, same⟩
    swap
    · exact known envelope (Or.inr ⟨reply, advances.replies.subset replied, same⟩) probe
    rcases advances_underWay advances underWay with old | new
    · exact known envelope (Or.inl old) probe
    obtain ⟨task, start, calls⟩ := advances_calls advances new
    obtain ⟨check, happened, found⟩ := start_probe start calls probe
    have below := probes.numbered _ (task_mem found)
    refine ⟨Nat.lt_of_lt_of_le below (step_nextTask _ advances.taken), ?_⟩
    intro other queued
    rcases step_queued advances.taken queued with ⟨_, foreign⟩ | fresh
    · exact foreign (by rw [happened]; rfl)
    · exact absurd below (Nat.not_lt_of_le fresh)

theorem idle_probesSent {worldEvent : WorldEvent} (taken : world.step worldEvent = some next)
    (plane : next.plane = world.plane) (probes : ProbesSent world) : ProbesSent next where
  numbered := by
    rw [plane]
    exact probes.numbered
  sent := by
    intro envelope present probe
    rw [plane]
    refine probes.sent envelope ?_ probe
    rcases present with underWay | ⟨reply, replied, same⟩
    · exact Or.inl (step_underWay_of_plane taken plane underWay)
    rcases step_replies world next taken replied with old | ⟨_, produced, _⟩
    · exact Or.inr ⟨reply, old, same⟩
    · rw [← same]
      exact Or.inl produced.underWay

end

/-! ## What a driver promises -/

structure DriverContract where
  kind : TargetKind
  careful : World → WorldEvent → Bool
  /-- What holds between the agents' stores and the changes being made to them. -/
  tracks : World → Prop
  gone : AgentState → Identity → Prop
  absent : AgentState → Identity → Option ProfileCode → Prop
  tracks_step : ∀ world event next, careful world event = true →
    world.step event = some next → tracks world → tracks next
  gone_step : ∀ world event next serverId identity, careful world event = true →
    world.step event = some next → tracks world → identity.kind = kind →
    (∀ provision ∈ world.provisions,
      ¬ (provision.serverId = serverId ∧ provision.identity = identity)) →
    gone (world.agents serverId) identity → gone (next.agents serverId) identity
  removed : ∀ world envelope request phase event agent generation, tracks world →
    ⟨envelope, phase⟩ ∈ world.jobs → envelope.call = .operate request →
    request.operationKind = .revokeDevice → request.runtime.kind = kind →
    (world.agents envelope.serverId).drive envelope.call phase event =
      some (agent, .answers (.applied generation)) →
    gone (agent.recordCall envelope.call (.applied generation)) request.runtime.identity
  unseen : ∀ world envelope targetId generation runtime code observed agent, tracks world →
    envelope.call = .reconcile targetId generation runtime code → runtime.kind = kind →
    Produced world envelope (.observed .driftDetected observed) agent →
    absent agent runtime.identity code
  gone_absent : ∀ agent identity code, identity.kind = kind → gone agent identity →
    absent agent identity code

/-! ## What a decision rests on -/

variable (driver : DriverContract)

structure Shows (evidence : Evidence) (flow : Flow)
    (code : Option ProfileCode) : Prop where
  server : evidence.serverId = flow.serverId
  absent : driver.absent evidence.agent flow.identity code
  apart : ∀ provision ∈ evidence.provisions, ¬ provision.Conflicts flow

inductive Settling : Task → Flow → Option ProfileCode → Prop
  | finalizing (call : ServiceCall) (generation : Nat) (code : Option ProfileCode)
    (removes : call.request.operationKind = .revokeDevice) :
    Settling (.finalizing call (some generation)) (requestFlow call.serverId call.request) code
  | repairFinalizing (check : RowCheck) (now : Instant) (applied : Option Nat)
    (code : Option ProfileCode) (removes : check.operationKind = .revokeDevice) :
    Settling (.repairFinalizing check now true applied) (checkFlow check) code
  | recovering (check : RowCheck) (observed : Option Nat)
    (removes : check.operationKind = .revokeDevice) :
    Settling (.recovering check observed) (checkFlow check) check.profileCode

/-- A revocation the ledger can replay is of a row on its way out, whose credential is gone while a
removal of it is under way. -/
def LedgerTrue (world : World) (serverId : Uuid)
    (entry : LedgerEntry) : Prop :=
  (∃ row ∈ world.plane.tables.rows, row.id = entry.targetId ∧ row.state.leaving = true) ∧
    ∀ removal ∈ world.removals, removal.targetId = entry.targetId →
      removal.serverId = serverId → removal.identity.kind = driver.kind →
      driver.gone (world.agents serverId) removal.identity

structure Tracked (world : World) : Prop where
  apart : Apart world
  checks : ChecksOwned world
  probes : ProbesSent world
  tracks : driver.tracks world
  ledger : ∀ serverId, ∀ entry ∈ (world.agents serverId).ledger.entries,
    ∀ generation, entry.operationKind = .revokeDevice → entry.answer = .applied generation →
    LedgerTrue driver world serverId entry
  applied : ∀ reply ∈ world.replies, ∀ request generation code,
    reply.envelope.call = .operate request → request.operationKind = .revokeDevice →
    request.runtime.kind = driver.kind → reply.answer = .applied generation →
    Shows driver reply.evidence (requestFlow reply.envelope.serverId request) code
  drift : ∀ reply ∈ world.replies, ∀ check observed,
    (reply.envelope.task, .probing check) ∈ world.plane.tasks →
    (Task.probing check).outgoing = some (reply.envelope.serverId, reply.envelope.call) →
    check.operationKind = .revokeDevice → check.snapshot.kind = driver.kind →
    reply.answer = .observed .driftDetected observed →
    Shows driver reply.evidence (checkFlow check) check.profileCode
  decided : ∀ entry ∈ world.plane.tasks, ∀ flow code, Settling entry.2 flow code →
    flow.identity.kind = driver.kind →
    ∃ shown ∈ world.evidence entry.1, Shows driver shown flow code

/-! ## What an answer shows -/

section

variable {driver : DriverContract} {world : World} (next : World)

theorem produced_removed (tracked : Tracked driver world) {envelope : Envelope}
    {request : AgentRequest} {agent : AgentState} {generation : Nat}
    (call : envelope.call = .operate request) (removes : request.operationKind = .revokeDevice)
    (kind : request.runtime.kind = driver.kind)
    (produced : Produced world envelope (.applied generation) agent) :
    driver.gone agent request.runtime.identity := by
  have removal := removal_of_call produced.underWay call removes
  cases produced with
  | delivered readable _ member accepted =>
    rw [call] at accepted
    obtain ⟨same, replayed⟩ := accept_applied accepted
    obtain ⟨entry, recorded, _, entryKind, target, answer⟩ := dispatchLedgered_applied replayed
    rw [same]
    exact (tracked.ledger envelope.serverId entry recorded generation
      (entryKind.trans removes) answer).2 _ removal target.symm rfl
      ((Runtime.identity_kind).trans kind)
  | driven phase driverEvent stepped member drives =>
    exact driver.removed world envelope request phase driverEvent stepped generation
      tracked.tracks member call removes kind drives

end

section

variable {driver : DriverContract} {world next : World}

theorem step_ledgerTrue (tracked : Tracked driver world) {event : WorldEvent}
    (careful : driver.careful world event = true) (taken : world.step event = some next)
    (serverId : Uuid) {entry : LedgerEntry}
    (member : entry ∈ (next.agents serverId).ledger.entries) {generation : Nat}
    (removes : entry.operationKind = .revokeDevice)
    (answer : entry.answer = .applied generation) : LedgerTrue driver next serverId entry := by
  rcases step_advances taken with ⟨_, advances⟩ | plane
  · rw [advances.agents] at member
    obtain ⟨⟨row, member, target, leaving⟩, gone⟩ := (tracked.ledger serverId entry member
        generation removes answer)
    constructor
    · obtain ⟨changed, present, flow, still, _⟩ :=
        advances_leaving tracked.apart advances member leaving
      exact ⟨changed, present, (congrArg Flow.targetId flow).trans target, still⟩
    intro removal removes same server kind
    rw [advances.agents]
    exact gone removal (advances_removal_known tracked.apart advances removes
      member (target.trans same.symm) leaving) same server kind
  · rcases step_ledger world next taken member with
      old | ⟨envelope, request, given, server, call, produced, recorded⟩
    · obtain ⟨settled, gone⟩ := (tracked.ledger serverId entry old generation removes answer)
      constructor
      · rw [plane]
        exact settled
      intro removal removes same server kind
      have known := idle_removals taken plane removal removes
      refine driver.gone_step world event next serverId removal.identity careful taken
        tracked.tracks kind ?_ (gone removal known same server kind)
      intro provision provides clash
      exact tracked.apart.separate provision provides removal known
        (Or.inr ⟨clash.1.trans server.symm, clash.2⟩)
    · subst server
      subst recorded
      subst answer
      -- A new entry of the ledger is about a removal under way, and says what is so.
      have removal := removal_of_call produced.underWay call removes
      obtain ⟨row, member, flow, leaving⟩ := tracked.apart.owned _ removal
      constructor
      · rw [plane]
        exact ⟨row, member, (congrArg Flow.targetId flow).trans rfl.symm, leaving⟩
      intro other otherRemoves same _ kind
      obtain ⟨owner, ownerMember, ownerFlow, _⟩ :=
        tracked.apart.owned other (idle_removals taken plane other otherRemoves)
      have one : owner = row := by
        refine row_unique owner row ownerMember member ?_
        exact (congrArg Flow.targetId ownerFlow).trans
          (same.trans (rfl.trans (congrArg Flow.targetId flow).symm))
      have identity : other.identity = request.runtime.identity := by
        rw [← ownerFlow, one, flow]
        rfl
      rw [identity] at kind ⊢
      exact produced_removed tracked call removes ((Runtime.identity_kind).symm.trans kind) produced

theorem step_drift (tracked : Tracked driver world) {event : WorldEvent}
    (taken : world.step event = some next) (reply : Reply) (member : reply ∈ next.replies)
    {check : RowCheck} {observed : Option Nat}
    (waiting : (reply.envelope.task, .probing check) ∈ next.plane.tasks)
    (calls : (Task.probing check).outgoing = some (reply.envelope.serverId, reply.envelope.call))
    (removes : check.operationKind = .revokeDevice) (kind : check.snapshot.kind = driver.kind)
    (answer : reply.answer = .observed .driftDetected observed) :
    Shows driver reply.evidence (checkFlow check) check.profileCode := by
  have known := fun old before =>
    tracked.drift reply old check observed before calls removes kind answer
  rcases step_advances taken with ⟨_, advances⟩ | plane
  · have old := advances.replies.subset member
    rcases step_tasks advances.taken waiting with ⟨before, _⟩ | start
    · exact known old before
    have probe : AgentCall.isProbe reply.envelope.call = true := by
      rw [← (Prod.mk.inj (some.inj calls)).2]
      rfl
    obtain ⟨queued, _, found⟩ := start_probe start calls probe
    have unqueued := (tracked.probes.sent reply.envelope (Or.inr ⟨reply, old, rfl⟩) probe).2 queued
    exact absurd (task_mem found) unqueued
  · rw [plane] at waiting
    rcases step_replies world next taken member with old | ⟨agent, produced, shown, _⟩
    · exact known old waiting
    rw [answer] at produced
    obtain ⟨server, call⟩ := Prod.mk.inj (some.inj calls)
    have removal : checkFlow check ∈ world.removals := by
      refine removal_of_task waiting ?_
      rw [← removes]
      rfl
    rw [shown]
    refine ⟨server.symm, ?_, ?_⟩
    · exact driver.unseen world reply.envelope _ _ _ _ observed agent tracked.tracks call.symm
        kind produced
    · intro provision provides
      exact tracked.apart.separate provision provides _ removal

variable {code : Option ProfileCode} {flow : Flow}

theorem Settling.answered {task : Task}
    (settling : Settling task flow code) : task.answered = true := by
  cases settling <;> rfl

theorem received_shows (tracked : Tracked driver world) {reply : Reply}
    (member : reply ∈ world.replies) {old following : Task}
    (waiting : (reply.envelope.task, old) ∈ world.plane.tasks)
    (calls : old.outgoing = some (reply.envelope.serverId, reply.envelope.call))
    (resumes : Resumes reply.answer old following)
    (settling : Settling following flow code) (kind : flow.identity.kind = driver.kind) :
    Shows driver reply.evidence flow code := by
  cases settling with
  | finalizing call generation _ removes =>
    cases resumes with
    | finalizing _ _ verdict =>
      obtain ⟨server, request⟩ := Prod.mk.inj (some.inj calls)
      rw [server]
      exact tracked.applied reply member call.request generation code request.symm removes
        ((Runtime.identity_kind).symm.trans kind) (verdict generation rfl)
  | repairFinalizing check now applied _ removes =>
    cases resumes with
    | repairFinalizing _ key _ _ _ verdict =>
      obtain ⟨server, request⟩ := Prod.mk.inj (some.inj calls)
      obtain ⟨generation, answer⟩ := verdict rfl
      have shows := tracked.applied reply member (check.request key) generation code
        request.symm removes ((Runtime.identity_kind).symm.trans kind) answer
      rw [← server] at shows
      exact shows
  | recovering check observed removes =>
    cases resumes with
    | recovering _ outcome _ answered agrees _ =>
      have absent : check.wantsPresent = false := by
        by_contra present
        simp [RowCheck.operationKind, present] at removes
      rw [absent] at agrees
      rw [agrees] at answered
      exact tracked.drift reply member check observed waiting calls removes
        ((Runtime.identity_kind).symm.trans kind) answered

theorem client_settles_nothing {received : AgentAnswer} {old following : Task}
    (verdict : received = .unreachable ∨ received = .ambiguous ∨ received = .invalid)
    (resumes : Resumes received old following)
    (settling : Settling following flow code) : False := by
  cases settling with
  | finalizing call generation _ removes =>
    cases resumes with
    | finalizing _ _ applied =>
      rw [applied generation rfl] at verdict
      simp at verdict
  | repairFinalizing check now applied _ removes =>
    cases resumes with
    | repairFinalizing _ key _ _ _ applied =>
      obtain ⟨generation, answer⟩ := applied rfl
      rw [answer] at verdict
      simp at verdict
  | recovering check observed removes =>
    cases resumes with
    | recovering _ outcome _ answered _ _ =>
      rw [answered] at verdict
      simp at verdict

theorem step_tracked {event : WorldEvent} (keeps : keepsApart world event = true)
    (careful : driver.careful world event = true) (taken : world.step event = some next)
    (tracked : Tracked driver world) : Tracked driver next where
  apart := step_apart keeps taken tracked.apart
  checks := by
    rcases step_advances taken with ⟨_, advances⟩ | plane
    · exact advances_checksOwned tracked.apart advances tracked.checks
    · intro entry
      rw [plane]
      exact tracked.checks entry
  probes := by
    rcases step_advances taken with ⟨_, advances⟩ | plane
    · exact advances_probesSent advances tracked.probes
    · exact idle_probesSent taken plane tracked.probes
  tracks := driver.tracks_step world event next careful taken tracked.tracks
  ledger := step_ledgerTrue tracked careful taken
  applied := by
    intro reply member request generation code call removes kind answer
    rcases step_replies world next taken member with old | ⟨agent, produced, shown, _⟩
    · exact tracked.applied reply old request generation code call removes kind answer
    rw [answer] at produced
    have removal := removal_of_call produced.underWay call removes
    have gone := produced_removed tracked call removes kind produced
    rw [shown]
    exact ⟨rfl, driver.gone_absent _ _ code ((Runtime.identity_kind).trans kind) gone,
      fun provision provides => tracked.apart.separate provision provides _ removal⟩
  drift := step_drift tracked taken
  decided := by
    intro entry member flow code settling kind
    rcases step_answered taken member settling.answered with
      ⟨old, evidence⟩ | ⟨received, old, resumes, verdict | ⟨reply, present, same, waiting, calls,
        evidence⟩⟩
    · rw [evidence]
      exact tracked.decided entry old flow code settling kind
    · exact (client_settles_nothing verdict resumes settling).elim
    · subst same
      refine ⟨reply.evidence, evidence, ?_⟩
      exact received_shows tracked present waiting calls resumes settling kind

end

/-! ## The row that is settled -/

section

variable (driver : DriverContract) (world next : World) (event : Event)

theorem finalizes_settling {id : Uuid}
    (written : finalizes world.plane event = some (id, .revoked)) :
    ∃ entry ∈ world.plane.tasks, event.task = some entry.1 ∧
      ∃ flow, taskFlow entry.2 = some (.revokeDevice, flow) ∧ flow.targetId = id ∧
        ∀ code, Settling entry.2 flow code := by
  rcases finalizes_cases written with
    ⟨task, now, call, applied, happened, found, target, final⟩ |
      ⟨task, check, now, succeeded, applied, happened, found, target, final⟩
  · subst happened
    cases kind : call.request.operationKind <;> cases applied <;>
      simp only [kind, finalState, reduceCtorEq] at final
    refine ⟨_, task_mem found, rfl, _, ?_, target, fun code => .finalizing call _ code kind⟩
    simp [taskFlow, kind]
  · subst happened
    cases present : check.wantsPresent <;> cases succeeded <;>
      simp only [present, repairState, reduceCtorEq] at final
    have removes : check.operationKind = .revokeDevice := by
      simp [RowCheck.operationKind, present]
    refine ⟨_, task_mem found, rfl, _, ?_, target,
      fun code => .repairFinalizing check now applied code removes⟩
    simp [taskFlow, removes]

def StandsBehind (flow : Flow) (code : Option ProfileCode) : Prop :=
  ∃ task, event.task = some task ∧
    ∃ shown ∈ world.evidence task, Shows driver shown flow code ∧
      ∀ provision ∈ world.provisions, ¬ provision.Conflicts flow

theorem standsBehind_of_settling (tracked : Tracked driver world) {entry : TaskId × Task}
    (member : entry ∈ world.plane.tasks) (own : event.task = some entry.1) {flow : Flow}
    {code : Option ProfileCode} (works : taskFlow entry.2 = some (.revokeDevice, flow))
    (settling : Settling entry.2 flow code) {old : Row} (present : old ∈ world.plane.tables.rows)
    (target : flow.targetId = old.id) (kind : old.kind = driver.kind) :
    StandsBehind driver world event (rowFlow old) code := by
  have removal := removal_of_task member works
  obtain ⟨owner, ownerMember, owned, _⟩ := tracked.apart.owned flow removal
  have one : owner = old := by
    refine row_unique owner old ownerMember present ?_
    rw [← target, ← owned]
    rfl
  rw [← one, owned]
  have flowKind : flow.identity.kind = driver.kind := by
    rw [← owned, one]
    exact (Runtime.identity_kind).trans kind
  obtain ⟨shown, evident, shows⟩ := tracked.decided entry member flow code settling flowKind
  exact ⟨entry.1, own, shown, evident, shows,
    fun provision provides => tracked.apart.separate provision provides flow removal⟩

theorem rowFlow_of_same {old new : Row} (same : SameRow old new) : rowFlow new = rowFlow old := by
  simp [rowFlow, same.id, same.serverId, Row.identity, same.runtime]

theorem revoked_standsBehind (tracked : Tracked driver world)
    (advances : Advances world next event) {row : Row}
    (member : row ∈ next.plane.tables.rows) (revoked : row.state = .revoked)
    (written : row ∉ world.plane.tables.rows) (kind : row.kind = driver.kind) :
    StandsBehind driver world event (rowFlow row)
      (agentProfileCode next.plane.tables row) := by
  obtain ⟨change, added, rows, changes, additions, _⟩ := step_rows advances.taken
  rcases List.mem_append.mp (rows ▸ member) with changed | new
  · obtain ⟨old, present, same⟩ := List.mem_map.mp changed
    have changed := changes old present
    rw [same] at changed
    have oldKind : old.kind = driver.kind := by rw [← changed.identity.kind, kind]
    cases changed with
    | kept => exact absurd present written
    | reconnected task connect =>
      unfold reconnectedRow at revoked
      split at revoked <;> cases revoked
    | marked now => cases revoked
    | recovered task now check observed _ happened found target stuck =>
      cases state : old.state with
      | revoking =>
        have sameRow := recoveredRow_same observed now old
        have sameKind : (recoveredRow observed now old).kind = old.kind := by
          simp [Row.kind, sameRow.runtime]
        rw [rowFlow_of_same sameRow, agentProfileCode_step
          advances.taken sameKind sameRow.profileId]
        have member := task_mem found
        have works := rowCheck_taskFlow (.recovering check observed) rfl
        cases direction : check.operationKind with
        | provisionDevice =>
          -- The snapshot wanted the row present, the fresh row is `state`: they conflict.
          rw [direction] at works
          have provision := provision_of_task member works
          have removal := removal_of_revoking present state
          exact (tracked.apart.separate _ provision _ removal (Or.inl target.symm)).elim
        | revokeDevice =>
          rw [direction] at works
          obtain ⟨row, rowMember, flow, code⟩ := tracked.checks _ member check rfl direction
          have one : row = old := by
            refine row_unique row old rowMember present ?_
            exact (congrArg Flow.targetId flow).trans target.symm
          rw [one] at code
          rw [code]
          exact standsBehind_of_settling driver world event tracked member (by rw [happened]; rfl)
              works
            (.recovering check observed direction) present target.symm oldKind
      | applying => simp [recoveredRow, state] at revoked
      | _ => simp [state, ProvisioningState.stuck] at stuck
    | finalized _ _ finalized sameRow =>
      rw [revoked] at finalized
      obtain ⟨entry, entryMember, own, flow, works, target, settling⟩ :=
        finalizes_settling world event finalized
      rw [rowFlow_of_same sameRow]
      exact standsBehind_of_settling driver world event tracked entryMember own
        works (settling _) present target oldKind
  · obtain ⟨task, connect, address, runtime, _, _, _, created⟩ := additions row new
    rw [created] at revoked
    cases revoked

end

def World.answerBehind (world : World) : WorldEvent → Option Evidence
  | .plane event => event.task.bind world.evidence
  | _ => none

def revokedRows (kind : TargetKind) (world next : World) : List Row :=
  next.plane.tables.rows.filter fun row =>
    row.kind == kind && row.state == .revoked && !world.plane.tables.rows.contains row

theorem mem_revokedRows {kind : TargetKind} {world next : World} {row : Row} :
    row ∈ revokedRows kind world next ↔
      row ∈ next.plane.tables.rows ∧ row.kind = kind ∧ row.state = .revoked ∧
        row ∉ world.plane.tables.rows := by
  simp [revokedRows, and_assoc]

def Flow.ofCredential (flow : Flow) (row : Row) : Prop :=
  flow.serverId = row.serverId ∧ flow.identity = row.identity
  deriving Decidable

theorem unfinished_of_apart {row : Row} {earlier now : List Flow}
    (earlierApart : ∀ provision ∈ earlier, ¬ provision.Conflicts (rowFlow row))
    (nowApart : ∀ provision ∈ now, ¬ provision.Conflicts (rowFlow row)) :
    ∀ provision ∈ earlier ++ now, ¬ provision.ofCredential row := by
  intro provision provides same
  rcases List.mem_append.mp provides with before | after
  · exact earlierApart provision before (Or.inr same)
  · exact nowApart provision after (Or.inr same)

structure AtRest (world : World) : Prop where
  tasks : world.plane.tasks = []
  net : world.net = []
  jobs : world.jobs = []
  replies : world.replies = []
  ledgers : ∀ serverId, ∀ entry ∈ (world.agents serverId).ledger.entries,
    entry.operationKind ≠ .revokeDevice

section

variable (driver : DriverContract)

theorem tracked_of_atRest {world : World} (rest : AtRest world) (tracks : driver.tracks world) :
    Tracked driver world := by
  have idle : world.underWay = [] := by simp [World.underWay, rest.net, rest.jobs]
  have noTask : ∀ entry, entry ∉ world.plane.tasks := by
    intro entry
    rw [rest.tasks]
    exact List.not_mem_nil
  have noReply : ∀ reply, reply ∉ world.replies := by
    intro reply
    rw [rest.replies]
    exact List.not_mem_nil
  exact {
    apart := apart_of_idle rest.tasks idle
    checks := fun entry member => absurd member (noTask entry)
    probes := {
      numbered := fun entry member => absurd member (noTask entry)
      sent := by
        rintro envelope (underWay | ⟨reply, replied, _⟩)
        · rw [idle] at underWay
          cases underWay
        · exact absurd replied (noReply reply) }
    tracks := tracks
    ledger := fun serverId entry member _ removes =>
      absurd removes (rest.ledgers serverId entry member)
    applied := fun reply replied => absurd replied (noReply reply)
    drift := fun reply replied => absurd replied (noReply reply)
    decided := fun entry member => absurd member (noTask entry) }

theorem step_revoked {world next : World} {event : WorldEvent} (tracked : Tracked driver world)
    (taken : world.step event = some next) (row : Row)
    (settled : row ∈ revokedRows driver.kind world next) :
    ∃ shown ∈ world.answerBehind event,
      Shows driver shown (rowFlow row) (agentProfileCode next.plane.tables row) ∧
      ∀ provision ∈ world.provisions, ¬ provision.Conflicts (rowFlow row) := by
  obtain ⟨member, kind, revoked, written⟩ := mem_revokedRows.mp settled
  rcases step_plane taken with
    ⟨planeEvent, happened, _, advances, _⟩ | ⟨task, received, advances, _⟩ | ⟨plane, _⟩
  · obtain ⟨task, own, shown, evident, shows⟩ :=
      revoked_standsBehind driver world next planeEvent tracked advances member revoked
        written kind
    refine ⟨shown, ?_, shows⟩
    rw [happened]
    simp [World.answerBehind, own, mem_def.mp evident]
  · have rows : next.plane.tables.rows = world.plane.tables.rows := by
      obtain ⟨planned, planning, committed | aborted⟩ := step_cases advances.taken
      · rw [committed.tables, answer_tables planning]
      · rw [aborted.tables]
    rw [rows] at member
    exact absurd member written
  · rw [plane] at member
    exact absurd member written

theorem eachStep_revoked {property : World → WorldEvent → World → Prop}
    (implies : ∀ world event next,
      (∀ row ∈ revokedRows driver.kind world next,
        ∃ shown ∈ world.answerBehind event,
          Shows driver shown (rowFlow row) (agentProfileCode next.plane.tables row) ∧
          ∀ provision ∈ world.provisions, ¬ provision.Conflicts (rowFlow row)) →
      property world event next) {start : World} {events : List WorldEvent} (rest : AtRest start)
    (tracks : driver.tracks start) (meets : RunMeets World.step (fun world event =>
      keepsApart world event = true ∧ driver.careful world event = true) events start) :
    EachStep World.step property events start := by
  refine eachStep_of_invariant (Tracked driver) ?_ ?_ (tracked_of_atRest driver rest tracks) meets
  · intro world event next tracked keeps taken
    exact step_tracked keeps.1 keeps.2 taken tracked
  · intro world event next tracked _ taken
    exact implies world event next (step_revoked driver tracked taken)

end

theorem atRest_smallFleet : AtRest smallFleet :=
  ⟨rfl, rfl, rfl, rfl, fun _ _ member => absurd member List.not_mem_nil⟩

end Nebula.Fleet
