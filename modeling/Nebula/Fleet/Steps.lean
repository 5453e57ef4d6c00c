import Nebula.ControlPlane.AccountSteps
import Nebula.Fleet.Network

/-!
# What one step of the fleet does

The inversion of `World.step`. Either the control plane takes a step of its own, or it is
told an answer, or something happens in the network or at one agent.
-/

namespace Nebula.Fleet

open Schema Runs ControlPlane Agent List Option

variable {call : AgentCall} {agent after : AgentState} {outcome : Outcome Phase} {readable : Bool}

theorem callChange_spec {change : PeerChange} (asked : callChange call = some change) :
    ∃ request address, call = .operate request ∧
      request.runtime = .wireguardPeer change.publicKey address ∧
      change.operationKind = request.operationKind := by
  cases call with
  | operate request =>
    simp only [callChange] at asked
    split at asked
    · rename_i publicKey address runtime
      cases asked
      exact ⟨request, address, rfl, runtime, rfl⟩
    · cases asked
  | reconcile => cases asked

theorem callClientChange_spec {change : ClientChange}
    (asked : callClientChange call = some change) :
    ∃ request, call = .operate request ∧ request.runtime = .xrayClient change.clientUuid ∧
      change.operationKind = request.operationKind ∧
      request.profileCode = some change.protocolProfileCode := by
  cases call with
  | operate request =>
    simp only [callClientChange] at asked
    split at asked
    · rename_i clientUuid code runtime profile
      cases asked
      exact ⟨request, rfl, runtime, rfl, profile⟩
    · cases asked
  | reconcile => cases asked

inductive Accepts (agent : AgentState) (readable : Bool) :
    AgentCall → AgentState → Outcome Phase → Prop
  | replays (request : AgentRequest) (answer : AgentAnswer)
    (cached : dispatchLedgered agent.ledger request = some answer) :
    Accepts agent readable (.operate request) agent (.answers answer)
  | starts (request : AgentRequest) (change : PeerChange)
    (asked : callChange (.operate request) = some change) :
    Accepts agent readable (.operate request)
      { agent with interface := (change.start agent.interface).1 }
      (wireguardOutcome (change.start agent.interface).2)
  | locks (request : AgentRequest) :
    Accepts agent readable (.operate request) agent (.goesOn (.xray .locking))
  | rejects (call : AgentCall) : Accepts agent readable call agent (.answers .rejected)
  | shows (targetId : Uuid) (generation : Nat) (publicKey : PublicKey) (address : IPAddress)
    (code : Option ProfileCode) :
    Accepts agent readable
      (.reconcile targetId generation (.wireguardPeer publicKey address) code)
      agent (.goesOn (.wireguard .showing))
  | compares (targetId : Uuid) (generation : Nat) (clientUuid : Uuid) (code : ProfileCode) :
    Accepts agent readable (.reconcile targetId generation (.xrayClient clientUuid) (some code))
      agent (.answers (reconcileClient agent.files readable clientUuid code))

inductive Drives (agent : AgentState) :
    AgentCall → Phase → DriverEvent → AgentState → Outcome Phase → Prop
  | changes (request : AgentRequest) (change : PeerChange) (phase : WireGuardPhase)
    (event : WireGuardEvent) (interface : Interface) (outcome : Outcome WireGuardPhase)
    (asked : callChange (.operate request) = some change)
    (stepped : ChangeStep change agent.interface phase event interface outcome) :
    Drives agent (.operate request) (.wireguard phase) (.wireguard event)
      { agent with interface := interface } (wireguardOutcome outcome)
  | serves (request : AgentRequest) (change : ClientChange) (phase : XrayPhase)
    (event : XrayEvent) (files : XrayFiles) (outcome : Outcome XrayPhase)
    (asked : callClientChange (.operate request) = some change)
    (stepped : ClientStep change agent.files phase event files outcome) :
    Drives agent (.operate request) (.xray phase) (.xray event) { agent with files := files }
      (xrayOutcome outcome)
  | probes (targetId : Uuid) (generation : Nat) (publicKey : PublicKey) (address : IPAddress)
    (code : Option ProfileCode) (phase : WireGuardPhase) (event : WireGuardEvent)
    (outcome : Outcome WireGuardPhase)
    (stepped : probeStep agent.interface publicKey address phase event = some outcome) :
    Drives agent (.reconcile targetId generation (.wireguardPeer publicKey address) code)
      (.wireguard phase) (.wireguard event) agent (wireguardOutcome outcome)

theorem accepts_of_accept (accepted : agent.accept readable call = (after, outcome)) :
    Accepts agent readable call after outcome := by
  cases call with
  | operate request =>
    simp only [AgentState.accept] at accepted
    split at accepted
    · rename_i answer cached
      cases accepted
      exact .replays request answer cached
    split at accepted
    · rename_i runtime
      cases accepted
      exact .starts request _ (by simp [callChange, runtime])
    · cases accepted
      exact .locks request
    · cases accepted
      exact .rejects _
  | reconcile targetId generation runtime code =>
    simp only [AgentState.accept] at accepted
    split at accepted
    · cases accepted
      exact .shows targetId generation _ _ code
    · cases accepted
      exact .compares targetId generation _ _
    · cases accepted
      exact .rejects _

theorem accepts_files (accepts : Accepts agent readable call after outcome) :
    after.files = agent.files ∧ ∀ phase, outcome = .goesOn (.xray phase) → phase = .locking := by
  cases accepts with
  | locks =>
    refine ⟨rfl, ?_⟩
    intro phase same
    cases same
    rfl
  | starts request change _ =>
    refine ⟨rfl, ?_⟩
    intro phase same
    cases begun : (change.start agent.interface).2 <;> rw [begun] at same <;> cases same
  | shows | replays | rejects | compares => exact ⟨rfl, nofun⟩

theorem accept_applied {request : AgentRequest} {generation : Nat}
    (accepted : agent.accept readable (.operate request) =
      (after, .answers (.applied generation))) :
    after = agent ∧ dispatchLedgered agent.ledger request = some (.applied generation) := by
  generalize outcomeOf : Outcome.answers (AgentAnswer.applied generation) = outcome at accepted
  cases accepts_of_accept accepted with
  | replays _ answer cached =>
    cases outcomeOf
    exact ⟨rfl, cached⟩
  | starts _ change _ =>
    unfold PeerChange.start at outcomeOf
    repeat' split at outcomeOf
    all_goals cases outcomeOf
  | locks | rejects => cases outcomeOf

theorem drives_of_drive {phase : Phase} {event : DriverEvent}
    (driven : agent.drive call phase event = some (after, outcome)) :
    Drives agent call phase event after outcome := by
  unfold AgentState.drive at driven
  split at driven
  · split at driven
    · rename_i runtime
      obtain ⟨⟨interface, stepped⟩, success, same⟩ := map_eq_some_iff.mp driven
      cases same
      exact .changes _ _ _ _ interface stepped (by simp [callChange, runtime])
        (changeStep_of_step success)
    · cases driven
  · split at driven
    · rename_i runtime profile
      obtain ⟨⟨files, stepped⟩, success, same⟩ := map_eq_some_iff.mp driven
      cases same
      exact .serves _ _ _ _ files stepped (by simp [callClientChange, runtime, profile])
        (clientStep_of_step success)
    · cases driven
  · obtain ⟨stepped, success, same⟩ := map_eq_some_iff.mp driven
    cases same
    exact .probes _ _ _ _ _ _ _ stepped success
  · cases driven

theorem settled_interface (agent : AgentState) {call : AgentCall} {outcome : Outcome Phase} :
    (agent.settled call outcome).interface = agent.interface := by
  cases outcome with
  | goesOn phase => rfl
  | answers answer => cases call <;> rfl

theorem settled_files {agent : AgentState} {call : AgentCall} {outcome : Outcome Phase} :
    (agent.settled call outcome).files = agent.files := by
  cases outcome with
  | goesOn phase => rfl
  | answers answer => cases call <;> rfl

/-! ## The kinds of step -/

structure Advances (world next : World) (event : Event) : Prop where
  taken : ControlPlane.step world.plane event = some next.plane
  net : ∀ envelope ∈ next.net,
    envelope ∈ world.net ∨ envelope ∈ next.plane.sent.drop world.plane.sent.length
  jobs : next.jobs = world.jobs
  agents : next.agents = world.agents
  replies : next.replies.Sublist world.replies

inductive Told (world next : World) (task : TaskId) (answer : AgentAnswer) : Prop
  | byClient (verdict : answer = .unreachable ∨ answer = .ambiguous ∨ answer = .invalid)
    (evidence : next.evidence = world.evidence)
  | byReply (reply : Reply) (member : reply ∈ world.replies)
    (own : reply.envelope.task = task) (awaited : world.awaits reply.envelope = true)
    (same : answer = reply.answer)
    (evidence : next.evidence = fun id =>
      if id = task then some reply.evidence else world.evidence id)

structure AtAgent (world next : World) (serverId : Uuid) (agent : AgentState) : Prop where
  plane : next.plane = world.plane
  agents : next.agents = fun id => if id = serverId then agent else world.agents id
  evidence : next.evidence = world.evidence

variable {serverId : Uuid}

theorem AtAgent.here {world next : World}
    (at_agent : AtAgent world next serverId agent) : next.agents serverId = agent := by
  rw [at_agent.agents]
  exact if_pos rfl

theorem AtAgent.elsewhere {world next : World} {other : Uuid}
    (at_agent : AtAgent world next serverId agent) (distinct : other ≠ serverId) :
    next.agents other = world.agents other := by
  rw [at_agent.agents]
  exact if_neg distinct

inductive Handled (world next : World) (envelope : Envelope) (agent : AgentState)
    (others : List Job) : Outcome Phase → Prop
  | goesOn (phase : Phase)
    (jobs : ∀ job ∈ next.jobs, job ∈ others ∨ job = ⟨envelope, phase⟩)
    (started : ⟨envelope, phase⟩ ∈ next.jobs)
    (replies : next.replies = world.replies) :
    Handled world next envelope agent others (.goesOn phase)
  | answers (answer : AgentAnswer) (jobs : ∀ job ∈ next.jobs, job ∈ others)
    (replies : next.replies =
      world.replies ++ [⟨envelope, answer, ⟨envelope.serverId, agent, world.provisions⟩⟩]) :
    Handled world next envelope agent others (.answers answer)

inductive AgentShift (world : World) : WorldEvent → Uuid → AgentState → Prop
  | restarted (serverId : Uuid) (ledgerEntries : Nat) (kernel : List KernelPeer)
    (partialSync : (world.agents serverId).interface.partialSync kernel = true) :
    AgentShift world (.restart serverId ledgerEntries kernel) serverId
      { world.agents serverId with
        ledger :=
          { (world.agents serverId).ledger with
            entries := (world.agents serverId).ledger.entries.take ledgerEntries }
        interface :=
          { (world.agents serverId).interface with
            serverKeyKnown := false
            kernel := kernel } }
  | resynced (serverId : Uuid) (free : world.lockHeld serverId = false) :
    AgentShift world (.resync serverId) serverId
      { world.agents serverId with files := (world.agents serverId).files.resync }
  | interfaceEdited (serverId : Uuid) (kernel : List KernelPeer) :
    AgentShift world (.editInterface serverId kernel) serverId
      { world.agents serverId with
        interface := { (world.agents serverId).interface with kernel := kernel } }
  | servedEdited (serverId : Uuid) (xrayConfig : List (ProfileCode × Uuid))
    (hysteriaConfig : HysteriaConfig) :
    AgentShift world (.editServed serverId xrayConfig hysteriaConfig) serverId
      { world.agents serverId with
        files :=
          { (world.agents serverId).files with
            xrayConfig := xrayConfig
            hysteriaConfig := hysteriaConfig } }

inductive WorldChange (world : World) (event : WorldEvent) (next : World) : Prop
  | planned (planeEvent : Event) (happened : event = .plane planeEvent)
    (own : Event.isAnswer planeEvent = false)
    (advances : Advances world next planeEvent) (evidence : next.evidence = world.evidence)
  | told (task : TaskId) (answer : AgentAnswer)
    (advances : Advances world next (.answer task answer))
    (source : Told world next task answer)
  | dropped (plane : next.plane = world.plane) (agents : next.agents = world.agents)
    (net : ∀ envelope ∈ next.net, envelope ∈ world.net) (jobs : next.jobs = world.jobs)
    (replies : next.replies.Sublist world.replies)
    (evidence : next.evidence = world.evidence)
  | delivered (task : TaskId) (readable : Bool) (envelope : Envelope) (agent : AgentState)
    (outcome : Outcome Phase) (happened : event = .deliver task readable)
    (own : envelope.task = task) (member : envelope ∈ world.net)
    (accepted : (world.agents envelope.serverId).accept readable envelope.call = (agent, outcome))
    (at_agent : AtAgent world next envelope.serverId agent)
    (net : ∀ other ∈ next.net, other ∈ world.net)
    (handled : Handled world next envelope agent world.jobs outcome)
    (others : ∀ job ∈ world.jobs, job ∈ next.jobs)
  | driven (task : TaskId) (driverEvent : DriverEvent) (job : Job) (agent : AgentState)
    (outcome : Outcome Phase) (happened : event = .drive task driverEvent)
    (own : job.envelope.task = task) (member : job ∈ world.jobs)
    (free : driverEvent = .xray .lockAcquired → world.lockHeld job.envelope.serverId = false)
    (stepped : (world.agents job.envelope.serverId).drive job.envelope.call job.phase
      driverEvent = some (agent, outcome))
    (at_agent : AtAgent world next job.envelope.serverId (agent.settled job.envelope.call outcome))
    (net : next.net = world.net)
    (handled : Handled world next job.envelope
      (agent.settled job.envelope.call outcome)
      (world.jobs.filter fun other => other != job) outcome)
    (others : ∀ other ∈ world.jobs, other ≠ job → other ∈ next.jobs)
    (first : world.jobs.find? (fun other => other.envelope.task == task) = some job)
  | shifted (serverId : Uuid) (agent : AgentState)
    (shift : AgentShift world event serverId agent)
    (at_agent : AtAgent world next serverId agent) (net : next.net = world.net)
    (jobs : ∀ job ∈ next.jobs, job ∈ world.jobs)
    (kept : ∀ job ∈ world.jobs, job ∈ next.jobs ∨
      ∃ entries kernel, event = .restart serverId entries kernel ∧
        job.envelope.serverId = serverId)
    (ended : ∀ entries kernel, event = .restart serverId entries kernel →
      ∀ job ∈ next.jobs, job.envelope.serverId ≠ serverId)
    (replies : next.replies = world.replies)

section

variable {world : World} {next : World}

theorem advance_advances {event : Event} (advanced : world.advance event = some next) :
    Advances world next event ∧ next.evidence = world.evidence := by
  obtain ⟨plane, taken, written⟩ := map_eq_some_iff.mp advanced
  subst written
  exact ⟨⟨taken, fun envelope member => mem_append.mp member, rfl, rfl, Sublist.refl _⟩, rfl⟩

theorem dropCall_advances {envelope : Envelope} {event : Event}
    (advanced : (world.dropCall envelope).advance event = some next) :
    Advances world next event ∧ next.evidence = world.evidence := by
  obtain ⟨advances, evidence⟩ := advance_advances advanced
  refine ⟨⟨advances.taken, ?_, advances.jobs, advances.agents, advances.replies⟩, evidence⟩
  intro other member
  rcases advances.net other member with old | new
  · exact Or.inl (mem_of_mem_erase old)
  · exact Or.inr new

variable {envelope : Envelope} {event : WorldEvent}

theorem deliver_change {next : World} {task : TaskId} {readable : Bool} (own : envelope.task = task)
    (member : envelope ∈ world.net) (delivered : world.deliver envelope readable = next) :
    WorldChange world (.deliver task readable) next := by
  subst delivered
  simp only [World.deliver]
  split
  · rename_i phase outcome
    refine .delivered task readable envelope
      ((world.agents envelope.serverId).accept readable envelope.call).1 (.goesOn phase) rfl
      own member (Prod.ext rfl outcome) ⟨rfl, rfl, rfl⟩ (fun _ => mem_of_mem_erase)
      (.goesOn phase ?_ (by simp) rfl) ?_
    · intro job present
      simpa using present
    · intro job present
      exact mem_append_left _ present
  · rename_i answer outcome
    exact .delivered task readable envelope
      ((world.agents envelope.serverId).accept readable envelope.call).1 (.answers answer) rfl
      own member (Prod.ext rfl outcome) ⟨rfl, rfl, rfl⟩ (fun _ => mem_of_mem_erase)
      (.answers answer (fun _ => id) rfl) (fun _ => id)

theorem drive_change {task : TaskId} {event : DriverEvent} {job : Job}
    (first : world.jobs.find? (fun other => other.envelope.task == task) = some job)
    (driven : world.drive job event = some next) : WorldChange world (.drive task event) next := by
  have own : job.envelope.task = task := by simpa using find?_some first
  have member := mem_of_find?_eq_some first
  obtain ⟨unblocked, driven⟩ := ite_none_left_eq_some.mp driven
  have free : event = .xray .lockAcquired →
      world.lockHeld job.envelope.serverId = false := by
    intro acquires
    by_contra held
    exact unblocked ⟨acquires, by simpa using held⟩
  split at driven
  · cases driven
  · rename_i agent phase stepped
    cases driven
    refine .driven task event job agent _ rfl own member free stepped ⟨rfl, rfl, rfl⟩ rfl
      (.goesOn phase ?_ (mem_map.mpr ⟨job, member, if_pos rfl⟩) rfl) ?_ first
    · intro other present
      obtain ⟨old, oldMember, same⟩ := mem_map.mp present
      split at same
      · exact Or.inr same.symm
      · rename_i different
        subst same
        exact Or.inl (mem_filter.mpr ⟨oldMember, by simpa using different⟩)
    · intro other present different
      exact mem_map.mpr ⟨other, present, if_neg different⟩
  · rename_i agent answer stepped
    cases driven
    refine .driven task event job agent _ rfl own member free stepped ⟨rfl, rfl, rfl⟩ rfl
      (.answers answer (fun _ => id) rfl) ?_ first
    intro other present different
    exact mem_filter.mpr ⟨present, by simpa using different⟩

theorem restart_change {ledgerEntries : Nat} {kernel : List KernelPeer}
    (restarted : world.restart serverId ledgerEntries kernel = some next) :
    WorldChange world (.restart serverId ledgerEntries kernel) next := by
  obtain ⟨partialSync, restarted⟩ := ite_none_right_eq_some.mp restarted
  cases restarted
  refine .shifted serverId _ (.restarted serverId ledgerEntries kernel partialSync)
    ⟨rfl, rfl, rfl⟩ rfl (fun _ kept => (mem_filter.mp kept).1) ?_ ?_ rfl
  · intro job present
    by_cases own : job.envelope.serverId = serverId
    · exact Or.inr ⟨ledgerEntries, kernel, rfl, own⟩
    · exact Or.inl (mem_filter.mpr ⟨present, by simpa using own⟩)
  · intro _ _ _ job kept
    simpa using (mem_filter.mp kept).2

variable (world)

theorem step_change (taken : world.step event = some next) : WorldChange world event next := by
  cases event with
  | plane planeEvent =>
    obtain ⟨own, taken⟩ := ite_none_left_eq_some.mp taken
    obtain ⟨advances, evidence⟩ := advance_advances taken
    exact .planned planeEvent rfl (by simpa using own) advances evidence
  | refuse task =>
    obtain ⟨envelope, _, refused⟩ := bind_eq_some_iff.mp taken
    split at refused
    · obtain ⟨advances, evidence⟩ := dropCall_advances refused
      exact .told task .unreachable advances (.byClient (Or.inl rfl) evidence)
    · cases refused
  | giveUp task invalid =>
    obtain ⟨advances, evidence⟩ := advance_advances taken
    refine .told task _ advances (.byClient ?_ evidence)
    cases invalid <;> simp
  | lose task =>
    obtain ⟨envelope, _, written⟩ := map_eq_some_iff.mp taken
    subst written
    exact .dropped rfl rfl (fun _ => mem_of_mem_erase) rfl (Sublist.refl _) rfl
  | deliver task readable =>
    obtain ⟨envelope, found, written⟩ := map_eq_some_iff.mp taken
    subst written
    have own : envelope.task = task := by simpa using find?_some found
    exact deliver_change own (mem_of_find?_eq_some found) rfl
  | drive task event =>
    obtain ⟨job, found, driven⟩ := bind_eq_some_iff.mp taken
    exact drive_change found driven
  | receive task =>
    obtain ⟨reply, found, received⟩ := bind_eq_some_iff.mp taken
    obtain ⟨awaited, received⟩ := ite_none_right_eq_some.mp received
    obtain ⟨middle, advanced, written⟩ := map_eq_some_iff.mp received
    obtain ⟨advances, evidence⟩ := advance_advances advanced
    subst written
    exact .told reply.envelope.task reply.answer
      ⟨advances.taken, advances.net, advances.jobs, advances.agents, erase_sublist⟩
      (.byReply reply (mem_of_find?_eq_some found) rfl awaited rfl rfl)
  | loseReply task =>
    obtain ⟨reply, _, written⟩ := map_eq_some_iff.mp taken
    subst written
    exact .dropped rfl rfl (fun _ => id) rfl erase_sublist rfl
  | restart serverId ledgerEntries kernel =>
    exact restart_change taken
  | resync serverId =>
    obtain ⟨free, taken⟩ := ite_none_left_eq_some.mp taken
    cases taken
    exact .shifted serverId _ (.resynced serverId (by simpa using free)) ⟨rfl, rfl, rfl⟩ rfl
      (fun _ => id) (fun _ => Or.inl) (fun _ _ restarts => nomatch restarts) rfl
  | editInterface serverId kernel =>
    cases taken
    exact .shifted serverId _ (.interfaceEdited serverId kernel) ⟨rfl, rfl, rfl⟩ rfl
      (fun _ => id) (fun _ => Or.inl) (fun _ _ restarts => nomatch restarts) rfl
  | editServed serverId xrayConfig hysteriaConfig =>
    cases taken
    exact .shifted serverId _ (.servedEdited serverId xrayConfig hysteriaConfig)
      ⟨rfl, rfl, rfl⟩ rfl (fun _ => id) (fun _ => Or.inl)
      (fun _ _ restarts => nomatch restarts) rfl

variable {world}

theorem step_plane (taken : world.step event = some next) :
    (∃ planeEvent, event = .plane planeEvent ∧ Event.isAnswer planeEvent = false ∧
      Advances world next planeEvent ∧ next.evidence = world.evidence) ∨
    (∃ task answer, Advances world next (.answer task answer) ∧ Told world next task answer) ∨
    (next.plane = world.plane ∧ next.evidence = world.evidence) := by
  cases step_change world taken with
  | planned planeEvent happened own advances evidence =>
    exact Or.inl ⟨planeEvent, happened, own, advances, evidence⟩
  | told task answer advances source => exact Or.inr (Or.inl ⟨task, answer, advances, source⟩)
  | dropped plane _ _ _ _ evidence => exact Or.inr (Or.inr ⟨plane, evidence⟩)
  | delivered _ _ _ _ _ _ _ _ _ at_agent | driven _ _ _ _ _ _ _ _ _ _ at_agent =>
    exact Or.inr (Or.inr ⟨at_agent.plane, at_agent.evidence⟩)
  | shifted _ _ _ at_agent => exact Or.inr (Or.inr ⟨at_agent.plane, at_agent.evidence⟩)

theorem handled_underWay {agent : AgentState} {others : List Job} {outcome : Outcome Phase}
    (handled : Handled world next envelope agent others outcome) {job : Job}
    (member : job ∈ next.jobs) : job.envelope = envelope ∨ job ∈ others := by
  cases handled with
  | goesOn phase jobs _ _ =>
    rcases jobs job member with other | new
    · exact Or.inr other
    · exact Or.inl (by rw [new])
  | answers answer jobs _ => exact Or.inr (jobs job member)

theorem advances_underWay {event : Event} (advances : Advances world next event)
    (member : envelope ∈ next.underWay) :
    envelope ∈ world.underWay ∨ envelope ∈ next.plane.sent.drop world.plane.sent.length := by
  rcases mem_append.mp member with waiting | running
  · rcases advances.net envelope waiting with old | new
    · exact Or.inl (mem_append_left _ old)
    · exact Or.inr new
  · rw [advances.jobs] at running
    exact Or.inl (mem_append_right _ running)

variable (world)

theorem underWay_of_job (job : Job) (member : job ∈ world.jobs) : job.envelope ∈ world.underWay :=
  mem_append_right _ (mem_map.mpr ⟨job, member, rfl⟩)

variable {world}

theorem underWay_known (net : ∀ envelope ∈ next.net, envelope ∈ world.net)
    (jobs : ∀ job ∈ next.jobs, job.envelope ∈ world.underWay) (member : envelope ∈ next.underWay) :
    envelope ∈ world.underWay := by
  rcases mem_append.mp member with waiting | running
  · exact mem_append_left _ (net envelope waiting)
  · obtain ⟨job, present, same⟩ := mem_map.mp running
    rw [← same]
    exact jobs job present

theorem step_underWay (taken : world.step event = some next) (member : envelope ∈ next.underWay) :
    envelope ∈ world.underWay ∨ envelope ∈ next.plane.sent.drop world.plane.sent.length := by
  have inJobs := underWay_of_job world
  cases step_change world taken with
  | planned planeEvent _ _ advances _ | told task answer advances _ =>
    exact advances_underWay advances member
  | dropped plane agents net jobs =>
    refine Or.inl (underWay_known net ?_ member)
    rw [jobs]
    exact inJobs
  | delivered task readable arrived agent outcome _ _ present _ _ net handled =>
    refine Or.inl (underWay_known net ?_ member)
    intro job jobMember
    rcases handled_underWay handled jobMember with new | other
    · rw [new]
      exact mem_append_left _ present
    · exact inJobs job other
  | driven task driverEvent stepping agent outcome _ _ present _ _ _ net handled =>
    refine Or.inl (underWay_known (fun _ waiting => net ▸ waiting) ?_ member)
    intro job jobMember
    rcases handled_underWay handled jobMember with own | other
    · rw [own]
      exact inJobs stepping present
    · exact inJobs job (mem_filter.mp other).1
  | shifted serverId agent _ _ net jobs =>
    exact Or.inl (underWay_known (fun _ waiting => net ▸ waiting)
      (fun job present => inJobs job (jobs job present)) member)

theorem step_underWay_of_plane {next : World} (taken : world.step event = some next)
    (plane : next.plane = world.plane) (member : envelope ∈ next.underWay) :
    envelope ∈ world.underWay := by
  rcases step_underWay taken member with old | new
  · exact old
  · rw [plane, drop_length] at new
    cases new

theorem advances_calls {event : Event} (advances : Advances world next event)
    (member : envelope ∈ next.plane.sent.drop world.plane.sent.length) :
    ∃ task, TaskStart world.plane event next.plane.tables envelope.task task ∧
      task.outgoing = some (envelope.serverId, envelope.call) := by
  obtain ⟨added, sent, starts⟩ := step_calls world.plane next.plane event advances.taken
  rw [sent, drop_left] at member
  exact starts envelope member

theorem step_answered (taken : world.step event = some next) {entry : TaskId × Task}
    (member : entry ∈ next.plane.tasks) (answered : entry.2.answered = true) :
    (entry ∈ world.plane.tasks ∧ next.evidence entry.1 = world.evidence entry.1) ∨
      ∃ received old, Resumes received old entry.2 ∧
        ((received = .unreachable ∨ received = .ambiguous ∨ received = .invalid) ∨
          ∃ reply ∈ world.replies, received = reply.answer ∧
            (reply.envelope.task, old) ∈ world.plane.tasks ∧
            old.outgoing = some (reply.envelope.serverId, reply.envelope.call) ∧
            next.evidence entry.1 = some reply.evidence) := by
  rcases step_plane taken with
    ⟨planeEvent, _, own, advances, evidence⟩ | ⟨task, received, advances, source⟩ |
      ⟨plane, evidence⟩
  · rw [evidence]
    rcases step_tasks advances.taken member with ⟨old, _⟩ | start
    · exact Or.inl ⟨old, rfl⟩
    obtain ⟨received, old, happened, _⟩ := start_answered start answered
    rw [happened] at own
    cases own
  · rcases step_tasks advances.taken member with ⟨old, foreign⟩ | start
    · refine Or.inl ⟨old, ?_⟩
      cases source with
      | byClient _ evidence => rw [evidence]
      | byReply reply _ _ _ _ evidence =>
        have other : entry.1 ≠ task := by
          intro same
          exact foreign (by rw [same]; rfl)
        simp [evidence, other]
    · obtain ⟨answer, old, happened, found, resumes⟩ := start_answered start answered
      cases happened
      refine Or.inr ⟨received, old, resumes, ?_⟩
      cases source with
      | byClient verdict _ => exact Or.inl verdict
      | byReply reply present ownTask awaited same evidence =>
        rw [← ownTask] at found
        exact Or.inr ⟨reply, present, same, task_mem found,
          by simpa [World.awaits, found] using awaited, by simp [evidence]⟩
  · rw [plane] at member
    rw [evidence]
    exact Or.inl ⟨member, rfl⟩

theorem step_advances (taken : world.step event = some next) :
    (∃ planeEvent, Advances world next planeEvent) ∨ next.plane = world.plane := by
  rcases step_plane taken with
    ⟨planeEvent, _, _, advances, _⟩ | ⟨task, answer, advances, _⟩ | ⟨plane, _⟩
  · exact Or.inl ⟨planeEvent, advances⟩
  · exact Or.inl ⟨_, advances⟩
  · exact Or.inr plane

/-- Whatever the network and the agents do, the control plane takes steps of its own only. -/
theorem plane_run (labels : List WorldEvent) (start : World) :
    AlwaysAlong World.step
      (fun world => ∃ events, runEvents ControlPlane.step events start.plane = some world.plane)
      labels start := by
  refine alwaysAlong_of_invariant _ _ ?_ (fun _ reached => reached) ⟨[], rfl⟩
    (runMeets_of_forall World.step (fun _ _ => trivial) labels start)
  rintro world event next ⟨events, run⟩ _ taken
  rcases step_advances taken with ⟨planeEvent, advances⟩ | plane
  · exact ⟨events ++ [planeEvent], by simp [runEvents_append, run, advances.taken]⟩
  · exact ⟨events, plane ▸ run⟩

end

/-! ## Answers of the agents -/

inductive Produced (world : World) (envelope : Envelope) (answer : AgentAnswer) :
    AgentState → Prop
  | delivered (readable : Bool) (agent : AgentState) (member : envelope ∈ world.net)
    (accepted : (world.agents envelope.serverId).accept readable envelope.call =
      (agent, .answers answer)) :
    Produced world envelope answer agent
  | driven (phase : Phase) (driverEvent : DriverEvent) (agent : AgentState)
    (member : ⟨envelope, phase⟩ ∈ world.jobs)
    (stepped : (world.agents envelope.serverId).drive envelope.call phase driverEvent =
      some (agent, .answers answer)) :
    Produced world envelope answer (agent.recordCall envelope.call answer)

section

variable (world next : World)

variable {agent : AgentState} {outcome : Outcome Phase} {event : WorldEvent}

theorem Produced.underWay {envelope : Envelope} {answer : AgentAnswer}
    (produced : Produced world envelope answer agent) : envelope ∈ world.underWay := by
  cases produced with
  | delivered readable _ member _ => exact mem_append_left _ member
  | driven phase driverEvent agent member _ => exact underWay_of_job world _ member

structure Gives (reply : Reply) : Prop where
  replies : next.replies = world.replies ++ [reply]
  agent : next.agents reply.envelope.serverId = reply.evidence.agent

theorem Handled.replies {envelope : Envelope} {others : List Job}
    (handled : Handled world next envelope agent others outcome)
    (agents : next.agents envelope.serverId = agent) (reply : Reply)
    (member : reply ∈ next.replies) :
    reply ∈ world.replies ∨ ∃ answer, outcome = .answers answer ∧
      reply = ⟨envelope, answer, ⟨envelope.serverId, agent, world.provisions⟩⟩ ∧
      Gives world next reply := by
  cases handled with
  | goesOn phase _ _ replies =>
    rw [replies] at member
    exact Or.inl member
  | answers answer _ replies =>
    rcases mem_append.mp (replies ▸ member) with old | new
    · exact Or.inl old
    · rw [mem_singleton.mp new]
      exact Or.inr ⟨answer, rfl, rfl, replies, agents⟩

theorem step_replies (taken : world.step event = some next) {reply : Reply}
    (member : reply ∈ next.replies) :
    reply ∈ world.replies ∨ ∃ agent, Produced world reply.envelope reply.answer agent ∧
      reply.evidence = ⟨reply.envelope.serverId, agent, world.provisions⟩ ∧
      next.plane = world.plane ∧ Gives world next reply := by
  cases step_change world taken with
  | planned planeEvent _ _ advances _ | told task answer advances _ =>
    exact Or.inl (advances.replies.subset member)
  | dropped plane agents net jobs replies _ => exact Or.inl (replies.subset member)
  | delivered task readable envelope agent outcome _ _ present accepted at_agent _ handled _ =>
    rcases handled.replies world next at_agent.here reply member with
      old | ⟨answer, answers, given, gives⟩
    · exact Or.inl old
    · subst answers given
      exact Or.inr ⟨agent, .delivered readable agent present accepted, rfl, at_agent.plane, gives⟩
  | driven task driverEvent job agent outcome _ _ present _ stepped at_agent _ handled _ =>
    rcases handled.replies world next at_agent.here reply member with
      old | ⟨answer, answers, given, gives⟩
    · exact Or.inl old
    · subst answers given
      exact Or.inr
        ⟨_, .driven job.phase driverEvent agent present stepped, rfl, at_agent.plane, gives⟩
  | shifted serverId agent _ _ _ _ _ _ replies =>
    rw [replies] at member
    exact Or.inl member

theorem not_gives {reply : Reply} (fewer : next.replies.Sublist world.replies) :
    ¬ Gives world next reply := by
  intro gives
  have short := fewer.length_le
  rw [gives.replies, length_append] at short
  exact Nat.not_succ_le_self _ short

theorem accept_ledger {after : AgentState} {readable : Bool} {call : AgentCall}
    (accepted : agent.accept readable call = (after, outcome)) : after.ledger = agent.ledger := by
  cases accepts_of_accept accepted <;> rfl

theorem drive_ledger {after : AgentState} {call : AgentCall} {phase : Phase} {event : DriverEvent}
    (driven : agent.drive call phase event = some (after, outcome)) :
    after.ledger = agent.ledger := by
  cases drives_of_drive driven <;> rfl

inductive AgentChange (event : WorldEvent) (serverId : Uuid) : Prop
  | kept (same : next.agents serverId = world.agents serverId)
  | accepted (envelope : Envelope) (readable : Bool) (outcome : Outcome Phase)
    (accepted : (world.agents serverId).accept readable envelope.call =
      (next.agents serverId, outcome))
  | driven (task : TaskId) (driverEvent : DriverEvent) (job : Job) (agent : AgentState)
    (outcome : Outcome Phase) (happened : event = .drive task driverEvent)
    (first : world.jobs.find? (fun other => other.envelope.task == task) = some job)
    (own : job.envelope.serverId = serverId)
    (stepped : (world.agents serverId).drive job.envelope.call job.phase driverEvent =
      some (agent, outcome))
    (at_agent : AtAgent world next serverId (agent.settled job.envelope.call outcome))
  | shifted (shift : AgentShift world event serverId (next.agents serverId))

theorem step_agent (taken : world.step event = some next) :
    AgentChange world next event serverId := by
  cases step_change world taken with
  | planned _ _ _ advances | told _ _ advances => exact .kept (by rw [advances.agents])
  | dropped _ agents => exact .kept (by rw [agents])
  | delivered _ readable envelope _ outcome _ _ _ accepted at_agent =>
    by_cases own : serverId = envelope.serverId
    · subst own
      exact .accepted envelope readable outcome (by rw [at_agent.here]; exact accepted)
    · exact .kept (at_agent.elsewhere own)
  | driven task driverEvent job agent outcome happened _ _ _ stepped at_agent _ _ _ first =>
    by_cases own : serverId = job.envelope.serverId
    · subst own
      exact .driven task driverEvent job agent outcome happened first rfl stepped at_agent
    · exact .kept (at_agent.elsewhere own)
  | shifted changed _ shift at_agent =>
    by_cases own : serverId = changed
    · subst own
      exact .shifted (by rw [at_agent.here]; exact shift)
    · exact .kept (at_agent.elsewhere own)

theorem step_recorded (event : WorldEvent) (taken : world.step event = some next)
    (serverId : Uuid) (entry : LedgerEntry)
    (member : entry ∈ (next.agents serverId).ledger.entries) :
    entry ∈ (world.agents serverId).ledger.entries ∨
      ∃ task driverEvent job agent request answer, event = .drive task driverEvent ∧
        world.jobs.find? (fun other => other.envelope.task == task) = some job ∧
        job.envelope.serverId = serverId ∧ job.envelope.call = .operate request ∧
        (world.agents serverId).drive job.envelope.call job.phase driverEvent =
          some (agent, .answers answer) ∧
        AtAgent world next serverId (agent.recordCall job.envelope.call answer) ∧
        entry = ⟨request.idempotencyKey, request.operationKind, request.targetId, answer⟩ := by
  cases step_agent world next taken with
  | kept same => exact Or.inl (same ▸ member)
  | accepted envelope readable outcome accepted =>
    rw [accept_ledger accepted] at member
    exact Or.inl member
  | driven task driverEvent job agent outcome happened first own stepped at_agent =>
    have kept := drive_ledger stepped
    rw [at_agent.here] at member
    cases outcome with
    | goesOn phase =>
      rw [AgentState.settled, kept] at member
      exact Or.inl member
    | answers answer =>
      cases call : job.envelope.call with
      | reconcile =>
        simp only [AgentState.settled, AgentState.recordCall, call, kept] at member
        exact Or.inl member
      | operate request =>
        simp only [AgentState.settled, AgentState.recordCall, call, kept] at member
        unfold recordAnswer at member
        split at member
        · rcases mem_record member with old | new
          · exact Or.inl old
          · exact Or.inr ⟨task, driverEvent, job, agent, request, answer, happened, first, own,
              call, stepped, at_agent, new⟩
        · exact Or.inl member
  | shifted shift =>
    generalize next.agents serverId = agent at shift member
    cases shift with
    | restarted => exact Or.inl (mem_of_mem_take member)
    | resynced | interfaceEdited | servedEdited => exact Or.inl member

theorem step_ledger (taken : world.step event = some next) {entry : LedgerEntry}
    (member : entry ∈ (next.agents serverId).ledger.entries) :
    entry ∈ (world.agents serverId).ledger.entries ∨
      ∃ envelope request answer, envelope.serverId = serverId ∧
        envelope.call = .operate request ∧
        Produced world envelope answer (next.agents serverId) ∧
        entry = ⟨request.idempotencyKey, request.operationKind, request.targetId, answer⟩ := by
  rcases step_recorded world next event taken serverId entry member with
    old | ⟨task, driverEvent, job, agent, request, answer, _, first, server, call, driven, at_agent,
      recorded⟩
  · exact Or.inl old
  refine Or.inr ⟨job.envelope, request, answer, server, call, ?_, recorded⟩
  rw [at_agent.here]
  rw [← server] at driven
  exact .driven job.phase driverEvent agent (mem_of_find?_eq_some first) driven

end

end Nebula.Fleet
