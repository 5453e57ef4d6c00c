import Nebula.Fleet.Steps

/-!
# The peers an agent holds and the rows they stand for

The agent's peers are keyed by public key; the control plane's rows are keyed by device and
change key, or stop being live, without a word to the agent.
-/

namespace Nebula.Fleet

open Schema Store Runs ControlPlane Agent List

abbrev KeyAddress := PublicKey × IPAddress

def keyAddress (peer : RenderedPeer) : KeyAddress :=
  (peer.publicKey, peer.assignedAddress)

def interfacePeers (interface : Interface) : Peers :=
  interface.record ++ interface.candidate.getD []

def phasePeers : Phase → Peers
  | .wireguard (.derivingKey current) | .wireguard (.syncing current)
  | .wireguard (.synced current) | .wireguard (.rollingBack current) => current
  | _ => []

def callPeer : AgentCall → Option KeyAddress
  | .operate request =>
    match request.operationKind, request.runtime with
    | .provisionDevice, .wireguardPeer publicKey address => some (publicKey, address)
    | _, _ => none
  | .reconcile _ _ _ _ => none

variable (world : World)

def World.held (serverId : Uuid) : List KeyAddress :=
  (interfacePeers (world.agents serverId).interface).map keyAddress ++
    ((world.jobs.filter fun job => job.envelope.serverId == serverId).flatMap fun job =>
      (phasePeers job.phase).map keyAddress) ++
    (world.underWay.filter fun envelope => envelope.serverId == serverId).filterMap
      fun envelope => callPeer envelope.call

def World.holdsKey (serverId : Uuid) (publicKey : PublicKey) : Bool :=
  (world.held serverId).any fun held => held.1 == publicKey

def Quiet : Prop :=
  (∀ operation ∈ world.plane.tables.operations, operation.state.inflight = false) ∧
    (∀ entry ∈ world.plane.tasks, entry.2.outgoing = none) ∧
    world.net = [] ∧ world.jobs = [] ∧ world.replies = []
  deriving Decidable

def keyOfRow (row : Row) : Option PublicKey :=
  match row.runtime with
  | .wireguardPeer publicKey _ => some publicKey
  | .xrayClient _ => none

/-- When nothing is under way, every configured public key is the key of a live row. -/
def NoGhosts : Prop :=
  Quiet world → ∀ server ∈ world.plane.tables.servers,
    ∀ peer ∈ (world.agents server.id).interface.record,
      ∃ row ∈ world.plane.tables.rows,
        row.serverId = server.id ∧ row.live = true ∧ keyOfRow row = some peer.publicKey
  deriving Decidable

def AddressesDistinct : Prop :=
  ∀ server ∈ world.plane.tables.servers,
    ((world.agents server.id).interface.record.map RenderedPeer.assignedAddress).Nodup
  deriving Decidable

def World.keyReleased (row : Row) : Bool :=
  (keyOfRow row).all fun publicKey => !world.holdsKey row.serverId publicKey

/-- A live row changes its key or ends only when no agent holds the key; a repair asks only for what
its row still is. -/
def keepsHeldKeys : WorldEvent → Bool
  | .plane (.connectLookup task) =>
    match world.plane.task task with
    | some (.connectChecked connect) =>
      world.plane.tables.rows.all fun row =>
        !(row.state == .active && row.kind == connect.kind &&
            row.deviceId == connect.deviceId && row.serverId == connect.server.id) ||
          keyOfRow (reconnectedRow connect row) == keyOfRow row || world.keyReleased row
    | _ => true
  | .plane (.recover task _) =>
    match world.plane.task task with
    | some (.recovering check _) =>
      world.plane.tables.rows.all fun row =>
        !(row.id == check.snapshot.id && row.state == .revoking) || world.keyReleased row
    | _ => true
  | .plane (.repairBegin task _) =>
    match world.plane.task task with
    | some (.repairing check) =>
      !check.wantsPresent || world.plane.tables.rows.any fun row =>
        row.live && row.serverId == check.snapshot.serverId &&
          row.runtime == check.snapshot.runtime
    | _ => true
  | .plane event =>
    match finalizes world.plane event with
    | some (id, final) =>
      final.live || world.plane.tables.rows.all fun row =>
        !(row.id == id && row.live) || world.keyReleased row
    | none => true
  | _ => true

structure SetsHold (holds : Peers → Prop) (interface : Interface)
    (phase : Peers) : Prop where
  record : holds interface.record
  candidate : holds (interface.candidate.getD [])
  phase : holds phase

section

variable {holds : Peers → Prop} (empty : holds [])

def outcomePeers : Outcome Phase → Peers
  | .goesOn phase => phasePeers phase
  | .answers _ => []

include empty

theorem accept_setsHold {agent after : AgentState} {readable : Bool} {call : AgentCall}
    {outcome : Outcome Phase}
    (closed : ∀ change, callChange call = some change →
      ∀ current, holds current → holds (change.desired current))
    (before : SetsHold holds agent.interface [])
    (accepted : agent.accept readable call = (after, outcome)) :
    SetsHold holds after.interface (outcomePeers outcome) := by
  cases accepts_of_accept accepted with
  | starts request change asked =>
    have written := (closed change asked) agent.interface.record before.record
    unfold PeerChange.start
    split
    · split
      · exact ⟨before.record, before.candidate, empty⟩
      · split
        · exact ⟨before.record, written, before.record⟩
        · exact ⟨before.record, before.candidate, before.record⟩
    · exact ⟨before.record, written, before.record⟩
  | _ => exact ⟨before.record, before.candidate, empty⟩

theorem drive_setsHold {agent after : AgentState} {call : AgentCall} {phase : Phase}
    {event : DriverEvent} {outcome : Outcome Phase}
    (closed : ∀ change, callChange call = some change →
      ∀ current, holds current → holds (change.desired current))
    (before : SetsHold holds agent.interface (phasePeers phase))
    (driven : agent.drive call phase event = some (after, outcome)) :
    SetsHold holds after.interface (outcomePeers outcome) := by
  cases drives_of_drive driven with
  | changes request change phase event interface outcome asked stepped =>
    have candidate : ∀ peers, agent.interface.candidate = some peers → holds peers := by
      intro peers present
      have known := before.candidate
      rw [present] at known
      exact known
    cases stepped with
    | keyDerived => exact ⟨before.record, closed change asked _ before.phase, before.phase⟩
    | keyFailed | taken | rolledBack | givenUp => exact ⟨before.record, before.candidate, empty⟩
    | applied => exact ⟨before.record, before.candidate, before.phase⟩
    | promoted current peers written => exact ⟨candidate peers written, empty, empty⟩
    | failed => exact ⟨before.record, before.record, before.phase⟩
  | serves request change phase event files outcome _ _ =>
    refine ⟨before.record, before.candidate, ?_⟩
    cases outcome <;> exact empty
  | probes targetId generation publicKey address code phase event outcome stepped =>
    refine ⟨before.record, before.candidate, ?_⟩
    unfold probeStep at stepped
    split at stepped <;> cases stepped <;> exact empty

end

def PeerSets (holds : Uuid → Peers → Prop) (world : World) : Prop :=
  (∀ serverId, holds serverId (world.agents serverId).interface.record ∧
    holds serverId ((world.agents serverId).interface.candidate.getD [])) ∧
  ∀ job ∈ world.jobs, holds job.envelope.serverId (phasePeers job.phase)

section

variable {holds : Uuid → Peers → Prop} (empty : ∀ serverId, holds serverId [])
  {world next : World}

theorem peerSets_setsHold (sets : PeerSets holds world) {serverId : Uuid}
    {phase : Peers} (phaseHolds : holds serverId phase) :
    SetsHold (holds serverId) (world.agents serverId).interface phase :=
  ⟨(sets.1 serverId).1, (sets.1 serverId).2, phaseHolds⟩

theorem agents_peerSets (sets : PeerSets holds world) {serverId : Uuid} {agent : AgentState}
    (at_agent : AtAgent world next serverId agent) (record : holds serverId agent.interface.record)
    (candidate : holds serverId (agent.interface.candidate.getD [])) (other : Uuid) :
    holds other (next.agents other).interface.record ∧
      holds other ((next.agents other).interface.candidate.getD []) := by
  rw [at_agent.agents]
  dsimp only
  split
  · rename_i own
    subst own
    exact ⟨record, candidate⟩
  · exact sets.1 other

theorem handled_peerSets {envelope : Envelope} {agent : AgentState} {others : List Job}
    {outcome : Outcome Phase}
    (othersHold : ∀ job ∈ others, holds job.envelope.serverId (phasePeers job.phase))
    (phaseHolds : holds envelope.serverId (outcomePeers outcome))
    (handled : Handled world next envelope agent others outcome) :
    ∀ job ∈ next.jobs, holds job.envelope.serverId (phasePeers job.phase) := by
  intro job member
  cases handled with
  | goesOn phase jobs _ _ =>
    rcases jobs job member with other | new
    · exact othersHold job other
    · rw [new]
      exact phaseHolds
  | answers answer jobs _ => exact othersHold job (jobs job member)

include empty

theorem step_peerSets {event : WorldEvent}
    (closed : ∀ envelope ∈ world.underWay, ∀ change,
      callChange envelope.call = some change → ∀ current,
        holds envelope.serverId current → holds envelope.serverId (change.desired current))
    (sets : PeerSets holds world) (taken : world.step event = some next) :
    PeerSets holds next := by
  cases step_change world taken with
  | planned _ _ _ advances _ | told _ _ advances _ =>
    constructor
    · rw [advances.agents]
      exact sets.1
    · rw [advances.jobs]
      exact sets.2
  | dropped plane agents net jobs _ _ =>
    constructor
    · rw [agents]
      exact sets.1
    · rw [jobs]
      exact sets.2
  | delivered task readable envelope agent outcome _ _ member accepted at_agent _ handled _ =>
    have held := accept_setsHold (empty _)
      (closed envelope (mem_append_left _ member))
      (peerSets_setsHold sets (empty _)) accepted
    exact ⟨agents_peerSets sets at_agent held.record held.candidate,
      handled_peerSets sets.2 held.phase handled⟩
  | driven task driverEvent job agent outcome _ _ member _ stepped at_agent _ handled _ =>
    have underWay : job.envelope ∈ world.underWay :=
      mem_append_right _ (mem_map.mpr ⟨job, member, rfl⟩)
    have held := drive_setsHold (empty _)
      (closed job.envelope underWay)
      (peerSets_setsHold sets (sets.2 job member)) stepped
    refine ⟨agents_peerSets sets at_agent ?_ ?_, handled_peerSets ?_ held.phase handled⟩
    · rw [settled_interface]
      exact held.record
    · rw [settled_interface]
      exact held.candidate
    · intro other kept
      exact sets.2 other (mem_filter.mp kept).1
  | shifted serverId agent shift at_agent _ jobs _ _ _ =>
    obtain ⟨record, candidate⟩ : agent.interface.record = (world.agents serverId).interface.record ∧
        agent.interface.candidate = (world.agents serverId).interface.candidate := by
      cases shift <;> exact ⟨rfl, rfl⟩
    refine ⟨agents_peerSets sets at_agent ?_ ?_, ?_⟩
    · rw [record]
      exact (sets.1 serverId).1
    · rw [candidate]
      exact (sets.1 serverId).2
    · intro job member
      exact sets.2 job (jobs job member)

end

/-! ## Rows behind the peers -/

def Backed (tables : Tables) (serverId : Uuid) (pair : KeyAddress) : Prop :=
  ∃ row ∈ tables.rows, row.live = true ∧ row.serverId = serverId ∧
    row.runtime = .wireguardPeer pair.1 pair.2

structure PeersBacked (world : World) : Prop where
  sets : PeerSets (fun serverId peers =>
    ∀ peer ∈ peers, Backed world.plane.tables serverId (keyAddress peer)) world
  calls : ∀ envelope ∈ world.underWay, ∀ pair, callPeer envelope.call = some pair →
    Backed world.plane.tables envelope.serverId pair
  distinct : PeerSets (fun _ peers => (peerKeys peers).Nodup) world

section

variable {world : World} {next : World}

variable {pair : KeyAddress} {serverId : Uuid} {event : Event} {peer : RenderedPeer}

theorem reconnectedRow_live {connect : Connect} {row : Row} :
    (reconnectedRow connect row).live = true := by
  unfold reconnectedRow
  split <;> rfl

theorem rowChange_backs (keeps : keepsHeldKeys world (.plane event) = true) {old new : Row}
    (member : old ∈ world.plane.tables.rows) (change : RowChange world.plane event old new)
    (held : pair ∈ world.held old.serverId) (live : old.live = true)
    (runtime : old.runtime = .wireguardPeer pair.1 pair.2) :
    new.live = true ∧ new.runtime = .wireguardPeer pair.1 pair.2 := by
  have holds : world.holdsKey old.serverId pair.1 = true := any_eq_true.mpr ⟨pair, held, by simp⟩
  have unreleased : ¬ world.keyReleased old = true := by
    simp [World.keyReleased, keyOfRow, runtime, holds]
  cases change with
  | kept => exact ⟨live, runtime⟩
  | reconnected task connect _ happened found active device server kind =>
    subst happened
    simp only [keepsHeldKeys, found, all_eq_true] at keeps
    have kept := keeps old member
    simp only [active, kind, device, server, beq_self_eq_true, Bool.and_self, Bool.not_true,
      Bool.false_or, Bool.or_eq_true, beq_iff_eq] at kept
    rcases kept with same | released
    · refine ⟨reconnectedRow_live, ?_⟩
      cases key : connect.publicKey with
      | none => simp [reconnectedRow, key, runtime]
      | some adopted =>
        have sameKey : adopted = pair.1 := by
          simpa [reconnectedRow, key, runtime, keyOfRow] using same
        simp [reconnectedRow, key, runtime, sameKey]
    · exact absurd released unreleased
  | marked => exact ⟨rfl, runtime⟩
  | recovered task now check observed _ happened found target stuck =>
    subst happened
    simp only [keepsHeldKeys, found, all_eq_true] at keeps
    have kept := keeps old member
    unfold recoveredRow
    split
    · exact ⟨rfl, runtime⟩
    have revoking : old.state = .revoking := by
      cases here : old.state <;> simp_all [ProvisioningState.stuck]
    simp only [target, revoking, beq_self_eq_true, Bool.and_self, Bool.not_true,
      Bool.false_or] at kept
    exact absurd kept unreleased
  | finalized _ _ written same =>
    refine ⟨?_, by rw [same.runtime, runtime]⟩
    by_contra dead
    have final : new.state.live = false := by simpa [Row.live] using dead
    have kept : ∀ row ∈ world.plane.tables.rows,
        (!(row.id == old.id && row.live) || world.keyReleased row) = true := by
      have checked : (match finalizes world.plane event with
          | some (id, final) =>
            final.live || world.plane.tables.rows.all fun row =>
              !(row.id == id && row.live) || world.keyReleased row
          | none => true) = true := by
        cases event with
        | finalize | repairFinalize => exact keeps
        | _ => simp [finalizes] at written
      simp only [written, final, Bool.false_or, all_eq_true] at checked
      exact checked
    have released := kept old member
    simp only [live, beq_self_eq_true, Bool.and_self, Bool.not_true, Bool.false_or] at released
    exact unreleased released

theorem advances_backed (keeps : keepsHeldKeys world (.plane event) = true)
    (advances : Advances world next event) (held : pair ∈ world.held serverId)
    (backed : Backed world.plane.tables serverId pair) :
    Backed next.plane.tables serverId pair := by
  obtain ⟨row, member, live, server, runtime⟩ := backed
  obtain ⟨change, added, rows, changes, _⟩ := step_rows advances.taken
  subst server
  have kept := rowChange_backs keeps member (changes row member) held live runtime
  refine ⟨change row, ?_, kept.1, (changes row member).identity.serverId, kept.2⟩
  rw [rows]
  exact mem_append_left _ (mem_map.mpr ⟨row, member, rfl⟩)

theorem repairBegin_keepsRow {state : State} {task : TaskId} {now : Instant} {old new : Row}
    (change : RowChange state (.repairBegin task now) old new) (live : old.live = true) :
    new.live = true ∧ new.runtime = old.runtime := by
  cases change with
  | kept => exact ⟨live, rfl⟩
  | reconnected _ _ _ happened | recovered _ _ _ _ _ happened => cases happened
  | marked => exact ⟨rfl, rfl⟩
  | finalized _ _ written => cases written

theorem callPeer_operate {request : AgentRequest}
    (asked : callPeer (.operate request) = some pair) :
    request.operationKind = .provisionDevice ∧ request.runtime = .wireguardPeer pair.1 pair.2 := by
  simp only [callPeer] at asked
  split at asked
  · rename_i provides runtime
    cases asked
    exact ⟨provides, runtime⟩
  · cases asked

theorem start_backed (keeps : keepsHeldKeys world (.plane event) = true)
    (advances : Advances world next event) {id : TaskId} {task : Task}
    (start : TaskStart world.plane event next.plane.tables id task) {call : AgentCall}
    (calls : task.outgoing = some (serverId, call)) (asked : callPeer call = some pair) :
    Backed next.plane.tables serverId pair := by
  have repaired : ∀ check now, event = .repairBegin id now →
      world.plane.task id = some (.repairing check) → ∀ key,
      callPeer (.operate (check.request key)) = some pair →
      Backed next.plane.tables check.snapshot.serverId pair := by
    intro check now happened found key wanted
    subst happened
    obtain ⟨provides, runtime⟩ := callPeer_operate wanted
    have present : check.wantsPresent = true := by
      by_contra absent
      simp [RowCheck.request, RowCheck.operationKind, absent] at provides
    simp only [keepsHeldKeys, found, present, Bool.not_true, Bool.false_or, any_eq_true,
      Bool.and_eq_true, beq_iff_eq] at keeps
    obtain ⟨row, member, ⟨live, server⟩, same⟩ := keeps
    obtain ⟨change, added, rows, changes, _⟩ := step_rows advances.taken
    have changed := changes row member
    have kept := repairBegin_keepsRow changed live
    refine ⟨change row, ?_, kept.1, changed.identity.serverId.trans server, ?_⟩
    · rw [rows]
      exact mem_append_left _ (mem_map.mpr ⟨row, member, rfl⟩)
    · exact kept.2.trans (same.trans runtime)
  cases start with
  | reconnecting connect row operation _ _ member _ _ server created _ rewritten =>
    cases calls
    refine ⟨reconnectedRow connect row, ?_, reconnectedRow_live, ?_, ?_⟩
    · rw [rewritten]
      exact mem_writeRow member
    · rw [created]
      unfold reconnectedRow
      split <;> exact server
    · exact (callPeer_operate asked).2
  | connecting connect address runtime row operation _ _ _ createdRow created _ appended =>
    cases calls
    refine ⟨row, ?_, by rw [createdRow]; rfl, by rw [createdRow, created]; rfl, ?_⟩
    · rw [appended]
      exact mem_append_right _ (mem_singleton.mpr rfl)
    · exact (callPeer_operate asked).2
  | disconnecting request allowed now accepted operation _ _ created _ _ =>
    cases calls
    have provides := (callPeer_operate asked).1
    simp [serviceCall, created, newOperation] at provides
  | resumed received old _ _ _ resumes =>
    cases resumes <;> cases calls
  | probing check _ _ =>
    cases calls
    cases asked
  | takingOver now check operation happened found _
  | repairing now check operation happened found _ _ =>
    cases calls
    exact repaired check now happened found _ asked
  | _ => cases calls

variable (world)

theorem mem_held : pair ∈ world.held serverId ↔
    (∃ peer ∈ interfacePeers (world.agents serverId).interface, keyAddress peer = pair) ∨
      (∃ job ∈ world.jobs, job.envelope.serverId = serverId ∧
        ∃ peer ∈ phasePeers job.phase, keyAddress peer = pair) ∨
      ∃ envelope ∈ world.underWay, envelope.serverId = serverId ∧
        callPeer envelope.call = some pair := by
  simp [World.held, and_assoc]

theorem advances_peersBacked (keeps : keepsHeldKeys world (.plane event) = true)
    (advances : Advances world next event) (backed : PeersBacked world) :
    PeersBacked next where
  sets := by
    constructor
    · intro serverId
      rw [advances.agents]
      constructor
      · intro peer member
        exact advances_backed keeps advances
          ((mem_held world).mpr (.inl ⟨peer, mem_append_left _ member, rfl⟩))
          ((backed.sets.1 serverId).1 peer member)
      · intro peer member
        exact advances_backed keeps advances
          ((mem_held world).mpr (.inl ⟨peer, mem_append_right _ member, rfl⟩))
          ((backed.sets.1 serverId).2 peer member)
    · rw [advances.jobs]
      intro job running peer member
      exact advances_backed keeps advances
        ((mem_held world).mpr (.inr (.inl ⟨job, running, rfl, peer, member, rfl⟩)))
        (backed.sets.2 job running peer member)
  calls := by
    intro envelope member pair asked
    rcases advances_underWay advances member with old | new
    · exact advances_backed keeps advances
        ((mem_held world).mpr (.inr (.inr ⟨envelope, old, rfl, asked⟩)))
        (backed.calls envelope old pair asked)
    · obtain ⟨task, start, calls⟩ := advances_calls advances new
      exact start_backed keeps advances start calls asked
  distinct := by
    constructor
    · rw [advances.agents]
      exact backed.distinct.1
    · rw [advances.jobs]
      exact backed.distinct.2

theorem idle_peersBacked {event : WorldEvent} (taken : world.step event = some next)
    (plane : next.plane = world.plane) (backed : PeersBacked world) : PeersBacked next where
  sets := by
    rw [plane]
    refine step_peerSets ?_ ?_ backed.sets taken
    · intro serverId peer member
      cases member
    intro envelope underWay change changes current own peer member
    rcases mem_desired member with old | ⟨kind, key, address⟩
    · exact own peer old
    have asked := backed.calls envelope underWay
    generalize envelope.call = call at changes asked
    cases call with
    | reconcile => cases changes
    | operate request =>
      simp only [callChange] at changes
      split at changes
      · rename_i publicKey assigned runtime
        cases changes
        have provisions : request.operationKind = .provisionDevice := kind
        apply asked
        rw [keyAddress, key, address]
        simp [callPeer, provisions, runtime, peerChange]
      · cases changes
  calls := by
    rw [plane]
    intro envelope member
    exact backed.calls envelope (step_underWay_of_plane taken plane member)
  distinct := by
    refine step_peerSets ?_ ?_ backed.distinct taken
    · intro _
      exact nodup_nil
    intro envelope _ change _ current distinct
    unfold PeerChange.desired
    split
    · exact upsert_nodup _ distinct
    · exact remove_nodup _ distinct

theorem backed_key {row : Row}
    (runtime : row.runtime = .wireguardPeer (keyAddress peer).1 (keyAddress peer).2) :
    keyOfRow row = some peer.publicKey := by
  simp [keyOfRow, runtime, keyAddress]

theorem noGhosts_of_backed (backed : PeersBacked world) : NoGhosts world := by
  intro _ server _ peer member
  obtain ⟨row, rowMember, live, served, runtime⟩ := (backed.sets.1 server.id).1 peer member
  exact ⟨row, rowMember, served, live, backed_key runtime⟩

theorem peerAddressLive_of_backed {row : Row} (live : row.live = true)
    (runtime : row.runtime = .wireguardPeer pair.1 pair.2) :
    peerAddressLive row = some (row.serverId, pair.2) := by
  simp [peerAddressLive, live, runtime]

theorem addressesDistinct_of_backed (backed : PeersBacked world) : AddressesDistinct world := by
  intro server _
  have keys := (backed.distinct.1 server.id).1
  apply (nodup_map_iff_inj_on (Nodup.of_map _ keys)).mpr
  intro first firstMember second secondMember same
  obtain ⟨row, member, live, served, runtime⟩ := (backed.sets.1 server.id).1 first firstMember
  obtain ⟨other, otherMember, otherLive, otherServed, otherRuntime⟩ :=
    (backed.sets.1 server.id).1 second secondMember
  have oneRow : row = other := by
    apply world.plane.database.consistent.peerAddresses.eq_of_key member otherMember
      (peerAddressLive_of_backed live runtime)
    rw [peerAddressLive_of_backed otherLive otherRuntime, served, otherServed]
    simp [keyAddress, same]
  have oneKey : some first.publicKey = some second.publicKey := by
    rw [← backed_key runtime, ← backed_key otherRuntime, oneRow]
  exact inj_on_of_nodup_map keys firstMember secondMember (Option.some.inj oneKey)

end

structure FreshAgents (world : World) : Prop where
  record : ∀ serverId, (world.agents serverId).interface.record = []
  candidate : ∀ serverId, (world.agents serverId).interface.candidate = none
  net : world.net = []
  jobs : world.jobs = []

theorem peersBacked_of_fresh {world : World} (fresh : FreshAgents world) : PeersBacked world := by
  have idle : world.underWay = [] := by simp [World.underWay, fresh.net, fresh.jobs]
  have sets : ∀ holds : Uuid → Peers → Prop, (∀ serverId, holds serverId []) →
      PeerSets holds world := by
    intro holds empty
    constructor
    · intro serverId
      rw [fresh.record, fresh.candidate]
      exact ⟨empty serverId, empty serverId⟩
    · intro job member
      rw [fresh.jobs] at member
      cases member
  refine ⟨sets _ ?_, ?_, sets _ ?_⟩
  · intro serverId peer member
    cases member
  · intro envelope member
    rw [idle] at member
    cases member
  · intro serverId
    exact nodup_nil

theorem alwaysAlong_of_backed {property : World → Prop}
    (implies : ∀ world, PeersBacked world → property world) {start : World}
    {events : List WorldEvent} (fresh : FreshAgents start)
    (meets : RunMeets World.step (keepsHeldKeys · ·) events start) :
    AlwaysAlong World.step property events start := by
  refine alwaysAlong_of_invariant PeersBacked property ?_ implies (peersBacked_of_fresh fresh) meets
  intro world event next backed keeps taken
  rcases step_plane taken with
    ⟨planeEvent, happened, _, advances, _⟩ | ⟨task, answer, advances, _⟩ | ⟨plane, _⟩
  · subst happened
    exact advances_peersBacked world keeps advances backed
  · exact advances_peersBacked world rfl advances backed
  · exact idle_peersBacked world taken plane backed

theorem freshAgents_smallFleet : FreshAgents smallFleet :=
  ⟨fun _ => rfl, fun _ => rfl, rfl, rfl⟩

/-- While `keepsHeldKeys`, no agent is left with a key of no live row. -/
theorem no_ghost_peers (start : World) (events : List WorldEvent) (fresh : FreshAgents start)
    (meets : RunMeets World.step (keepsHeldKeys · ·) events start) :
    AlwaysAlong World.step NoGhosts events start :=
  alwaysAlong_of_backed noGhosts_of_backed fresh meets

def connectedAndRemoved : List WorldEvent :=
  peerProvisioned ++ [.receive 0, .plane (.finalize 0 11),
    .plane (.disconnect ⟨1, 2, 30, none⟩ true 12), .deliver 1 true,
    .drive 1 (.wireguard .syncApplied), .drive 1 (.wireguard .syncSucceeded), .receive 1,
    .plane (.finalize 1 13)]

theorem no_ghost_peers_connectedAndRemoved :
    RunMeets World.step (keepsHeldKeys · ·) connectedAndRemoved smallFleet ∧
      AlwaysAlong World.step NoGhosts connectedAndRemoved smallFleet :=
  ⟨by decide +kernel,
    no_ghost_peers smallFleet connectedAndRemoved freshAgents_smallFleet (by decide +kernel)⟩

/-- A device connects again with a new key: the row takes it, the agent keeps the old one too. -/
def reconnectedWithNewKey : List WorldEvent :=
  peerProvisioned ++ [.receive 0, .plane (.finalize 0 11),
    .plane (.connectCheck ⟨1, 2, 30, 40, some 8⟩ true 12), .plane (.connectLookup 1),
    .deliver 1 true, .drive 1 (.wireguard .syncApplied), .drive 1 (.wireguard .syncSucceeded),
    .receive 1, .plane (.finalize 1 13)]

theorem ghost_peer_reconnectedWithNewKey :
    ¬ AlwaysAlong World.step NoGhosts reconnectedWithNewKey smallFleet :=
  not_alwaysAlong NoGhosts reconnectedWithNewKey smallFleet (by decide +kernel)

/-- Under the same condition the database's index on live addresses holds at the agents. -/
theorem addresses_distinct (start : World) (events : List WorldEvent)
    (fresh : FreshAgents start)
    (meets : RunMeets World.step (keepsHeldKeys · ·) events start) :
    AlwaysAlong World.step AddressesDistinct events start :=
  alwaysAlong_of_backed addressesDistinct_of_backed fresh meets

def addressReused : List WorldEvent :=
  connectedAndRemoved ++
    [.plane (.connectCheck ⟨1, 2, 30, 40, some 9⟩ true 14), .plane (.connectLookup 2),
      .plane (.connectCommit 2), .deliver 2 true, .drive 2 (.wireguard .syncApplied),
      .drive 2 (.wireguard .syncSucceeded), .receive 2, .plane (.finalize 2 15)]

theorem addresses_distinct_addressReused :
    RunMeets World.step (keepsHeldKeys · ·) addressReused smallFleet ∧
      AlwaysAlong World.step AddressesDistinct addressReused smallFleet :=
  ⟨by decide +kernel,
    addresses_distinct smallFleet addressReused freshAgents_smallFleet (by decide +kernel)⟩

theorem address_shared_reconnectedWithNewKey :
    ¬ AlwaysAlong World.step AddressesDistinct reconnectedWithNewKey smallFleet :=
  not_alwaysAlong AddressesDistinct reconnectedWithNewKey smallFleet
    (by decide +kernel)

end Nebula.Fleet
