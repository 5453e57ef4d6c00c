import Nebula.ControlPlane.Writes

/-!
# What one step does to the credential rows

The inversion of the step function on the `wireguard_peers` and `xray_clients` rows. A row is
kept, taken up again by a reconnect, marked `revoking`, settled by a recovery or written by a
finalization; only a connect's commit adds one.
-/

namespace Nebula.ControlPlane

open Schema Store List

def finalState : OperationKind → Option Nat → ProvisioningState
  | .provisionDevice, some _ => .active
  | .revokeDevice, some _ => .revoked
  | .provisionDevice, none => .failed
  | .revokeDevice, none => .revoking

def finalizes (state : State) : Event → Option (Uuid × ProvisioningState)
  | .finalize task _ =>
    match state.task task with
    | some (.finalizing call applied) =>
      some (call.request.targetId, finalState call.request.operationKind applied)
    | _ => none
  | .repairFinalize task =>
    match state.task task with
    | some (.repairFinalizing check _ succeeded _) =>
      some (check.snapshot.id, repairState check.wantsPresent succeeded)
    | _ => none
  | _ => none

theorem finalizes_cases {state : State} {event : Event} {id : Uuid} {final : ProvisioningState}
    (written : finalizes state event = some (id, final)) :
    (∃ task now call applied, event = .finalize task now ∧
        state.task task = some (.finalizing call applied) ∧ call.request.targetId = id ∧
        finalState call.request.operationKind applied = final) ∨
      ∃ task check now succeeded applied, event = .repairFinalize task ∧
        state.task task = some (.repairFinalizing check now succeeded applied) ∧
        check.snapshot.id = id ∧ repairState check.wantsPresent succeeded = final := by
  unfold finalizes at written
  split at written
  · rename_i task now
    split at written
    · rename_i call applied found
      cases written
      exact Or.inl ⟨task, now, call, applied, rfl, found, rfl, rfl⟩
    · cases written
  · rename_i task
    split at written
    · rename_i check now succeeded applied found
      cases written
      exact Or.inr ⟨task, check, now, succeeded, applied, rfl, found, rfl, rfl⟩
    · cases written
  · cases written

/-- Everything but the state, the applied generation and the timestamps. -/
structure SameRow (old new : Row) : Prop where
  id : new.id = old.id
  credentialId : new.credentialId = old.credentialId
  deviceId : new.deviceId = old.deviceId
  profileId : new.profileId = old.profileId
  serverId : new.serverId = old.serverId
  runtime : new.runtime = old.runtime

structure RowIdentity (old new : Row) : Prop where
  id : new.id = old.id
  credentialId : new.credentialId = old.credentialId
  deviceId : new.deviceId = old.deviceId
  serverId : new.serverId = old.serverId
  kind : new.kind = old.kind

inductive RowChange (state : State) (event : Event) : Row → Row → Prop
  | kept (row : Row) : RowChange state event row row
  | reconnected (task : TaskId) (connect : Connect) (row : Row)
    (taken : event = .connectLookup task)
    (found : state.task task = some (.connectChecked connect))
    (active : row.state = .active)
    (device : row.deviceId = connect.deviceId)
    (server : row.serverId = connect.server.id)
    (kind : row.kind = connect.kind) :
    RowChange state event row (reconnectedRow connect row)
  | marked (now : Instant) (row : Row) (revocable : row.state.revocable = true) :
    RowChange state event row (revokingRow now row)
  | recovered (task : TaskId) (now : Instant) (check : RowCheck) (observed : Option Nat)
    (row : Row) (taken : event = .recover task now)
    (found : state.task task = some (.recovering check observed))
    (target : row.id = check.snapshot.id) (stuck : row.state.stuck = true) :
    RowChange state event row (recoveredRow observed now row)
  | finalized (old new : Row) (written : finalizes state event = some (old.id, new.state))
    (same : SameRow old new) : RowChange state event old new

structure SameCredential (old new : Credential) : Prop where
  id : new.id = old.id
  deviceId : new.deviceId = old.deviceId
  readable : new.readable = old.readable

def CallOwned (tables : Tables) (call : ServiceCall) : Prop :=
  ∃ row ∈ tables.rows, row.id = call.request.targetId ∧ row.credentialId = call.credentialId

def Task.service : Task → Option ServiceCall
  | .calling call | .finalizing call _ => some call
  | _ => none

inductive Provisioned (state : State) (event : Event) : Tables → Prop
  | operations (operations : List Operation) :
    Provisioned state event { state.tables with operations := operations }
  | rewritten (row : Row) (credentialId : Uuid) (write : Row → Row)
    (writeCredential : Credential → Credential) (operations : List Operation)
    (member : row ∈ state.tables.rows) (change : RowChange state event row (write row))
    (same : ∀ credential, SameCredential credential (writeCredential credential))
    (together : ∀ credential, (writeCredential credential).state = (write row).state)
    (owned : (∀ entry ∈ state.tasks, ∀ call ∈ entry.2.service, CallOwned state.tables call) →
      credentialId = row.credentialId) :
    Provisioned state event
      { (state.tables.writeRow row.id write).writeCredential credentialId writeCredential with
        operations := operations }
  | inserted (task : TaskId) (connect : Connect) (address : Option IPAddress) (runtime : Runtime)
    (operations : List Operation) (taken : event = .connectCommit task)
    (found : state.task task = some (.connectAllocated connect address))
    (created : newRuntime connect address (state.nextUuid + 4) = some runtime) :
    Provisioned state event
      { state.tables with
        rows := state.tables.rows ++
          [newRow connect (state.nextUuid + 1) state.nextUuid runtime]
        credentials := state.tables.credentials ++ [newCredential connect state.nextUuid]
        operations := operations }

def RowAdded (state : State) (event : Event) (row : Row) : Prop :=
  ∃ task connect address runtime,
    event = .connectCommit task ∧
    state.task task = some (.connectAllocated connect address) ∧
    newRuntime connect address (state.nextUuid + 4) = some runtime ∧
    row = newRow connect (state.nextUuid + 1) state.nextUuid runtime

def RowsAfter (state : State) (event : Event) (rows : List Row) : Prop :=
  ∃ change added,
    rows = state.tables.rows.map change ++ added ∧
    (∀ row ∈ state.tables.rows, RowChange state event row (change row)) ∧
    (∀ row ∈ added, RowAdded state event row) ∧
    added.length ≤ 1

section

variable (state : State) (event : Event)

theorem recoveredRow_same (observed : Option Nat) (now : Instant) (row : Row) :
    SameRow row (recoveredRow observed now row) := by
  unfold recoveredRow
  split <;> exact ⟨rfl, rfl, rfl, rfl, rfl, rfl⟩

theorem reconnectedRow_identity {connect : Connect} {row : Row} :
    RowIdentity row (reconnectedRow connect row) := by
  unfold reconnectedRow
  split
  · rename_i found
    exact ⟨rfl, rfl, rfl, rfl, by simp [Row.kind, found, Runtime.kind]⟩
  · exact ⟨rfl, rfl, rfl, rfl, rfl⟩

theorem SameRow.identity {old new : Row} (same : SameRow old new) : RowIdentity old new :=
  ⟨same.id, same.credentialId, same.deviceId, same.serverId, congrArg Runtime.kind same.runtime⟩

theorem RowChange.identity {old new : Row} (change : RowChange state event old new) :
    RowIdentity old new := by
  cases change with
  | kept | marked => exact ⟨rfl, rfl, rfl, rfl, rfl⟩
  | reconnected => exact reconnectedRow_identity
  | recovered => exact (recoveredRow_same _ _ _).identity
  | finalized _ _ _ same => exact same.identity

/-- Nothing but a finalization makes a row live again. -/
theorem RowChange.was_live {state : State} {event : Event} {old new : Row}
    (change : RowChange state event old new) (live : new.live = true) :
    old.live = true ∨ finalizes state event = some (old.id, new.state) := by
  cases change with
  | kept => exact Or.inl live
  | reconnected _ _ _ _ _ active =>
    exact Or.inl (by simp [Row.live, active, ProvisioningState.live])
  | marked _ _ revocable => exact Or.inl (revocable_live revocable)
  | recovered _ _ _ _ _ _ _ _ stuck =>
    left
    unfold Row.live
    cases was : old.state <;> simp_all [ProvisioningState.stuck, ProvisioningState.live]
  | finalized _ _ written => exact Or.inr written

theorem newRuntime_kind {connect : Connect} {address : Option IPAddress} {uuid : Uuid}
    {runtime : Runtime} (created : newRuntime connect address uuid = some runtime) :
    runtime.kind = connect.kind := by
  unfold newRuntime at created
  unfold Connect.kind
  cases key : connect.publicKey with
  | none =>
    rw [key] at created
    cases created
    rfl
  | some publicKey =>
    rw [key] at created
    cases address with
    | none => cases created
    | some assigned =>
      cases created
      rfl

theorem mem_writeRow {tables : Tables} {row : Row} {write : Row → Row}
    (member : row ∈ tables.rows) : write row ∈ (tables.writeRow row.id write).rows :=
  mem_map.mpr ⟨row, member, by simp⟩

theorem rowsAfter_same : RowsAfter state event state.tables.rows := by
  refine ⟨id, [], by simp, ?_, by simp, by simp⟩
  intro row member
  exact .kept row

variable {state}

theorem rowsAfter_updateWhere (selected : Row → Bool) (write : Row → Row)
    (changes : ∀ row ∈ state.tables.rows, selected row = true →
      RowChange state event row (write row)) :
    RowsAfter state event (updateWhere selected write state.tables.rows) := by
  refine ⟨fun row => if selected row then write row else row, [], ?_, ?_, by simp, by simp⟩
  · simp [updateWhere]
  intro row member
  by_cases chosen : selected row = true
  · simp only [chosen, if_true]
    exact changes row member chosen
  · simp only [chosen]
    exact .kept row

theorem row_unique (row other : Row) (member : row ∈ state.tables.rows)
    (otherMember : other ∈ state.tables.rows) (same : row.id = other.id) : row = other :=
  inj_on_of_nodup_map state.database.consistent.rowIds member otherMember same

end

/-! ## Service steps -/

section

variable {state : State}

variable {tables : Tables} {kind : TargetKind} {deviceId serverId : Uuid}

theorem liveRowOf_spec {profileId : Option Uuid} {row : Row}
    (found : liveRowOf tables kind deviceId serverId profileId = some row) :
    row ∈ tables.rows ∧ row.kind = kind ∧ row.deviceId = deviceId ∧
      row.serverId = serverId ∧ row.live = true := by
  have member := mem_of_find?_eq_some found
  have selected := find?_some found
  simp only [Bool.and_eq_true, beq_iff_eq] at selected
  obtain ⟨⟨⟨⟨kinds, devices⟩, servers⟩, live⟩, _⟩ := selected
  exact ⟨member, kinds, devices, servers, live⟩

variable {allowed : Bool} {now : Instant}

theorem connectChecks_spec {request : ConnectRequest}
    {connect : Connect} (accepted : connectChecks tables request allowed now = .ok connect) :
    requireActiveServer tables request.serverCode connect.profile.id =
      .ok (connect.server, connect.capability) := by
  unfold connectChecks at accepted
  simp only [bind, Except.bind, pure, Except.pure, throw, throwThe, MonadExceptOf.throw] at accepted
  repeat' split at accepted
  all_goals cases accepted
  rename_i servers _ _ _ _ _ _
  exact servers

theorem connectChecks_profile {tables : Tables} {request : ConnectRequest} {allowed : Bool}
    {now : Instant} {connect : Connect}
    (accepted : connectChecks tables request allowed now = .ok connect) :
    connect.profile ∈ tables.profiles := by
  have required : requireProfile tables request.protocolProfileCode = .ok connect.profile := by
    unfold connectChecks at accepted
    simp only [bind, Except.bind, pure, Except.pure, throw, throwThe, MonadExceptOf.throw]
      at accepted
    repeat' split at accepted
    all_goals cases accepted
    assumption
  unfold requireProfile at required
  split at required
  · rename_i profile found
    cases required
    exact mem_of_find?_eq_some found
  · cases required

theorem requireActiveServer_spec {code : ServerCode} {profileId : Uuid} {server : Server}
    {capability : Capability}
    (accepted : requireActiveServer tables code profileId = .ok (server, capability)) :
    server ∈ tables.servers ∧ capability ∈ tables.capabilities ∧
      capability.serverId = server.id ∧ capability.profileId = profileId := by
  unfold requireActiveServer at accepted
  split at accepted
  · cases accepted
  rename_i found byCode
  split at accepted
  · cases accepted
  · cases accepted
  split at accepted
  · rename_i offered byPair
    split at accepted
    · cases accepted
      have selected := find?_some byPair
      simp only [Bool.and_eq_true, beq_iff_eq] at selected
      exact ⟨mem_of_find?_eq_some byCode, mem_of_find?_eq_some byPair, selected.1, selected.2⟩
    · cases accepted
  · cases accepted

inductive LookedUp (state : State) (task : TaskId) : Plan → Prop
  | ended : LookedUp state task (endTask state.tables task)
  | reconnected (connect : Connect) (row : Row) (credential : Credential) (operation : Operation)
    (found : state.task task = some (.connectChecked connect)) (member : row ∈ state.tables.rows)
    (active : row.state = .active) (kind : row.kind = connect.kind)
    (device : row.deviceId = connect.deviceId) (server : row.serverId = connect.server.id)
    (profile : connect.kind = .xrayClient → row.profileId = connect.profile.id)
    (held : state.tables.credential row.credentialId = some credential)
    (opened : operation = newOperation state.nextUuid (state.nextUuid + 1) connect.server.id
      .provisionDevice row (row.appliedGeneration + 1) 0 connect.now) :
    LookedUp state task
      ⟨((state.tables.writeRow row.id (reconnectedRow connect)).writeCredential
          credential.id (reconnectedCredential connect)).addOperation operation,
        some task,
        some (.calling (serviceCall operation (reconnectedRow connect row)
          connect.profileCode)),
        []⟩
  | allocated (connect : Connect) (address : Option IPAddress)
    (found : state.task task = some (.connectChecked connect))
    (free : state.allocationHeld connect.kind connect.server.id = false)
    (accepted : allocate state.tables connect = .ok address) :
    LookedUp state task ⟨state.tables, some task, some (.connectAllocated connect address), []⟩

variable {planned : Plan} {task : TaskId}

theorem connectLookup_cases
    (success : connectLookup state task = some planned) : LookedUp state task planned := by
  unfold connectLookup at success
  split at success
  swap
  · cases success
  rename_i connect found
  split at success
  · rename_i row live
    obtain ⟨member, kind, device, server, _⟩ := liveRowOf_spec live
    have profile : connect.kind = .xrayClient → row.profileId = connect.profile.id := by
      intro xray
      rw [xray] at live
      have selected := find?_some live
      simp only [Bool.and_eq_true, beq_iff_eq, Option.all_some] at selected
      exact selected.2
    cases success
    unfold reconnect
    split
    · exact .ended
    rename_i active
    split
    · exact .ended
    rename_i credential held
    split
    · exact .ended
    · exact .reconnected connect row credential _ found member (by simpa using active) kind
        device server profile held rfl
  · obtain ⟨free, success⟩ := Option.ite_none_left_eq_some.mp success
    split at success
    · rename_i address accepted
      cases success
      exact .allocated connect address found (by simpa using free) accepted
    · cases success
      exact .ended

theorem connectLookup_provisioned (success : connectLookup state task = some planned) :
    Provisioned state (.connectLookup task) planned.tables := by
  cases connectLookup_cases success with
  | ended | allocated => exact .operations _
  | reconnected connect row credential _ found member active kind device server _ held =>
    refine .rewritten row credential.id (reconnectedRow connect)
      (reconnectedCredential connect) _ member ?_
      (fun _ => by unfold reconnectedCredential; split <;> exact ⟨rfl, rfl, rfl⟩) ?_ ?_
    · exact .reconnected task connect row rfl found active device server kind
    · intro _
      unfold reconnectedRow reconnectedCredential
      split <;> split <;> rfl
    · exact fun _ => (lookup_mem held).2

theorem connectCommit_provisioned (success : connectCommit state task = some planned) :
    Provisioned state (.connectCommit task) planned.tables := by
  unfold connectCommit at success
  split at success
  · rename_i connect address found
    split at success
    · cases success
    · rename_i runtime created
      cases success
      exact .inserted task connect address runtime _ rfl found created
  · cases success

theorem disconnectChecks_spec {request : DisconnectRequest} {accepted : Disconnect}
    (success : disconnectChecks tables request allowed = .ok accepted) :
    ∃ deviceId profileId,
      liveRowOf tables (disconnectKind accepted.profile) deviceId accepted.server.id profileId =
        some accepted.row ∧
      accepted.row.state = .active ∧
      tables.credential accepted.row.credentialId = some accepted.credential := by
  unfold disconnectChecks at success
  simp only [bind, Except.bind, pure, Except.pure, throw, throwThe, MonadExceptOf.throw] at success
  repeat' split at success
  all_goals cases success
  rename_i device _ _ server _ _ profile _ _ found rows
  refine ⟨device.id, profile.map Profile.id, ?_⟩
  unfold requireActiveRow at rows
  split at rows
  · cases rows
  rename_i found
  split at rows
  · cases rows
  rename_i active
  split at rows
  · cases rows
  rename_i owned
  split at rows
  · cases rows
  · cases rows
    exact ⟨found, by simpa using active, owned⟩

theorem disconnect_provisioned {request : DisconnectRequest}
    (success : disconnect state request allowed now = some planned) :
    Provisioned state (.disconnect request allowed now) planned.tables := by
  unfold disconnect at success
  split at success
  · cases success
  split at success
  · rename_i accepted checks
    obtain ⟨deviceId, profileId, live, active, held⟩ := disconnectChecks_spec checks
    cases success
    refine .rewritten accepted.row accepted.credential.id (revokingRow now) _ _
      (liveRowOf_spec live).1 ?_ (fun _ => ⟨rfl, rfl, rfl⟩) (fun _ => rfl) ?_
    · exact .marked now accepted.row (by rw [active]; rfl)
    · exact fun _ => (lookup_mem held).2
  · cases success
    exact .operations _

theorem repairBegin_provisioned (success : repairBegin state task now = some planned) :
    Provisioned state (.repairBegin task now) planned.tables := by
  unfold repairBegin at success
  repeat' split at success
  all_goals cases success
  all_goals exact .operations _

end

section

variable {state : State}

theorem writeTriple_provisioned {event : Event} {call : ServiceCall} {write : Row → Row}
    {credential : Credential → Credential} {operation : Operation → Operation}
    {final : ProvisioningState} {entry : TaskId × Task} (held : entry ∈ state.tasks)
    (service : entry.2.service = some call)
    (written : finalizes state event = some (call.request.targetId, final))
    (reaches : ∀ row, (write row).state = final) (sameRow : ∀ row, SameRow row (write row))
    (same : ∀ old, SameCredential old (credential old))
    (together : ∀ old, (credential old).state = final) :
    Provisioned state event
      ((writeTriple state.tables call write credential operation).getD state.tables) := by
  unfold writeTriple
  split
  swap
  · exact .operations _
  rename_i row _ _ present _ _
  obtain ⟨member, target⟩ := lookup_mem present
  rw [← target]
  refine .rewritten row call.credentialId write credential _ member ?_ same ?_ ?_
  · refine .finalized row (write row) ?_ (sameRow row)
    rw [written, reaches, target]
  · exact fun old => (together old).trans (reaches row).symm
  · intro owned
    obtain ⟨other, otherMember, named, paired⟩ := owned entry held call service
    rw [row_unique row other member otherMember (target.trans named.symm), paired]

variable {task : TaskId} {applied : Option Nat}

theorem finalizeCall_provisioned {now : Instant} {call : ServiceCall}
    (found : state.task task = some (.finalizing call applied)) :
    Provisioned state (.finalize task now)
      ((finalizeCall state.tables call applied now).getD state.tables) := by
  have written : finalizes state (.finalize task now) =
      some (call.request.targetId, finalState call.request.operationKind applied) := by
    simp [finalizes, found]
  unfold finalizeCall
  cases kind : call.request.operationKind <;>
  · rw [kind] at written
    cases applied <;>
    · exact writeTriple_provisioned (task_mem found) rfl written (fun _ => rfl)
        (fun _ => ⟨rfl, rfl, rfl, rfl, rfl, rfl⟩) (fun _ => ⟨rfl, rfl, rfl⟩) (fun _ => rfl)

theorem finishRunning_operations_only {tables : Tables} {row : Row} {final : OperationState}
    {now : Instant} :
    ∃ operations,
      finishRunning tables row final now = { tables with operations := operations } := by
  unfold finishRunning
  split
  · exact ⟨_, rfl⟩
  · exact ⟨tables.operations, rfl⟩

theorem repairedRow_state (wantsPresent succeeded : Bool) (applied : Option Nat) (now : Instant)
    (row : Row) :
    (repairedRow wantsPresent succeeded applied now row).state =
      repairState wantsPresent succeeded := by
  cases wantsPresent <;> cases succeeded <;> rfl

theorem repairedRow_same {wantsPresent succeeded : Bool} {applied : Option Nat} {now : Instant}
    {row : Row} : SameRow row (repairedRow wantsPresent succeeded applied now row) := by
  cases wantsPresent <;> cases succeeded <;> exact ⟨rfl, rfl, rfl, rfl, rfl, rfl⟩

theorem finalizeRepair_provisioned {check : RowCheck} {now : Instant} {succeeded : Bool}
    (found : state.task task = some (.repairFinalizing check now succeeded applied)) :
    Provisioned state (.repairFinalize task)
      (finalizeRepair state.tables check succeeded applied now) := by
  unfold finalizeRepair
  split
  · exact .operations _
  rename_i row present
  obtain ⟨member, target⟩ := lookup_mem present
  obtain ⟨operations, finished⟩ := finishRunning_operations_only
  rw [finished]
  refine .rewritten row row.credentialId _ _ operations member ?_
    (fun _ => by unfold repairedCredential; split <;> exact ⟨rfl, rfl, rfl⟩) ?_ fun _ => rfl
  · refine .finalized row _ ?_ repairedRow_same
    simp [finalizes, found, repairedRow_state, target]
  intro credential
  rw [repairedRow_state]
  unfold repairedCredential
  split <;> simp_all

theorem recoverIfStuck_provisioned {now : Instant} {check : RowCheck}
    {observed : Option Nat} (found : state.task task = some (.recovering check observed)) :
    Provisioned state (.recover task now)
      (recoverIfStuck state.tables check observed now) := by
  unfold recoverIfStuck
  split
  · exact .operations _
  rename_i fresh present
  obtain ⟨member, target⟩ := lookup_mem present
  split
  swap
  · exact .operations _
  rename_i stuck
  obtain ⟨operations, finished⟩ := finishRunning_operations_only
  rw [finished]
  refine .rewritten fresh fresh.credentialId _ _ operations member ?_
    (fun _ => by unfold recoveredCredential; split <;> exact ⟨rfl, rfl, rfl⟩) ?_ fun _ => rfl
  · exact .recovered task now check observed fresh rfl found target stuck
  · intro credential
    unfold recoveredCredential recoveredRow
    split <;> rfl

end

section

variable {state : State}

inductive CredentialWrite (state : State) (event : Event) (tables : Tables) : Prop
  | provisioned (service : Provisioned state event tables)
  | marked (selected : Row → Bool) (now : Instant)
    (rows : tables.rows = (markRevoking selected now state.tables).rows)
    (credentials : tables.credentials = (markRevoking selected now state.tables).credentials)
  | resealed (credentialId : Uuid) (readable : Bool)
    (taken : event = .admin (.setReadable credentialId readable))
    (written : tables = applyAdmin state.tables (.setReadable credentialId readable))
  | beside (rows : tables.rows = state.tables.rows)
    (credentials : tables.credentials = state.tables.credentials)

theorem written_kinds {event : Event} {tables : Tables} (written : Written state event tables) :
    CredentialWrite state event tables := by
  cases written with
  | administered change =>
    cases change with
    | setReadable credentialId readable => exact .resealed credentialId readable rfl rfl
    | _ => exact .beside rfl rfl
  | lookedUp task planned success => exact .provisioned (connectLookup_provisioned success)
  | connected task planned success => exact .provisioned (connectCommit_provisioned success)
  | disconnected request allowed now planned success =>
    exact .provisioned (disconnect_provisioned success)
  | finalized task now call applied found =>
    exact .provisioned (finalizeCall_provisioned found)
  | deviceRevoked _ now | userDisabled _ now | accountErased _ now | marked _ _ now =>
    exact .marked _ now rfl rfl
  | recovered task now check observed found =>
    exact .provisioned (recoverIfStuck_provisioned found)
  | repairBegun task now planned success => exact .provisioned (repairBegin_provisioned success)
  | repaired task check now succeeded applied found =>
    exact .provisioned (finalizeRepair_provisioned found)
  | spent task sweep now userId account found =>
    unfold cutOffTables
    split
    · exact .beside rfl rfl
    · split
      · exact .beside rfl rfl
      · exact .marked _ now rfl rfl
  | untouched | recorded | forgotten | granted => exact .beside rfl rfl

theorem written_rows {event : Event} {tables : Tables} (written : Written state event tables) :
    RowsAfter state event tables.rows := by
  cases written_kinds written with
  | provisioned service =>
    cases service with
    | operations => exact rowsAfter_same state event
    | rewritten row _ write _ _ member change =>
      apply rowsAfter_updateWhere
      intro other otherMember chosen
      rw [row_unique other row otherMember member (by simpa using chosen)]
      exact change
    | inserted task connect address runtime _ taken found created =>
      refine ⟨id, [newRow connect (state.nextUuid + 1) state.nextUuid runtime], by simp,
        fun row _ => .kept row, ?_, by simp⟩
      intro row member
      exact ⟨task, connect, address, runtime, taken, found, created, mem_singleton.mp member⟩
  | marked selected now rows =>
    rw [rows]
    apply rowsAfter_updateWhere
    intro row member chosen
    simp only [Bool.and_eq_true] at chosen
    exact .marked now row chosen.2
  | resealed _ _ _ written =>
    rw [written]
    exact rowsAfter_same state event
  | beside rows =>
    rw [rows]
    exact rowsAfter_same state event

section

variable {next : State} {event : Event} (taken : step state event = some next)
include taken

theorem step_rows : RowsAfter state event next.tables.rows :=
  written_rows (step_written taken)

theorem step_row {id : Uuid} {row : Row} (found : state.tables.row id = some row) :
    ∃ changed, next.tables.row id = some changed ∧ RowChange state event row changed := by
  obtain ⟨change, added, rows, changes, _⟩ := step_rows taken
  obtain ⟨member, _⟩ := lookup_mem found
  refine ⟨change row, ?_, changes row member⟩
  have kept : ∀ record ∈ state.tables.rows, (change record).id = record.id := by
    intro record recordMember
    exact (changes record recordMember).identity.id
  unfold Tables.row
  rw [rows]
  apply lookup_append_of_some
  rw [lookup_map kept]
  unfold Tables.row at found
  rw [found]
  rfl

theorem step_rowChange
    {old new : Row} (oldMember : old ∈ state.tables.rows) (newMember : new ∈ next.tables.rows)
    (same : new.id = old.id) : RowChange state event old new := by
  obtain ⟨change, added, rows, changes, _⟩ := step_rows taken
  have kept : change old ∈ next.tables.rows := by
    rw [rows]
    exact mem_append_left _ (mem_map_of_mem oldMember)
  have changed := changes old oldMember
  have one := row_unique (change old) new kept newMember (changed.identity.id.trans same.symm)
  rw [one] at changed
  exact changed

end

end

end Nebula.ControlPlane
