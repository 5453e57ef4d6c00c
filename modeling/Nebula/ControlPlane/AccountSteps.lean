import Nebula.ControlPlane.TaskSteps

/-!
# What one step does to the accounts and the topology

The inversion of the step function on users, devices, servers, capabilities and
usage counters. Provisioning and reconciliation only read them.
-/

namespace Nebula.ControlPlane

open Schema Store

structure AccountFrame (before after : Tables) : Prop where
  users : after.users = before.users
  devices : after.devices = before.devices
  servers : after.servers = before.servers
  profiles : after.profiles = before.profiles
  capabilities : after.capabilities = before.capabilities
  usage : after.usage = before.usage

structure StatesWritten (before after : Tables) : Prop where
  users : ∃ write : User → User, after.users = before.users.map write ∧
    ∀ user, ∃ state, write user = { user with state := state }
  devices : ∃ write : Device → Device, after.devices = before.devices.map write ∧
    ∀ device, ∃ state, write device = { device with state := state }
  servers : after.servers = before.servers
  profiles : after.profiles = before.profiles
  capabilities : after.capabilities = before.capabilities
  usage : after.usage = before.usage

inductive AccountsAfter (state : State) (event : Event) (after : Tables) : Prop
  | kept (frame : AccountFrame state.tables after)
  | administered (change : AdminChange) (taken : event = .admin change)
    (written : after = applyAdmin state.tables change)
  | statesWritten (written : StatesWritten state.tables after)
  | recorded (samples : List UsageSample)
    (written : after = (recordUsage state samples).tables)
  | forgotten (gone : List (Protocol × Identity)) (collectedAt : Instant)
    (written : after = (forgetReadings state gone collectedAt).tables)
  | cutOff (task sweep : TaskId) (now : Instant) (userId : Uuid) (account : AccountUsage)
    (taken : event = .cutOff task now)
    (found : state.task task = some (.cuttingOff sweep userId account))
    (written : after = cutOffTables state.tables userId now)
  | granted (task : TaskId) (userId : Uuid) (quotaBytes : Option Nat) (before : AccountUsage)
    (taken : event = .grantCommit task)
    (found : state.task task = some (.granting userId quotaBytes before))
    (written : after = state.tables.writeUser userId (grantedUser quotaBytes before))

theorem provisioned_accounts {state : State} {event : Event} {tables : Tables}
    (provisioned : Provisioned state event tables) : AccountFrame state.tables tables := by
  cases provisioned <;> exact ⟨rfl, rfl, rfl, rfl, rfl, rfl⟩

theorem setDeviceStates_map {selected : Device → Bool} {devices : List Device} :
    ∃ write : Device → Device, setDeviceStates selected devices = devices.map write ∧
      ∀ device, ∃ state, write device = { device with state := state } := by
  refine ⟨_, rfl, ?_⟩
  intro device
  by_cases chosen : selected device = true
  · exact ⟨.revoked, by simp [chosen]⟩
  · exact ⟨device.state, by simp [chosen]⟩

theorem disabledUser_map {userId : Uuid} {users : List User} :
    ∃ write : User → User,
      updateWhere (fun user => user.id == userId)
        (fun user => { user with state := .disabled }) users = users.map write ∧
      ∀ user, ∃ state, write user = { user with state := state } := by
  refine ⟨_, rfl, ?_⟩
  intro user
  by_cases chosen : user.id == userId
  · exact ⟨.disabled, by simp [chosen]⟩
  · exact ⟨user.state, by simp [chosen]⟩

section

variable {state : State}

theorem written_accounts {event : Event} {tables : Tables}
    (written : Written state event tables) : AccountsAfter state event tables := by
  cases written with
  | untouched => exact .kept ⟨rfl, rfl, rfl, rfl, rfl, rfl⟩
  | administered change => exact .administered change rfl rfl
  | lookedUp task planned success =>
    exact .kept (provisioned_accounts (connectLookup_provisioned success))
  | connected task planned success =>
    exact .kept (provisioned_accounts (connectCommit_provisioned success))
  | disconnected request allowed now planned success =>
    exact .kept (provisioned_accounts (disconnect_provisioned success))
  | finalized task now call applied found =>
    exact .kept (provisioned_accounts (finalizeCall_provisioned found))
  | deviceRevoked deviceId now =>
    exact .statesWritten ⟨⟨id, (List.map_id _).symm, fun user => ⟨user.state, rfl⟩⟩,
      setDeviceStates_map, rfl, rfl, rfl, rfl⟩
  | userDisabled userId now =>
    exact .statesWritten ⟨disabledUser_map,
      ⟨id, (List.map_id _).symm, fun device => ⟨device.state, rfl⟩⟩, rfl, rfl, rfl, rfl⟩
  | accountErased userId now =>
    exact .statesWritten ⟨disabledUser_map, setDeviceStates_map, rfl, rfl, rfl, rfl⟩
  | marked => exact .kept ⟨rfl, rfl, rfl, rfl, rfl, rfl⟩
  | recovered task now check observed found =>
    exact .kept (provisioned_accounts (recoverIfStuck_provisioned found))
  | repairBegun task now planned success =>
    exact .kept (provisioned_accounts (repairBegin_provisioned success))
  | repaired task check now succeeded applied found =>
    exact .kept (provisioned_accounts (finalizeRepair_provisioned found))
  | recorded samples => exact .recorded samples rfl
  | forgotten gone collectedAt => exact .forgotten gone collectedAt rfl
  | spent task sweep now userId account found =>
    exact .cutOff task sweep now userId account rfl found rfl
  | granted task userId quotaBytes before found =>
    exact .granted task userId quotaBytes before rfl found rfl

theorem step_accounts {next : State} {event : Event} (taken : step state event = some next) :
    AccountsAfter state event next.tables :=
  written_accounts (step_written taken)

end

/-! ## The topology -/

structure TopologyKept (before after : Tables) : Prop where
  servers : ∃ write : Server → Server, after.servers = before.servers.map write ∧
    ∀ server, ∃ state, write server = { server with state := state }
  profiles : ∃ write : Profile → Profile, after.profiles = before.profiles.map write ∧
    ∀ profile, ∃ state, write profile = { profile with state := state }
  capabilities : ∃ write : Capability → Capability,
    after.capabilities = before.capabilities.map write ∧
      ∀ capability, ∃ state, write capability = { capability with state := state }

theorem topologyKept_of_eq (before after : Tables) (servers : after.servers = before.servers)
    (profiles : after.profiles = before.profiles)
    (capabilities : after.capabilities = before.capabilities) : TopologyKept before after where
  servers := ⟨id, by simp [servers], fun server => ⟨server.state, rfl⟩⟩
  profiles := ⟨id, by simp [profiles], fun profile => ⟨profile.state, rfl⟩⟩
  capabilities := ⟨id, by simp [capabilities], fun capability => ⟨capability.state, rfl⟩⟩

section

variable {state next : State} {event : Event} (taken : step state event = some next)
include taken

theorem step_topology : TopologyKept state.tables next.tables := by
  cases step_accounts taken with
  | kept frame => exact topologyKept_of_eq _ _ frame.servers frame.profiles frame.capabilities
  | administered change _ written =>
    rw [written]
    -- Each of the three switches leaves the other two tables alone.
    have unchanged := topologyKept_of_eq state.tables state.tables rfl rfl rfl
    cases change with
    | setServerState serverId final =>
      refine ⟨⟨_, rfl, ?_⟩, unchanged.profiles, unchanged.capabilities⟩
      intro server
      split
      · exact ⟨final, rfl⟩
      · exact ⟨server.state, rfl⟩
    | setProfileState profileId final =>
      refine ⟨unchanged.servers, ⟨_, rfl, ?_⟩, unchanged.capabilities⟩
      intro profile
      split
      · exact ⟨final, rfl⟩
      · exact ⟨profile.state, rfl⟩
    | setCapabilityState serverId profileId final =>
      refine ⟨unchanged.servers, unchanged.profiles, ⟨_, rfl, ?_⟩⟩
      intro capability
      split
      · exact ⟨final, rfl⟩
      · exact ⟨capability.state, rfl⟩
    | _ => exact topologyKept_of_eq _ _ rfl rfl rfl
  | statesWritten written =>
    exact topologyKept_of_eq _ _ written.servers written.profiles written.capabilities
  | recorded samples written | forgotten gone collectedAt written
  | granted task userId quotaBytes earlier _ _ written =>
    rw [written]
    exact topologyKept_of_eq _ _ rfl rfl rfl
  | cutOff task sweep now userId account _ _ written =>
    rw [written]
    unfold cutOffTables
    split
    · exact topologyKept_of_eq _ _ rfl rfl rfl
    · split <;> exact topologyKept_of_eq _ _ rfl rfl rfl

theorem step_agentCode {profileId : Uuid} :
    (next.tables.profile profileId).map Profile.agentCode =
      (state.tables.profile profileId).map Profile.agentCode := by
  obtain ⟨write, profiles, switched⟩ := (step_topology taken).profiles
  have kept : ∀ profile ∈ state.tables.profiles, (write profile).id = profile.id := by
    intro profile _
    obtain ⟨final, written⟩ := switched profile
    rw [written]
  unfold Tables.profile
  rw [profiles, lookup_map kept, Option.map_map]
  congr 1
  funext profile
  obtain ⟨final, written⟩ := switched profile
  simp [written, Profile.agentCode]

theorem agentProfileCode_step {old new : Row} (kind : new.kind = old.kind)
    (profile : new.profileId = old.profileId) :
    agentProfileCode next.tables new = agentProfileCode state.tables old := by
  unfold agentProfileCode
  rw [kind, profile]
  split
  · rfl
  · exact step_agentCode taken

end

/-! ## One account and one device -/

structure SameAllowance (old new : User) : Prop where
  quota : new.trafficQuotaBytes = old.trafficQuotaBytes
  baseline : new.trafficBaselineBytes = old.trafficBaselineBytes
  exhausted : new.quotaExhaustedAt = old.quotaExhaustedAt

inductive UserChange (state : State) (event : Event) (userId : Uuid) (old new : User) : Prop
  | kept (same : SameAllowance old new)
  | cutOff (task sweep : TaskId) (now : Instant) (account : AccountUsage)
    (taken : event = .cutOff task now)
    (found : state.task task = some (.cuttingOff sweep userId account))
    (unmarked : old.quotaExhaustedAt = none)
    (written : new = { old with quotaExhaustedAt := some now })
  | granted (task : TaskId) (quotaBytes : Option Nat) (before : AccountUsage)
    (taken : event = .grantCommit task)
    (found : state.task task = some (.granting userId quotaBytes before))
    (written : new = grantedUser quotaBytes before old)

section

variable {before after : Tables}

theorem user_map {write : User → User} (kept : ∀ user, (write user).id = user.id)
    (users : after.users = before.users.map write) {userId : Uuid} :
    after.user userId = (before.user userId).map write := by
  unfold Tables.user
  rw [users]
  exact lookup_map fun user _ => kept user

variable (before)

theorem user_writeUser {userId wanted : Uuid} (write : User → User)
    (kept : ∀ user, (write user).id = user.id) :
    (before.writeUser userId write).user wanted =
      (before.user wanted).map fun user => if user.id == userId then write user else user := by
  refine user_map ?_ rfl
  intro user
  split
  · exact kept user
  · rfl

theorem owner_of_eq (devices : after.devices = before.devices) {deviceId : Uuid} :
    after.owner deviceId = before.owner deviceId := by
  simp only [Tables.owner, Tables.device, devices]

theorem cutOffTables_cases {userId : Uuid} {now : Instant} :
    cutOffTables before userId now = before ∨
      ∃ user, before.user userId = some user ∧ user.quotaExhaustedAt = none ∧
        cutOffTables before userId now = markSpent before userId now := by
  unfold cutOffTables
  split
  · exact Or.inl rfl
  rename_i user found
  split
  · exact Or.inl rfl
  · rename_i unmarked
    exact Or.inr ⟨user, found, unmarked, rfl⟩

end

section

variable {state next : State} {event : Event}

variable {userId : Uuid} {user : User}

theorem writeUser_change {event : Event} {target : Uuid} {write : User → User}
    (kept : ∀ user, (write user).id = user.id) (found : state.tables.user userId = some user)
    (own : target = userId → UserChange state event userId user (write user)) :
    ∃ changed, (state.tables.writeUser target write).user userId = some changed ∧
      UserChange state event userId user changed := by
  have named := (lookup_mem found).2
  refine ⟨_, by rw [user_writeUser state.tables write kept, found]; rfl, ?_⟩
  dsimp only
  split
  · rename_i chosen
    exact own (by rw [← named]; exact (beq_iff_eq.mp chosen).symm)
  · exact .kept ⟨rfl, rfl, rfl⟩

section

variable (taken : step state event = some next)
include taken

theorem step_user (found : state.tables.user userId = some user) :
    ∃ changed, next.tables.user userId = some changed ∧
      UserChange state event userId user changed := by
  cases step_accounts taken with
  | kept frame =>
    refine ⟨user, ?_, .kept ⟨rfl, rfl, rfl⟩⟩
    rw [← found]
    simp only [Tables.user, frame.users]
  | administered change _ written =>
    rw [written]
    cases change with
    | createUser added =>
      exact ⟨user, lookup_append_of_some userId found, .kept ⟨rfl, rfl, rfl⟩⟩
    | reactivateUser target =>
      exact writeUser_change (fun _ => rfl) found fun _ => .kept ⟨rfl, rfl, rfl⟩
    | setAccountExpiry target expiresAt =>
      exact writeUser_change (fun _ => rfl) found fun _ => .kept ⟨rfl, rfl, rfl⟩
    | _ => exact ⟨user, found, .kept ⟨rfl, rfl, rfl⟩⟩
  | statesWritten written =>
    obtain ⟨write, users, keptUsers⟩ := written.users
    have keepsId : ∀ user, (write user).id = user.id := by
      intro user
      obtain ⟨_, same⟩ := keptUsers user
      rw [same]
    refine ⟨write user, ?_, ?_⟩
    · rw [user_map keepsId users, found]
      rfl
    · obtain ⟨_, same⟩ := keptUsers user
      rw [same]
      exact .kept ⟨rfl, rfl, rfl⟩
  | recorded samples written | forgotten gone collectedAt written =>
    rw [written]
    exact ⟨user, found, .kept ⟨rfl, rfl, rfl⟩⟩
  | cutOff task sweep now target account happened running written =>
    rw [written]
    rcases cutOffTables_cases state.tables with same | ⟨old, marks, unmarked, same⟩
    · rw [same]
      exact ⟨user, found, .kept ⟨rfl, rfl, rfl⟩⟩
    rw [same]
    refine writeUser_change (fun _ => rfl) found ?_
    intro own
    subst own
    rw [found] at marks
    cases marks
    exact .cutOff task sweep now account happened running unmarked rfl
  | granted task target quotaBytes earlier happened running written =>
    rw [written]
    refine writeUser_change (fun _ => rfl) found ?_
    intro own
    subst own
    exact .granted task quotaBytes earlier happened running rfl

theorem step_users :
    (∃ write : User → User, (∀ user, (write user).id = user.id) ∧
        next.tables.users = state.tables.users.map write) ∨
      ∃ added : User, next.tables.users =
        state.tables.users ++ [{ added with quotaExhaustedAt := none }] := by
  have kept : next.tables.users = state.tables.users →
      ∃ write : User → User, (∀ user, (write user).id = user.id) ∧
        next.tables.users = state.tables.users.map write :=
    fun same => ⟨id, fun _ => rfl, by rw [same, List.map_id]⟩
  have rewritten : ∀ (userId : Uuid) (write : User → User),
      next.tables.users = (state.tables.writeUser userId write).users →
      (∀ user, (write user).id = user.id) →
      ∃ write : User → User, (∀ user, (write user).id = user.id) ∧
        next.tables.users = state.tables.users.map write := by
    intro userId write same keepsId
    refine ⟨_, fun user => ?_, same⟩
    split
    · exact keepsId user
    · rfl
  cases step_accounts taken with
  | kept frame => exact .inl (kept frame.users)
  | administered change _ written =>
    have users := congrArg Tables.users written
    cases change with
    | createUser added => exact .inr ⟨added, users⟩
    | reactivateUser target | setAccountExpiry target =>
      exact .inl (rewritten target _ users fun _ => rfl)
    | _ => exact .inl (kept users)
  | statesWritten written =>
    obtain ⟨write, users, keptUsers⟩ := written.users
    refine .inl ⟨write, fun user => ?_, users⟩
    obtain ⟨_, same⟩ := keptUsers user
    rw [same]
  | recorded samples written | forgotten gone collectedAt written =>
    have users := congrArg Tables.users written
    exact .inl (kept users)
  | cutOff task sweep now target account happened running written =>
    rcases cutOffTables_cases state.tables with same | ⟨_, _, _, same⟩
    · exact .inl (kept (by rw [written, same]))
    · have users := congrArg Tables.users (written.trans same)
      exact .inl (rewritten target _ users fun _ => rfl)
  | granted task target quotaBytes earlier happened running written =>
    exact .inl (rewritten target _ (congrArg Tables.users written) fun _ => rfl)

theorem step_userAdded
    (missing : state.tables.user userId = none) (found : next.tables.user userId = some user) :
    user.quotaExhaustedAt = none := by
  rcases step_users taken with ⟨write, keepsId, users⟩ | ⟨added, users⟩
  · rw [user_map keepsId users, missing] at found
    cases found
  obtain ⟨member, named⟩ := lookup_mem found
  rw [users] at member
  rcases List.mem_append.mp member with old | new
  · obtain ⟨_, looked⟩ := lookup_isSome_of_mem userId _ old named
    cases missing.symm.trans looked
  · rw [List.mem_singleton.mp new]

theorem step_owner {deviceId : Uuid} {device : Device}
    (found : state.tables.device deviceId = some device) :
    next.tables.owner deviceId = state.tables.owner deviceId := by
  cases step_accounts taken with
  | kept frame => exact owner_of_eq state.tables frame.devices
  | administered change _ written =>
    rw [written]
    cases change with
    | registerDevice added =>
      have kept : (applyAdmin state.tables (.registerDevice added)).device deviceId =
          some device :=
        lookup_append_of_some deviceId found
      simp only [Tables.owner, kept, found]
    | _ => rfl
  | statesWritten written =>
    obtain ⟨write, devices, keptDevices⟩ := written.devices
    have kept : ∀ device,
        (write device).id = device.id ∧ (write device).userId = device.userId := by
      intro device
      obtain ⟨_, same⟩ := keptDevices device
      rw [same]
      exact ⟨rfl, rfl⟩
    unfold Tables.owner Tables.device
    rw [devices, lookup_map fun device _ => (kept device).1]
    cases lookup Device.id deviceId state.tables.devices with
    | none => rfl
    | some device => simp [(kept device).2]
  | recorded samples written | forgotten gone collectedAt written
  | granted task target quotaBytes earlier happened running written =>
    rw [written]
    rfl
  | cutOff task sweep now target account happened running written =>
    rw [written]
    rcases cutOffTables_cases state.tables with same | ⟨_, _, _, same⟩
    · rw [same]
    · rw [same]
      rfl

end

end

end Nebula.ControlPlane
