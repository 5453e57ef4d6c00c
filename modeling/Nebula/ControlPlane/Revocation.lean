import Nebula.ControlPlane.Service

/-!
# Taking access away

Every path that marks credentials `revoking` without calling an agent:
`provisioning/revocation.py` and its callers, the expiry pass and the orphan
marking of a reconciliation pass. Each is one transaction.
-/

namespace Nebula.ControlPlane

open Schema Store

/-- `revoke_credential_row` on the selected rows that are not yet on their way out. -/
def markRevoking (selected : Row → Bool) (now : Instant) (tables : Tables) : Tables :=
  { tables with
    rows := updateWhere (fun row => selected row && row.state.revocable) (revokingRow now)
      tables.rows
    credentials := updateWhere
      (fun credential => tables.rows.any fun row =>
        selected row && row.state.revocable && row.credentialId == credential.id)
      (fun credential => { credential with state := .revoking })
      tables.credentials }

def revokeDeviceCredentials (deviceId : Uuid) (now : Instant) (tables : Tables) : Tables :=
  markRevoking (fun row => row.deviceId == deviceId) now tables

variable (tables : Tables)

def deviceIdsOf (userId : Uuid) : List Uuid :=
  (tables.devices.filter fun device => device.userId == userId).map Device.id

/-- The loop of `disable_user`, `_cut_off` and the erasure over an account's devices. -/
def revokeAccountCredentials (userId : Uuid) (now : Instant) (tables : Tables) : Tables :=
  markRevoking (fun row => (deviceIdsOf tables userId).contains row.deviceId) now tables

def setDeviceStates (selected : Device → Bool) (devices : List Device) : List Device :=
  updateWhere selected (fun device => { device with state := .revoked }) devices

variable (state : State) (userId : Uuid) (now : Instant)

def revokeDevice (deviceId : Uuid) (now : Instant) : Option Plan :=
  if state.deviceHeld deviceId then none
  else match state.tables.device deviceId with
    | some ⟨_, _, .active⟩ =>
      let written := revokeDeviceCredentials deviceId now state.tables
      some ⟨{ written with
          devices := setDeviceStates (fun device => device.id == deviceId) written.devices },
        none, none, []⟩
    | _ => some ⟨state.tables, none, none, []⟩

def disableUser : Plan :=
  match (state.tables.user userId).map User.state with
  | some .active | some .suspended =>
    ⟨(revokeAccountCredentials userId now state.tables).writeUser userId fun user =>
        { user with state := .disabled },
      none, none, []⟩
  | _ => ⟨state.tables, none, none, []⟩

def logout (deviceId : Uuid) (now : Instant) : Plan :=
  ⟨revokeDeviceCredentials deviceId now state.tables, none, none, []⟩

/-- `account_erasure`: credentials, devices and grants of the account. -/
def eraseAccount : Option Plan :=
  if (deviceIdsOf state.tables userId).any state.deviceHeld then none
  else
    let written := (revokeAccountCredentials userId now state.tables).writeUser userId fun user =>
      { user with state := .disabled }
    some ⟨{ written with
        devices := setDeviceStates (fun device => device.userId == userId) written.devices
        permissions := written.permissions.filter fun permission => permission.userId != userId
        assignments := written.assignments.filter fun assignment => assignment.userId != userId },
      none, none, []⟩

def hasAssignment (userId serverId : Uuid) (now : Instant) : Bool :=
  tables.assignments.any fun assignment =>
    assignment.userId == userId && assignment.serverId == serverId && assigned now assignment

def hasPermission (userId profileId : Uuid) (now : Instant) : Bool :=
  tables.permissions.any fun permission =>
    permission.userId == userId && permission.profileId == profileId && permitted now permission

/-- `_lapsed`: a row whose grant no longer holds. -/
def lapsed (row : Row) : Bool :=
  match tables.device row.deviceId with
  | none => false
  | some device =>
    match tables.user device.userId with
    | none => false
    | some user =>
      user.state != .active || !unexpired user.expiresAt now || device.state == .revoked ||
        !hasAssignment tables user.id row.serverId now ||
        !hasPermission tables user.id row.profileId now

def enforceAccessExpiry : Plan :=
  ⟨markRevoking (lapsed state.tables now) now state.tables, none, none, []⟩

def orphaned (row : Row) : Bool :=
  match tables.device row.deviceId with
  | none => false
  | some device =>
    match tables.user device.userId with
    | none => false
    | some user => device.state == .revoked || user.state == .disabled

def markOrphanedRevoking (kind : TargetKind) (now : Instant) (tables : Tables) : Tables :=
  markRevoking (fun row => row.kind == kind && orphaned tables row) now tables

inductive AdminChange where
  | createUser (user : User)
  | registerDevice (device : Device)
  | reactivateUser (userId : Uuid)
  | setAccountExpiry (userId : Uuid) (expiresAt : Option Instant)
  | setServerState (serverId : Uuid) (state : ServerState)
  | setProfileState (profileId : Uuid) (state : ProfileState)
  | setCapabilityState (serverId profileId : Uuid) (state : CapabilityState)
  | addPermission (permission : Permission)
  | setPermission (userId profileId : Uuid) (state : CapabilityState)
    (expiresAt : Option Instant)
  | addAssignment (assignment : Assignment)
  | setAssignment (userId serverId : Uuid) (state : LifecycleState)
    (expiresAt : Option Instant)
  | setReadable (credentialId : Uuid) (readable : Bool)

def applyAdmin : AdminChange → Tables
  | .createUser user =>
    { tables with users := tables.users ++ [{ user with quotaExhaustedAt := none }] }
  | .registerDevice device => { tables with devices := tables.devices ++ [device] }
  | .reactivateUser userId =>
    tables.writeUser userId fun user => { user with state := .active }
  | .setAccountExpiry userId expiresAt =>
    tables.writeUser userId fun user => { user with expiresAt := expiresAt }
  | .setServerState serverId state =>
    { tables with
      servers := updateWhere (fun server => server.id == serverId)
        (fun server => { server with state := state }) tables.servers }
  | .setProfileState profileId state =>
    { tables with
      profiles := updateWhere (fun profile => profile.id == profileId)
        (fun profile => { profile with state := state }) tables.profiles }
  | .setCapabilityState serverId profileId state =>
    { tables with
      capabilities := updateWhere
        (fun capability => capability.serverId == serverId && capability.profileId == profileId)
        (fun capability => { capability with state := state }) tables.capabilities }
  | .addPermission permission =>
    { tables with permissions := tables.permissions ++ [permission] }
  | .setPermission userId profileId state expiresAt =>
    { tables with
      permissions := updateWhere
        (fun permission => permission.userId == userId && permission.profileId == profileId)
        (fun permission => { permission with state := state, expiresAt := expiresAt })
        tables.permissions }
  | .addAssignment assignment =>
    { tables with assignments := tables.assignments ++ [assignment] }
  | .setAssignment userId serverId state expiresAt =>
    { tables with
      assignments := updateWhere
        (fun assignment => assignment.userId == userId && assignment.serverId == serverId)
        (fun assignment => { assignment with state := state, expiresAt := expiresAt })
        tables.assignments }
  | .setReadable credentialId readable =>
    tables.writeCredential credentialId fun credential =>
      { credential with readable := readable }

def admin (change : AdminChange) : Plan :=
  ⟨applyAdmin state.tables change, none, none, []⟩

end Nebula.ControlPlane
