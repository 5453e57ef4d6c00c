import Nebula.Store
import Nebula.Schema.Vocabulary

/-!
# Accounts, sessions and refresh tokens

The rows of `nebula_api/models/identity.py` that signing in, refreshing and signing out read, and
what a transaction writes to them. A token's digest is the number its value stands for, so a token
value is the id of its row, or of none. A password hash is the password it verifies, a hardware
hash the hardware id.

Timestamps that nothing reads again and audit rows are left out.
-/

namespace Nebula.Auth

open Store Schema

abbrev Identifier := Nat

abbrev Password := Nat

abbrev HardwareId := Nat

inductive TokenState where
  | active
  | consumed
  | revoked
  deriving DecidableEq

structure User where
  id : Uuid
  emailNormalized : Identifier
  usernameNormalized : Option Identifier
  passwordHash : Option Password
  state : AccountState
  expiresAt : Option Instant
  deviceLimit : Nat

structure Device where
  id : Uuid
  userId : Uuid
  state : LifecycleState
  hardwareHash : Option HardwareId

structure UserSession where
  id : Uuid
  userId : Uuid
  deviceId : Uuid
  state : LifecycleState
  expiresAt : Instant
  deriving DecidableEq

structure RefreshToken where
  id : Uuid
  sessionId : Uuid
  state : TokenState
  expiresAt : Instant
  replacedById : Option Uuid
  deriving DecidableEq

structure PasswordResetToken where
  id : Uuid
  userId : Uuid
  state : TokenState
  expiresAt : Instant

structure Tables where
  users : List User
  devices : List Device
  sessions : List UserSession
  refreshTokens : List RefreshToken
  resetTokens : List PasswordResetToken

variable (token : RefreshToken)

/-- `uq_refresh_tokens_active_session_id`. -/
def RefreshToken.activeSession : Option Uuid :=
  if token.state = .active then some token.sessionId else none

inductive Row where
  | user (id : Uuid)
  | device (id : Uuid)
  | session (id : Uuid)
  | refreshToken (id : Uuid)
  | resetToken (id : Uuid)
  deriving DecidableEq

def User.canAuthenticate (user : User) (now : Instant) : Bool :=
  decide (user.state = .active) && user.passwordHash.isSome &&
    user.expiresAt.all fun expiresAt => decide (expiresAt > now)

def User.onlyExpired (user : User) (now : Instant) : Bool :=
  decide (user.state = .active) && user.passwordHash.isSome &&
    user.expiresAt.any fun expiresAt => decide (expiresAt ≤ now)

def User.verifies (user : User) (password : Password) : Bool :=
  decide (user.passwordHash = some password)

def UserSession.isEligible (userSession : UserSession) (user : Option User)
    (device : Option Device) (now : Instant) : Bool :=
  match user, device with
  | some user, some device =>
    decide (userSession.state = .active) && decide (userSession.expiresAt > now) &&
      user.canAuthenticate now && decide (device.userId = user.id) &&
      decide (device.state = .active)
  | _, _ => false

def RefreshToken.isEligible (userSession : UserSession)
    (user : Option User) (device : Option Device) (now : Instant) : Bool :=
  decide (token.state = .active) && decide (token.expiresAt > now) &&
    userSession.isEligible user device now

theorem UserSession.active_of_isEligible (userSession : UserSession) (user : Option User)
    (device : Option Device) (now : Instant)
    (eligible : userSession.isEligible user device now = true) :
    userSession.state = .active := by
  unfold UserSession.isEligible at eligible
  split at eligible
  · simp only [Bool.and_eq_true, decide_eq_true_eq] at eligible
    exact eligible.1.1.1.1
  · cases eligible

theorem RefreshToken.active_of_isEligible (userSession : UserSession)
    (user : Option User) (device : Option Device) (now : Instant)
    (eligible : token.isEligible userSession user device now = true) :
    token.state = .active ∧ userSession.state = .active := by
  simp only [RefreshToken.isEligible, Bool.and_eq_true, decide_eq_true_eq] at eligible
  exact ⟨eligible.1.1, userSession.active_of_isEligible user device now eligible.2⟩

namespace Tables

variable (tables : Tables)

variable (id : Uuid)

def user : Option User :=
  lookup User.id id tables.users

def device : Option Device :=
  lookup Device.id id tables.devices

def session : Option UserSession :=
  lookup UserSession.id id tables.sessions

def refreshToken : Option RefreshToken :=
  lookup RefreshToken.id id tables.refreshTokens

def resetToken : Option PasswordResetToken :=
  lookup PasswordResetToken.id id tables.resetTokens

def findUser (identifier : Identifier) : Option User :=
  tables.users.find? fun user =>
    decide (user.emailNormalized = identifier ∨ user.usernameNormalized = some identifier)

def activeDevices (userId : Uuid) : List Device :=
  tables.devices.filter fun device => decide (device.userId = userId ∧ device.state = .active)

def activeDeviceSessions (deviceId : Uuid) : List Uuid :=
  (tables.sessions.filter fun userSession =>
    decide (userSession.deviceId = deviceId ∧ userSession.state = .active)).map UserSession.id

def userSessions (userId : Uuid) : List Uuid :=
  (tables.sessions.filter fun userSession => decide (userSession.userId = userId)).map
    UserSession.id

def otherSessions (userId sessionId : Uuid) : List Uuid :=
  (tables.sessions.filter fun userSession =>
    decide (userSession.userId = userId ∧ userSession.id ≠ sessionId ∧
      userSession.state = .active)).map UserSession.id

def activeTokens (sessionIds : List Uuid) : List Uuid :=
  (tables.refreshTokens.filter fun token =>
    decide (token.sessionId ∈ sessionIds ∧ token.state = .active)).map RefreshToken.id

def activeResets (userId : Uuid) : List Uuid :=
  (tables.resetTokens.filter fun reset =>
    decide (reset.userId = userId ∧ reset.state = .active)).map PasswordResetToken.id

def consumedIn (tokenId : Uuid) : Option Uuid :=
  match tables.refreshToken tokenId with
  | some token => if token.state = .consumed then some token.sessionId else none
  | none => none

end Tables

inductive Write where
  | setPassword (userId : Uuid) (password : Password)
  | setHardware (deviceId : Uuid) (hardwareId : HardwareId)
  | insertDevice (device : Device)
  | revokeSession (sessionId : Uuid)
  | insertSession (userSession : UserSession)
  | consumeToken (tokenId successorId : Uuid)
  | revokeToken (tokenId : Uuid)
  | insertToken (token : RefreshToken)
  | consumeReset (resetId : Uuid)
  | revokeReset (resetId : Uuid)
  | insertReset (reset : PasswordResetToken)

def Write.row : Write → Option Row
  | .setPassword userId _ => some (.user userId)
  | .setHardware deviceId _ => some (.device deviceId)
  | .revokeSession sessionId => some (.session sessionId)
  | .consumeToken tokenId _ => some (.refreshToken tokenId)
  | .revokeToken tokenId => some (.refreshToken tokenId)
  | .consumeReset resetId => some (.resetToken resetId)
  | .revokeReset resetId => some (.resetToken resetId)
  | .insertDevice _ => none
  | .insertSession _ => none
  | .insertToken _ => none
  | .insertReset _ => none

def RefreshToken.revoked (token : RefreshToken) : RefreshToken :=
  if token.state = .active then { token with state := .revoked } else token

def PasswordResetToken.revoked (reset : PasswordResetToken) : PasswordResetToken :=
  if reset.state = .active then { reset with state := .revoked } else reset

def UserSession.revoked (userSession : UserSession) : UserSession :=
  { userSession with state := .revoked }

def RefreshToken.consumedBy (token : RefreshToken) (successorId : Uuid) : RefreshToken :=
  { token with state := .consumed, replacedById := some successorId }

namespace Tables

variable (tables : Tables)

def rewriteSession (sessionId : Uuid) (write : UserSession → UserSession) :
    Tables :=
  { tables with
    sessions := updateWhere (fun userSession => decide (userSession.id = sessionId)) write
      tables.sessions }

def rewriteToken (tokenId : Uuid) (write : RefreshToken → RefreshToken) :
    Tables :=
  { tables with
    refreshTokens := updateWhere (fun token => decide (token.id = tokenId)) write
      tables.refreshTokens }

def rewriteReset (resetId : Uuid)
    (write : PasswordResetToken → PasswordResetToken) : Tables :=
  { tables with
    resetTokens := updateWhere (fun reset => decide (reset.id = resetId)) write
      tables.resetTokens }

def write : Write → Tables
  | .setPassword userId password =>
    { tables with
      users := updateWhere (fun user => decide (user.id = userId))
        (fun user => { user with passwordHash := some password }) tables.users }
  | .setHardware deviceId hardwareId =>
    { tables with
      devices := updateWhere (fun device => decide (device.id = deviceId))
        (fun device => { device with hardwareHash := some hardwareId }) tables.devices }
  | .insertDevice device => { tables with devices := tables.devices ++ [device] }
  | .revokeSession sessionId => tables.rewriteSession sessionId UserSession.revoked
  | .insertSession userSession => { tables with sessions := tables.sessions ++ [userSession] }
  | .consumeToken tokenId successorId =>
    tables.rewriteToken tokenId fun token => token.consumedBy successorId
  | .revokeToken tokenId => tables.rewriteToken tokenId RefreshToken.revoked
  | .insertToken token => { tables with refreshTokens := tables.refreshTokens ++ [token] }
  | .consumeReset resetId =>
    tables.rewriteReset resetId fun reset => { reset with state := .consumed }
  | .revokeReset resetId => tables.rewriteReset resetId PasswordResetToken.revoked
  | .insertReset reset => { tables with resetTokens := tables.resetTokens ++ [reset] }

def commit (writes : List Write) : Tables :=
  writes.foldl Tables.write tables

end Tables

end Nebula.Auth
