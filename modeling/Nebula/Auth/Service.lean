import Nebula.Auth.Tables
import Nebula.RowLocks
import Nebula.Runs

/-!
# Signing in, refreshing and signing out

The transactions of `auth/user_service.py`, statement by statement. A statement chooses its rows
when it begins, locks those it updates or selects `FOR UPDATE` one after another, and reads them
once it has them all (read committed); others see what is written after the commit. A
transaction may be rolled back at any point.

Each function is what happens between two statements. An access token is checked in one step, at its
read of the session. A random id is drawn, new, at the commit that first shows it.

`history` is not stored by the code. A presented refresh token is entered as `replayed` when it has
been answered and is a consumed one.
-/

namespace Nebula.Auth

open Schema Work RowLocks

abbrev Network := Nat

structure AuthSettings where
  userLoginRateLimit : Nat
  userNetworkRateLimit : Nat
  passwordResetRateLimit : Nat
  refreshTokenTtl : Nat
  passwordResetTtl : Nat

/-! ## Rate limits -/

inductive RateBucket where
  | userAccount (userId : Uuid)
  | unknownAccount (identifier : Identifier)
  | userLoginNetwork (network : Network)
  | refreshToken (tokenId : Uuid)
  | resetAccount (userId : Uuid)
  | resetUnknownAccount (identifier : Identifier)
  | resetRequestNetwork (network : Network)
  | resetToken (resetId : Uuid)
  | resetConfirmNetwork (network : Network)
  deriving DecidableEq

/-- `_RATE_LIMIT_LUA`, bucket by bucket: every attempt counts, the first over its limit ends the
request. -/
def rateLimit : List (RateBucket × Nat) → List RateBucket → List RateBucket × Bool
  | [], attempts => (attempts, true)
  | (bucket, limit) :: rest, attempts =>
    if (bucket :: attempts).count bucket ≤ limit then rateLimit rest (bucket :: attempts)
    else (bucket :: attempts, false)

structure Login where
  identifier : Identifier
  password : Password
  deviceId : Option Uuid
  hardwareId : Option HardwareId
  network : Network
  deriving DecidableEq

structure ResetRequest where
  identifier : Identifier
  network : Network
  enableDelivery : Bool
  deriving DecidableEq

structure ResetConfirmation where
  resetId : Uuid
  newPassword : Password
  network : Network
  deriving DecidableEq

/-- What `change_password` is given; the first two are its principal's. -/
structure PasswordChange where
  userId : Uuid
  sessionId : Uuid
  currentPassword : Password
  newPassword : Password
  deriving DecidableEq

inductive Request where
  | login (credentials : Login)
  | refresh (tokenId : Uuid)
  | logout (tokenId : Uuid)
  | requestReset (request : ResetRequest)
  | confirmReset (confirmation : ResetConfirmation)
  | changePassword (change : PasswordChange)

inductive Answer where
  | tokenPair (sessionId tokenId : Uuid)
  | done
  | rejected
  | accountExpired
  | deviceLimitReached
  | rateLimited
  | failed
  deriving DecidableEq

inductive Outcome where
  | rotated (token : RefreshToken) (userSession : UserSession)
  | opened (userId : Uuid) (deviceId : Option Uuid) (hardwareId : Option HardwareId)
  | issued (userId : Uuid)
  | ended (answer : Answer)
  deriving DecidableEq

inductive Stage where
  | refresh (tokenId : Uuid)
  | refreshToken (tokenId : Uuid)
  | refreshSession (token : RefreshToken)
  | refreshUser (token : RefreshToken) (userSession : UserSession)
  | logout (tokenId : Uuid)
  | logoutSession (tokenId sessionId : Uuid)
  | login (credentials : Login)
  | loginUser (credentials : Login) (userId : Uuid)
  | loginDevice (credentials : Login) (userId deviceId : Uuid)
  | loginHardware (credentials : Login) (userId : Uuid)
  | loginSessions (userId deviceId : Uuid) (sessionIds : List Uuid)
  | requestReset (request : ResetRequest)
  | requestResetUser (request : ResetRequest) (userId : Uuid)
  | requestResetTokens (userId : Uuid) (resetIds : List Uuid)
  | confirmReset (confirmation : ResetConfirmation)
  | confirmResetToken (confirmation : ResetConfirmation)
  | confirmResetUser (confirmation : ResetConfirmation) (userId : Uuid)
  | confirmResetTokens (userId : Uuid) (resetIds : List Uuid)
  | confirmResetSessions (sessionIds : List Uuid)
  | changePassword (change : PasswordChange)
  | changePasswordUser (change : PasswordChange)
  | changePasswordTokens (change : PasswordChange) (resetIds : List Uuid)
  | changePasswordSessions (sessionIds : List Uuid)
  | revokeTokens (tokenIds : List Uuid) (outcome : Outcome)
  | committing (outcome : Outcome)
  deriving DecidableEq

structure Call where
  presents : Option Uuid
  now : Instant
  stage : Stage
  writes : List Write

def Request.presents : Request → Option Uuid
  | .refresh tokenId => some tokenId
  | .logout tokenId => some tokenId
  | _ => none

def Request.stage : Request → Stage
  | .login credentials => .login credentials
  | .refresh tokenId => .refresh tokenId
  | .logout tokenId => .logout tokenId
  | .requestReset request => .requestReset request
  | .confirmReset confirmation => .confirmReset confirmation
  | .changePassword change => .changePassword change

def Request.call (request : Request) (now : Instant) : Call :=
  { presents := request.presents, now := now, stage := request.stage, writes := [] }

inductive Progress where
  | goesOn (rows : List Row) (call : Call)
  | answered (answer : Answer)

namespace Call

variable (settings : AuthSettings) (tables : Tables)

variable (call : Call)

def limits : List (RateBucket × Nat) :=
  match call.stage with
  | .refresh tokenId => [(.refreshToken tokenId, settings.userLoginRateLimit)]
  | .login credentials =>
    match tables.findUser credentials.identifier with
    | some _ => []
    | none =>
      [(.unknownAccount credentials.identifier, settings.userLoginRateLimit),
        (.userLoginNetwork credentials.network, settings.userNetworkRateLimit)]
  | .loginUser credentials userId =>
    [(.userAccount userId, settings.userLoginRateLimit),
      (.userLoginNetwork credentials.network, settings.userNetworkRateLimit)]
  | .requestReset request =>
    match tables.findUser request.identifier with
    | some _ => []
    | none =>
      [(.resetUnknownAccount request.identifier, settings.passwordResetRateLimit),
        (.resetRequestNetwork request.network, settings.userNetworkRateLimit)]
  | .requestResetUser request userId =>
    [(.resetAccount userId, settings.passwordResetRateLimit),
      (.resetRequestNetwork request.network, settings.userNetworkRateLimit)]
  | .confirmReset confirmation =>
    [(.resetToken confirmation.resetId, settings.passwordResetRateLimit),
      (.resetConfirmNetwork confirmation.network, settings.userNetworkRateLimit)]
  | .changePassword change => [(.userAccount change.userId, settings.userLoginRateLimit)]
  | _ => []

def statement (rows : List Row) (stage : Stage) : Progress :=
  .goesOn rows { call with stage := stage }

def adding (writes : List Write) : Call :=
  { call with writes := call.writes ++ writes }

def ends (outcome : Outcome) : Progress :=
  call.statement [] (.committing outcome)

/-- The sessions are revoked, then `UPDATE refresh_tokens` begins. -/
def revokeSessions (sessionIds : List Uuid) (outcome : Outcome) : Progress :=
  (call.adding (sessionIds.map Write.revokeSession)).statement
    ((tables.activeTokens sessionIds).map Row.refreshToken)
    (.revokeTokens (tables.activeTokens sessionIds) outcome)

def revokeResets (resetIds : List Uuid) (stage : Stage) : Progress :=
  call.statement (resetIds.map Row.resetToken) stage

/-! ### `refresh` and `logout` -/

def refresh (tokenId : Uuid) : Progress :=
  match tables.refreshToken tokenId with
  | none => .answered .rejected
  | some _ => call.statement [.refreshToken tokenId] (.refreshToken tokenId)

def refreshToken (tokenId : Uuid) : Progress :=
  match tables.refreshToken tokenId with
  | none => .answered .rejected
  | some token =>
    match tables.session token.sessionId with
    | none => .answered .rejected
    | some _ => call.statement [.session token.sessionId] (.refreshSession token)

def refreshSession (token : RefreshToken) : Progress :=
  match tables.session token.sessionId with
  | none => .answered .rejected
  | some userSession =>
    if token.state = .consumed then
      call.revokeSessions tables [userSession.id] (.ended .rejected)
    else
      call.statement
        ((tables.user userSession.userId).toList.map fun user => .user user.id)
        (.refreshUser token userSession)

def refreshUser (token : RefreshToken) (userSession : UserSession) : Progress :=
  if token.isEligible userSession (tables.user userSession.userId)
      (tables.device userSession.deviceId) call.now then
    call.ends (.rotated token userSession)
  else call.revokeSessions tables [userSession.id] (.ended .rejected)

def logout (tokenId : Uuid) : Progress :=
  match tables.refreshToken tokenId with
  | none => .answered .done
  | some token =>
    match tables.session token.sessionId with
    | none => .answered .done
    | some _ => call.statement [.session token.sessionId] (.logoutSession tokenId token.sessionId)

def loginSelect (userId deviceId : Uuid) : Progress :=
  call.statement ((tables.activeDeviceSessions deviceId).map Row.session)
    (.loginSessions userId deviceId (tables.activeDeviceSessions deviceId))

def loginNewDevice (user : User) (credentials : Login) : Progress :=
  if (tables.activeDevices user.id).length ≥ user.deviceLimit then
    .answered .deviceLimitReached
  else call.ends (.opened user.id none credentials.hardwareId)

def loginReuse (user : User) (credentials : Login) : Progress :=
  match credentials.hardwareId with
  | none => call.loginNewDevice tables user credentials
  | some _ =>
    call.statement
      (((tables.activeDevices user.id).filter fun device =>
        device.hardwareHash.isSome).map fun device => .device device.id)
      (.loginHardware credentials user.id)

variable (credentials : Login)

def login : Progress :=
  match tables.findUser credentials.identifier with
  | none => .answered .rejected
  | some user => call.statement [.user user.id] (.loginUser credentials user.id)

/-- The password, then the beginning of `_resolve_device`. -/
def loginUser (userId : Uuid) : Progress :=
  match tables.user userId with
  | none => .answered .rejected
  | some user =>
    if user.verifies credentials.password && user.onlyExpired call.now then
      .answered .accountExpired
    else if !user.verifies credentials.password || !user.canAuthenticate call.now then
      .answered .rejected
    else
      match credentials.deviceId.bind tables.device with
      | some device =>
        if device.userId = userId then
          call.statement [.device device.id] (.loginDevice credentials userId device.id)
        else call.loginReuse tables user credentials
      | none => call.loginReuse tables user credentials

def backfillHardware (device : Device) (credentials : Login) : List Write :=
  match credentials.hardwareId, device.hardwareHash with
  | some hardwareId, none =>
    if (tables.activeDevices device.userId).any fun other =>
        decide (other.hardwareHash = some hardwareId ∧ other.id ≠ device.id) then []
    else [.setHardware device.id hardwareId]
  | _, _ => []

def loginDevice (userId deviceId : Uuid) : Progress :=
  match tables.user userId, tables.device deviceId with
  | some user, some device =>
    if device.state = .active then
      (call.adding (backfillHardware tables device credentials)).loginSelect tables userId device.id
    else call.loginReuse tables user credentials
  | some user, none => call.loginReuse tables user credentials
  | none, _ => .answered .rejected

def loginHardware (userId : Uuid) : Progress :=
  match tables.user userId with
  | none => .answered .rejected
  | some user =>
    match (tables.activeDevices userId).find? fun device =>
        device.hardwareHash.isSome && decide (device.hardwareHash = credentials.hardwareId) with
    | some device => call.loginSelect tables userId device.id
    | none => call.loginNewDevice tables user credentials

def loginSessions (userId deviceId : Uuid) (sessionIds : List Uuid) : Progress :=
  let live := sessionIds.filter fun sessionId => sessionId ∈ tables.activeDeviceSessions deviceId
  if live = [] then call.ends (.opened userId (some deviceId) none)
  else call.revokeSessions tables live (.opened userId (some deviceId) none)

def requestReset (request : ResetRequest) : Progress :=
  match tables.findUser request.identifier with
  | none => .answered .done
  | some user => call.statement [.user user.id] (.requestResetUser request user.id)

def requestResetUser (request : ResetRequest) (userId : Uuid) : Progress :=
  match tables.user userId with
  | none => .answered .done
  | some user =>
    if user.canAuthenticate call.now && request.enableDelivery then
      call.revokeResets (tables.activeResets userId)
        (.requestResetTokens userId (tables.activeResets userId))
    else .answered .done

def confirmReset (clock : Instant) (confirmation : ResetConfirmation) : Progress :=
  match tables.resetToken confirmation.resetId with
  | none => .answered .rejected
  | some _ =>
    { call with now := clock }.statement [.resetToken confirmation.resetId]
      (.confirmResetToken confirmation)

def confirmResetToken (confirmation : ResetConfirmation) : Progress :=
  match tables.resetToken confirmation.resetId with
  | none => .answered .rejected
  | some reset =>
    if reset.state ≠ .active ∨ reset.expiresAt ≤ call.now then .answered .rejected
    else
      match tables.user reset.userId with
      | none => .answered .rejected
      | some user => call.statement [.user user.id] (.confirmResetUser confirmation user.id)

def confirmResetUser (confirmation : ResetConfirmation) (userId : Uuid) :
    Progress :=
  match tables.user userId with
  | none => .answered .rejected
  | some user =>
    if user.canAuthenticate call.now then
      let others := (tables.activeResets userId).filter fun resetId =>
        decide (resetId ≠ confirmation.resetId)
      (call.adding [.setPassword userId confirmation.newPassword,
          .consumeReset confirmation.resetId]).revokeResets others
        (.confirmResetTokens userId others)
    else .answered .rejected

def confirmResetTokens (userId : Uuid) (resetIds : List Uuid) : Progress :=
  (call.adding (resetIds.map Write.revokeReset)).statement
    ((tables.userSessions userId).map Row.session)
    (.confirmResetSessions (tables.userSessions userId))

variable (change : PasswordChange)

def changePassword : Progress :=
  match tables.user change.userId with
  | none => .answered .rejected
  | some user => call.statement [.user user.id] (.changePasswordUser change)

def changePasswordUser : Progress :=
  match tables.user change.userId with
  | none => .answered .rejected
  | some user =>
    if user.verifies change.currentPassword && user.canAuthenticate call.now then
      (call.adding [.setPassword change.userId change.newPassword]).revokeResets
        (tables.activeResets change.userId)
        (.changePasswordTokens change (tables.activeResets change.userId))
    else .answered .rejected

/-- The other sessions are read without a lock, then `UPDATE user_sessions` begins. -/
def changePasswordTokens (resetIds : List Uuid) :
    Progress :=
  let others := tables.otherSessions change.userId change.sessionId
  if others = [] then (call.adding (resetIds.map Write.revokeReset)).ends (.ended .done)
  else
    (call.adding (resetIds.map Write.revokeReset)).statement (others.map Row.session)
      (.changePasswordSessions others)

def advance (clock : Instant) (call : Call) : Progress :=
  match call.stage with
  | .refresh tokenId => call.refresh tables tokenId
  | .refreshToken tokenId => call.refreshToken tables tokenId
  | .refreshSession token => call.refreshSession tables token
  | .refreshUser token userSession => call.refreshUser tables token userSession
  | .logout tokenId => call.logout tables tokenId
  | .logoutSession _ sessionId => call.revokeSessions tables [sessionId] (.ended .done)
  | .login credentials => call.login tables credentials
  | .loginUser credentials userId => call.loginUser tables credentials userId
  | .loginDevice credentials userId deviceId => call.loginDevice tables credentials userId deviceId
  | .loginHardware credentials userId => call.loginHardware tables credentials userId
  | .loginSessions userId deviceId sessionIds =>
    call.loginSessions tables userId deviceId sessionIds
  | .requestReset request => call.requestReset tables request
  | .requestResetUser request userId => call.requestResetUser tables request userId
  | .requestResetTokens userId resetIds =>
    (call.adding (resetIds.map Write.revokeReset)).ends (.issued userId)
  | .confirmReset confirmation => call.confirmReset tables clock confirmation
  | .confirmResetToken confirmation => call.confirmResetToken tables confirmation
  | .confirmResetUser confirmation userId => call.confirmResetUser tables confirmation userId
  | .confirmResetTokens userId resetIds => call.confirmResetTokens tables userId resetIds
  | .confirmResetSessions sessionIds => call.revokeSessions tables sessionIds (.ended .done)
  | .changePassword change => call.changePassword tables change
  | .changePasswordUser change => call.changePasswordUser tables change
  | .changePasswordTokens change resetIds => call.changePasswordTokens tables change resetIds
  | .changePasswordSessions sessionIds => call.revokeSessions tables sessionIds (.ended .done)
  | .revokeTokens tokenIds outcome =>
    (call.adding (tokenIds.map Write.revokeToken)).ends outcome
  | .committing outcome => call.ends outcome

def replays : Option Uuid :=
  call.presents.bind tables.consumedIn

end Call

/-! ## What a commit adds -/

inductive Entry where
  | opened (sessionId : Uuid) (expiresAt : Instant)
  | refreshed (tokenId sessionId : Uuid)
  | replayed (sessionId : Uuid)
  | accepted (sessionId : Uuid)
  deriving DecidableEq

def newRefreshToken (id sessionId : Uuid) (expiresAt : Instant) : RefreshToken :=
  { id := id
    sessionId := sessionId
    state := .active
    expiresAt := expiresAt
    replacedById := none }

def newSession (id userId deviceId : Uuid) (expiresAt : Instant) : UserSession :=
  { id := id
    userId := userId
    deviceId := deviceId
    state := .active
    expiresAt := expiresAt }

def registers (id userId : Uuid) (deviceId : Option Uuid) (hardwareId : Option HardwareId) :
    List Write :=
  match deviceId with
  | some _ => []
  | none =>
    [.insertDevice { id := id, userId := userId, state := .active, hardwareHash := hardwareId }]

namespace Outcome

variable (settings : AuthSettings) (now : Instant) (nextId : Uuid)

/-- The rows inserted last; a refresh first consumes its token, to free its place in the index. -/
def inserts : Outcome → List Write
  | .rotated token userSession =>
    [.consumeToken token.id nextId,
      .insertToken (newRefreshToken nextId userSession.id
        (min token.expiresAt userSession.expiresAt))]
  | .opened userId deviceId hardwareId =>
    registers (nextId + 2) userId deviceId hardwareId ++
      [.insertSession (newSession nextId userId (deviceId.getD (nextId + 2))
        (now + settings.refreshTokenTtl)),
      .insertToken (newRefreshToken (nextId + 1) nextId (now + settings.refreshTokenTtl))]
  | .issued userId =>
    [.insertReset
      { id := nextId, userId := userId, state := .active
        expiresAt := now + settings.passwordResetTtl }]
  | .ended _ => []

def answer : Outcome → Answer
  | .rotated _ userSession => .tokenPair userSession.id nextId
  | .opened _ _ _ => .tokenPair nextId (nextId + 1)
  | .issued _ => .done
  | .ended answer => answer

def entries : Outcome → List Entry
  | .rotated token userSession => [.refreshed token.id userSession.id]
  | .opened _ _ _ => [.opened nextId (now + settings.refreshTokenTtl)]
  | .issued _ => []
  | .ended _ => []

end Outcome

structure Service where
  settings : AuthSettings
  clock : Instant
  attempts : List RateBucket
  tables : Tables
  requests : Pool (Transaction Row Call)
  nextId : Uuid
  answers : List (Nat × Answer)
  history : List Entry

inductive Event where
  | readsClock (now : Instant)
  | forgets (bucket : RateBucket)
  | arrive (request : Request)
  | lock (id : Nat)
  | advance (id : Nat)
  | commit (id : Nat)
  | rollBack (id : Nat)
  | access (userId sessionId : Uuid)

namespace Service

variable (service : Service)

def presentation (call : Call) : List Entry :=
  (call.replays service.tables).toList.map Entry.replayed

variable (id : Nat) (call : Call)

def finish (answer : Answer) (entries : List Entry) : Service :=
  { service with
    requests := service.requests.finish id
    answers := service.answers ++ [(id, answer)]
    history := service.history ++ entries }

def admits : Bool :=
  (rateLimit (call.limits service.settings service.tables) service.attempts).2

def counting : Service :=
  { service with
    attempts := (rateLimit (call.limits service.settings service.tables) service.attempts).1 }

def advance : Option Service :=
  match service.requests.find id with
  | none => none
  | some transaction =>
    if transaction.waiting = [] then
      if service.admits transaction.work then
        match transaction.work.advance service.tables service.clock with
        | .goesOn rows call =>
          some
            { service.counting transaction.work with
              requests := service.requests.goOn id (transaction.next rows call) }
        | .answered answer =>
          some ((service.counting transaction.work).finish id answer
            (service.presentation transaction.work))
      else
        some ((service.counting transaction.work).finish id .rateLimited
          (service.presentation transaction.work))
    else none

def committed (outcome : Outcome) : Service :=
  { service.finish id (outcome.answer service.nextId)
      (service.presentation call ++ outcome.entries service.settings call.now service.nextId) with
    tables := service.tables.commit
      (call.writes ++ outcome.inserts service.settings call.now service.nextId)
    nextId := service.nextId + 3 }

def commit : Option Service :=
  match service.requests.find id with
  | none => none
  | some transaction =>
    match transaction.work.stage with
    | .committing outcome => some (service.committed id transaction.work outcome)
    | _ => none

def rollBack : Option Service :=
  (service.requests.find id).map fun transaction =>
    service.finish id .failed (service.presentation transaction.work)

/-- `_load_principal` accepts the access token. -/
def accepts (userId sessionId : Uuid) : Bool :=
  (service.tables.session sessionId).any fun userSession =>
    decide (userSession.userId = userId) &&
      userSession.isEligible (service.tables.user userId)
        (service.tables.device userSession.deviceId) service.clock

def access (userId sessionId : Uuid) : Service :=
  if service.accepts userId sessionId then
    { service with history := service.history ++ [.accepted sessionId] }
  else service

def step : Event → Option Service
  | .readsClock now => some { service with clock := now }
  | .forgets bucket =>
    some
      { service with
        attempts := service.attempts.filter fun other => decide (other ≠ bucket) }
  | .arrive request =>
    some
      { service with requests := service.requests.begin (.begin (request.call service.clock)) }
  | .lock id => (lock service.requests id).map fun requests => { service with requests := requests }
  | .advance id => service.advance id
  | .commit id => service.commit id
  | .rollBack id => service.rollBack id
  | .access userId sessionId => some (service.access userId sessionId)

end Service

def defaultSettings : AuthSettings :=
  { userLoginRateLimit := 10
    userNetworkRateLimit := 100
    passwordResetRateLimit := 5
    refreshTokenTtl := 30 * 24 * 60 * 60
    passwordResetTtl := 30 * 60 }

def opening (settings : AuthSettings) (users : List User) (devices : List Device)
    (resetTokens : List PasswordResetToken) (clock : Instant) (nextId : Uuid) : Service :=
  { settings := settings
    clock := clock
    attempts := []
    tables :=
      { users := users
        devices := devices
        sessions := []
        refreshTokens := []
        resetTokens := resetTokens }
    requests := .empty
    nextId := nextId
    answers := []
    history := [] }

end Nebula.Auth
