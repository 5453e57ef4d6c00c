import Nebula.Doubles
import Nebula.Runs
import Nebula.Work
import Nebula.Schema.Vocabulary

/-!
# Administrators and their sessions

Admin rows live in the database, admin sessions in Redis. A request reads its session, then its
admin row without a lock; what it goes on to do comes in later steps, when both may have changed.
The transactions of `admin_management.py` and `auth/admin_service.py` lock one admin row until they
commit or fail.

Instants are microseconds; a session stores whole milliseconds, which the code takes off a
floating-point number of seconds. A session past its absolute expiry
is absent for every script; that the scripts delete it, the idle time to live, a sign-out and
`end_session` are the one event `drop`. Passwords, codes and rate limits only decide whether a
request fails: `fail` stands for them.

The code does not store `lineage`, when a session and those it was rotated from were created, and
`cutOffs`, what was written to `sessions_valid_after`.
-/

namespace Nebula.Admin

open Store Schema Work Doubles

abbrev SessionToken := Nat

abbrev CsrfToken := Nat

inductive AdminState where
  | active
  | disabled
  deriving DecidableEq

inductive AdminRole where
  | owner
  | operator
  | auditor
  deriving DecidableEq

inductive SessionMethod where
  | totp
  | recovery
  | passkey
  deriving DecidableEq

structure AdminUser where
  id : Uuid
  role : AdminRole
  state : AdminState
  disabledAt : Option Instant
  sessionsValidAfter : Option Instant

structure AdminSession where
  adminId : Uuid
  createdMs : Nat
  absoluteExpiresMs : Nat
  mfaMethod : SessionMethod
  stepUpMs : Option Nat
  csrf : CsrfToken
  lineage : List Instant
  deriving DecidableEq

structure AdminPrincipal where
  adminId : Uuid
  role : AdminRole
  stepUp : Bool
  mfaMethod : SessionMethod
  deriving DecidableEq

def invitedAdmin (adminId : Uuid) (role : AdminRole) : AdminUser :=
  { id := adminId
    role := role
    state := .active
    disabledAt := none
    sessionsValidAfter := none }

structure AdminSettings where
  sessionAbsoluteTtlMs : Nat
  stepUpTtl : Nat

/-- A double is a number of these parts of a second. -/
def parts : Nat :=
  2 ^ 72

/-- `int(now.timestamp() * 1_000)`: the quotient and the product are rounded. -/
def millis (now : Instant) : Nat :=
  nearest (1000 * nearest (parts * now) 1000000) 1 / parts

/-- `datetime.fromtimestamp(milliseconds / 1_000, UTC)`, to the nearest microsecond. -/
def ofMillis (milliseconds : Nat) : Instant :=
  roundDiv (1000000 * nearest (parts * milliseconds) 1000) parts

def AdminSession.createdAt (record : AdminSession) : Instant :=
  ofMillis record.createdMs

def AdminSession.isStepUpFresh (record : AdminSession) (now : Instant) (lifetime : Nat) : Bool :=
  match record.stepUpMs with
  | none => false
  | some milliseconds => decide (now < ofMillis milliseconds + lifetime)

def issued (settings : AdminSettings) (adminId : Uuid) (method : SessionMethod)
    (steppedUp : Bool) (csrf : CsrfToken) (now : Instant) : AdminSession :=
  { adminId := adminId
    createdMs := millis now
    absoluteExpiresMs := millis now + settings.sessionAbsoluteTtlMs
    mfaMethod := method
    stepUpMs := if steppedUp then some (millis now) else none
    csrf := csrf
    lineage := [now] }

/-- `_ROTATE_SESSION_LUA` keeps the admin, the method and the absolute expiry. -/
def AdminSession.rotated (record : AdminSession) (csrf : CsrfToken) (now : Instant) :
    AdminSession :=
  { record with
    createdMs := millis now
    stepUpMs := some (millis now)
    csrf := csrf
    lineage := now :: record.lineage }

def AdminUser.cutsOff (admin : AdminUser) (record : AdminSession) : Bool :=
  match admin.sessionsValidAfter with
  | none => false
  | some validAfter => decide (record.createdAt < validAfter)

/-! ## What an owner does to another admin -/

inductive Mutation where
  | changeRole (role : AdminRole)
  | setDisabled (disabled : Bool)
  | endAllSessions
  deriving DecidableEq

def wantedState (disabled : Bool) : AdminState :=
  if disabled then .disabled else .active

def Mutation.cutOff (now : Instant) (admin : AdminUser) : Mutation → Option Instant
  | .changeRole role => if admin.role ≠ role then some now else none
  | .setDisabled disabled => if admin.state ≠ wantedState disabled then some now else none
  | .endAllSessions => some now

/-- The row `change_role`, `set_disabled` or `end_all_sessions` writes. -/
def Mutation.apply (mutation : Mutation) (now : Instant) (admin : AdminUser) : AdminUser :=
  match mutation with
  | .changeRole role =>
    if admin.role ≠ role then { admin with role := role, sessionsValidAfter := some now }
    else admin
  | .setDisabled disabled =>
    if admin.state ≠ wantedState disabled then
      { admin with
        state := wantedState disabled
        disabledAt := if disabled then some now else none
        sessionsValidAfter := some now }
    else admin
  | .endAllSessions => { admin with sessionsValidAfter := some now }

@[simp] theorem Mutation.apply_id (mutation : Mutation) (now : Instant) (admin : AdminUser) :
    (mutation.apply now admin).id = admin.id := by
  cases mutation <;> simp only [Mutation.apply] <;> (try split) <;> rfl

/-! ## Requests under way -/

inductive Purpose where
  | look
  | stepUp
  | changePassword
  | manage (adminId : Uuid) (mutation : Mutation)
  deriving DecidableEq

/-- Where a request is. `locked` ones hold the named admin's row. -/
inductive Request where
  | admitted (token : SessionToken) (purpose : Purpose)
  | checking (token : SessionToken) (record : AdminSession) (purpose : Purpose)
  | stepUpAccepted (token : SessionToken) (adminId : Uuid)
  | stepUpLocked (token : SessionToken) (adminId : Uuid)
  | stepUpRotated (replacement : SessionToken) (adminId : Uuid)
  | passwordAccepted (token : SessionToken) (principal : AdminPrincipal)
  | passwordTimed (token : SessionToken) (principal : AdminPrincipal) (now : Instant)
  | passwordLocked (token : SessionToken) (principal : AdminPrincipal) (now : Instant)
  | passwordChanged (token : SessionToken) (principal : AdminPrincipal)
  | passwordRevoked (principal : AdminPrincipal)
  | manageAccepted (actorId adminId : Uuid) (mutation : Mutation)
  | manageLocked (actorId adminId : Uuid) (mutation : Mutation) (now : Instant)
  deriving DecidableEq

def Request.holds : Request → Option Uuid
  | .stepUpLocked _ adminId => some adminId
  | .stepUpRotated _ adminId => some adminId
  | .passwordLocked _ principal _ => some principal.adminId
  | .manageLocked _ adminId _ _ => some adminId
  | _ => none

/-- `_stepped_up`, `_owner_mutation` and the test against oneself in `_other_admin` refuse here. -/
def Purpose.accepted (purpose : Purpose) (token : SessionToken) (principal : AdminPrincipal) :
    Option Request :=
  match purpose with
  | .look => none
  | .stepUp => some (.stepUpAccepted token principal.adminId)
  | .changePassword => if principal.stepUp then some (.passwordAccepted token principal) else none
  | .manage adminId mutation =>
    if principal.role = .owner ∧ principal.stepUp = true ∧ adminId ≠ principal.adminId then
      some (.manageAccepted principal.adminId adminId mutation)
    else none

structure System where
  settings : AdminSettings
  admins : List AdminUser
  sessions : List (SessionToken × AdminSession)
  requests : Pool Request
  nextToken : Nat
  cutOffs : List (Uuid × Instant)

namespace System

variable (system : System) (adminId : Uuid)

def admin : Option AdminUser :=
  lookup AdminUser.id adminId system.admins

def activeAdmin : Option AdminUser :=
  (system.admin adminId).filter fun admin => decide (admin.state = .active)

def rowHeld : Bool :=
  system.requests.jobs.any fun job => decide (job.2.holds = some adminId)

variable (token : SessionToken)

def session (now : Instant) : Option AdminSession :=
  ((lookup Prod.fst token system.sessions).map Prod.snd).filter fun record =>
    decide (millis now < record.absoluteExpiresMs)

def dropSession : System :=
  { system with sessions := remove Prod.fst token system.sessions }

def putSession (record : AdminSession) : System :=
  { system with
    sessions := upsert Prod.fst (token, record) system.sessions
    nextToken := system.nextToken + 1 }

def resume (request : Nat) (next : Option Request) : System :=
  { system with requests := system.requests.resume request next }

def issue (method : SessionMethod) (steppedUp : Bool)
    (now : Instant) : System :=
  system.putSession system.nextToken
    (issued system.settings adminId method steppedUp system.nextToken now)

/-- The second half of `principal`: the row is read, without a lock. -/
def principal (record : AdminSession) (now : Instant) :
    Option AdminPrincipal :=
  match system.activeAdmin record.adminId with
  | none => none
  | some admin =>
    if admin.cutsOff record then none
    else
      some
        { adminId := admin.id
          role := admin.role
          stepUp := record.isStepUpFresh now system.settings.stepUpTtl
          mfaMethod := record.mfaMethod }

def commitRow (write : AdminUser → AdminUser)
    (cutOff : Option Instant) : System :=
  { system with
    admins := updateWhere (fun admin => decide (admin.id = adminId)) write system.admins
    cutOffs := system.cutOffs ++ cutOff.toList.map fun validAfter => (adminId, validAfter) }

end System

inductive Event where
  /-- `verify_mfa`, `confirm_enrollment` or a passkey sign-in, under the row's lock. -/
  | signIn (adminId : Uuid) (method : SessionMethod) (now : Instant)
  | drop (token : SessionToken)
  | arrive (token : SessionToken) (purpose : Purpose) (csrf : CsrfToken) (now : Instant)
  | readSession (request : Nat) (now : Instant)
  | check (request : Nat) (now : Instant)
  | readClock (request : Nat) (now : Instant)
  | lockRow (request : Nat) (now : Instant)
  | rotate (request : Nat) (now : Instant)
  | commit (request : Nat)
  | fail (request : Nat)
  | revokeOwn (request : Nat)
  | issueOwn (request : Nat) (now : Instant)
  | invite (role : AdminRole)

namespace System

variable (system : System)

def signIn (adminId : Uuid) (method : SessionMethod) (now : Instant) :
    Option System :=
  if (system.activeAdmin adminId).isSome && !system.rowHeld adminId then
    some (system.issue adminId method false now)
  else none

/-- `validate_and_rotate_csrf`, for what is not just looked at. -/
def arrive (token : SessionToken) (purpose : Purpose) (csrf : CsrfToken)
    (now : Instant) : System :=
  if purpose = .look then
    { system with requests := system.requests.begin (.admitted token purpose) }
  else
    match system.session token now with
    | none => system
    | some record =>
      if record.csrf = csrf then
        { system.putSession token { record with csrf := system.nextToken } with
          requests := system.requests.begin (.admitted token purpose) }
      else system

variable (request : Nat) (now : Instant)

def readSession : Option System :=
  match system.requests.find request with
  | some (.admitted token purpose) =>
    some (system.resume request
      ((system.session token now).map fun record => .checking token record purpose))
  | _ => none

def check : Option System :=
  match system.requests.find request with
  | some (.checking token record purpose) =>
    match system.principal record now with
    | none => some ((system.dropSession token).resume request none)
    | some principal => some (system.resume request (purpose.accepted token principal))
  | _ => none

/-- `change_password` reads the clock before it locks its row. -/
def readClock : Option System :=
  match system.requests.find request with
  | some (.passwordAccepted token principal) =>
    some (system.resume request (some (.passwordTimed token principal now)))
  | _ => none

def lockRow : Option System :=
  match system.requests.find request with
  | some (.stepUpAccepted token adminId) =>
    if system.rowHeld adminId then none
    else
      some (system.resume request
        ((system.activeAdmin adminId).map fun _ => .stepUpLocked token adminId))
  | some (.passwordTimed token principal timed) =>
    if system.rowHeld principal.adminId then none
    else
      some (system.resume request
        ((system.activeAdmin principal.adminId).map fun _ =>
          .passwordLocked token principal timed))
  | some (.manageAccepted actorId adminId mutation) =>
    if system.rowHeld adminId then none
    else
      some (system.resume request
        ((system.admin adminId).map fun _ => .manageLocked actorId adminId mutation now))
  | _ => none

/-- `rotate_admin_session`, the admin's row locked and its code verified. -/
def rotate : Option System :=
  match system.requests.find request with
  | some (.stepUpLocked token adminId) =>
    match system.session token now with
    | none => some (system.resume request none)
    | some record =>
      let replaced := (system.dropSession token).putSession system.nextToken
        (record.rotated system.nextToken now)
      some (replaced.resume request (some (.stepUpRotated system.nextToken adminId)))
  | _ => none

def commit : Option System :=
  match system.requests.find request with
  | some (.stepUpRotated _ _) => some (system.resume request none)
  | some (.passwordLocked token principal now) =>
    let written := system.commitRow principal.adminId
      (fun admin => { admin with sessionsValidAfter := some now })
      ((system.admin principal.adminId).map fun _ => now)
    some (written.resume request (some (.passwordChanged token principal)))
  | some (.manageLocked _ adminId mutation now) =>
    let written := system.commitRow adminId (mutation.apply now)
      ((system.admin adminId).bind fun admin => mutation.cutOff now admin)
    some (written.resume request none)
  | _ => none

/-- Refused or rolled back; a step-up that does not commit takes its replacement back. -/
def fail : Option System :=
  match system.requests.find request with
  | some (.stepUpRotated replacement _) =>
    some ((system.dropSession replacement).resume request none)
  | some _ => some (system.resume request none)
  | none => none

def revokeOwn : Option System :=
  match system.requests.find request with
  | some (.passwordChanged token principal) =>
    some ((system.dropSession token).resume request (some (.passwordRevoked principal)))
  | _ => none

def issueOwn : Option System :=
  match system.requests.find request with
  | some (.passwordRevoked principal) =>
    some ((system.issue principal.adminId principal.mfaMethod true now).resume request none)
  | _ => none

def invite (role : AdminRole) : System :=
  { system with
    admins := system.admins ++
      [invitedAdmin ((system.admins.map AdminUser.id).foldr max 0 + 1) role] }

def step : Event → Option System
  | .signIn adminId method now => system.signIn adminId method now
  | .drop token => some (system.dropSession token)
  | .arrive token purpose csrf now => some (system.arrive token purpose csrf now)
  | .readSession request now => system.readSession request now
  | .check request now => system.check request now
  | .readClock request now => system.readClock request now
  | .lockRow request now => system.lockRow request now
  | .rotate request now => system.rotate request now
  | .commit request => system.commit request
  | .fail request => system.fail request
  | .revokeOwn request => system.revokeOwn request
  | .issueOwn request now => system.issueOwn request now
  | .invite role => some (system.invite role)

end System

/-- The defaults of `admin_session_absolute_ttl_hours` and `admin_step_up_ttl_minutes`. -/
def defaultSettings : AdminSettings :=
  { sessionAbsoluteTtlMs := 8 * 60 * 60 * 1000
    stepUpTtl := 5 * 60 * 1000000 }

def deployment (admins : List AdminUser) : System :=
  { settings := defaultSettings
    admins := admins
    sessions := []
    requests := .empty
    nextToken := 0
    cutOffs := [] }

def steppingUp (token : SessionToken) (csrf : CsrfToken) (request : Nat) (now : Instant) :
    List Event :=
  [.arrive token .stepUp csrf now, .readSession request now, .check request now,
    .lockRow request now, .rotate request now, .commit request]

end Nebula.Admin
