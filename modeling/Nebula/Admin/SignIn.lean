import Nebula.Admin.System

/-!
# The two steps of an administrator's sign-in

A right password is answered with a challenge kept in Redis; the second step spends it, locks the
admin row and checks a code, a recovery code or a passkey. Failures are counted in Redis and lock
the account for a while. Each call to Redis, each lock and each commit is a step.

All clocks are one, in milliseconds. A rate limiter that refuses before anything is done is left
out; for the password step and the step-up its answer is a parameter, as are what codes and
signatures prove. Of two passwords only whether they are the same is looked at. What replaces an
authenticator or adds a passkey is left out.

The code does not store `password` of a challenge, the one it was given for, `issued`, the sessions
of sign-ins and step-ups, and `outcomes` of the attempts, the latest first.
-/

namespace Nebula.SignIn

open Store Schema Work
open Admin (AdminState SessionMethod)

abbrev Password := Nat

abbrev Identifier := Nat

abbrev Network := Nat

abbrev Token := Nat

structure Settings where
  lockoutThreshold : Nat
  lockMs : Nat
  preauthTtlMs : Nat
  stepUpTtlMs : Nat
  threshold_pos : 0 < lockoutThreshold
  lock_pos : 0 < lockMs

def Settings.defaults : Settings where
  lockoutThreshold := 5
  lockMs := 900000
  preauthTtlMs := 300000
  stepUpTtlMs := 300000
  threshold_pos := by decide
  lock_pos := by decide

structure AdminUser where
  id : Uuid
  email : Identifier
  username : Identifier
  state : AdminState
  password : Password
  sessionsValidAfter : Option Nat

inductive CredentialState where
  | pending
  | active
  | revoked
  deriving DecidableEq

structure TotpCredential where
  id : Uuid
  adminId : Uuid
  state : CredentialState
  lastAcceptedTimestep : Option Nat

structure RecoveryCode where
  credentialId : Uuid
  digest : Nat
  consumed : Bool

structure Passkey where
  adminId : Uuid
  credentialId : Nat
  signCount : Nat

/-! ## What Redis keeps -/

inductive Purpose where
  | login
  | enroll
  deriving DecidableEq

structure PreAuth where
  token : Token
  adminId : Uuid
  purpose : Purpose
  context : Network
  expiresAt : Nat
  password : Password

structure WebauthnChallenge where
  subject : Token
  adminId : Uuid
  expiresAt : Nat

inductive AccountKey where
  | admin (id : Uuid)
  | unknown (identifier : Identifier)
  deriving DecidableEq

def accountKey (identifier : Identifier) : Option Uuid → AccountKey
  | some adminId => .admin adminId
  | none => .unknown identifier

structure Lockout where
  key : AccountKey
  failures : Nat
  lockedUntil : Nat
  expiresAt : Nat

structure Session where
  token : Token
  adminId : Uuid
  method : SessionMethod
  createdAt : Nat
  stepUpAt : Option Nat

/-! ## Requests under way -/

/-- What the second step presents. An enrolment comes with the recovery codes generated for it. -/
inductive Factor where
  | totp (acceptedStep : Option Nat)
  | recovery (digest : Nat)
  | passkey (credentialId : Nat) (newSignCount : Option Nat)
  | enrolment (acceptedStep : Option Nat) (codes : List Nat)

def Factor.purpose : Factor → Purpose
  | .enrolment _ _ => .enroll
  | _ => .login

def Factor.method : Factor → SessionMethod
  | .recovery _ => .recovery
  | .passkey _ _ => .passkey
  | _ => .totp

/-- `MfaMethod`: what a step-up takes. -/
def Factor.isMfaMethod : Factor → Bool
  | .totp _ => true
  | .recovery _ => true
  | _ => false

/-- Where a request is. From `locked` up to their commit they hold the admin's row. -/
inductive Job where
  | password (identifier : Identifier) (password : Password) (context : Network)
  | passwordLocked (adminId : Option Uuid) (identifier : Identifier) (password : Password)
    (context : Network)
  | passwordChecked (adminId : Option Uuid) (identifier : Identifier) (password : Password)
    (context : Network) (locked : Bool)
  | factor (challenge : PreAuth) (factor : Factor) (expected : Bool)
  | factorLocked (challenge : PreAuth) (factor : Factor) (expected : Bool)
  | enrolling (challenge : PreAuth)
  | enrollingLocked (challenge : PreAuth)
  | enrollingCommitted (challenge : PreAuth)
  | stepUp (adminId : Uuid) (token : Token) (factor : Factor)
  | stepUpChecked (adminId : Uuid) (token : Token) (factor : Factor)
  | stepUpLocked (adminId : Uuid) (token : Token) (factor : Factor)
  | change (adminId : Uuid) (method : SessionMethod) (token : Token)
    (current new : Password) (now : Nat)
  | changeLocked (adminId : Uuid) (method : SessionMethod) (token : Token)
    (current new : Password) (now : Nat)
  | changeVerified (adminId : Uuid) (method : SessionMethod) (token : Token) (new : Password)
    (now : Nat)
  | changeCommitted (adminId : Uuid) (method : SessionMethod) (token : Token)
  | signedIn (adminId : Uuid) (session : Token) (factor : Factor)
  | closing (adminId : Option Uuid)
  | clearing (adminId : Uuid)

def Job.holds : Job → Option Uuid
  | .passwordLocked adminId _ _ _ => adminId
  | .passwordChecked adminId _ _ _ _ => adminId
  | .factorLocked challenge _ _ => some challenge.adminId
  | .enrollingLocked challenge => some challenge.adminId
  | .stepUpLocked adminId _ _ => some adminId
  | .changeLocked adminId _ _ _ _ _ => some adminId
  | .changeVerified adminId _ _ _ _ => some adminId
  | .signedIn adminId _ _ => some adminId
  | .closing adminId => adminId
  | _ => none

def Job.challenge : Job → Option PreAuth
  | .factor challenge _ _ => some challenge
  | .factorLocked challenge _ _ => some challenge
  | .enrolling challenge => some challenge
  | .enrollingLocked challenge => some challenge
  | .enrollingCommitted challenge => some challenge
  | _ => none

/-- A session issued: for which password, which was in force, and whether the account was locked. -/
structure Issue where
  adminId : Uuid
  method : SessionMethod
  verified : Option Password
  inForce : Option Password
  locked : Bool

inductive Outcome where
  | failed
  | locked
  | succeeded
  deriving DecidableEq

structure State where
  now : Nat
  admins : List AdminUser
  totp : List TotpCredential
  recovery : List RecoveryCode
  passkeys : List Passkey
  preauths : List PreAuth
  webauthn : List WebauthnChallenge
  lockouts : List Lockout
  sessions : List Session
  jobs : Pool Job
  nextToken : Nat
  issued : List Issue
  outcomes : List (AccountKey × Outcome)

namespace State

def begun (now : Nat) (admins : List AdminUser) (totp : List TotpCredential)
    (recovery : List RecoveryCode) (passkeys : List Passkey) (sessions : List Session)
    (nextToken : Nat) : State :=
  { now := now
    admins := admins
    totp := totp
    recovery := recovery
    passkeys := passkeys
    preauths := []
    webauthn := []
    lockouts := []
    sessions := sessions
    jobs := .empty
    nextToken := nextToken
    issued := []
    outcomes := [] }

variable (settings : Settings) (state : State)

def findAdmin (identifier : Identifier) : Option AdminUser :=
  state.admins.find? fun admin =>
    decide (admin.email = identifier ∨ admin.username = identifier)

variable (adminId : Uuid)

def admin : Option AdminUser :=
  lookup AdminUser.id adminId state.admins

def activeAdmin : Option AdminUser :=
  (state.admin adminId).filter fun admin => decide (admin.state = .active)

def inForce : Option Password :=
  (state.admin adminId).map AdminUser.password

def rowHeld : Bool :=
  state.jobs.jobs.any fun job => decide (job.2.holds = some adminId)

def credential (wanted : CredentialState) : Option TotpCredential :=
  state.totp.find? fun credential =>
    decide (credential.adminId = adminId ∧ credential.state = wanted)

def resume (number : Nat) (next : Option Job) : State :=
  { state with jobs := state.jobs.resume number next }

def begin (job : Job) : State :=
  { state with jobs := state.jobs.begin job }

variable (key : AccountKey)

def lockout : Option Lockout :=
  (lookup Lockout.key key state.lockouts).filter fun entry => decide (state.now < entry.expiresAt)

def locked : Bool :=
  (state.lockout key).any fun entry => decide (state.now < entry.lockedUntil)

def lockoutStatus : State :=
  match state.lockout key with
  | none => state
  | some entry =>
    if state.now < entry.lockedUntil then state
    else if 0 < entry.lockedUntil then
      { state with lockouts := remove Lockout.key key state.lockouts }
    else state

def failures : Nat :=
  ((state.lockout key).map Lockout.failures).getD 0

def recordFailure : State :=
  if state.locked key then state
  else if settings.lockoutThreshold ≤ state.failures key + 1 then
    { state with
      lockouts := upsert Lockout.key
        { key := key
          failures := settings.lockoutThreshold
          lockedUntil := state.now + settings.lockMs
          expiresAt := state.now + settings.lockMs } state.lockouts
      outcomes := (key, .locked) :: state.outcomes }
  else
    { state with
      lockouts := upsert Lockout.key
        { key := key
          failures := state.failures key + 1
          lockedUntil := 0
          expiresAt := state.now + settings.lockMs } state.lockouts
      outcomes := (key, .failed) :: state.outcomes }

def clearFailures : State :=
  { state with
    lockouts := remove Lockout.key key state.lockouts
    outcomes := (key, .succeeded) :: state.outcomes }

def issuePreauth (purpose : Purpose) (context : Network)
    (password : Password) : State :=
  { state with
    preauths := state.preauths ++
      [{ token := state.nextToken
         adminId := adminId
         purpose := purpose
         context := context
         expiresAt := state.now + settings.preauthTtlMs
         password := password }]
    nextToken := state.nextToken + 1 }

variable (token : Token)

/-- What `consume_preauth` and `peek_preauth` find. -/
def preauth (purpose : Purpose) (context : Network) : Option PreAuth :=
  state.preauths.find? fun challenge =>
    decide (challenge.token = token ∧ challenge.purpose = purpose ∧
      challenge.context = context ∧ state.now < challenge.expiresAt)

def dropPreauth : State :=
  { state with preauths := remove PreAuth.token token state.preauths }

def webauthnTtlMs : Nat := 300000

/-- What `take_webauthn_challenge` finds. -/
def webauthnExpected (adminId : Uuid) : Bool :=
  state.webauthn.any fun challenge =>
    decide (challenge.subject = token ∧ challenge.adminId = adminId ∧
      state.now < challenge.expiresAt)

def dropWebauthn : State :=
  { state with webauthn := remove WebauthnChallenge.subject token state.webauthn }

def spend (challenge : PreAuth) (factor : Factor) : State :=
  match factor with
  | .passkey _ _ =>
    ((state.dropPreauth challenge.token).dropWebauthn challenge.token).begin
      (.factor challenge factor (state.webauthnExpected challenge.token challenge.adminId))
  | _ => (state.dropPreauth challenge.token).begin (.factor challenge factor true)

def session : Option Session :=
  lookup Session.token token state.sessions

def issueSession (method : SessionMethod) (steppedUp : Bool) : State :=
  { state with
    sessions := state.sessions ++
      [{ token := state.nextToken
         adminId := adminId
         method := method
         createdAt := state.now
         stepUpAt := if steppedUp then some state.now else none }]
    nextToken := state.nextToken + 1 }

def dropSession : State :=
  { state with sessions := remove Session.token token state.sessions }

def rotateSession : State :=
  match state.session token with
  | none => state
  | some session => (state.dropSession token).issueSession session.adminId session.method true

/-- The session, of an admin who is active and not cut off. -/
def principal : Option Session :=
  (state.session token).filter fun session =>
    (state.activeAdmin session.adminId).any fun admin =>
      match admin.sessionsValidAfter with
      | none => true
      | some validAfter => decide (validAfter ≤ session.createdAt)

def isStepUpFresh (session : Session) : Bool :=
  session.stepUpAt.any fun steppedUp => decide (state.now < steppedUp + settings.stepUpTtlMs)

def noteIssue (method : SessionMethod) (verified : Option Password) : State :=
  { state with
    issued :=
      { adminId := adminId
        method := method
        verified := verified
        inForce := state.inForce adminId
        locked := state.locked (.admin adminId) } :: state.issued }

inductive Verdict where
  | rejected
  | denied (key : AccountKey)
  | accepted
  deriving DecidableEq

def deniedUnless (right : Bool) : Verdict :=
  if right then .accepted else .denied key

def totpRight (credential : TotpCredential) (acceptedStep : Option Nat) : Bool :=
  acceptedStep.any fun step =>
    match credential.lastAcceptedTimestep with
    | none => true
    | some last => decide (last < step)

/-- `_verify_mfa_method`, and what `confirm_enrollment` and `verify_passkey_login` check. -/
def verifyFactor : Factor → Verdict
  | .totp acceptedStep =>
    match state.credential adminId .active with
    | none => .rejected
    | some credential => deniedUnless (.admin adminId) (totpRight credential acceptedStep)
  | .recovery digest =>
    match state.credential adminId .active with
    | none => .rejected
    | some credential =>
      deniedUnless (.admin adminId) (state.recovery.any fun code =>
        decide (code.credentialId = credential.id ∧ code.digest = digest ∧
          code.consumed = false))
  | .passkey credentialId newSignCount =>
    deniedUnless (.admin adminId) (newSignCount.isSome && state.passkeys.any fun passkey =>
      decide (passkey.adminId = adminId ∧ passkey.credentialId = credentialId))
  | .enrolment acceptedStep _ =>
    match state.credential adminId .pending with
    | none => .rejected
    | some credential => deniedUnless (.admin adminId) (totpRight credential acceptedStep)

def verdict : Job → Option Verdict
  | .passwordChecked adminId identifier password _ locked =>
    some (deniedUnless (accountKey identifier adminId) (!locked &&
      (adminId.bind state.activeAdmin).any fun admin => decide (admin.password = password)))
  | .factorLocked challenge factor expected =>
    some (if expected then state.verifyFactor challenge.adminId factor else .rejected)
  | .stepUpLocked adminId token factor =>
    if state.verifyFactor adminId factor = .accepted ∧ state.session token = none then
      some .rejected
    else some (state.verifyFactor adminId factor)
  | .changeLocked adminId _ _ current _ _ =>
    some (if state.inForce adminId = some current then .accepted else .rejected)
  | _ => none

@[simp] theorem deniedUnless_accepted (right : Bool) :
    deniedUnless key right = .accepted ↔ right = true := by
  cases right <;> simp [deniedUnless]

@[simp] theorem deniedUnless_denied {key other : AccountKey} {right : Bool} :
    deniedUnless key right = .denied other ↔ right = false ∧ key = other := by
  cases right <;> simp [deniedUnless]

theorem verdict_password {adminId : Uuid} {identifier : Identifier} {password : Password}
    {context : Network} {locked : Bool}
    (accepted : state.verdict (.passwordChecked (some adminId) identifier password context
      locked) = some .accepted) :
    locked = false ∧ state.inForce adminId = some password := by
  simp only [verdict, Option.some.injEq, deniedUnless_accepted, Bool.and_eq_true,
    Bool.not_eq_true', Option.bind_some] at accepted
  refine ⟨accepted.1, ?_⟩
  cases active : state.activeAdmin adminId with
  | none => simp [active] at accepted
  | some admin =>
    have row : state.admin adminId = some admin := (Option.filter_eq_some_iff.mp active).1
    simp [inForce, row, active] at accepted ⊢
    exact accepted.2

end State

inductive Event where
  | tick (later : Nat)
  | invite (admin : AdminUser)
  | setState (adminId : Uuid) (wanted : AdminState)
  | dropSession (token : Token)
  | passwordChallenge (identifier : Identifier) (password : Password) (context : Network)
  | passkeyLoginOptions (token : Token) (context : Network)
  | secondStep (token : Token) (context : Network) (factor : Factor)
  | startEnrollment (token : Token) (context : Network)
  | stepUp (token : Token) (factor : Factor)
  | changePassword (token : Token) (current new : Password)
  | check (number : Nat) (allowed : Bool)
  | lockRow (number : Nat)
  | judge (number : Nat)
  | commit (number : Nat)
  | afterCommit (number : Nat)
  | fail (number : Nat) (revokes : Bool)

namespace State

variable (settings : Settings) (state : State)

/-! ## The steps of a request -/

variable (number : Nat)

def check (allowed : Bool) : Option State :=
  match state.jobs.find number with
  | some (.passwordLocked adminId identifier password context) =>
    let key := accountKey identifier adminId
    if allowed then
      some ((state.lockoutStatus key).resume number
        (some (.passwordChecked adminId identifier password context (state.locked key))))
    else some (state.resume number (some (.closing adminId)))
  | some (.stepUp adminId token factor) =>
    if allowed && !state.locked (.admin adminId) then
      some ((state.lockoutStatus (.admin adminId)).resume number
        (some (.stepUpChecked adminId token factor)))
    else some (state.resume number none)
  | _ => none

variable (adminId : Uuid)

/-- `_active_admin(…, for_update=True)`: an admin who is not active is not waited for. -/
def lockActive (job : Job) : Option State :=
  match state.activeAdmin adminId with
  | none => some (state.resume number none)
  | some _ => if state.rowHeld adminId then none else some (state.resume number (some job))

def lockRow : Option State :=
  match state.jobs.find number with
  | some (.password identifier password context) =>
    match state.findAdmin identifier with
    | none =>
      some (state.resume number
        (some (.passwordLocked none identifier password context)))
    | some admin =>
      if state.rowHeld admin.id then none
      else
        some (state.resume number
          (some (.passwordLocked (some admin.id) identifier password context)))
  | some (.factor challenge factor expected) =>
    state.lockActive number challenge.adminId (.factorLocked challenge factor expected)
  | some (.enrolling challenge) =>
    if state.rowHeld challenge.adminId then none
    else if (state.activeAdmin challenge.adminId).isSome &&
        (state.credential challenge.adminId .active).isNone then
      some (state.resume number (some (.enrollingLocked challenge)))
    else some (state.resume number none)
  | some (.stepUpChecked adminId token factor) =>
    state.lockActive number adminId (.stepUpLocked adminId token factor)
  | some (.change adminId method token current new now) =>
    state.lockActive number adminId (.changeLocked adminId method token current new now)
  | _ => none

def accept : Job → State
  | .passwordChecked (some adminId) _ password context _ =>
    let purpose := if (state.credential adminId .active).isSome then .login else .enroll
    (state.issuePreauth settings adminId purpose context password).resume number
      (some (.closing (some adminId)))
  | .factorLocked challenge factor _ =>
    ((state.noteIssue challenge.adminId factor.method (some challenge.password)).issueSession
        challenge.adminId factor.method false).resume number
      (some (.signedIn challenge.adminId state.nextToken factor))
  | .stepUpLocked adminId token factor =>
    ((state.noteIssue adminId factor.method none).rotateSession token).resume number
      (some (.signedIn adminId state.nextToken factor))
  | .changeLocked adminId method token _ new now =>
    state.resume number (some (.changeVerified adminId method token new now))
  | _ => state

def afterRejection : Job → Option Job
  | .changeLocked adminId _ _ _ _ _ => some (.closing (some adminId))
  | _ => none

def judge : Option State :=
  match state.jobs.find number with
  | none => none
  | some job =>
    match state.verdict job with
    | some .accepted => some (state.accept settings number job)
    | some (.denied key) =>
      some ((state.recordFailure settings key).resume number (some (.closing job.holds)))
    | some .rejected => some (state.resume number (afterRejection job))
    | none => none

def writeFactor : Factor → State
  | .totp acceptedStep =>
    { state with
      totp := updateWhere
        (fun credential => decide (credential.adminId = adminId ∧ credential.state = .active))
        (fun credential => { credential with lastAcceptedTimestep := acceptedStep }) state.totp }
  | .recovery digest =>
    { state with
      recovery := updateWhere
        (fun code => decide (code.digest = digest ∧
          (state.credential adminId .active).map TotpCredential.id = some code.credentialId))
        (fun code => { code with consumed := true }) state.recovery }
  | .passkey credentialId newSignCount =>
    { state with
      passkeys := updateWhere
        (fun passkey => decide (passkey.adminId = adminId ∧ passkey.credentialId = credentialId))
        (fun passkey => { passkey with signCount := newSignCount.getD passkey.signCount })
        state.passkeys }
  | .enrolment acceptedStep codes =>
    { state with
      recovery := state.recovery ++
        (state.credential adminId .pending).toList.flatMap fun credential =>
          codes.map fun digest =>
            { credentialId := credential.id, digest := digest, consumed := false }
      totp := updateWhere
        (fun credential => decide (credential.adminId = adminId ∧ credential.state = .pending))
        (fun credential =>
          { credential with state := .active, lastAcceptedTimestep := acceptedStep })
        state.totp }

def writePending : State :=
  { state with
    totp := updateWhere
        (fun credential => decide (credential.adminId = adminId ∧ credential.state = .pending))
        (fun credential => { credential with state := .revoked }) state.totp ++
      [{ id := state.nextToken
         adminId := adminId
         state := .pending
         lastAcceptedTimestep := none }]
    nextToken := state.nextToken + 1 }

def writePassword (new : Password) (now : Nat) : State :=
  { state with
    admins := updateWhere (fun admin => decide (admin.id = adminId))
      (fun admin => { admin with password := new, sessionsValidAfter := some now }) state.admins }

def commit : Option State :=
  match state.jobs.find number with
  | some (.enrollingLocked challenge) =>
    some ((state.writePending challenge.adminId).resume number
      (some (.enrollingCommitted challenge)))
  | some (.changeVerified adminId method token new now) =>
    some ((state.writePassword adminId new now).resume number
      (some (.changeCommitted adminId method token)))
  | some (.signedIn adminId _ factor) =>
    some ((state.writeFactor adminId factor).resume number (some (.clearing adminId)))
  | some (.closing _) => some (state.resume number none)
  | _ => none

def afterCommit : Option State :=
  match state.jobs.find number with
  | some (.enrollingCommitted challenge) =>
    some ((state.issuePreauth settings challenge.adminId .enroll challenge.context
      challenge.password).resume number none)
  | some (.changeCommitted adminId method token) =>
    some (((state.dropSession token).issueSession adminId method true).resume number none)
  | some (.clearing adminId) =>
    some ((state.clearFailures (.admin adminId)).resume number none)
  | _ => none

/-- A request is rolled back; a session it issued is taken back, or the process dies first. -/
def fail (revokes : Bool) : Option State :=
  match state.jobs.find number with
  | some (.signedIn _ session _) =>
    some ((if revokes then state.dropSession session else state).resume number none)
  | some _ => some (state.resume number none)
  | none => none

end State

def step (settings : Settings) (state : State) : Event → Option State
  | .tick later => if state.now ≤ later then some { state with now := later } else none
  | .invite admin =>
    if state.admins.any fun known => decide (known.id = admin.id) then none
    else some { state with admins := state.admins ++ [admin] }
  | .setState adminId wanted =>
    if state.rowHeld adminId then none
    else
      some { state with
        admins := updateWhere (fun admin => decide (admin.id = adminId))
          (fun admin =>
            if admin.state = wanted then admin
            else { admin with state := wanted, sessionsValidAfter := some state.now })
          state.admins }
  | .dropSession token => some (state.dropSession token)
  | .passwordChallenge identifier password context =>
    some (state.begin (.password identifier password context))
  | .passkeyLoginOptions token context =>
    match state.preauth token .login context with
    | none => none
    | some challenge =>
      if state.passkeys.any fun passkey => decide (passkey.adminId = challenge.adminId) then
        some { state with
          webauthn := upsert WebauthnChallenge.subject
            { subject := token
              adminId := challenge.adminId
              expiresAt := state.now + State.webauthnTtlMs } state.webauthn }
      else none
  | .secondStep token context factor =>
    (state.preauth token factor.purpose context).map fun challenge =>
      state.spend challenge factor
  | .startEnrollment token context =>
    (state.preauth token .enroll context).map fun challenge =>
      (state.dropPreauth token).begin (.enrolling challenge)
  | .stepUp token factor =>
    match state.principal token with
    | none => none
    | some session =>
      if factor.isMfaMethod then some (state.begin (.stepUp session.adminId token factor))
      else none
  | .changePassword token current new =>
    match state.principal token with
    | none => none
    | some session =>
      if state.isStepUpFresh settings session then
        some (state.begin (.change session.adminId session.method token current new state.now))
      else none
  | .check number allowed => state.check number allowed
  | .lockRow number => state.lockRow number
  | .judge number => state.judge settings number
  | .commit number => state.commit number
  | .afterCommit number => state.afterCommit settings number
  | .fail number revokes => state.fail number revokes

def State.oneAdmin : State :=
  .begun 0
    [{ id := 1, email := 10, username := 11, state := .active, password := 7,
       sessionsValidAfter := none }]
    [{ id := 2, adminId := 1, state := .active, lastAcceptedTimestep := none }] [] []
    [{ token := 3, adminId := 1, method := .totp, createdAt := 0, stepUpAt := some 0 }] 4

def passwordStep (number : Nat) (password : Password) : List Event :=
  [.passwordChallenge 10 password 0, .lockRow number, .check number true, .judge number,
    .commit number]

def codeStep (number : Nat) (token : Token) (acceptedStep : Option Nat) : List Event :=
  [.secondStep token 0 (.totp acceptedStep), .lockRow number, .judge number, .commit number]

def changeStep (number : Nat) (token : Token) (current new : Password) : List Event :=
  [.changePassword token current new, .lockRow number, .judge number, .commit number,
    .afterCommit number]

end Nebula.SignIn
