import Nebula.Admin.System

/-!
# How long an admin session is accepted

The scripts of `auth/redis_state.py` on one session and those it is rotated to. Each is atomic,
touches no other key, refuses a session past its absolute limit and sets the time to live anew; a
rotation moves the session to a new key. Tokens are numbers, given out once.

A call reads the clock in microseconds; the scripts are given whole milliseconds.
-/

namespace Nebula.Admin.Limits

open Store Schema List Option

/-- With the bounds of `settings.py` on `admin_session_ttl_minutes`. -/
structure Settings extends AdminSettings where
  sessionTtlMinutes : Nat
  ttl_min : 5 ≤ sessionTtlMinutes
  ttl_le : sessionTtlMinutes * 60000 ≤ sessionAbsoluteTtlMs

def Settings.idleMs (settings : Settings) : Nat :=
  settings.sessionTtlMinutes * 60000

structure Stored where
  token : SessionToken
  record : AdminSession
  expiresMs : Nat

structure Lineage where
  settings : Settings
  session : Option Stored
  nextToken : Nat

inductive Action where
  | read (token : SessionToken)
  | rotateCsrf (token : SessionToken) (presented : CsrfToken)
  | rotate (token : SessionToken)
  | revoke (token : SessionToken)
  deriving DecidableEq

def Action.token : Action → SessionToken
  | .read token | .rotateCsrf token _ | .rotate token | .revoke token => token

namespace Lineage

def issue (settings : Settings) (adminId : Uuid) (method : SessionMethod) (steppedUp : Bool)
    (now : Instant) : Lineage :=
  { settings := settings
    session := some
      { token := 0
        record := issued settings.toAdminSettings adminId method steppedUp 0 now
        expiresMs := millis now +
          max 1 (min settings.idleMs settings.sessionAbsoluteTtlMs / 1000) * 1000 }
    nextToken := 1 }

variable (lineage : Lineage)

variable (token : SessionToken)

def drop : Lineage :=
  { lineage with session := lineage.session.filter fun stored => decide (stored.token ≠ token) }

/-- The key's hash, if it has not expired and the session is not past its absolute limit. -/
def live (now : Instant) : Option AdminSession :=
  (lineage.session.filter fun stored => decide (stored.token = token ∧
    millis now < stored.expiresMs ∧ millis now < stored.record.absoluteExpiresMs)).map Stored.record

/-- The session is stored under `token`, to live for `math.min(idle_ms, absolute_ms - now_ms)`. -/
def store (record : AdminSession) (now : Instant) : Lineage :=
  { lineage with
    session := some
      { token := token
        record := record
        expiresMs := millis now +
          min lineage.settings.idleMs (record.absoluteExpiresMs - millis now) }
    nextToken := lineage.nextToken + 1 }

/-- The scripts and `revoke_admin_session`, with the session a call answers if it accepts; a key
that is not live is not there, or is deleted. -/
def act (now : Instant) (action : Action) : Option AdminSession × Lineage :=
  match action, lineage.live action.token now with
  | .revoke token, _ => (none, lineage.drop token)
  | _, none => (none, lineage.drop action.token)
  | .read token, some record => (some record, lineage.store token record now)
  | .rotateCsrf token presented, some record =>
    let replaced := { record with csrf := lineage.nextToken }
    if record.csrf = presented then (some replaced, lineage.store token replaced now)
    else (none, lineage)
  | .rotate _, some record =>
    let replaced := record.rotated lineage.nextToken now
    (some replaced, lineage.store lineage.nextToken replaced now)

/-- The calls that are accepted, the first of them first. -/
def accepted : List (Instant × Action) → Lineage → List (Instant × Action)
  | [], _ => []
  | call :: rest, lineage =>
    let (answer, next) := lineage.act call.1 call.2
    if answer.isSome then call :: accepted rest next else accepted rest next

end Lineage

def lastMs (issuedMs : Nat) (calls : List (Instant × Action)) : Nat :=
  (calls.getLast?.map fun call => millis call.1).getD issuedMs

variable (limitMs idleMs issuedMs : Nat)

/-- A call before the absolute limit, within the idle limit of the last, on a token not rotated out,
with no CSRF token that was accepted before. -/
structure Allowed (earlier : List (Instant × Action))
    (call : Instant × Action) : Prop where
  absolute : millis call.1 < limitMs
  idle : millis call.1 ≤ lastMs issuedMs earlier + idleMs
  current : ∀ past ∈ earlier, past.2 ≠ .rotate call.2.token
  once : ∀ token csrf, call.2 = .rotateCsrf token csrf →
    ∀ past ∈ earlier, ∀ other, past.2 ≠ .rotateCsrf other csrf

/-- What is stored, after the calls that were accepted. -/
structure Standing (earlier : List (Instant × Action))
    (nextToken : Nat) (stored : Stored) : Prop where
  given : stored.token < nextToken
  csrf : stored.record.csrf < nextToken
  absolute : stored.record.absoluteExpiresMs = limitMs
  idle : stored.expiresMs ≤ lastMs issuedMs earlier + idleMs
  current : ∀ past ∈ earlier, past.2 ≠ .rotate stored.token
  unspent : ∀ past ∈ earlier, ∀ token, past.2 ≠ .rotateCsrf token stored.record.csrf

structure Limited (earlier : List (Instant × Action))
    (lineage : Lineage) : Prop where
  idle : lineage.settings.idleMs = idleMs
  standing : ∀ stored ∈ lineage.session,
    Standing limitMs idleMs issuedMs earlier lineage.nextToken stored
  past : ∀ past ∈ earlier, past.2.token < lineage.nextToken ∧
    ∀ token csrf, past.2 = .rotateCsrf token csrf → csrf < lineage.nextToken

section

variable {limitMs idleMs issuedMs : Nat} {earlier : List (Instant × Action)} {lineage : Lineage}
  (limited : Limited limitMs idleMs issuedMs earlier lineage)
include limited

theorem limited_drop {token : SessionToken} :
    Limited limitMs idleMs issuedMs earlier (lineage.drop token) :=
  ⟨limited.idle, fun stored kept => limited.standing stored (filter_eq_some_iff.mp kept).1,
    limited.past⟩

variable {now : Instant} {action : Action} {found : AdminSession}
  (live : lineage.live action.token now = some found)
include live

theorem live_standing : ∃ stored, stored.token = action.token ∧ stored.record = found ∧
    Standing limitMs idleMs issuedMs earlier lineage.nextToken stored ∧
      millis now < stored.expiresMs ∧ millis now < found.absoluteExpiresMs := by
  obtain ⟨stored, present, rfl⟩ := map_eq_some_iff.mp live
  obtain ⟨held, inTime⟩ := filter_eq_some_iff.mp present
  obtain ⟨named, unexpired, early⟩ := of_decide_eq_true inTime
  exact ⟨stored, named, rfl, limited.standing stored held, unexpired, early⟩

variable (spends : ∀ token csrf, action = .rotateCsrf token csrf → csrf = found.csrf)
include spends

theorem allowed_live : Allowed limitMs idleMs issuedMs earlier (now, action) := by
  obtain ⟨stored, named, rfl, standing, unexpired, early⟩ := live_standing limited live
  refine ⟨standing.absolute ▸ early, unexpired.le.trans standing.idle, ?_, ?_⟩
  · exact named ▸ standing.current
  · intro token csrf presented past among
    exact spends token csrf presented ▸ standing.unspent past among

theorem limited_store {next : SessionToken} {record : AdminSession}
    (keeps : record.absoluteExpiresMs = found.absoluteExpiresMs)
    (moves : next = lineage.nextToken ∨ next = action.token ∧ ∀ token, action ≠ .rotate token)
    (csrf : record.csrf = lineage.nextToken ∨
      record.csrf = found.csrf ∧ ∀ token csrf, action ≠ .rotateCsrf token csrf) :
    Limited limitMs idleMs issuedMs (earlier ++ [(now, action)])
      (lineage.store next record now) := by
  obtain ⟨stored, named, rfl, standing, _⟩ := live_standing limited live
  have own := named ▸ standing.given
  have known := standing.csrf
  refine ⟨limited.idle, ?_, ?_⟩
  · intro renewed put
    obtain rfl := some.inj put
    refine ⟨?_, ?_, keeps.trans standing.absolute, by simp [lastMs, limited.idle], ?_, ?_⟩
    · rcases moves with rfl | ⟨rfl, _⟩
      · exact Nat.lt_succ_self _
      · exact Nat.lt_succ_of_lt own
    · rcases csrf with fresh | ⟨same, _⟩
      · exact fresh ▸ Nat.lt_succ_self _
      · exact same ▸ Nat.lt_succ_of_lt known
    · refine forall_mem_append.mpr ⟨fun past among rotated => ?_, forall_mem_singleton.mpr ?_⟩
      · rcases moves with rfl | ⟨rfl, _⟩
        · exact (rotated ▸ (limited.past past among).1).ne rfl
        · exact standing.current past among (named ▸ rotated)
      · rcases moves with rfl | ⟨_, unmoved⟩
        · exact fun rotated => own.ne (congrArg Action.token rotated)
        · exact unmoved _
    · refine forall_mem_append.mpr ⟨fun past among token spent => ?_, forall_mem_singleton.mpr ?_⟩
      · rcases csrf with fresh | ⟨same, _⟩
        · exact ((limited.past past among).2 _ _ spent).ne fresh
        · exact standing.unspent past among token (same ▸ spent)
      · rcases csrf with fresh | ⟨_, unspent⟩
        · exact fun token spent => known.ne ((spends _ _ spent).symm.trans fresh)
        · exact fun token => unspent token _
  · refine forall_mem_append.mpr ⟨fun past among => ?_, forall_mem_singleton.mpr ⟨?_, ?_⟩⟩
    · obtain ⟨given, spent⟩ := limited.past past among
      exact ⟨Nat.lt_succ_of_lt given, fun token csrf same =>
        Nat.lt_succ_of_lt (spent token csrf same)⟩
    · exact Nat.lt_succ_of_lt own
    · exact fun token csrf same => spends token csrf same ▸ Nat.lt_succ_of_lt known

end

/-- An accepted call was allowed, and what any call leaves is limited by those accepted so far. -/
theorem act_limited {limitMs idleMs issuedMs : Nat} {earlier : List (Instant × Action)}
    {lineage : Lineage} (limited : Limited limitMs idleMs issuedMs earlier lineage)
    (call : Instant × Action) :
    if (lineage.act call.1 call.2).1.isSome then
      Allowed limitMs idleMs issuedMs earlier call ∧
        Limited limitMs idleMs issuedMs (earlier ++ [call]) (lineage.act call.1 call.2).2
    else Limited limitMs idleMs issuedMs earlier (lineage.act call.1 call.2).2 := by
  obtain ⟨now, action⟩ := call
  cases live : lineage.live action.token now with
  | none =>
    have refused : lineage.act now action = (none, lineage.drop action.token) := by
      unfold Lineage.act
      rw [live]
      cases action <;> rfl
    rw [refused]
    exact limited_drop limited
  | some record =>
    cases action with
    | revoke token => exact limited_drop limited
    | read token =>
      simp only [Lineage.act, live, isSome_some, if_true]
      exact ⟨allowed_live limited live nofun, limited_store limited live nofun rfl
        (.inr ⟨rfl, nofun⟩) (.inr ⟨rfl, nofun⟩)⟩
    | rotate token =>
      simp only [Lineage.act, live, isSome_some, if_true]
      exact ⟨allowed_live limited live nofun, limited_store limited live nofun rfl
        (.inl rfl) (.inl rfl)⟩
    | rotateCsrf token presented =>
      simp only [Lineage.act, live]
      by_cases same : record.csrf = presented
      · have spends : ∀ own csrf, Action.rotateCsrf token presented = .rotateCsrf own csrf →
            csrf = record.csrf := by
          rintro _ _ ⟨⟩
          exact same.symm
        simp only [same, if_true, isSome_some]
        exact ⟨allowed_live limited live spends, limited_store limited live spends rfl
          (.inr ⟨rfl, nofun⟩) (.inl rfl)⟩
      · simpa [same] using limited

theorem accepted_allowed {limitMs idleMs issuedMs : Nat} {earlier : List (Instant × Action)}
    {lineage : Lineage} (limited : Limited limitMs idleMs issuedMs earlier lineage)
    {calls before after : List (Instant × Action)} {call : Instant × Action}
    (split : Lineage.accepted calls lineage = before ++ call :: after) :
    Allowed limitMs idleMs issuedMs (earlier ++ before) call := by
  induction calls generalizing earlier lineage before with
  | nil => simp [Lineage.accepted] at split
  | cons first rest ih =>
    have next := act_limited limited first
    simp only [Lineage.accepted] at split
    by_cases accepts : (lineage.act first.1 first.2).1.isSome = true
    · rw [if_pos accepts] at split next
      cases before with
      | nil =>
        obtain ⟨rfl, _⟩ := cons.inj split
        simpa using next.1
      | cons own before =>
        obtain ⟨rfl, left⟩ := cons.inj split
        simpa using ih next.2 left
    · rw [if_neg accepts] at split next
      exact ih next split

/-- Whatever is called on a session and its successors, each call that is accepted is allowed after
those accepted before it. -/
theorem sessions_within_limits (settings : Settings) (adminId : Uuid) (method : SessionMethod)
    (steppedUp : Bool) (now : Instant) (calls : List (Instant × Action)) :
    ∀ earlier call later, Lineage.accepted calls (.issue settings adminId method steppedUp now) =
        earlier ++ call :: later →
      Allowed (millis now + settings.sessionAbsoluteTtlMs) settings.idleMs (millis now) earlier
        call := by
  intro earlier call later split
  have start : Limited (millis now + settings.sessionAbsoluteTtlMs) settings.idleMs (millis now) []
      (.issue settings adminId method steppedUp now) := by
    refine ⟨rfl, ?_, forall_mem_nil _⟩
    intro stored put
    obtain rfl := some.inj put
    refine ⟨Nat.zero_lt_one, Nat.zero_lt_one, rfl, ?_, forall_mem_nil _, forall_mem_nil _⟩
    -- whole minutes are whole seconds, so the first time to live is not rounded up
    have least := settings.ttl_min
    simp only [lastMs, Settings.idleMs, getLast?_nil, map_none, getD_none]
    omega
  exact accepted_allowed start split

/-- The defaults of `settings.py`. -/
def defaults : Settings where
  toAdminSettings := defaultSettings
  sessionTtlMinutes := 30
  ttl_min := by decide
  ttl_le := by decide

/-- A read, a change made twice with one CSRF token, a step-up, the old token and the new one, and
that once more after the idle limit. -/
def day : List (Instant × Action) :=
  [(1000000, .read 0), (2000000, .rotateCsrf 0 0), (3000000, .rotateCsrf 0 0), (4000000, .rotate 0),
    (5000000, .read 0), (6000000, .read 3), (1900000000, .read 3)]

theorem sessions_within_limits_day :
    Lineage.accepted day (.issue defaults 1 .totp false 0) =
        [(1000000, .read 0), (2000000, .rotateCsrf 0 0), (4000000, .rotate 0)] ++
          (6000000, .read 3) :: [] ∧
      Allowed 28800000 1800000 0
        [(1000000, .read 0), (2000000, .rotateCsrf 0 0), (4000000, .rotate 0)] (6000000, .read 3) :=
  ⟨by decide, sessions_within_limits defaults 1 .totp false 0 day _ _ [] (by decide)⟩

end Nebula.Admin.Limits
