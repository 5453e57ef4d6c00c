import Nebula.Admin.System

/-!
# What one step does to the admins

The step function inverted: a step that changes only where a request is, and
the few that change a row or a session.
-/

namespace Nebula.Admin

open Store Schema

inductive Advance (before : System) : Request → Option Request → Prop where
  | ends (request : Request) : Advance before request none
  | read (token : SessionToken) (purpose : Purpose) (record : AdminSession) (now : Instant)
    (found : before.session token now = some record) :
    Advance before (.admitted token purpose) (some (.checking token record purpose))
  | accepted (token : SessionToken) (record : AdminSession) (purpose : Purpose)
    (principal : AdminPrincipal) (next : Request)
    (goesOn : purpose.accepted token principal = some next) :
    Advance before (.checking token record purpose) (some next)
  | timed (token : SessionToken) (principal : AdminPrincipal) (now : Instant) :
    Advance before (.passwordAccepted token principal)
      (some (.passwordTimed token principal now))
  | stepUpLocked (token : SessionToken) (adminId : Uuid) :
    Advance before (.stepUpAccepted token adminId) (some (.stepUpLocked token adminId))
  | passwordLocked (token : SessionToken) (principal : AdminPrincipal) (now : Instant) :
    Advance before (.passwordTimed token principal now)
      (some (.passwordLocked token principal now))
  | manageLocked (actorId adminId : Uuid) (mutation : Mutation) (now : Instant) :
    Advance before (.manageAccepted actorId adminId mutation)
      (some (.manageLocked actorId adminId mutation now))

inductive Transition (before : System) : Event → System → Prop where
  | signedIn (adminId : Uuid) (method : SessionMethod) (now : Instant) :
    Transition before (.signIn adminId method now) (before.issue adminId method false now)
  | dropped (token : SessionToken) : Transition before (.drop token) (before.dropSession token)
  | looked (token : SessionToken) (csrf : CsrfToken) (now : Instant) :
    Transition before (.arrive token .look csrf now)
      { before with requests := before.requests.begin (.admitted token .look) }
  | turnedAway (token : SessionToken) (purpose : Purpose) (csrf : CsrfToken) (now : Instant) :
    Transition before (.arrive token purpose csrf now) before
  | admitted (token : SessionToken) (purpose : Purpose) (csrf : CsrfToken) (now : Instant)
    (record : AdminSession) (found : before.session token now = some record) :
    Transition before (.arrive token purpose csrf now)
      { before.putSession token { record with csrf := before.nextToken } with
        requests := before.requests.begin (.admitted token purpose) }
  | moved (event : Event) (id : Nat) (request : Request) (next : Option Request)
    (found : before.requests.find id = some request) (advance : Advance before request next) :
    Transition before event (before.resume id next)
  | rejected (id : Nat) (now : Instant) (token : SessionToken) :
    Transition before (.check id now) ((before.dropSession token).resume id none)
  | rotated (id : Nat) (now : Instant) (token : SessionToken) (adminId : Uuid)
    (record : AdminSession) (found : before.requests.find id = some (.stepUpLocked token adminId))
    (live : before.session token now = some record) :
    Transition before (.rotate id now)
      (((before.dropSession token).putSession before.nextToken
        (record.rotated before.nextToken now)).resume id
          (some (.stepUpRotated before.nextToken adminId)))
  | passwordCommitted (id : Nat) (token : SessionToken) (principal : AdminPrincipal)
    (now : Instant)
    (found : before.requests.find id = some (.passwordLocked token principal now)) :
    Transition before (.commit id)
      ((before.commitRow principal.adminId
        (fun admin => { admin with sessionsValidAfter := some now })
        ((before.admin principal.adminId).map fun _ => now)).resume id
          (some (.passwordChanged token principal)))
  | manageCommitted (id : Nat) (actorId adminId : Uuid) (mutation : Mutation) (now : Instant)
    (found : before.requests.find id = some (.manageLocked actorId adminId mutation now)) :
    Transition before (.commit id)
      ((before.commitRow adminId (mutation.apply now)
        ((before.admin adminId).bind fun admin => mutation.cutOff now admin)).resume id none)
  | takenBack (id : Nat) (replacement : SessionToken) :
    Transition before (.fail id) ((before.dropSession replacement).resume id none)
  | ownRevoked (id : Nat) (token : SessionToken) (principal : AdminPrincipal) :
    Transition before (.revokeOwn id)
      ((before.dropSession token).resume id (some (.passwordRevoked principal)))
  | ownIssued (id : Nat) (now : Instant) (principal : AdminPrincipal) :
    Transition before (.issueOwn id now)
      ((before.issue principal.adminId principal.mfaMethod true now).resume id none)
  | invited (role : AdminRole) : Transition before (.invite role) (before.invite role)

section

variable {before after : System} {id : Nat} {now : Instant}

theorem readSession_transition (taken : before.readSession id now = some after) :
    Transition before (.readSession id now) after := by
  unfold System.readSession at taken
  split at taken
  · rename_i token purpose found
    cases taken
    cases live : before.session token now with
    | none => exact .moved _ id _ none found (.ends _)
    | some record => exact .moved _ id _ _ found (.read token purpose record now live)
  · cases taken

theorem check_transition (taken : before.check id now = some after) :
    Transition before (.check id now) after := by
  unfold System.check at taken
  split at taken
  swap
  · cases taken
  rename_i token record purpose found
  split at taken
  · cases taken
    exact .rejected id now token
  rename_i principal _
  cases taken
  cases goesOn : purpose.accepted token principal with
  | none => exact .moved _ id _ none found (.ends _)
  | some next =>
    exact .moved _ id _ _ found (.accepted token record purpose principal next goesOn)

theorem readClock_transition (taken : before.readClock id now = some after) :
    Transition before (.readClock id now) after := by
  unfold System.readClock at taken
  split at taken
  · rename_i token principal found
    cases taken
    exact .moved _ id _ _ found (.timed token principal now)
  · cases taken

theorem lockRow_transition
    (taken : before.lockRow id now = some after) : Transition before (.lockRow id now) after := by
  unfold System.lockRow at taken
  split at taken
  · rename_i token adminId found
    split at taken
    · cases taken
    cases taken
    cases before.activeAdmin adminId with
    | none => exact .moved _ id _ none found (.ends _)
    | some admin => exact .moved _ id _ _ found (.stepUpLocked token adminId)
  · rename_i token principal timed found
    split at taken
    · cases taken
    cases taken
    cases before.activeAdmin principal.adminId with
    | none => exact .moved _ id _ none found (.ends _)
    | some admin => exact .moved _ id _ _ found (.passwordLocked token principal timed)
  · rename_i actorId adminId mutation found
    split at taken
    · cases taken
    cases taken
    cases before.admin adminId with
    | none => exact .moved _ id _ none found (.ends _)
    | some admin => exact .moved _ id _ _ found (.manageLocked actorId adminId mutation now)
  · cases taken

theorem rotate_transition (taken : before.rotate id now = some after) :
    Transition before (.rotate id now) after := by
  unfold System.rotate at taken
  split at taken
  · rename_i token adminId found
    split at taken
    · cases taken
      exact .moved _ id _ none found (.ends _)
    · rename_i record live
      cases taken
      exact .rotated id now token adminId record found live
  · cases taken

theorem commit_transition (taken : before.commit id = some after) :
    Transition before (.commit id) after := by
  unfold System.commit at taken
  split at taken
  · rename_i found
    cases taken
    exact .moved _ id _ none found (.ends _)
  · rename_i token principal now found
    cases taken
    exact .passwordCommitted id token principal now found
  · rename_i actorId adminId mutation now found
    cases taken
    exact .manageCommitted id actorId adminId mutation now found
  · cases taken

theorem fail_transition (taken : before.fail id = some after) :
    Transition before (.fail id) after := by
  unfold System.fail at taken
  split at taken
  · rename_i replacement _ _
    cases taken
    exact .takenBack id replacement
  · rename_i request _ found
    cases taken
    exact .moved _ id request none found (.ends _)
  · cases taken

theorem revokeOwn_transition (taken : before.revokeOwn id = some after) :
    Transition before (.revokeOwn id) after := by
  unfold System.revokeOwn at taken
  split at taken
  · rename_i token principal _
    cases taken
    exact .ownRevoked id token principal
  · cases taken

theorem issueOwn_transition (taken : before.issueOwn id now = some after) :
    Transition before (.issueOwn id now) after := by
  unfold System.issueOwn at taken
  split at taken
  · rename_i principal _
    cases taken
    exact .ownIssued id now principal
  · cases taken

theorem step_transition {event : Event} (taken : before.step event = some after) :
    Transition before event after := by
  cases event with
  | signIn adminId method now =>
    simp only [System.step, System.signIn] at taken
    split at taken
    · cases taken
      exact .signedIn adminId method now
    · cases taken
  | drop token =>
    cases taken
    exact .dropped token
  | arrive token purpose csrf now =>
    cases taken
    unfold System.arrive
    split
    · rename_i looks
      subst looks
      exact .looked token csrf now
    split
    · exact .turnedAway token purpose csrf now
    rename_i record found
    split
    · exact .admitted token purpose csrf now record found
    · exact .turnedAway token purpose csrf now
  | readSession id now => exact readSession_transition taken
  | check id now => exact check_transition taken
  | readClock id now => exact readClock_transition taken
  | lockRow id now => exact lockRow_transition taken
  | rotate id now => exact rotate_transition taken
  | commit id => exact commit_transition taken
  | fail id => exact fail_transition taken
  | revokeOwn id => exact revokeOwn_transition taken
  | issueOwn id now => exact issueOwn_transition taken
  | invite role =>
    cases taken
    exact .invited role

end

theorem admin_commitRow (system : System) (adminId : Uuid) (write : AdminUser → AdminUser)
    (cutOff : Option Instant) (kept : ∀ admin, (write admin).id = admin.id) (wanted : Uuid) :
    (system.commitRow adminId write cutOff).admin wanted =
      (system.admin wanted).map fun admin => if admin.id = adminId then write admin else admin := by
  have same : ∀ admin ∈ system.admins,
      (if decide (admin.id = adminId) then write admin else admin).id = admin.id := by
    intro admin _
    split
    · exact kept admin
    · rfl
  simpa [System.admin, System.commitRow, updateWhere] using lookup_map same

theorem admin_id {system : System} {adminId : Uuid} {admin : AdminUser}
    (found : system.admin adminId = some admin) : admin ∈ system.admins ∧ admin.id = adminId :=
  lookup_mem found

theorem session_mem {system : System} {token : SessionToken} {now : Instant}
    {record : AdminSession} (found : system.session token now = some record) :
    (token, record) ∈ system.sessions := by
  obtain ⟨present, _⟩ := Option.filter_eq_some_iff.mp found
  obtain ⟨entry, looked, same⟩ := Option.map_eq_some_iff.mp present
  obtain ⟨member, named⟩ := lookup_mem looked
  subst same named
  exact member

end Nebula.Admin
