import Nebula.Admin.Steps

/-!
# The session a password change returns

`change_password` reads the clock for `sessions_valid_after`, kept in microseconds, and again for
the session its caller goes on with, kept in whole milliseconds: that session can seem to be older
than the change.
-/

namespace Nebula.Admin

open Store Schema Work Runs Option

/-- What is left of the time of issue as milliseconds is not before the change. -/
def Tellable (changed now : Instant) : Prop :=
  changed ≤ ofMillis (millis now)
  deriving Decidable

structure Returned (token : SessionToken) (adminId : Uuid) (createdMs : Nat) (system : System) :
    Prop where
  given : token < system.nextToken
  stored : ∀ record, (token, record) ∈ system.sessions →
    record.adminId = adminId ∧ record.createdMs = createdMs

namespace Returned

variable {token : SessionToken} {adminId : Uuid} {createdMs : Nat} {before after : System}
  (returned : Returned token adminId createdMs before)
include returned

theorem dropSession (other : SessionToken) :
    Returned token adminId createdMs (before.dropSession other) :=
  ⟨returned.given, fun record member =>
    returned.stored record ((mem_remove Prod.fst).mp member).1⟩

theorem putSession (other : SessionToken) (put : AdminSession)
    (own : other = token → put.adminId = adminId ∧ put.createdMs = createdMs) :
    Returned token adminId createdMs (before.putSession other put) := by
  refine ⟨Nat.lt_succ_of_lt returned.given, fun record member => ?_⟩
  rcases (mem_upsert Prod.fst).mp member with old | new
  · exact returned.stored record old.1
  · obtain ⟨same, rfl⟩ := Prod.mk.inj new
    exact own same.symm

theorem putNext (put : AdminSession) :
    Returned token adminId createdMs (before.putSession before.nextToken put) :=
  returned.putSession _ put fun same => absurd same (Nat.ne_of_gt returned.given)

theorem transition {event : Event} (step : Transition before event after) :
    Returned token adminId createdMs after := by
  cases step with
  | signedIn => exact returned.putNext _
  | ownIssued id now principal =>
    have put := returned.putNext
      (issued before.settings principal.adminId principal.mfaMethod true before.nextToken now)
    exact ⟨put.given, put.stored⟩
  | dropped other => exact returned.dropSession other
  | admitted other purpose csrf now record found =>
    have put := returned.putSession other { record with csrf := before.nextToken }
      fun same => returned.stored record (same ▸ session_mem found)
    exact ⟨put.given, put.stored⟩
  | rotated id now other owner record =>
    have put := (returned.dropSession other).putNext (record.rotated before.nextToken now)
    exact ⟨put.given, put.stored⟩
  | rejected id now other | takenBack id other | ownRevoked id other =>
    exact ⟨returned.given, (returned.dropSession other).stored⟩
  | looked | turnedAway | moved | passwordCommitted | manageCommitted | invited =>
    exact ⟨returned.given, returned.stored⟩

end Returned

/-- The row as the change left it. -/
theorem committed_row {before committed : System} {id : Nat} {token : SessionToken}
    {principal : AdminPrincipal} {changed : Instant}
    (locked : before.requests.find id = some (.passwordLocked token principal changed))
    (active : (before.activeAdmin principal.adminId).isSome = true)
    (commits : before.step (.commit id) = some committed) :
    ∃ admin : AdminUser, committed.activeAdmin principal.adminId =
      some { admin with sessionsValidAfter := some changed } := by
  simp only [System.step, System.commit, locked, some.injEq] at commits
  subst commits
  obtain ⟨admin, present⟩ := isSome_iff_exists.mp active
  obtain ⟨stored, enabled⟩ := filter_eq_some_iff.mp present
  have written := admin_commitRow before principal.adminId
    (fun admin => { admin with sessionsValidAfter := some changed })
    ((before.admin principal.adminId).map fun _ => changed) (fun _ => rfl) principal.adminId
  refine ⟨admin, ?_⟩
  rw [System.activeAdmin]
  exact written ▸ by simpa [stored, (admin_id stored).2] using enabled

section

variable {issuing : System} {principal : AdminPrincipal} {id : Nat} {now : Instant}

theorem issued_stays {asked : Instant}
    (early : millis asked < millis now + issuing.settings.sessionAbsoluteTtlMs) :
    (((issuing.issue principal.adminId principal.mfaMethod true now).resume id none).session
      issuing.nextToken asked).isSome = true := by
  simp [System.session, System.issue, System.putSession, System.resume, lookup_upsert, issued,
    early]

theorem issued_returned : Returned issuing.nextToken principal.adminId (millis now)
    ((issuing.issue principal.adminId principal.mfaMethod true now).resume id none) := by
  refine ⟨Nat.lt_succ_self _, fun record member => ?_⟩
  rcases (mem_upsert Prod.fst).mp member with old | new
  · exact absurd rfl old.2
  · obtain ⟨_, rfl⟩ := Prod.mk.inj new
    exact ⟨rfl, rfl⟩

theorem principal_isSome_iff {checking : System} {admin : AdminUser} {record : AdminSession}
    {changed checked : Instant} (row : checking.activeAdmin record.adminId =
      some { admin with sessionsValidAfter := some changed })
    (created : record.createdMs = millis now) :
    (checking.principal record checked).isSome = true ↔ Tellable changed now := by
  rw [System.principal, row]
  simp [AdminUser.cutsOff, AdminSession.createdAt, created, Tellable, apply_ite]

end

/-- The session the change returns is in Redis up to its absolute limit. Every check that finds the
row as the change left it accepts it, if and only if change and session are `Tellable`. -/
theorem caller_stays_signed_in {before committed issuing issued : System} {id : Nat}
    {token : SessionToken} {principal : AdminPrincipal} {changed now : Instant}
    (locked : before.requests.find id = some (.passwordLocked token principal changed))
    (active : (before.activeAdmin principal.adminId).isSome = true)
    (commits : before.step (.commit id) = some committed)
    (revoked : issuing.requests.find id = some (.passwordRevoked principal))
    (issues : issuing.step (.issueOwn id now) = some issued)
    (lasts : 0 < issuing.settings.sessionAbsoluteTtlMs) :
    (∀ asked, millis asked < millis now + issuing.settings.sessionAbsoluteTtlMs →
      (issued.session issuing.nextToken asked).isSome = true) ∧
    ((∀ events reading asked record, runEvents System.step events issued = some reading →
      reading.session issuing.nextToken asked = some record →
      ∀ checking : System, ∀ checked,
        checking.admin principal.adminId = committed.admin principal.adminId →
        (checking.principal record checked).isSome = true) ↔ Tellable changed now) := by
  obtain ⟨admin, row⟩ := committed_row locked active commits
  simp only [System.step, System.issueOwn, revoked, some.injEq] at issues
  subst issues
  refine ⟨fun asked early => issued_stays early, fun accepts => ?_,
    fun tellable events reading asked record run found checking checked same => ?_⟩
  · obtain ⟨record, found⟩ := isSome_iff_exists.mp
      (@issued_stays issuing principal id now now (Nat.lt_add_of_pos_right lasts))
    obtain ⟨owner, created⟩ := issued_returned.stored record (session_mem found)
    exact (principal_isSome_iff (owner ▸ row) created).mp
      (accepts [] _ now record rfl found committed now rfl)
  · have returned := runEvents_invariant _
      (fun _ event _ holds _ taken => holds.transition (step_transition taken)) _ issued_returned
      (runMeets_of_forall System.step (fun _ _ => trivial) events _) run
    obtain ⟨owner, created⟩ := returned.stored record (session_mem found)
    have found : checking.activeAdmin record.adminId = committed.activeAdmin principal.adminId := by
      rw [owner, System.activeAdmin, System.activeAdmin, same]
    exact (principal_isSome_iff (found.trans row) created).mpr tellable

def owner : AdminPrincipal :=
  { adminId := 1, role := .owner, stepUp := true, mfaMethod := .totp }

def changing (changed : Instant) : System :=
  { deployment [invitedAdmin 1 .owner] with
    requests := Pool.empty.begin (.passwordLocked 7 owner changed)
    nextToken := 8 }

def changedAndReturned (now : Instant) : List Event :=
  [.commit 0, .revokeOwn 0, .issueOwn 0 now]

/-- Within one millisecond; and at a whole one, of which the product in floating point falls
short. -/
theorem caller_signed_out_same_millisecond :
    (∃ issued, runEvents System.step (changedAndReturned 20700) (changing 20500) = some issued ∧
      ∃ record, issued.session 8 30000 = some record ∧ issued.principal record 30000 = none) ∧
    ∃ issued, runEvents System.step (changedAndReturned 1001000) (changing 1001000) = some issued ∧
      ∃ record, issued.session 8 1002000 = some record ∧ issued.principal record 1002000 = none :=
  ⟨runEvents_exists System.step _ _ _ (by decide +kernel),
    runEvents_exists System.step _ _ _ (by decide +kernel)⟩

theorem caller_stays_signed_in_next_millisecond :
    ∃ issued, runEvents System.step (changedAndReturned 21000) (changing 20500) = some issued ∧
      (∀ asked, millis asked < 28800021 → (issued.session 8 asked).isSome = true) ∧
      ∀ events reading asked record, runEvents System.step events issued = some reading →
        reading.session 8 asked = some record →
        ∀ checking : System, ∀ checked, checking.admin 1 = issued.admin 1 →
          (checking.principal record checked).isSome = true := by
  obtain ⟨issuing, run, found⟩ := runEvents_exists System.step [.commit 0, .revokeOwn 0]
    (changing 20500)
    (fun issuing => issuing.requests.find 0 = some (.passwordRevoked owner)) (by decide)
  cases run
  obtain ⟨stays, accepts⟩ := caller_stays_signed_in
    (rfl : (changing 20500).requests.find 0 = some (.passwordLocked 7 owner 20500)) rfl rfl found
    (rfl : System.step _ (.issueOwn 0 21000) = some _) (by decide)
  exact ⟨_, rfl, stays, accepts.mpr (by decide)⟩

end Nebula.Admin
