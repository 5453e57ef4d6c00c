import Nebula.Auth.Standing

/-!
# Rotation of refresh tokens

A refresh token is good for one refresh, a session has one active token at a time, no token outlives
what its session was opened with, and a session whose consumed token has come back is over. The
last holds if a presentation of a consumed token is neither turned away by the rate limit nor rolled
back.
-/

namespace Nebula.Auth

open Store Schema RowLocks Runs List Option

variable (service : Service)

@[mk_iff]
structure RotatesSafely : Prop where
  once : (service.history.filterMap Entry.refreshedToken).Nodup
  single : UniqueOn RefreshToken.activeSession service.tables.refreshTokens
  silenced : service.history.Pairwise Entry.Allows
  bounded : ∀ token ∈ service.tables.refreshTokens,
    (originalExpiry service.history token.sessionId).any
      (fun expiresAt => decide (token.expiresAt ≤ expiresAt)) = true

instance : Decidable (RotatesSafely service) :=
  decidable_of_iff' _ (rotatesSafely_iff service)

/-- A presentation of a consumed token is neither turned away nor rolled back. -/
def Service.heard : Event → Bool
  | .advance id =>
    (service.requests.find id).all fun transaction =>
      service.admits transaction.work || (transaction.work.replays service.tables).isNone
  | .rollBack id =>
    (service.requests.find id).all fun transaction =>
      (transaction.work.replays service.tables).isNone
  | _ => true

structure Kept : Prop where
  exclusive : Exclusive service.requests
  fits : ∀ job ∈ service.requests.jobs, Fits service.tables job.2
  sound : Sound service.tables service.nextId
  told : Told service.tables service.nextId service.history

variable {service : Service}

theorem Kept.rotatesSafely (kept : Kept service) : RotatesSafely service := by
  refine ⟨kept.told.once, kept.sound.single, kept.told.silenced, ?_⟩
  intro token member
  obtain ⟨userSession, sessionMember, named, bounded⟩ := kept.sound.owned token member
  have expiry := kept.told.expiry userSession.lifetime (mem_map_of_mem sessionMember)
  rw [← named, show originalExpiry service.history userSession.id = some userSession.expiresAt
    from expiry]
  simpa using bounded

theorem Kept.standing (kept : Kept service) : Standing service :=
  ⟨kept.exclusive, kept.fits, kept.sound⟩

theorem Standing.kept (standing : Standing service)
    (told : Told service.tables service.nextId service.history) : Kept service :=
  ⟨standing.exclusive, standing.fits, standing.sound, told⟩

section

variable {service : Service} (kept : Kept service)
include kept

theorem told_advance {id : Nat} {after : Service} (heard : service.heard (.advance id) = true)
    (taken : service.advance id = some after) :
    Told after.tables after.nextId after.history := by
  unfold Service.advance at taken
  cases found : service.requests.find id with
  | none => simp [found] at taken
  | some transaction =>
    have member := service.requests.find_mem id transaction found
    have known : service.admits transaction.work = true ∨
        transaction.work.replays service.tables = none := by
      simpa [Service.heard, found] using heard
    simp only [found] at taken
    obtain ⟨ready, taken⟩ := ite_none_right_eq_some.mp taken
    have progress := advance_fits kept.sound (kept.fits _ member) ready service.clock
    split at taken
    · split at taken
      · cases taken
        exact kept.told
      rename_i answer answered
      cases taken
      rw [answered] at progress
      simp only [Service.presentation, show transaction.work.replays service.tables = none
        from progress, Service.finish, toList_none, map_nil, append_nil]
      exact kept.told
    · rename_i refused
      cases taken
      simp only [Service.presentation, known.resolve_left refused, Service.finish,
        toList_none, map_nil, append_nil]
      exact kept.told

theorem told_commit {id : Nat} {after : Service} (taken : service.commit id = some after) :
    Told after.tables after.nextId after.history := by
  unfold Service.commit at taken
  cases found : service.requests.find id with
  | none => simp [found] at taken
  | some transaction =>
    have fits := kept.fits _ (service.requests.find_mem id transaction found)
    simp only [found] at taken
    split at taken
    swap
    · cases taken
    rename_i outcome stage
    cases taken
    have current := fits.current
    have answers := fits.answers
    unfold Call.Answers at answers
    rw [stage] at current answers
    simp only [Service.committed, Service.finish]
    rw [commit_append, ← append_assoc]
    cases outcome with
    | rotated token userSession =>
      have told := told_rotated kept.sound kept.told
        answers.1 answers.2 current.1 current.2.1 current.2.2 id
      simp only [Service.committed, Service.finish] at told
      rw [commit_append, ← append_assoc] at told
      exact told
    | opened userId deviceId hardwareId =>
      exact (told_presented kept.sound kept.told answers fits.rows).opened
        userId deviceId hardwareId _ _
    | issued userId =>
      have told := told_presented kept.sound kept.told answers fits.rows
      rw [Outcome.entries, append_nil]
      exact told.moved _ _ (grown_commit _ _) told.expiry (Nat.le_add_right _ 3)
    | ended answer =>
      have told := told_presented kept.sound kept.told answers fits.rows
      rw [Outcome.entries, append_nil]
      exact told.moved _ _ (Grown.refl _) told.expiry (Nat.le_add_right _ 3)

end

theorem step_told {event : Event} {after : Service} (kept : Kept service)
    (heard : service.heard event = true) (taken : service.step event = some after) :
    Told after.tables after.nextId after.history := by
  cases event with
  | readsClock | forgets | arrive =>
    cases taken
    exact kept.told
  | lock id =>
    obtain ⟨requests, locked, same⟩ := map_eq_some_iff.mp taken
    subst same
    exact kept.told
  | advance id => exact told_advance kept heard taken
  | commit id => exact told_commit kept taken
  | rollBack id =>
    obtain ⟨transaction, found, same⟩ := map_eq_some_iff.mp taken
    have unseen : transaction.work.replays service.tables = none := by
      simpa [Service.heard, found] using heard
    subst same
    simp only [Service.presentation, unseen, Service.finish, toList_none, map_nil, append_nil]
    exact kept.told
  | access userId sessionId =>
    cases taken
    unfold Service.access
    split
    swap
    · exact kept.told
    rename_i accepted
    unfold Service.accepts at accepted
    cases found : service.tables.session sessionId with
    | none => simp [found] at accepted
    | some userSession =>
      obtain ⟨member, named⟩ := lookup_mem found
      simp only [found, any_some, Bool.and_eq_true] at accepted
      have active := userSession.active_of_isEligible _ _ _ accepted.2
      refine kept.told.append _ ?_ ?_ ?_ ?_
      · intro opened expiresAt same
        cases same
      · intro tokenId session same
        cases same
      · intro replayed same
        cases same
      · intro used same
        cases same
        exact named ▸ kept.told.not_replayed kept.sound member active

theorem step_kept (service : Service) (event : Event) (after : Service) (kept : Kept service)
    (heard : service.heard event = true) (taken : service.step event = some after) :
    Kept after :=
  (step_standing kept.standing taken).kept
    (step_told kept heard taken)

theorem refresh_tokens_rotate_safely (start : Service) (noSessions : start.tables.sessions = [])
    (noTokens : start.tables.refreshTokens = []) (idle : start.requests = .empty)
    (unrecorded : start.history = []) (events : List Event)
    (meets : RunMeets Service.step (fun service event => service.heard event = true) events start) :
    AlwaysAlong Service.step RotatesSafely events start := by
  refine alwaysAlong_of_invariant Kept RotatesSafely
    (fun service event after kept heard taken => step_kept service event after kept heard taken)
    (fun _ kept => kept.rotatesSafely) ?_ meets
  refine (standing_start noSessions noTokens idle).kept ⟨?_, ?_, ?_, ?_, ?_, ?_⟩
  all_goals simp [noSessions, noTokens, unrecorded]

def onePhone : Service :=
  opening defaultSettings
    [{ id := 1
       emailNormalized := 100
       usernameNormalized := none
       passwordHash := some 5
       state := .active
       expiresAt := none
       deviceLimit := 3 }]
    [{ id := 2, userId := 1, state := .active, hardwareHash := none }] [] 1000 10

/-- Session 10, whose token 11 is consumed and replaced by 13. -/
def signedInAndRefreshed : List Event :=
  [.arrive (.login
      { identifier := 100, password := 5, deviceId := some 2, hardwareId := none, network := 7 }),
    .advance 0, .lock 0, .advance 0, .lock 0, .advance 0, .advance 0, .commit 0,
    .arrive (.refresh 11), .advance 1, .lock 1, .advance 1, .lock 1, .advance 1, .lock 1,
    .advance 1, .commit 1]

def replayedThenRefreshed : List Event :=
  signedInAndRefreshed ++
    [.arrive (.refresh 11), .advance 2, .lock 2, .advance 2, .lock 2, .advance 2, .lock 2,
      .advance 2, .commit 2, .access 1 10,
      .arrive (.refresh 13), .advance 3, .lock 3, .advance 3, .lock 3, .advance 3, .lock 3,
      .advance 3, .advance 3, .commit 3]

theorem refresh_tokens_rotate_safely_replayed :
    AlwaysAlong Service.step RotatesSafely replayedThenRefreshed onePhone ∧
      (runEvents Service.step replayedThenRefreshed onePhone).map Service.history =
        some [.opened 10 2593000, .refreshed 11 10, .replayed 10] :=
  ⟨refresh_tokens_rotate_safely onePhone rfl rfl rfl rfl replayedThenRefreshed
    (by decide +kernel), by decide +kernel⟩

/-- The refresh holds token 13 and waits for session 10; the replay holds the session and waits for
the token. -/
def refreshedWhileReplayed : List Event :=
  signedInAndRefreshed ++
    [.arrive (.refresh 13), .advance 2, .lock 2, .advance 2,
      .arrive (.refresh 11), .advance 3, .lock 3, .advance 3, .lock 3, .advance 3]

/-- The presentation is the deadlock's victim, and the phone's refresh goes on. -/
def victimOfDeadlock : List Event :=
  refreshedWhileReplayed ++
    [.rollBack 3, .lock 2, .advance 2, .lock 2, .advance 2, .commit 2, .access 1 10]

theorem session_survives_replay_deadlocked :
    (runEvents Service.step refreshedWhileReplayed onePhone).any (fun service =>
        (service.step (.lock 2)).isNone && (service.step (.advance 2)).isNone &&
          (service.step (.lock 3)).isNone && (service.step (.advance 3)).isNone) = true ∧
      ¬ AlwaysAlong Service.step RotatesSafely victimOfDeadlock onePhone :=
  ⟨by decide +kernel,
    not_alwaysAlong RotatesSafely victimOfDeadlock onePhone (by decide +kernel)⟩

end Nebula.Auth
