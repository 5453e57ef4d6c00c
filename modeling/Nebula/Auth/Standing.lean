import Nebula.Auth.History

/-!
# What every step of the service keeps

Rows are held once, a request has written only what it holds, and the tables keep their
indexes. This is so whatever the rate limits turn away and whatever is rolled back.
-/

namespace Nebula.Auth

open Store Schema Work RowLocks Runs List Option

structure Standing (service : Service) : Prop where
  exclusive : Exclusive service.requests
  fits : ∀ job ∈ service.requests.jobs, Fits service.tables job.2
  sound : Sound service.tables service.nextId

variable {transaction : Transaction Row Call} {service : Service}

theorem committed_rows (fits : Fits service.tables transaction) {outcome : Outcome}
    (stage : transaction.work.stage = .committing outcome) :
    ∀ write ∈ transaction.work.writes ++
        outcome.inserts service.settings transaction.work.now service.nextId,
      ∀ row, write.row = some row → row ∈ transaction.held := by
  intro write member row named
  rcases mem_append.mp member with written | inserted
  · obtain ⟨held, heldMember, same⟩ := fits.locked write written
    rw [same] at named
    exact some.inj named ▸ heldMember
  have current := fits.current
  rw [stage] at current
  cases outcome with
  | rotated token userSession =>
    rcases mem_cons.mp inserted with consumed | added
    · subst consumed
      exact some.inj named ▸ current.1.tokenHeld
    · rw [mem_singleton.mp added] at named
      cases named
  | opened userId deviceId hardwareId =>
    rcases mem_append.mp inserted with registered | added
    · cases deviceId with
      | some device => cases registered
      | none =>
        rw [mem_singleton.mp registered] at named
        cases named
    · rcases mem_cons.mp added with session | token
      · rw [session] at named
        cases named
      · rw [mem_singleton.mp token] at named
        cases named
  | issued userId =>
    rw [mem_singleton.mp inserted] at named
    cases named
  | ended answer => cases inserted

theorem Fits.rows {tables : Tables} (fits : Fits tables transaction) :
    ∀ write ∈ transaction.work.writes, ∃ row, write.row = some row := by
  intro write member
  obtain ⟨row, _, named⟩ := fits.locked write member
  exact ⟨row, named⟩

section

variable {service : Service} (standing : Standing service)
include standing

theorem standing_finish {id : Nat} {answer : Answer} {entries : List Entry} :
    Standing (service.finish id answer entries) :=
  { exclusive := exclusive_finish standing.exclusive id
    fits := Pool.forall_finish standing.fits
    sound := standing.sound }

theorem standing_counting {call : Call} : Standing (service.counting call) :=
  ⟨standing.exclusive, standing.fits, standing.sound⟩

theorem standing_goOn {id : Nat} {after : Transaction Row Call}
    (exclusive : Exclusive (service.requests.goOn id after)) (fits : Fits service.tables after) :
    Standing { service with requests := service.requests.goOn id after } :=
  ⟨exclusive, Pool.forall_goOn standing.fits fits, standing.sound⟩

theorem standing_advance {id : Nat} {after : Service} (taken : service.advance id = some after) :
    Standing after := by
  unfold Service.advance at taken
  cases found : service.requests.find id with
  | none => simp [found] at taken
  | some transaction =>
    have member := service.requests.find_mem id transaction found
    simp only [found] at taken
    obtain ⟨ready, taken⟩ := ite_none_right_eq_some.mp taken
    have progress := advance_fits standing.sound (standing.fits _ member) ready service.clock
    split at taken
    swap
    · cases taken
      exact standing_finish (standing_counting standing)
    split at taken
    · rename_i rows call goesOn
      cases taken
      rw [goesOn] at progress
      exact standing_goOn (standing_counting standing)
        (exclusive_goOn standing.exclusive
          (not_held_of_other standing.exclusive transaction member))
        progress
    · cases taken
      exact standing_finish (standing_counting standing)

theorem committed_sound {transaction : Transaction Row Call}
    (fits : Fits service.tables transaction) {outcome : Outcome}
    (stage : transaction.work.stage = .committing outcome) (id : Nat) :
    Sound (service.committed id transaction.work outcome).tables (service.nextId + 3) := by
  have sound := Sound.commit_rows service.tables standing.sound fits.rows
  have current := fits.current
  have answers := fits.answers
  unfold Call.Answers at answers
  rw [stage] at current answers
  simp only [Service.committed, Service.finish]
  rw [commit_append]
  cases outcome with
  | rotated token userSession =>
    rw [answers.2]
    -- The consumed token was the active one of its session.
    have consumed : Sound (service.tables.write (.consumeToken token.id service.nextId))
        service.nextId :=
      standing.sound.write_row _ rfl
    refine consumed.insertToken _ (Nat.le_refl service.nextId) (service.nextId + 3) (by simp
        [newRefreshToken]) ?_ ?_
    · exact ⟨userSession, current.1.sessionMember, rfl, Nat.min_le_right _ _⟩
    intro other member session otherActive
    obtain ⟨old, oldMember, rewritten⟩ := mem_map.mp member
    by_cases own : old.id = token.id
    · rw [if_pos (by simpa using own)] at rewritten
      subst rewritten
      cases otherActive
    rw [if_neg (by simpa using own)] at rewritten
    subst rewritten
    refine own (congrArg RefreshToken.id ?_)
    apply standing.sound.single.eq_of_key oldMember current.1.tokenMember (if_pos otherActive)
    rw [session.trans current.1.named]
    exact if_pos current.2.1
  | opened userId deviceId hardwareId => exact sound_opened sound
  | issued userId => exact (sound.mono _ (Nat.le_add_right _ 3)).congr rfl rfl
  | ended answer => exact sound.mono _ (Nat.le_add_right _ 3)

theorem standing_commit {id : Nat} {after : Service} (taken : service.commit id = some after) :
    Standing after := by
  unfold Service.commit at taken
  cases found : service.requests.find id with
  | none => simp [found] at taken
  | some transaction =>
    have member := service.requests.find_mem id transaction found
    have fits := standing.fits _ member
    simp only [found] at taken
    split at taken
    swap
    · cases taken
    rename_i outcome stage
    cases taken
    refine ⟨exclusive_finish standing.exclusive id, ?_, committed_sound standing fits stage id⟩
    intro job jobMember
    obtain ⟨old, other⟩ := (service.requests.mem_finish id job).mp jobMember
    -- The rows of the commit are held here, so the other request does not hold them.
    refine (standing.fits job old).carried (carried_commit service.tables ?_)
      (grown_commit _ service.tables)
    intro write written row named held
    exact not_held_of_other standing.exclusive transaction member job old
      other held
      (committed_rows fits stage write written row named)

end

theorem step_standing {event : Event} {after : Service}
    (standing : Standing service) (taken : service.step event = some after) : Standing after := by
  cases event with
  | readsClock | forgets =>
    cases taken
    exact ⟨standing.exclusive, standing.fits, standing.sound⟩
  | arrive request =>
    cases taken
    exact ⟨Pool.heldApart_begin (fun own row => row ∈ Transaction.held own) standing.exclusive
        fun _ => not_mem_nil,
      Pool.forall_begin standing.fits fits_begin,
      standing.sound⟩
  | lock id =>
    obtain ⟨requests, locked, same⟩ := map_eq_some_iff.mp taken
    subst same
    obtain ⟨transaction, found, same, free⟩ := lock_spec locked
    subst same
    have member := service.requests.find_mem id transaction found
    exact standing_goOn standing (exclusive_lockNext standing.exclusive member free)
      (standing.fits _ member).lockNext
  | advance id => exact standing_advance standing taken
  | commit id => exact standing_commit standing taken
  | rollBack id =>
    obtain ⟨transaction, _, same⟩ := map_eq_some_iff.mp taken
    subst same
    exact standing_finish standing
  | access userId sessionId =>
    cases taken
    unfold Service.access
    split
    · exact ⟨standing.exclusive, standing.fits, standing.sound⟩
    · exact standing

theorem standing_start {service : Service} (noSessions : service.tables.sessions = [])
    (noTokens : service.tables.refreshTokens = []) (idle : service.requests = .empty) :
    Standing service := by
  refine ⟨?_, ?_, ⟨?_, ?_, ?_, ?_, ?_, ?_⟩⟩
  · rw [idle]
    exact forall_mem_nil _
  · rw [idle]
    exact forall_mem_nil _
  all_goals simp [noSessions, noTokens, UniqueOn]

theorem step_grown {event : Event} {after : Service} (taken : service.step event = some after) :
    Grown service.tables after.tables := by
  cases event with
  | commit id =>
    simp only [Service.step, Service.commit] at taken
    repeat' split at taken
    all_goals cases taken
    exact grown_commit _ service.tables
  | advance id =>
    simp only [Service.step, Service.advance] at taken
    repeat' split at taken
    all_goals cases taken
    all_goals exact .refl _
  | lock id | rollBack id =>
    obtain ⟨_, _, same⟩ := map_eq_some_iff.mp taken
    subst same
    exact .refl _
  | access userId sessionId =>
    cases taken
    unfold Service.access
    split <;> exact .refl _
  | readsClock | forgets | arrive =>
    cases taken
    exact .refl _

/-- No access token of a revoked session is accepted again, whatever requests come and commit. -/
theorem revoked_session_refused (settings : AuthSettings) (users : List User)
    (devices : List Device) (resetTokens : List PasswordResetToken) (clock : Instant)
    (nextId : Uuid) (events : List Event) :
    AlwaysAlong Service.step
      (fun service => ∀ userSession ∈ service.tables.sessions, userSession.state = .revoked →
        ∀ later userId, AlwaysAlong Service.step
          (fun final => final.accepts userId userSession.id = false) later service)
      events (opening settings users devices resetTokens clock nextId) := by
  refine alwaysAlong_of_invariant Standing _ (fun _ _ _ standing _ taken =>
    step_standing standing taken) ?_ (standing_start rfl rfl rfl)
    (runMeets_of_forall _ (fun _ _ => trivial) _ _)
  intro service standing userSession member revoked later userId
  refine alwaysAlong_of_invariant
    (fun final => Standing final ∧ Grown service.tables final.tables) _ ?_ ?_ ⟨standing, .refl _⟩
    (runMeets_of_forall _ (fun _ _ => trivial) _ _)
  · intro final event after ⟨standing, grown⟩ _ taken
    exact ⟨step_standing standing taken, grown.trans (step_grown taken)⟩
  · intro final ⟨standing, grown⟩
    obtain ⟨same, sameMember, named, _, still⟩ := grown.sessions userSession member
    refine Bool.eq_false_iff.mpr fun accepted => ?_
    obtain ⟨found, lookedUp, eligible⟩ := any_eq_true _ _ |>.mp accepted
    obtain ⟨foundMember, foundNamed⟩ := lookup_mem lookedUp
    have one : found = same := standing.sound.sessionIds.eq_of_key foundMember sameMember rfl
      (congrArg some (named.trans foundNamed.symm))
    have active := found.active_of_isEligible _ _ _ (Bool.and_eq_true_iff.mp eligible).2
    rw [one, still revoked] at active
    cases active

end Nebula.Auth
