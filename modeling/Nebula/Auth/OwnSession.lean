import Nebula.Auth.Standing

/-!
# What a refresh token can change

A request that presents a refresh token, to refresh or to sign out, writes to the session
of that token and to the tokens of that session, and to nothing else.
-/

namespace Nebula.Auth

open Store Schema Work RowLocks List Option

def Write.Within (tables : Tables) (sessionId : Uuid) : Write → Prop
  | .revokeSession id => id = sessionId
  | .revokeToken id | .consumeToken id _ =>
    ∃ token ∈ tables.refreshTokens, token.id = id ∧ token.sessionId = sessionId
  | .insertToken token => token.sessionId = sessionId
  | _ => False

def Outcome.Presented : Outcome → Prop
  | .rotated _ _ => True
  | .ended _ => True
  | _ => False

def Call.Confined (tables : Tables) (call : Call) : Prop :=
  ∀ tokenId, call.presents = some tokenId →
    match call.stage with
    | .revokeTokens tokenIds outcome =>
      ∃ token ∈ tables.refreshTokens, token.id = tokenId ∧
        (∀ write ∈ call.writes, write.Within tables token.sessionId) ∧
        (∀ id ∈ tokenIds, (Write.revokeToken id).Within tables token.sessionId) ∧
        outcome.Presented
    | .committing outcome =>
      ∃ token ∈ tables.refreshTokens, token.id = tokenId ∧
        (∀ write ∈ call.writes, write.Within tables token.sessionId) ∧ outcome.Presented
    | _ => call.writes = []

theorem Write.Within.grown {tables after : Tables} {sessionId : Uuid} {write : Write}
    (within : write.Within tables sessionId) (grown : Grown tables after) :
    write.Within after sessionId := by
  have found : ∀ id, (∃ token ∈ tables.refreshTokens, token.id = id ∧
      token.sessionId = sessionId) →
      ∃ token ∈ after.refreshTokens, token.id = id ∧ token.sessionId = sessionId := by
    rintro id ⟨token, member, named, session⟩
    obtain ⟨later, laterMember, laterNamed, laterSession, _⟩ := grown.tokens token member
    exact ⟨later, laterMember, laterNamed.trans named, laterSession.trans session⟩
  cases write with
  | revokeSession | insertToken => exact within
  | revokeToken id | consumeToken id successorId => exact found id within
  | _ => exact within.elim

theorem Call.Confined.grown {tables after : Tables} {call : Call}
    (confined : call.Confined tables) (grown : Grown tables after) : call.Confined after := by
  intro tokenId presents
  have before := confined tokenId presents
  cases stage : call.stage with
  | revokeTokens tokenIds outcome =>
    simp only [stage] at before ⊢
    obtain ⟨token, member, named, writes, ids, outcome⟩ := before
    obtain ⟨later, laterMember, laterNamed, laterSession, _⟩ := grown.tokens token member
    refine ⟨later, laterMember, laterNamed.trans named, ?_, ?_, outcome⟩
    · rw [laterSession]
      exact fun write written => (writes write written).grown grown
    · rw [laterSession]
      exact fun id among => (ids id among).grown grown
  | committing outcome =>
    simp only [stage] at before ⊢
    obtain ⟨token, member, named, writes, outcome⟩ := before
    obtain ⟨later, laterMember, laterNamed, laterSession, _⟩ := grown.tokens token member
    refine ⟨later, laterMember, laterNamed.trans named, ?_, outcome⟩
    rw [laterSession]
    exact fun write written => (writes write written).grown grown
  | _ =>
    simp only [stage] at before ⊢
    exact before

/-! ## Steps of a request -/

def Progress.Presents (presented : Option Uuid) : Progress → Prop
  | .goesOn _ call => call.presents = presented
  | .answered _ => True

def Progress.Confined (tables : Tables) : Progress → Prop
  | .goesOn _ call => call.Confined tables
  | .answered _ => True

section

variable (tables : Tables) (clock : Instant) (call : Call)

theorem loginNewDevice_presents (user : User) (credentials : Login) :
    (call.loginNewDevice tables user credentials).Presents call.presents := by
  unfold Call.loginNewDevice
  split
  · trivial
  · rfl

theorem loginReuse_presents (user : User) (credentials : Login) :
    (call.loginReuse tables user credentials).Presents call.presents := by
  unfold Call.loginReuse
  split
  · exact loginNewDevice_presents tables call user credentials
  · rfl

theorem advance_presents : (call.advance tables clock).Presents call.presents := by
  have reuse := loginReuse_presents tables call
  have newDevice := loginNewDevice_presents tables call
  cases stage : call.stage <;>
    simp only [Call.advance, stage, Call.refresh, Call.refreshToken, Call.refreshSession,
      Call.refreshUser, Call.logout, Call.login, Call.loginUser, Call.loginDevice,
      Call.loginHardware, Call.loginSessions, Call.requestReset, Call.requestResetUser,
      Call.confirmReset, Call.confirmResetToken, Call.confirmResetUser, Call.confirmResetTokens,
      Call.changePassword, Call.changePasswordUser, Call.changePasswordTokens]
  all_goals repeat' split
  all_goals first
    | exact trivial
    | rfl
    | exact reuse _ _
    | exact newDevice _ _

theorem activeTokens_within (sessionId id : Uuid) (among : id ∈ tables.activeTokens [sessionId]) :
    (Write.revokeToken id).Within tables sessionId := by
  obtain ⟨token, member, named⟩ := mem_map.mp among
  obtain ⟨present, chosen⟩ := mem_filter.mp member
  simp only [mem_singleton, decide_eq_true_eq] at chosen
  exact ⟨token, present, named, chosen.1⟩

theorem revokeSessions_confined {token : RefreshToken} (member : token ∈ tables.refreshTokens)
    (presents : call.presents = some token.id) (unwritten : call.writes = []) (outcome : Outcome)
    (presented : outcome.Presented) :
    (call.revokeSessions tables [token.sessionId] outcome).Confined tables := by
  intro tokenId same
  have named : token.id = tokenId := some.inj (presents.symm.trans same)
  refine ⟨token, member, named, ?_, activeTokens_within tables token.sessionId, presented⟩
  intro write written
  simp only [Call.adding, unwritten, nil_append, map_cons, map_nil, mem_singleton] at written
  subst written
  rfl

theorem confined_of_none (presents : call.presents = none) :
    (call.advance tables clock).Confined tables := by
  have kept := advance_presents tables clock call
  cases progress : call.advance tables clock with
  | answered answer => trivial
  | goesOn rows next =>
    intro tokenId same
    rw [progress] at kept
    rw [show next.presents = call.presents from kept, presents] at same
    cases same

end

variable {transaction : Transaction Row Call}

theorem advance_confined {tables : Tables} (clock : Instant)
    (fits : Fits tables transaction) (confined : transaction.work.Confined tables) :
    (transaction.work.advance tables clock).Confined tables := by
  have answers := fits.answers
  have current := fits.current
  unfold Call.Answers at answers
  cases stage : transaction.work.stage with
  | refresh tokenId =>
    rw [stage] at answers
    simp only [Call.advance, stage, Call.refresh]
    split
    · trivial
    · exact fun _ _ => answers.2
  | refreshToken tokenId =>
    rw [stage] at answers
    simp only [Call.advance, stage, Call.refreshToken]
    split
    · trivial
    · split
      · trivial
      · exact fun _ _ => answers.2
  | refreshSession token =>
    rw [stage] at answers current
    simp only [Call.advance, stage, Call.refreshSession]
    split
    · trivial
    rename_i userSession found
    have named := (lookup_mem found).2
    split
    · rw [named]
      exact revokeSessions_confined tables _ current.1 answers.1 answers.2 _ trivial
    · exact fun _ _ => answers.2
  | refreshUser token userSession =>
    rw [stage] at answers current
    have paired : Paired tables transaction.held token userSession := current
    simp only [Call.advance, stage, Call.refreshUser]
    split
    · intro tokenId same
      refine ⟨token, paired.tokenMember, some.inj (answers.1.symm.trans same), ?_, trivial⟩
      intro write written
      rw [show transaction.work.writes = [] from answers.2] at written
      cases written
    · rw [paired.named]
      exact revokeSessions_confined tables _ paired.tokenMember answers.1 answers.2 _ trivial
  | logout tokenId =>
    rw [stage] at answers
    have unwritten := confined tokenId answers
    rw [stage] at unwritten
    simp only [Call.advance, stage, Call.logout]
    split
    · trivial
    · split
      · trivial
      · exact fun _ _ => unwritten
  | logoutSession tokenId sessionId =>
    rw [stage] at answers current
    have unwritten := confined tokenId answers
    rw [stage] at unwritten
    obtain ⟨token, member, named, session⟩ := current
    simp only [Call.advance, stage]
    rw [← session]
    exact revokeSessions_confined tables _ member (by rw [named]; exact answers) unwritten _ trivial
  | revokeTokens tokenIds outcome =>
    simp only [Call.advance, stage]
    intro tokenId presents
    have before := confined tokenId presents
    rw [stage] at before
    obtain ⟨token, member, named, writes, ids, presented⟩ := before
    refine ⟨token, member, named, ?_, presented⟩
    intro write written
    rcases mem_append.mp written with old | new
    · exact writes write old
    · obtain ⟨id, among, same⟩ := mem_map.mp new
      subst same
      exact ids id among
  | committing outcome =>
    simp only [Call.advance, stage]
    intro tokenId presents
    have before := confined tokenId presents
    rw [stage] at before
    exact before
  | _ =>
    rw [stage] at answers
    exact confined_of_none tables clock transaction.work answers

/-! ## What a commit leaves of the other sessions -/

@[mk_iff]
structure OthersKept (sessionId : Uuid) (before after : Tables) : Prop where
  sessions : after.sessions.filter (fun userSession => decide (userSession.id ≠ sessionId)) =
    before.sessions.filter fun userSession => decide (userSession.id ≠ sessionId)
  tokens : after.refreshTokens.filter (fun token => decide (token.sessionId ≠ sessionId)) =
    before.refreshTokens.filter fun token => decide (token.sessionId ≠ sessionId)

instance (sessionId : Uuid) (before after : Tables) :
    Decidable (OthersKept sessionId before after) :=
  decidable_of_iff' _ (othersKept_iff sessionId before after)

theorem OthersKept.refl (sessionId : Uuid) (tables : Tables) : OthersKept sessionId tables tables :=
  ⟨rfl, rfl⟩

theorem OthersKept.trans {sessionId : Uuid} {first second third : Tables}
    (earlier : OthersKept sessionId first second) (later : OthersKept sessionId second third) :
    OthersKept sessionId first third :=
  ⟨later.sessions.trans earlier.sessions, later.tokens.trans earlier.tokens⟩

section

variable {tables : Tables} {nextId : Uuid} {sessionId : Uuid}

theorem rewriteToken_others (sound : Sound tables nextId) (id : Uuid)
    (own : ∃ token ∈ tables.refreshTokens, token.id = id ∧ token.sessionId = sessionId)
    {write : RefreshToken → RefreshToken}
    (same : ∀ token, (write token).sessionId = token.sessionId) :
    OthersKept sessionId tables (tables.rewriteToken id write) := by
  obtain ⟨token, member, named, session⟩ := own
  refine ⟨rfl, filter_updateWhere _ _ ?_⟩
  intro other otherMember chosen
  have one := sound.token_eq otherMember member ((of_decide_eq_true chosen).trans named.symm)
  subst one
  simp [same, session]

theorem write_others (sound : Sound tables nextId) (write : Write)
    (within : write.Within tables sessionId) :
    OthersKept sessionId tables (tables.write write) := by
  cases write with
  | revokeSession id =>
    have own : id = sessionId := within
    subst own
    refine ⟨filter_updateWhere _ _ ?_, rfl⟩
    intro userSession _ chosen
    have same : userSession.id = id := of_decide_eq_true chosen
    simp [UserSession.revoked, same]
  | revokeToken id =>
    refine rewriteToken_others sound id within ?_
    intro token
    unfold RefreshToken.revoked
    split <;> rfl
  | consumeToken id successorId => exact rewriteToken_others sound id within fun _ => rfl
  | insertToken token =>
    have own : token.sessionId = sessionId := within
    refine ⟨rfl, ?_⟩
    simp [Tables.write, filter_append, own]
  | _ => exact within.elim

theorem commit_others {writes : List Write} (sound : Sound tables nextId)
    (rows : ∀ write ∈ writes, ∃ row, write.row = some row)
    (within : ∀ write ∈ writes, write.Within tables sessionId) :
    OthersKept sessionId tables (tables.commit writes) := by
  induction writes generalizing tables with
  | nil => exact .refl sessionId tables
  | cons write rest ih =>
    obtain ⟨row, named⟩ := rows write mem_cons_self
    refine (write_others sound write (within write mem_cons_self)).trans
      (ih (sound.write_row write named) ?_ ?_)
    · exact fun other member => rows other (mem_cons_of_mem write member)
    · exact fun other member =>
        (within other (mem_cons_of_mem write member)).grown (grown_write tables write)

end

def Event.request : Event → Option Nat
  | .lock id | .advance id | .commit id | .rollBack id => some id
  | _ => none

def Service.presented (service : Service) (event : Event) : Option UserSession :=
  ((event.request.bind service.requests.find).bind fun transaction =>
      transaction.work.presents).bind fun tokenId =>
    (service.tables.refreshToken tokenId).bind fun token =>
      service.tables.session token.sessionId

structure Confined (service : Service) : Prop where
  standing : Standing service
  calls : ∀ job ∈ service.requests.jobs, job.2.work.Confined service.tables

variable {service after : Service}

theorem committed_others (confined : Confined service) {id : Nat} (member :
    (id, transaction) ∈ service.requests.jobs)
    {outcome : Outcome} (stage : transaction.work.stage = .committing outcome) {tokenId : Uuid}
    (presents : transaction.work.presents = some tokenId) :
    ∃ token ∈ service.tables.refreshTokens, token.id = tokenId ∧
      OthersKept token.sessionId service.tables
        (service.committed id transaction.work outcome).tables := by
  have standing := confined.standing
  have fits := standing.fits _ member
  have before := confined.calls _ member tokenId presents
  have current := fits.current
  have answers := fits.answers
  unfold Call.Answers at answers
  rw [stage] at before current answers
  obtain ⟨token, tokenMember, named, writes, presented⟩ := before
  refine ⟨token, tokenMember, named, ?_⟩
  have written := commit_others standing.sound fits.rows writes
  simp only [Service.committed]
  rw [commit_append]
  cases outcome with
  | rotated rotated userSession =>
    obtain ⟨⟨rotatedMember, _, own, _⟩, _⟩ := current
    have same : rotated = token := standing.sound.token_eq rotatedMember tokenMember
      (some.inj (answers.1.symm.trans presents) |>.trans named.symm)
    subst same
    have unwritten : transaction.work.writes = [] := answers.2
    rw [unwritten]
    have consumed := write_others standing.sound (.consumeToken rotated.id service.nextId)
      ⟨rotated, rotatedMember, rfl, rfl⟩
    have after := standing.sound.write_row (.consumeToken rotated.id service.nextId) rfl
    exact consumed.trans (write_others after (.insertToken _) own)
  | opened | issued => exact presented.elim
  | ended answer => exact written

theorem commit_spec {id : Nat} (taken : service.commit id = some after) :
    ∃ transaction outcome, service.requests.find id = some transaction ∧
      transaction.work.stage = .committing outcome ∧
      after = service.committed id transaction.work outcome := by
  unfold Service.commit at taken
  split at taken
  · cases taken
  rename_i transaction found
  split at taken
  · rename_i outcome stage
    cases taken
    exact ⟨transaction, outcome, found, stage, rfl⟩
  · cases taken

section

variable (confined : Confined service)
include confined

theorem step_others (event : Event) (own : UserSession)
    (presented : service.presented event = some own) (taken : service.step event = some after) :
    OthersKept own.id service.tables after.tables := by
  cases event with
  | lock id =>
    obtain ⟨requests, _, same⟩ := map_eq_some_iff.mp taken
    subst same
    exact .refl _ _
  | advance id =>
    have same : after.tables = service.tables := by
      simp only [Service.step, Service.advance] at taken
      repeat' split at taken
      all_goals cases taken
      all_goals rfl
    rw [same]
    exact .refl _ _
  | rollBack id =>
    obtain ⟨transaction, _, same⟩ := map_eq_some_iff.mp taken
    subst same
    exact .refl _ _
  | commit id =>
    obtain ⟨transaction, outcome, found, stage, same⟩ := commit_spec taken
    subst same
    simp only [Service.presented, Event.request, bind_some, found] at presented
    obtain ⟨tokenId, presents, presented⟩ := bind_eq_some_iff.mp presented
    obtain ⟨token, tokenFound, sessionFound⟩ := bind_eq_some_iff.mp presented
    obtain ⟨tokenMember, named⟩ := lookup_mem tokenFound
    have ownNamed := (lookup_mem sessionFound).2
    obtain ⟨other, otherMember, otherNamed, kept⟩ := committed_others confined
      (service.requests.find_mem id transaction found) stage presents
    have one := confined.standing.sound.token_eq otherMember tokenMember
      (otherNamed.trans named.symm)
    subst one
    rw [ownNamed]
    exact kept
  | readsClock | forgets | arrive | access => cases presented

theorem step_calls (event : Event) (taken : service.step event = some after) :
    ∀ job ∈ after.requests.jobs, job.2.work.Confined after.tables := by
  cases event with
  | readsClock | forgets =>
    cases taken
    exact confined.calls
  | arrive request =>
    cases taken
    refine Pool.forall_begin confined.calls fun tokenId presents => ?_
    cases request <;> rfl
  | lock id =>
    obtain ⟨requests, locked, same⟩ := map_eq_some_iff.mp taken
    subst same
    obtain ⟨transaction, found, same, _⟩ := lock_spec locked
    subst same
    have own := confined.calls _ (service.requests.find_mem id transaction found)
    exact Pool.forall_goOn confined.calls own
  | advance id =>
    simp only [Service.step, Service.advance] at taken
    split at taken
    · cases taken
    rename_i transaction found
    have member := service.requests.find_mem id transaction found
    have progress := advance_confined service.clock
      (confined.standing.fits _ member) (confined.calls _ member)
    split at taken
    swap
    · cases taken
    split at taken
    · split at taken
      · rename_i rows call goesOn
        cases taken
        rw [goesOn] at progress
        exact Pool.forall_goOn confined.calls progress
      · cases taken
        exact Pool.forall_finish confined.calls
    · cases taken
      exact Pool.forall_finish confined.calls
  | commit id =>
    obtain ⟨transaction, outcome, _, _, same⟩ := commit_spec taken
    subst same
    intro job member
    exact (Pool.forall_finish confined.calls job member).grown (grown_commit _ service.tables)
  | rollBack id =>
    obtain ⟨transaction, _, same⟩ := map_eq_some_iff.mp taken
    subst same
    exact Pool.forall_finish confined.calls
  | access userId sessionId =>
    cases taken
    unfold Service.access
    split <;> exact confined.calls

end

end Nebula.Auth
