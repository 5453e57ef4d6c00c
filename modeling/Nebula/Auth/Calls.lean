import Nebula.Auth.Writes

/-!
# Requests under way

What a request has locked, read and written at each of its stages. It writes
only rows it holds, a row it read under a lock is still as it read it, and one
that presents a consumed token, if it commits at all, revokes that token's
session.
-/

namespace Nebula.Auth

open Store Schema RowLocks List

def Stage.rows : Stage → List Row
  | .refreshToken tokenId => [.refreshToken tokenId]
  | .refreshSession token => [.session token.sessionId]
  | .logoutSession _ sessionId => [.session sessionId]
  | .loginDevice _ _ deviceId => [.device deviceId]
  | .loginSessions _ _ sessionIds => sessionIds.map Row.session
  | .requestResetTokens _ resetIds => resetIds.map Row.resetToken
  | .confirmResetToken confirmation => [.resetToken confirmation.resetId]
  | .confirmResetUser confirmation userId => [.resetToken confirmation.resetId, .user userId]
  | .confirmResetTokens _ resetIds => resetIds.map Row.resetToken
  | .confirmResetSessions sessionIds => sessionIds.map Row.session
  | .changePasswordUser change => [.user change.userId]
  | .changePasswordTokens _ resetIds => resetIds.map Row.resetToken
  | .changePasswordSessions sessionIds => sessionIds.map Row.session
  | .revokeTokens tokenIds _ => tokenIds.map Row.refreshToken
  | _ => []

variable (tables : Tables)

structure Paired (held : List Row) (token : RefreshToken)
    (userSession : UserSession) : Prop where
  tokenMember : token ∈ tables.refreshTokens
  sessionMember : userSession ∈ tables.sessions
  named : userSession.id = token.sessionId
  tokenHeld : Row.refreshToken token.id ∈ held
  sessionHeld : Row.session userSession.id ∈ held

def Stage.Current (held : List Row) : Stage → Prop
  | .refreshSession token =>
    token ∈ tables.refreshTokens ∧ Row.refreshToken token.id ∈ held
  | .refreshUser token userSession => Paired tables held token userSession
  | .logoutSession tokenId sessionId =>
    ∃ token ∈ tables.refreshTokens, token.id = tokenId ∧ token.sessionId = sessionId
  | .committing (.rotated token userSession) =>
    Paired tables held token userSession ∧ token.state = .active ∧
      userSession.state = .active
  | _ => True

def Call.Condemns (call : Call) : Prop :=
  ∀ tokenId, call.presents = some tokenId → ∃ token ∈ tables.refreshTokens,
    token.id = tokenId ∧ Write.revokeSession token.sessionId ∈ call.writes

def Outcome.Answers (call : Call) : Outcome → Prop
  | .rotated token _ => call.presents = some token.id ∧ call.writes = []
  | _ => call.Condemns tables

def Outcome.Plain : Outcome → Prop
  | .rotated _ _ => False
  | _ => True

def Call.Answers (call : Call) : Prop :=
  match call.stage with
  | .refresh tokenId => call.presents = some tokenId ∧ call.writes = []
  | .refreshToken tokenId => call.presents = some tokenId ∧ call.writes = []
  | .refreshSession token => call.presents = some token.id ∧ call.writes = []
  | .refreshUser token _ => call.presents = some token.id ∧ call.writes = []
  | .logout tokenId => call.presents = some tokenId
  | .logoutSession tokenId _ => call.presents = some tokenId
  | .revokeTokens _ outcome => outcome.Plain ∧ call.Condemns tables
  | .committing outcome => outcome.Answers tables call
  | _ => call.presents = none

structure Fits (transaction : Transaction Row Call) : Prop where
  locked : ∀ write ∈ transaction.work.writes, ∃ row ∈ transaction.held, write.row = some row
  covered : ∀ row ∈ transaction.work.stage.rows, transaction.Covers row
  current : transaction.work.stage.Current tables transaction.held
  answers : transaction.work.Answers tables

/-! ## What others do -/

variable {tables after : Tables} {transaction : Transaction Row Call}

theorem Paired.carried {held more : List Row} {token : RefreshToken} {userSession : UserSession}
    (paired : Paired tables held token userSession) (carried : Carried held tables after)
    (kept : held ⊆ more) : Paired after more token userSession :=
  { tokenMember := carried.tokens token paired.tokenMember paired.tokenHeld
    sessionMember := carried.sessions userSession paired.sessionMember paired.sessionHeld
    named := paired.named
    tokenHeld := kept paired.tokenHeld
    sessionHeld := kept paired.sessionHeld }

theorem Stage.Current.carried {held more : List Row} {stage : Stage}
    (current : stage.Current tables held) (carried : Carried held tables after)
    (grown : Grown tables after) (kept : held ⊆ more) : stage.Current after more := by
  cases stage with
  | refreshSession token =>
    exact ⟨carried.tokens token current.1 current.2, kept current.2⟩
  | refreshUser token userSession => exact Paired.carried current carried kept
  | logoutSession tokenId sessionId =>
    obtain ⟨token, member, named, session⟩ := current
    obtain ⟨later, laterMember, laterNamed, laterSession, _⟩ := grown.tokens token member
    exact ⟨later, laterMember, laterNamed.trans named, laterSession.trans session⟩
  | committing outcome =>
    cases outcome with
    | rotated token userSession => exact ⟨current.1.carried carried kept, current.2⟩
    | _ => trivial
  | _ => trivial

theorem Call.Condemns.grown {call : Call} (condemns : call.Condemns tables)
    (grown : Grown tables after) : call.Condemns after := by
  intro tokenId presents
  obtain ⟨token, member, named, revokes⟩ := condemns tokenId presents
  obtain ⟨later, laterMember, laterNamed, laterSession, _⟩ := grown.tokens token member
  exact ⟨later, laterMember, laterNamed.trans named, laterSession ▸ revokes⟩

theorem Outcome.Answers.grown {call : Call} {outcome : Outcome}
    (answers : outcome.Answers tables call) (grown : Grown tables after) :
    outcome.Answers after call := by
  cases outcome with
  | rotated token userSession => exact answers
  | _ => exact Call.Condemns.grown answers grown

theorem Call.Answers.grown {call : Call} (answers : call.Answers tables)
    (grown : Grown tables after) : call.Answers after := by
  unfold Call.Answers at answers ⊢
  cases stage : call.stage with
  | revokeTokens tokenIds outcome =>
    rw [stage] at answers
    exact ⟨answers.1, answers.2.grown grown⟩
  | committing outcome =>
    rw [stage] at answers
    exact Outcome.Answers.grown answers grown
  | _ =>
    rw [stage] at answers
    exact answers

theorem Fits.carried (fits : Fits tables transaction)
    (carried : Carried transaction.held tables after) (grown : Grown tables after) :
    Fits after transaction :=
  { locked := fits.locked
    covered := fits.covered
    current := fits.current.carried carried grown fun _ member => member
    answers := fits.answers.grown grown }

theorem Fits.lockNext (fits : Fits tables transaction) : Fits tables transaction.lockNext :=
  { locked := by
      intro write member
      obtain ⟨row, held, named⟩ := fits.locked write member
      exact ⟨row, transaction.mem_lockNext row held, named⟩
    covered := fun row member => transaction.covers_lockNext row (fits.covered row member)
    current := fits.current.carried (Carried.refl _ tables) (Grown.refl tables) fun row held =>
      transaction.mem_lockNext row held
    answers := fits.answers }

theorem fits_begin {tables : Tables} {request : Request} {now : Instant} :
    Fits tables (Transaction.begin (request.call now)) := by
  cases request with
  | refresh tokenId =>
    exact ⟨forall_mem_nil _, forall_mem_nil _, trivial, rfl, rfl⟩
  | _ => exact ⟨forall_mem_nil _, forall_mem_nil _, trivial, rfl⟩

/-! ## From statement to statement -/

def Progress.Fits (tables : Tables) (transaction : Transaction Row Call) : Progress → Prop
  | .goesOn rows call => Auth.Fits tables (transaction.next rows call)
  | .answered _ => transaction.work.replays tables = none

theorem Call.replays_absent (tables : Tables) (call : Call) (tokenId : Uuid)
    (presents : call.presents = some tokenId) (absent : tables.refreshToken tokenId = none) :
    call.replays tables = none := by
  rw [Call.replays, presents]
  simp only [Option.bind_some, Tables.consumedIn, absent]

section

variable (tables : Tables) (transaction : Transaction Row Call) (call : Call)

def Locked : Prop :=
  ∀ write ∈ call.writes, ∃ row ∈ transaction.held, write.row = some row

variable {tables transaction call}

theorem condemns_of_none (presents : call.presents = none) : call.Condemns tables := by
  intro tokenId presented
  rw [presents] at presented
  cases presented

variable (locked : Locked transaction call)
include locked

theorem Locked.adding (writes : List Write)
    (held : ∀ write ∈ writes, ∃ row ∈ transaction.held, write.row = some row) :
    Locked transaction (call.adding writes) := by
  intro write member
  rcases mem_append.mp member with old | new
  · exact locked write old
  · exact held write new

theorem Locked.adding_map (ids : List Uuid)
    (write : Uuid → Write) {row : Uuid → Row} (named : ∀ id, (write id).row = some (row id))
    (held : ∀ id ∈ ids, row id ∈ transaction.held) :
    Locked transaction (call.adding (ids.map write)) := by
  apply locked.adding
  intro added member
  obtain ⟨id, listed, same⟩ := mem_map.mp member
  subst same
  exact ⟨row id, held id listed, named id⟩

theorem fits_statement (rows : List Row) (stage : Stage)
    (covered : ∀ row ∈ stage.rows, row ∈ transaction.held ∨ row ∈ rows)
    (current : stage.Current tables transaction.held)
    (answers : ({ call with stage := stage } : Call).Answers tables) :
    (call.statement rows stage).Fits tables transaction :=
  ⟨locked, covered, current, answers⟩

theorem fits_ends (outcome : Outcome) (plain : outcome.Plain)
    (condemns : call.Condemns tables) : (call.ends outcome).Fits tables transaction := by
  cases outcome with
  | rotated token userSession => exact plain.elim
  | _ => exact ⟨locked, forall_mem_nil _, trivial, condemns⟩

theorem fits_revokeSessions (sessionIds : List Uuid)
    (outcome : Outcome) (plain : outcome.Plain)
    (held : ∀ sessionId ∈ sessionIds, Row.session sessionId ∈ transaction.held)
    (condemned : ∀ tokenId, call.presents = some tokenId → ∃ token ∈ tables.refreshTokens,
      token.id = tokenId ∧ token.sessionId ∈ sessionIds) :
    (call.revokeSessions tables sessionIds outcome).Fits tables transaction := by
  apply fits_statement
  · exact locked.adding_map sessionIds Write.revokeSession (fun _ => rfl) held
  · exact fun row member => Or.inr member
  · trivial
  · refine ⟨plain, ?_⟩
    intro tokenId presents
    obtain ⟨token, member, named, listed⟩ := condemned tokenId presents
    exact ⟨token, member, named, mem_append_right call.writes (mem_map_of_mem listed)⟩

theorem fits_revokeSession {sessionId : Uuid}
    {token : RefreshToken} (outcome : Outcome) (plain : outcome.Plain)
    (held : Row.session sessionId ∈ transaction.held) (member : token ∈ tables.refreshTokens)
    (named : token.sessionId = sessionId) (presents : call.presents = some token.id) :
    (call.revokeSessions tables [sessionId] outcome).Fits tables transaction := by
  refine fits_revokeSessions locked _ outcome plain ?_ ?_
  · exact fun other listed => mem_singleton.mp listed ▸ held
  · intro tokenId presented
    rw [presents] at presented
    exact ⟨token, member, Option.some.inj presented, named ▸ mem_singleton_self _⟩

end

section

variable {tables : Tables} {nextId : Uuid} {transaction : Transaction Row Call}
  (sound : Sound tables nextId) (locked : Locked transaction transaction.work)
include locked

variable {tokenId : Uuid}

theorem refresh_fits (presents : transaction.work.presents = some tokenId)
    (unwritten : transaction.work.writes = []) :
    (transaction.work.refresh tables tokenId).Fits tables transaction := by
  unfold Call.refresh
  cases found : tables.refreshToken tokenId with
  | none => exact transaction.work.replays_absent tables tokenId presents found
  | some token =>
    exact fits_statement locked _ _ (fun _ member => Or.inr member) trivial ⟨presents, unwritten⟩

include sound

theorem refreshToken_fits (presents : transaction.work.presents = some tokenId)
    (unwritten : transaction.work.writes = [])
    (held : Row.refreshToken tokenId ∈ transaction.held) :
    (transaction.work.refreshToken tables tokenId).Fits tables transaction := by
  unfold Call.refreshToken
  cases found : tables.refreshToken tokenId with
  | none => exact transaction.work.replays_absent tables tokenId presents found
  | some token =>
    obtain ⟨member, named⟩ := lookup_mem found
    obtain ⟨userSession, foundSession⟩ := sound.session_isSome member
    simp only [foundSession]
    apply fits_statement locked
    · exact fun _ listed => Or.inr listed
    · exact ⟨member, named.symm ▸ held⟩
    · exact ⟨named.symm ▸ presents, unwritten⟩

theorem refreshSession_fits (token : RefreshToken)
    (presents : transaction.work.presents = some token.id)
    (unwritten : transaction.work.writes = []) (member : token ∈ tables.refreshTokens)
    (tokenHeld : Row.refreshToken token.id ∈ transaction.held)
    (sessionHeld : Row.session token.sessionId ∈ transaction.held) :
    (transaction.work.refreshSession tables token).Fits tables transaction := by
  obtain ⟨userSession, found⟩ := sound.session_isSome member
  obtain ⟨sessionMember, named⟩ := lookup_mem found
  have ownHeld : Row.session userSession.id ∈ transaction.held := named.symm ▸ sessionHeld
  unfold Call.refreshSession
  simp only [found]
  split
  · exact fits_revokeSession locked _ trivial ownHeld member named.symm presents
  apply fits_statement locked
  · exact forall_mem_nil _
  · exact ⟨member, sessionMember, named, tokenHeld, ownHeld⟩
  · exact ⟨presents, unwritten⟩

omit sound

theorem refreshUser_fits (token : RefreshToken) (userSession : UserSession)
    (presents : transaction.work.presents = some token.id)
    (unwritten : transaction.work.writes = [])
    (paired : Paired tables transaction.held token userSession) :
    (transaction.work.refreshUser tables token userSession).Fits tables transaction := by
  unfold Call.refreshUser
  split
  · rename_i eligible
    exact fits_statement locked _ _ (forall_mem_nil _)
      ⟨paired, token.active_of_isEligible userSession _ _ _ eligible⟩ ⟨presents, unwritten⟩
  · exact fits_revokeSession locked _ trivial paired.sessionHeld paired.tokenMember
      paired.named.symm presents

include sound

theorem logout_fits (presents : transaction.work.presents = some tokenId) :
    (transaction.work.logout tables tokenId).Fits tables transaction := by
  unfold Call.logout
  cases found : tables.refreshToken tokenId with
  | none => exact transaction.work.replays_absent tables tokenId presents found
  | some token =>
    obtain ⟨member, named⟩ := lookup_mem found
    obtain ⟨userSession, foundSession⟩ := sound.session_isSome member
    simp only [foundSession]
    exact fits_statement locked _ _ (fun _ listed => Or.inr listed)
      ⟨token, member, named, rfl⟩ presents

omit sound

end

section

variable {tables : Tables} {transaction : Transaction Row Call} {call : Call}

theorem fits_answered (presents : transaction.work.presents = none) {answer : Answer} :
    (Progress.answered answer).Fits tables transaction := by
  change transaction.work.replays tables = none
  rw [Call.replays, presents]
  rfl

section

variable (locked : Locked transaction call) (presents : call.presents = none)
  (own : transaction.work.presents = none)
include locked presents

theorem loginSelect_fits {userId deviceId : Uuid} :
    (call.loginSelect tables userId deviceId).Fits tables transaction :=
  fits_statement locked _ _ (fun _ member => Or.inr member) trivial presents

include own

theorem loginNewDevice_fits {user : User} {credentials : Login} :
    (call.loginNewDevice tables user credentials).Fits tables transaction := by
  unfold Call.loginNewDevice
  split
  · exact fits_answered own
  · exact fits_ends locked _ trivial (condemns_of_none presents)

theorem loginReuse_fits {user : User} {credentials : Login} :
    (call.loginReuse tables user credentials).Fits tables transaction := by
  unfold Call.loginReuse
  split
  · exact loginNewDevice_fits locked presents own
  · exact fits_statement locked _ _ (forall_mem_nil _) trivial presents

variable (credentials : Login)

theorem login_fits : (call.login tables credentials).Fits tables transaction := by
  unfold Call.login
  split
  · exact fits_answered own
  · exact fits_statement locked _ _ (forall_mem_nil _) trivial presents

theorem loginUser_fits {userId : Uuid} :
    (call.loginUser tables credentials userId).Fits tables transaction := by
  unfold Call.loginUser
  split
  · exact fits_answered own
  split
  · exact fits_answered own
  split
  · exact fits_answered own
  split
  · split
    · exact fits_statement locked _ _ (fun _ member => Or.inr member) trivial presents
    · exact loginReuse_fits locked presents own
  · exact loginReuse_fits locked presents own

theorem loginDevice_fits {userId deviceId : Uuid} (held : Row.device deviceId ∈ transaction.held) :
    (call.loginDevice tables credentials userId deviceId).Fits tables transaction := by
  unfold Call.loginDevice
  split
  · rename_i user device _ found
    split
    swap
    · exact loginReuse_fits locked presents own
    refine loginSelect_fits (locked.adding _ ?_) presents
    have named : device.id = deviceId := (lookup_mem found).2
    intro write member
    unfold Call.backfillHardware at member
    split at member
    · split at member
      · cases member
      · rw [mem_singleton.mp member]
        exact ⟨.device deviceId, held, congrArg (some ∘ Row.device) named⟩
    · cases member
  · rename_i user _ _
    exact loginReuse_fits locked presents own
  · exact fits_answered own

theorem loginHardware_fits {userId : Uuid} :
    (call.loginHardware tables credentials userId).Fits tables transaction := by
  unfold Call.loginHardware
  split
  · exact fits_answered own
  split
  · rename_i device _
    exact loginSelect_fits locked presents
  · exact loginNewDevice_fits locked presents own

omit own

theorem loginSessions_fits (userId deviceId : Uuid) (sessionIds : List Uuid)
    (held : ∀ sessionId ∈ sessionIds, Row.session sessionId ∈ transaction.held) :
    (call.loginSessions tables userId deviceId sessionIds).Fits tables transaction := by
  unfold Call.loginSessions
  dsimp only
  split
  · exact fits_ends locked _ trivial (condemns_of_none presents)
  · refine fits_revokeSessions locked _ (.opened userId (some deviceId) none) trivial ?_
      (by simp [presents])
    exact fun sessionId member => held sessionId (mem_filter.mp member).1

end

section

variable (locked : Locked transaction transaction.work)
  (presents : transaction.work.presents = none)
include locked presents

theorem requestReset_fits (request : ResetRequest) :
    (transaction.work.requestReset tables request).Fits tables transaction := by
  unfold Call.requestReset
  split
  · exact fits_answered presents
  · exact fits_statement locked _ _ (forall_mem_nil _) trivial presents

theorem requestResetUser_fits {request : ResetRequest} {userId : Uuid} :
    (transaction.work.requestResetUser tables request userId).Fits tables transaction := by
  unfold Call.requestResetUser
  split
  · exact fits_answered presents
  · split
    · exact fits_statement locked _ _ (fun _ member => Or.inr member) trivial presents
    · exact fits_answered presents

theorem confirmReset_fits (clock : Instant) (confirmation : ResetConfirmation) :
    (transaction.work.confirmReset tables clock confirmation).Fits tables transaction := by
  have timed : Locked transaction { transaction.work with now := clock } := locked
  unfold Call.confirmReset
  split
  · exact fits_answered presents
  · exact fits_statement timed _ _ (fun _ member => Or.inr member) trivial presents

theorem confirmResetToken_fits {confirmation : ResetConfirmation}
    (held : Row.resetToken confirmation.resetId ∈ transaction.held) :
    (transaction.work.confirmResetToken tables confirmation).Fits tables transaction := by
  unfold Call.confirmResetToken
  split
  · exact fits_answered presents
  split
  · exact fits_answered presents
  split
  · exact fits_answered presents
  refine fits_statement locked _ _ ?_ trivial presents
  intro row member
  rcases mem_cons.mp member with first | rest
  · exact Or.inl (first ▸ held)
  · exact Or.inr rest

theorem confirmResetUser_fits {confirmation : ResetConfirmation} {userId : Uuid}
    (resetHeld : Row.resetToken confirmation.resetId ∈ transaction.held)
    (userHeld : Row.user userId ∈ transaction.held) :
    (transaction.work.confirmResetUser tables confirmation userId).Fits tables transaction := by
  unfold Call.confirmResetUser
  split
  · exact fits_answered presents
  split
  · refine fits_statement (locked.adding _ ?_) _ _ (fun _ member => Or.inr member) trivial presents
    intro write member
    rcases mem_cons.mp member with password | consumed
    · exact ⟨.user userId, userHeld, congrArg Write.row password⟩
    · exact ⟨.resetToken confirmation.resetId, resetHeld,
        congrArg Write.row (mem_singleton.mp consumed)⟩
  · exact fits_answered presents

variable (change : PasswordChange)

theorem changePassword_fits :
    (transaction.work.changePassword tables change).Fits tables transaction := by
  unfold Call.changePassword
  cases found : tables.user change.userId with
  | none => exact fits_answered presents
  | some user =>
    have named : user.id = change.userId := (lookup_mem found).2
    refine fits_statement locked _ _ ?_ trivial presents
    intro row member
    rw [named]
    exact Or.inr member

theorem changePasswordUser_fits (held : Row.user change.userId ∈ transaction.held) :
    (transaction.work.changePasswordUser tables change).Fits tables transaction := by
  unfold Call.changePasswordUser
  split
  · exact fits_answered presents
  split
  · refine fits_statement (locked.adding _ ?_) _ _ (fun _ member => Or.inr member) trivial presents
    intro write member
    exact ⟨.user change.userId, held, congrArg Write.row (mem_singleton.mp member)⟩
  · exact fits_answered presents

theorem changePasswordTokens_fits (resetIds : List Uuid)
    (held : ∀ resetId ∈ resetIds, Row.resetToken resetId ∈ transaction.held) :
    (transaction.work.changePasswordTokens tables change resetIds).Fits tables transaction := by
  have written := locked.adding_map resetIds Write.revokeReset (fun _ => rfl) held
  unfold Call.changePasswordTokens
  dsimp only
  split
  · exact fits_ends written _ trivial (condemns_of_none presents)
  · exact fits_statement written _ _ (fun _ member => Or.inr member) trivial presents

end

end

theorem Fits.held (fits : Fits tables transaction) (ready : transaction.waiting = []) (row : Row)
    (member : row ∈ transaction.work.stage.rows) : row ∈ transaction.held := by
  rcases fits.covered row member with held | waiting
  · exact held
  · rw [ready] at waiting
    cases waiting

theorem Fits.held_map (fits : Fits tables transaction) (ready : transaction.waiting = [])
    (ids : List Uuid) (row : Uuid → Row) (rows : transaction.work.stage.rows = ids.map row)
    (id : Uuid) (member : id ∈ ids) : row id ∈ transaction.held :=
  fits.held ready (row id) (rows ▸ mem_map_of_mem member)

theorem advance_fits {nextId : Uuid} (sound : Sound tables nextId) (fits : Fits tables transaction)
    (ready : transaction.waiting = []) (clock : Instant) :
    (transaction.work.advance tables clock).Fits tables transaction := by
  obtain ⟨held, waiting, presents, now, stage, writes⟩ := transaction
  have locked : Locked ⟨held, waiting, presents, now, stage, writes⟩
      ⟨presents, now, stage, writes⟩ := fits.locked
  have locks := fits.held ready
  have locksAll := fits.held_map ready
  have answers := fits.answers
  cases stage with
  | refresh tokenId => exact refresh_fits locked answers.1 answers.2
  | refreshToken tokenId =>
    exact refreshToken_fits sound locked answers.1 answers.2 (locks _ mem_cons_self)
  | refreshSession token =>
    exact refreshSession_fits sound locked token answers.1 answers.2 fits.current.1
      fits.current.2 (locks _ mem_cons_self)
  | refreshUser token userSession =>
    exact refreshUser_fits locked token userSession answers.1 answers.2 fits.current
  | logout tokenId => exact logout_fits sound locked answers
  | logoutSession tokenId sessionId =>
    obtain ⟨token, member, rfl, session⟩ := fits.current
    exact fits_revokeSession locked _ trivial (locks _ mem_cons_self) member session answers
  | login credentials => exact login_fits locked answers answers credentials
  | loginUser credentials userId => exact loginUser_fits locked answers answers credentials
  | loginDevice credentials userId deviceId =>
    exact loginDevice_fits locked answers answers credentials (locks _ mem_cons_self)
  | loginHardware credentials userId =>
    exact loginHardware_fits locked answers answers credentials
  | loginSessions userId deviceId sessionIds =>
    exact loginSessions_fits locked answers userId deviceId sessionIds
      (locksAll sessionIds Row.session rfl)
  | requestReset request => exact requestReset_fits locked answers request
  | requestResetUser request userId => exact requestResetUser_fits locked answers
  | requestResetTokens userId resetIds =>
    have written := locked.adding_map resetIds Write.revokeReset (fun _ => rfl)
      (locksAll resetIds Row.resetToken rfl)
    exact fits_ends written _ trivial (condemns_of_none answers)
  | confirmReset confirmation => exact confirmReset_fits locked answers clock confirmation
  | confirmResetToken confirmation =>
    exact confirmResetToken_fits locked answers (locks _ mem_cons_self)
  | confirmResetUser confirmation userId =>
    exact confirmResetUser_fits locked answers
      (locks _ mem_cons_self) (locks _ (mem_cons_of_mem _ mem_cons_self))
  | confirmResetTokens userId resetIds =>
    have written := locked.adding_map resetIds Write.revokeReset (fun _ => rfl)
      (locksAll resetIds Row.resetToken rfl)
    exact fits_statement written _ _ (fun _ member => Or.inr member) trivial answers
  | confirmResetSessions sessionIds | changePasswordSessions sessionIds =>
    exact fits_revokeSessions locked _ (.ended .done) trivial
      (locksAll sessionIds Row.session rfl) fun tokenId presented => by
        rw [answers] at presented
        cases presented
  | changePassword change => exact changePassword_fits locked answers change
  | changePasswordUser change =>
    exact changePasswordUser_fits locked answers change (locks _ mem_cons_self)
  | changePasswordTokens change resetIds =>
    exact changePasswordTokens_fits locked answers change resetIds
      (locksAll resetIds Row.resetToken rfl)
  | revokeTokens tokenIds outcome =>
    have written := locked.adding_map tokenIds Write.revokeToken
      (fun _ => rfl) (locksAll tokenIds Row.refreshToken rfl)
    refine fits_ends written outcome answers.1 ?_
    intro tokenId presented
    obtain ⟨token, member, named, revokes⟩ := answers.2 tokenId presented
    exact ⟨token, member, named, mem_append_left _ revokes⟩
  | committing outcome =>
    exact fits_statement locked [] (.committing outcome) (forall_mem_nil _) fits.current answers

end Nebula.Auth
