import Nebula.Auth.Service

/-!
# What a commit leaves of the tables

A commit keeps the indexes, keeps every row another transaction holds as it is,
and takes no token back from consumed and no session back from revoked.
-/

namespace Nebula.Auth

open Store Schema List

structure Sound (tables : Tables) (nextId : Uuid) : Prop where
  tokenIds : UniqueOn (fun token => some token.id) tables.refreshTokens
  sessionIds : UniqueOn (fun userSession => some userSession.id) tables.sessions
  tokensFresh : ∀ token ∈ tables.refreshTokens, token.id < nextId
  sessionsFresh : ∀ userSession ∈ tables.sessions, userSession.id < nextId
  owned : ∀ token ∈ tables.refreshTokens, ∃ userSession ∈ tables.sessions,
    userSession.id = token.sessionId ∧ token.expiresAt ≤ userSession.expiresAt
  single : UniqueOn RefreshToken.activeSession tables.refreshTokens

namespace Sound

variable {tables : Tables} {nextId : Uuid} (sound : Sound tables nextId)
include sound

theorem token_eq {first second : RefreshToken} (firstMember : first ∈ tables.refreshTokens)
    (secondMember : second ∈ tables.refreshTokens) (same : first.id = second.id) :
    first = second :=
  sound.tokenIds.eq_of_key firstMember secondMember rfl (congrArg some same.symm)

variable {token : RefreshToken}

theorem refreshToken_of_mem (member : token ∈ tables.refreshTokens) :
    tables.refreshToken token.id = some token := by
  obtain ⟨found, lookedUp⟩ := lookup_isSome_of_mem token.id tables.refreshTokens member rfl
  obtain ⟨foundMember, named⟩ := lookup_mem lookedUp
  rw [Tables.refreshToken, lookedUp, sound.token_eq foundMember member named]

theorem session_isSome (member : token ∈ tables.refreshTokens) :
    ∃ userSession, tables.session token.sessionId = some userSession := by
  obtain ⟨userSession, sessionMember, named, _⟩ := sound.owned token member
  exact lookup_isSome_of_mem token.sessionId tables.sessions sessionMember named

theorem congr {after : Tables} (sessions : after.sessions = tables.sessions)
    (tokens : after.refreshTokens = tables.refreshTokens) : Sound after nextId := by
  refine ⟨?_, ?_, ?_, ?_, ?_, ?_⟩
  · exact tokens ▸ sound.tokenIds
  · exact sessions ▸ sound.sessionIds
  · exact tokens ▸ sound.tokensFresh
  · exact sessions ▸ sound.sessionsFresh
  · exact tokens ▸ sessions ▸ sound.owned
  · exact tokens ▸ sound.single

theorem mono (later : Uuid) (below : nextId ≤ later) : Sound tables later :=
  { tokenIds := sound.tokenIds
    sessionIds := sound.sessionIds
    tokensFresh := fun token member => Nat.lt_of_lt_of_le (sound.tokensFresh token member) below
    sessionsFresh := fun userSession member =>
      Nat.lt_of_lt_of_le (sound.sessionsFresh userSession member) below
    owned := sound.owned
    single := sound.single }

theorem rewriteSession (sessionId : Uuid) (write : UserSession → UserSession)
    (kept : ∀ userSession, (write userSession).id = userSession.id ∧
      (write userSession).expiresAt = userSession.expiresAt) :
    Sound (tables.rewriteSession sessionId write) nextId := by
  have rewritten : ∀ userSession : UserSession,
      (if decide (userSession.id = sessionId) then write userSession else userSession).id =
          userSession.id ∧
        (if decide (userSession.id = sessionId) then write userSession
          else userSession).expiresAt = userSession.expiresAt := by
    intro userSession
    split
    · exact kept userSession
    · exact ⟨rfl, rfl⟩
  refine ⟨sound.tokenIds, ?_, sound.tokensFresh, ?_, ?_, sound.single⟩
  · exact sound.sessionIds.map _ fun userSession _ =>
      Or.inr (congrArg some (rewritten userSession).1)
  · intro userSession member
    obtain ⟨old, oldMember, same⟩ := mem_map.mp member
    rw [← same, (rewritten old).1]
    exact sound.sessionsFresh old oldMember
  · intro token member
    obtain ⟨userSession, sessionMember, named, bounded⟩ := sound.owned token member
    refine ⟨_, mem_map_of_mem sessionMember, ?_, ?_⟩
    · rw [(rewritten userSession).1]
      exact named
    · rw [(rewritten userSession).2]
      exact bounded

theorem rewriteToken (tokenId : Uuid) (write : RefreshToken → RefreshToken)
    (kept : ∀ token, (write token).id = token.id ∧ (write token).sessionId = token.sessionId ∧
      (write token).expiresAt = token.expiresAt ∧
      ((write token).activeSession = none ∨ (write token).activeSession = token.activeSession)) :
    Sound (tables.rewriteToken tokenId write) nextId := by
  have rewritten : ∀ token : RefreshToken, ∀ after,
      (if decide (token.id = tokenId) then write token else token) = after →
      after.id = token.id ∧ after.sessionId = token.sessionId ∧
        after.expiresAt = token.expiresAt ∧
        (after.activeSession = none ∨ after.activeSession = token.activeSession) := by
    intro token after same
    subst same
    split
    · exact kept token
    · exact ⟨rfl, rfl, rfl, Or.inr rfl⟩
  refine ⟨?_, sound.sessionIds, ?_, sound.sessionsFresh, ?_, ?_⟩
  · exact sound.tokenIds.map _ fun token _ =>
      Or.inr (congrArg some (rewritten token _ rfl).1)
  · intro token member
    obtain ⟨old, oldMember, same⟩ := mem_map.mp member
    rw [(rewritten old token same).1]
    exact sound.tokensFresh old oldMember
  · intro token member
    obtain ⟨old, oldMember, same⟩ := mem_map.mp member
    obtain ⟨_, session, expires, _⟩ := rewritten old token same
    rw [session, expires]
    exact sound.owned old oldMember
  · exact sound.single.map _ fun token _ => (rewritten token _ rfl).2.2.2

theorem insertSession (userSession : UserSession) (fresh : nextId ≤ userSession.id)
    {later : Uuid} (below : userSession.id < later) :
    Sound (tables.write (.insertSession userSession)) later := by
  refine ⟨sound.tokenIds, ?_, ?_, ?_, ?_, sound.single⟩
  · apply sound.sessionIds.append_singleton
    intro old member key named same
    have taken : old.id = userSession.id := Option.some.inj (named.trans same.symm)
    exact Nat.lt_irrefl _ (taken ▸ Nat.lt_of_lt_of_le (sound.sessionsFresh old member) fresh)
  · intro token member
    exact Nat.lt_trans (Nat.lt_of_lt_of_le (sound.tokensFresh token member) fresh) below
  · refine forall_mem_added (fun other old => ?_) below
    exact Nat.lt_trans (Nat.lt_of_lt_of_le (sound.sessionsFresh other old) fresh) below
  · intro token member
    obtain ⟨owner, ownerMember, named, bounded⟩ := sound.owned token member
    exact ⟨owner, mem_append_left _ ownerMember, named, bounded⟩

variable (token)

theorem insertToken (fresh : nextId ≤ token.id) (later : Uuid) (below : token.id < later)
    (owner : ∃ userSession ∈ tables.sessions,
      userSession.id = token.sessionId ∧ token.expiresAt ≤ userSession.expiresAt)
    (only : ∀ other ∈ tables.refreshTokens, other.sessionId = token.sessionId →
      other.state ≠ .active) :
    Sound (tables.write (.insertToken token)) later := by
  refine ⟨?_, sound.sessionIds, ?_, ?_, ?_, ?_⟩
  · apply sound.tokenIds.append_singleton
    intro old member key named same
    have taken : old.id = token.id := Option.some.inj (named.trans same.symm)
    exact Nat.lt_irrefl _ (taken ▸ Nat.lt_of_lt_of_le (sound.tokensFresh old member) fresh)
  · refine forall_mem_added (fun other old => ?_) below
    exact Nat.lt_trans (Nat.lt_of_lt_of_le (sound.tokensFresh other old) fresh) below
  · intro userSession member
    exact Nat.lt_trans (Nat.lt_of_lt_of_le (sound.sessionsFresh userSession member) fresh) below
  · exact forall_mem_added sound.owned owner
  · apply sound.single.append_singleton
    intro old member key covered same
    simp only [RefreshToken.activeSession] at covered same
    split at covered
    · rename_i active
      split at same
      · cases covered
        exact only old member (Option.some.inj same).symm active
      · cases same
    · cases covered

theorem write_row (write : Write) {row : Row} (named : write.row = some row) :
    Sound (tables.write write) nextId := by
  cases write with
  | revokeSession sessionId =>
    exact sound.rewriteSession sessionId _ fun _ => ⟨rfl, rfl⟩
  | consumeToken tokenId successorId =>
    exact sound.rewriteToken tokenId _ fun _ => ⟨rfl, rfl, rfl, Or.inl rfl⟩
  | revokeToken tokenId =>
    apply sound.rewriteToken tokenId
    intro token
    unfold RefreshToken.revoked
    split
    · exact ⟨rfl, rfl, rfl, Or.inl rfl⟩
    · exact ⟨rfl, rfl, rfl, Or.inr rfl⟩
  | insertSession | insertToken => cases named
  | _ => exact sound.congr rfl rfl

end Sound

variable {writes : List Write}

theorem Sound.commit_rows (tables : Tables) {nextId : Uuid}
    (sound : Sound tables nextId) (rows : ∀ write ∈ writes, ∃ row, write.row = some row) :
    Sound (tables.commit writes) nextId := by
  induction writes generalizing tables with
  | nil => exact sound
  | cons write rest ih =>
    obtain ⟨row, named⟩ := rows write mem_cons_self
    exact ih (tables.write write) (sound.write_row write named) fun later member =>
      rows later (mem_cons_of_mem write member)

structure Grown (before after : Tables) : Prop where
  tokens : ∀ token ∈ before.refreshTokens, ∃ later ∈ after.refreshTokens,
    later.id = token.id ∧ later.sessionId = token.sessionId ∧
      (token.state = .consumed → later.state = .consumed)
  sessions : ∀ userSession ∈ before.sessions, ∃ later ∈ after.sessions,
    later.id = userSession.id ∧ later.expiresAt = userSession.expiresAt ∧
      (userSession.state = .revoked → later.state = .revoked)

variable (tables : Tables)

theorem Grown.refl : Grown tables tables :=
  ⟨fun token member => ⟨token, member, rfl, rfl, id⟩,
    fun userSession member => ⟨userSession, member, rfl, rfl, id⟩⟩

theorem Grown.trans {first second third : Tables} (earlier : Grown first second)
    (later : Grown second third) : Grown first third := by
  constructor
  · intro token member
    obtain ⟨middle, middleMember, middleId, middleSession, middleConsumed⟩ :=
      earlier.tokens token member
    obtain ⟨final, finalMember, finalId, finalSession, finalConsumed⟩ :=
      later.tokens middle middleMember
    exact ⟨final, finalMember, finalId.trans middleId, finalSession.trans middleSession,
      fun consumed => finalConsumed (middleConsumed consumed)⟩
  · intro userSession member
    obtain ⟨middle, middleMember, middleId, middleExpires, middleRevoked⟩ :=
      earlier.sessions userSession member
    obtain ⟨final, finalMember, finalId, finalExpires, finalRevoked⟩ :=
      later.sessions middle middleMember
    exact ⟨final, finalMember, finalId.trans middleId, finalExpires.trans middleExpires,
      fun revoked => finalRevoked (middleRevoked revoked)⟩

theorem grown_rewriteToken (tokenId : Uuid) {write : RefreshToken → RefreshToken}
    (kept : ∀ token, (write token).id = token.id ∧ (write token).sessionId = token.sessionId ∧
      (token.state = .consumed → (write token).state = .consumed)) :
    Grown tables (tables.rewriteToken tokenId write) := by
  refine ⟨?_, (Grown.refl tables).sessions⟩
  intro token member
  refine ⟨_, mem_map_of_mem member, ?_⟩
  split
  · exact kept token
  · exact ⟨rfl, rfl, id⟩

theorem RefreshToken.revoked_kept (token : RefreshToken) :
    token.revoked.id = token.id ∧ token.revoked.sessionId = token.sessionId ∧
      token.revoked.expiresAt = token.expiresAt ∧
      (token.state = .consumed → token.revoked.state = .consumed) := by
  unfold RefreshToken.revoked
  split
  · rename_i active
    refine ⟨rfl, rfl, rfl, ?_⟩
    intro consumed
    rw [active] at consumed
    cases consumed
  · exact ⟨rfl, rfl, rfl, fun consumed => consumed⟩

theorem grown_write (write : Write) : Grown tables (tables.write write) := by
  cases write with
  | revokeSession sessionId =>
    refine ⟨(Grown.refl tables).tokens, ?_⟩
    intro userSession member
    refine ⟨_, mem_map_of_mem member, ?_⟩
    split
    · exact ⟨rfl, rfl, fun _ => rfl⟩
    · exact ⟨rfl, rfl, id⟩
  | consumeToken tokenId successorId =>
    exact grown_rewriteToken tables tokenId fun _ => ⟨rfl, rfl, fun _ => rfl⟩
  | revokeToken tokenId =>
    exact grown_rewriteToken tables tokenId fun token =>
      ⟨token.revoked_kept.1, token.revoked_kept.2.1, token.revoked_kept.2.2.2⟩
  | insertSession userSession =>
    exact ⟨(Grown.refl tables).tokens, fun old member =>
      ⟨old, mem_append_left _ member, rfl, rfl, id⟩⟩
  | insertToken token =>
    exact ⟨fun old member => ⟨old, mem_append_left _ member, rfl, rfl, id⟩,
      (Grown.refl tables).sessions⟩
  | _ => exact ⟨(Grown.refl tables).tokens, (Grown.refl tables).sessions⟩

theorem grown_commit (writes : List Write) (tables : Tables) :
    Grown tables (tables.commit writes) := by
  induction writes generalizing tables with
  | nil => exact Grown.refl tables
  | cons write rest ih => exact (grown_write tables write).trans (ih (tables.write write))

structure Carried (held : List Row) (before after : Tables) : Prop where
  tokens : ∀ token ∈ before.refreshTokens, Row.refreshToken token.id ∈ held →
    token ∈ after.refreshTokens
  sessions : ∀ userSession ∈ before.sessions, Row.session userSession.id ∈ held →
    userSession ∈ after.sessions

theorem Carried.refl (held : List Row) (tables : Tables) : Carried held tables tables :=
  ⟨fun _ member _ => member, fun _ member _ => member⟩

theorem Carried.trans {held : List Row} {first second third : Tables}
    (earlier : Carried held first second) (later : Carried held second third) :
    Carried held first third :=
  ⟨fun token member locked => later.tokens token (earlier.tokens token member locked) locked,
    fun userSession member locked =>
      later.sessions userSession (earlier.sessions userSession member locked) locked⟩

section

variable {held : List Row} (tables : Tables)

theorem carried_write {write : Write} (free : ∀ row, write.row = some row → row ∉ held) :
    Carried held tables (tables.write write) := by
  cases write with
  | revokeSession sessionId =>
    refine ⟨fun _ member _ => member, ?_⟩
    intro userSession member locked
    have other : userSession.id ≠ sessionId := fun same => (free _ rfl) (same ▸ locked)
    exact mem_map.mpr ⟨userSession, member, if_neg (by simpa using other)⟩
  | consumeToken tokenId | revokeToken tokenId =>
    refine ⟨?_, fun _ member _ => member⟩
    intro token member locked
    have other : token.id ≠ tokenId := fun same => (free _ rfl) (same ▸ locked)
    exact mem_map.mpr ⟨token, member, if_neg (by simpa using other)⟩
  | insertSession userSession =>
    exact ⟨fun _ member _ => member, fun _ member _ => mem_append_left _ member⟩
  | insertToken token =>
    exact ⟨fun _ member _ => mem_append_left _ member, fun _ member _ => member⟩
  | _ => exact ⟨fun _ member _ => member, fun _ member _ => member⟩

end

theorem carried_commit {held : List Row} (tables : Tables)
    (free : ∀ write ∈ writes, ∀ row, write.row = some row → row ∉ held) :
    Carried held tables (tables.commit writes) := by
  induction writes generalizing tables with
  | nil => exact Carried.refl held tables
  | cons write rest ih =>
    have first := carried_write tables (free write mem_cons_self)
    exact first.trans (ih (tables.write write) fun later member =>
      free later (mem_cons_of_mem write member))

/-! ## Sessions after a commit -/

theorem commit_append (first second : List Write) (tables : Tables) :
    tables.commit (first ++ second) = (tables.commit first).commit second :=
  foldl_append

theorem commit_revokes (userSession : UserSession)
    (member : userSession ∈ tables.sessions)
    (revokes : Write.revokeSession userSession.id ∈ writes) :
    ∃ later ∈ (tables.commit writes).sessions,
      later.id = userSession.id ∧ later.state = .revoked := by
  induction writes generalizing tables userSession with
  | nil => cases revokes
  | cons write rest ih =>
    rcases mem_cons.mp revokes with first | later
    · subst first
      have revoked : userSession.revoked ∈
          (tables.write (.revokeSession userSession.id)).sessions :=
        mem_map.mpr ⟨userSession, member, if_pos (by simp)⟩
      obtain ⟨final, finalMember, named, _, stays⟩ :=
        (grown_commit rest _).sessions userSession.revoked revoked
      exact ⟨final, finalMember, named, stays rfl⟩
    · obtain ⟨middle, middleMember, named, _⟩ :=
        (grown_write tables write).sessions userSession member
      obtain ⟨final, finalMember, finalNamed, revoked⟩ :=
        ih (tables.write write) middle middleMember (named ▸ later)
      exact ⟨final, finalMember, finalNamed.trans named, revoked⟩

def UserSession.lifetime (userSession : UserSession) : Uuid × Instant :=
  (userSession.id, userSession.expiresAt)

theorem commit_rows_sessions
    (rows : ∀ write ∈ writes, ∃ row, write.row = some row) :
    (tables.commit writes).sessions.map UserSession.lifetime =
      tables.sessions.map UserSession.lifetime := by
  induction writes generalizing tables with
  | nil => rfl
  | cons write rest ih =>
    have later := ih (tables.write write) fun other member =>
      rows other (mem_cons_of_mem write member)
    refine later.trans ?_
    obtain ⟨row, named⟩ := rows write mem_cons_self
    cases write with
    | revokeSession sessionId =>
      exact map_updateWhere _ UserSession.revoked _ (fun _ => rfl) tables.sessions
    | insertSession userSession => cases named
    | _ => rfl

end Nebula.Auth
