import Nebula.Auth.Calls

/-!
# Tokens and sessions over time

What the history of a service says of its tables: a token that was refreshed is
consumed, a session that was replayed is revoked, and a session's expiry is the
one it was opened with. A commit keeps all three.
-/

namespace Nebula.Auth

open Schema List

namespace Entry

def refreshedToken : Entry → Option Uuid
  | .refreshed tokenId _ => some tokenId
  | _ => none

def replayedSession : Entry → Option Uuid
  | .replayed sessionId => some sessionId
  | _ => none

def usedSession : Entry → Option Uuid
  | .refreshed _ sessionId => some sessionId
  | .accepted sessionId => some sessionId
  | _ => none

def openedUntil (sessionId : Uuid) : Entry → Option Instant
  | .opened newId expiresAt => if newId = sessionId then some expiresAt else none
  | _ => none

def Allows (earlier later : Entry) : Prop :=
  earlier.replayedSession = none ∨ later.usedSession ≠ earlier.replayedSession
  deriving Decidable

end Entry

def originalExpiry (history : List Entry) (sessionId : Uuid) : Option Instant :=
  history.findSome? (Entry.openedUntil sessionId)

structure Told (tables : Tables) (nextId : Uuid) (history : List Entry) : Prop where
  expiry : ∀ lifetime ∈ tables.sessions.map UserSession.lifetime,
    originalExpiry history lifetime.1 = some lifetime.2
  openedFresh : ∀ sessionId expiresAt, Entry.opened sessionId expiresAt ∈ history →
    sessionId < nextId
  spent : ∀ tokenId sessionId, Entry.refreshed tokenId sessionId ∈ history →
    ∃ token ∈ tables.refreshTokens, token.id = tokenId ∧ token.state = .consumed
  silent : ∀ sessionId, Entry.replayed sessionId ∈ history →
    ∃ userSession ∈ tables.sessions, userSession.id = sessionId ∧ userSession.state = .revoked
  once : (history.filterMap Entry.refreshedToken).Nodup
  silenced : history.Pairwise Entry.Allows

namespace Told

variable {tables : Tables} {nextId : Uuid} {history : List Entry}
  (told : Told tables nextId history)
include told

theorem moved (after : Tables) (later : Uuid) (grown : Grown tables after)
    (expiry : ∀ lifetime ∈ after.sessions.map UserSession.lifetime,
      originalExpiry history lifetime.1 = some lifetime.2)
    (below : nextId ≤ later) : Told after later history := by
  refine ⟨expiry, ?_, ?_, ?_, told.once, told.silenced⟩
  · intro sessionId expiresAt member
    exact Nat.lt_of_lt_of_le (told.openedFresh sessionId expiresAt member) below
  · intro tokenId sessionId member
    obtain ⟨token, tokenMember, named, consumed⟩ := told.spent tokenId sessionId member
    obtain ⟨final, finalMember, same, _, stays⟩ := grown.tokens token tokenMember
    exact ⟨final, finalMember, same.trans named, stays consumed⟩
  · intro sessionId member
    obtain ⟨userSession, sessionMember, named, revoked⟩ := told.silent sessionId member
    obtain ⟨final, finalMember, same, _, stays⟩ := grown.sessions userSession sessionMember
    exact ⟨final, finalMember, same.trans named, stays revoked⟩

theorem append (entry : Entry)
    (fresh : ∀ sessionId expiresAt, entry = .opened sessionId expiresAt → sessionId < nextId)
    (spent : ∀ tokenId sessionId, entry = .refreshed tokenId sessionId →
      (∃ token ∈ tables.refreshTokens, token.id = tokenId ∧ token.state = .consumed) ∧
        ∀ other, Entry.refreshed tokenId other ∉ history)
    (silent : ∀ sessionId, entry = .replayed sessionId → ∃ userSession ∈ tables.sessions,
      userSession.id = sessionId ∧ userSession.state = .revoked)
    (allowed : ∀ sessionId, entry.usedSession = some sessionId →
      Entry.replayed sessionId ∉ history) : Told tables nextId (history ++ [entry]) := by
  refine ⟨?_, ?_, ?_, ?_, ?_, ?_⟩
  · intro lifetime member
    have known := told.expiry lifetime member
    unfold originalExpiry at known ⊢
    rw [findSome?_append, known]
    rfl
  · intro sessionId expiresAt member
    rcases mem_append.mp member with old | new
    · exact told.openedFresh sessionId expiresAt old
    · exact fresh sessionId expiresAt (mem_singleton.mp new).symm
  · intro tokenId sessionId member
    rcases mem_append.mp member with old | new
    · exact told.spent tokenId sessionId old
    · exact (spent tokenId sessionId (mem_singleton.mp new).symm).1
  · intro sessionId member
    rcases mem_append.mp member with old | new
    · exact told.silent sessionId old
    · exact silent sessionId (mem_singleton.mp new).symm
  · rw [filterMap_append]
    cases entry with
    | refreshed tokenId sessionId =>
      refine nodup_append.mpr ⟨told.once, nodup_singleton _, ?_⟩
      intro earlier earlierMember later laterMember same
      obtain ⟨old, oldMember, named⟩ := mem_filterMap.mp earlierMember
      cases old with
      | refreshed oldToken oldSession =>
        have token : oldToken = tokenId :=
          (Option.some.inj named).trans (same.trans (mem_singleton.mp laterMember))
        exact (spent tokenId sessionId rfl).2 oldSession (token ▸ oldMember)
      | _ => cases named
    | _ =>
      simpa only [filterMap_cons, filterMap_nil, Entry.refreshedToken, append_nil] using told.once
  · refine pairwise_append.mpr ⟨told.silenced, pairwise_singleton _ _, ?_⟩
    intro earlier earlierMember later laterMember
    rw [mem_singleton.mp laterMember]
    cases earlier with
    | replayed sessionId => exact Or.inr fun used => allowed sessionId used earlierMember
    | _ => exact Or.inl rfl

theorem not_replayed (sound : Sound tables nextId) {userSession : UserSession}
    (member : userSession ∈ tables.sessions) (active : userSession.state = .active) :
    Entry.replayed userSession.id ∉ history := by
  intro replayed
  obtain ⟨revokedSession, revokedMember, named, revoked⟩ := told.silent userSession.id replayed
  rw [sound.sessionIds.eq_of_key revokedMember member rfl (congrArg some named.symm), active]
    at revoked
  cases revoked

theorem not_refreshed (sound : Sound tables nextId) {token : RefreshToken}
    (member : token ∈ tables.refreshTokens) (active : token.state = .active) (sessionId : Uuid) :
    Entry.refreshed token.id sessionId ∉ history := by
  intro refreshed
  obtain ⟨spentToken, spentMember, named, consumed⟩ := told.spent token.id sessionId refreshed
  rw [sound.token_eq spentMember member named, active] at consumed
  cases consumed

end Told

section

variable {tables : Tables} {nextId : Uuid} (sound : Sound tables nextId)
include sound

theorem sound_opened {userId : Uuid} {deviceId : Option Uuid} {hardwareId : Option HardwareId}
    {settings : AuthSettings} {now : Instant} :
    Sound (tables.commit ((Outcome.opened userId deviceId hardwareId).inserts settings now nextId))
      (nextId + 3) := by
  have unowned : ∀ token ∈ tables.refreshTokens, token.sessionId ≠ nextId := by
    intro token member same
    obtain ⟨owner, ownerMember, named, _⟩ := sound.owned token member
    have less := sound.sessionsFresh owner ownerMember
    rw [named, same] at less
    exact Nat.lt_irrefl _ less
  rw [Outcome.inserts, commit_append]
  -- Registering a device first touches neither of the two tables.
  have registered : Sound (tables.commit (registers (nextId + 2) userId deviceId hardwareId))
        nextId ∧
      (tables.commit (registers (nextId + 2) userId deviceId hardwareId)).refreshTokens =
        tables.refreshTokens := by
    cases deviceId with
    | some device => exact ⟨sound, rfl⟩
    | none => exact ⟨sound.congr rfl rfl, rfl⟩
  obtain ⟨start, tokens⟩ := registered
  have opened := start.insertSession
    (newSession nextId userId (deviceId.getD (nextId + 2)) (now + settings.refreshTokenTtl))
    (Nat.le_refl nextId) (Nat.lt_succ_self nextId)
  refine opened.insertToken _ (Nat.le_refl _) (nextId + 3) (by simp [newRefreshToken]) ?_ ?_
  · exact ⟨_, mem_append_right _ (mem_singleton_self _), rfl, Nat.le_refl _⟩
  · intro other member session
    exact absurd session (unowned other (tokens ▸ member))

end

section

variable {service : Service} (sound : Sound service.tables service.nextId)
  (told : Told service.tables service.nextId service.history)
include sound told

theorem told_rotated {held : List Row} {call : Call} {token : RefreshToken}
    {userSession : UserSession} (presents : call.presents = some token.id)
    (unwritten : call.writes = []) (paired : Paired service.tables held token userSession)
    (tokenActive : token.state = .active) (sessionActive : userSession.state = .active)
    (id : Nat) :
    Told (service.committed id call (.rotated token userSession)).tables (service.nextId + 3)
      (service.committed id call (.rotated token userSession)).history := by
  have unseen : service.presentation call = [] := by
    rw [Service.presentation, Call.replays, presents]
    simp [Tables.consumedIn, sound.refreshToken_of_mem paired.tokenMember, tokenActive]
  have moved := told.moved
    (service.committed id call (.rotated token userSession)).tables (service.nextId + 3)
    (grown_commit _ service.tables)
    (by simp only [Service.committed, unwritten]; exact told.expiry)
    (Nat.le_add_right _ 3)
  have entered := moved.append (.refreshed token.id userSession.id)
    (by intro sessionId expiresAt same; cases same)
    (by
      intro tokenId sessionId same
      cases same
      refine ⟨⟨token.consumedBy service.nextId, ?_, rfl, rfl⟩,
        told.not_refreshed sound paired.tokenMember tokenActive⟩
      simp only [Service.committed, unwritten]
      exact mem_append_left _ (mem_map.mpr ⟨token, paired.tokenMember, if_pos (by simp)⟩))
    (by intro sessionId same; cases same)
    (by
      intro sessionId used
      cases used
      exact told.not_replayed sound paired.sessionMember sessionActive)
  simpa [Service.committed, Service.finish, unseen, Outcome.entries] using entered

theorem told_presented {call : Call} (condemns : call.Condemns service.tables)
    (rows : ∀ write ∈ call.writes, ∃ row, write.row = some row) :
    Told (service.tables.commit call.writes) service.nextId
      (service.history ++ service.presentation call) := by
  have moved := told.moved (service.tables.commit call.writes) service.nextId
    (grown_commit _ service.tables)
    (by rw [commit_rows_sessions service.tables rows]; exact told.expiry)
    (Nat.le_refl _)
  unfold Service.presentation
  cases replays : call.replays service.tables with
  | none => simpa using moved
  | some sessionId =>
    obtain ⟨userSession, member, named, revokes⟩ : ∃ userSession ∈ service.tables.sessions,
        userSession.id = sessionId ∧ Write.revokeSession userSession.id ∈ call.writes := by
      obtain ⟨tokenId, presents, consumed⟩ := Option.bind_eq_some_iff.mp replays
      obtain ⟨token, member, named, revokes⟩ := condemns tokenId presents
      obtain ⟨userSession, sessionMember, owner, _⟩ := sound.owned token member
      have found := sound.refreshToken_of_mem member
      rw [named] at found
      simp only [Tables.consumedIn, found] at consumed
      split at consumed
      · exact ⟨userSession, sessionMember, owner.trans (Option.some.inj consumed), owner ▸ revokes⟩
      · cases consumed
    refine moved.append (.replayed sessionId) ?_ ?_ ?_ ?_
    · intro opened expiresAt same
      cases same
    · intro tokenId session same
      cases same
    · intro replayed same
      cases same
      obtain ⟨later, laterMember, laterNamed, revoked⟩ :=
        commit_revokes service.tables userSession member revokes
      exact ⟨later, laterMember, laterNamed.trans named, revoked⟩
    · intro used same
      cases same

end

theorem Told.opened {tables : Tables} {nextId : Uuid} {history : List Entry}
    (told : Told tables nextId history) (userId : Uuid) (deviceId : Option Uuid)
    (hardwareId : Option HardwareId) (settings : AuthSettings) (now : Instant) :
    Told (tables.commit ((Outcome.opened userId deviceId hardwareId).inserts settings now nextId))
      (nextId + 3) (history ++ [.opened nextId (now + settings.refreshTokenTtl)]) := by
  have later := told.moved tables (nextId + 3) (Grown.refl tables) told.expiry
    (Nat.le_add_right _ 3)
  have entered := later.append (.opened nextId (now + settings.refreshTokenTtl))
    (by
      intro sessionId expiresAt same
      cases same
      exact Nat.lt_add_of_pos_right (by decide))
    (by intro tokenId sessionId same; cases same)
    (by intro sessionId same; cases same)
    (by intro sessionId used; cases used)
  refine entered.moved _ (nextId + 3) (grown_commit _ tables) ?_ (Nat.le_refl _)
  have sessions : (tables.commit
      ((Outcome.opened userId deviceId hardwareId).inserts settings now nextId)).sessions =
      tables.sessions ++ [newSession nextId userId (deviceId.getD (nextId + 2))
        (now + settings.refreshTokenTtl)] := by
    cases deviceId <;> rfl
  intro lifetime member
  rw [sessions, map_append] at member
  rcases mem_append.mp member with old | new
  · exact entered.expiry lifetime old
  rw [mem_singleton.mp new]
  have unknown : history.findSome? (Entry.openedUntil nextId) = none := by
    rw [findSome?_eq_none_iff]
    intro entry member
    cases entry with
    | opened newId until_ => exact if_neg (told.openedFresh newId until_ member).ne
    | _ => rfl
  change originalExpiry _ nextId = some (now + settings.refreshTokenTtl)
  rw [originalExpiry, findSome?_append, unknown]
  simp [Entry.openedUntil]

end Nebula.Auth
