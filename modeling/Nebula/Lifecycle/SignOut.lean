import Nebula.Auth.OwnSession
import Nebula.ControlPlane.CredentialSteps

/-!
# Sign-outs and the device's credentials

A sign-out ends the session of its token, which may be over already, and takes the credentials of
that session's device, in one transaction.

A session asks for credentials with its access token, for any device of its account. Nothing here
ties the users and devices of the two halves together, so the histories of the code are among the
runs. Identifiers are drawn in order: a later session has a greater one.

`asked` and `provisioned` are not stored by the code: which session asked for a connect under way,
and under which a row was last provisioned, the latest first.
-/

namespace Nebula.SignOut

open Store Schema Runs List Option
open Auth (Service UserSession AuthSettings OthersKept)
open ControlPlane (TaskId ConnectRequest)

structure State where
  auth : Service
  plane : ControlPlane.State
  asked : List (TaskId × Uuid)
  provisioned : List (Uuid × Uuid)

inductive Event where
  | auth (event : Auth.Event)
  | connect (userId sessionId : Uuid) (request : ConnectRequest) (allowed : Bool) (now : Instant)
  | plane (event : ControlPlane.Event)

def ofPlane : ControlPlane.Event → Bool
  | .connectCheck _ _ _ => false
  | .logout _ _ => false
  | _ => true

namespace State

variable (state : State)

/-- The session and clock of a sign-out that commits: no other request with a token ends so. -/
def signsOut : Event → Option (UserSession × Instant)
  | .auth (.commit id) =>
    (state.auth.requests.find id).bind fun transaction =>
      if transaction.work.stage = .committing (.ended .done) then
        (state.auth.presented (.commit id)).map fun own => (own, transaction.work.now)
      else none
  | _ => none

def presented : Event → Option UserSession
  | .auth event => state.auth.presented event
  | _ => none

def provisions : ControlPlane.Event → Option Uuid
  | .connectLookup task => (lookup Prod.fst task state.asked).map Prod.snd
  | .connectCommit task => (lookup Prod.fst task state.asked).map Prod.snd
  | _ => none

def written (before after : List Row) : List Row :=
  after.filter fun row => decide (row ∉ before)

def provision (event : ControlPlane.Event) (next : ControlPlane.State) : State :=
  { state with
    plane := next
    provisioned :=
      ((state.provisions event).toList.flatMap fun sessionId =>
        (written state.plane.tables.rows next.tables.rows).map fun row => (row.id, sessionId)) ++
        state.provisioned }

def later (own rowId : Uuid) : Bool :=
  (lookup Prod.fst rowId state.provisioned).any fun entry => decide (own < entry.2)

end State

def step (state : State) (event : Event) : Option State :=
  match event with
  | .auth request =>
    (state.auth.step request).bind fun auth =>
      match state.signsOut event with
      | none => some { state with auth := auth }
      | some (own, now) =>
        (ControlPlane.step state.plane (.logout own.deviceId now)).map fun plane =>
          { state with auth := auth, plane := plane }
  | .connect userId sessionId request allowed now =>
    if state.auth.accepts userId sessionId && decide (request.userId = userId) then
      (ControlPlane.step state.plane (.connectCheck request allowed now)).map fun plane =>
        { state with plane := plane, asked := (state.plane.nextTask, sessionId) :: state.asked }
    else none
  | .plane request =>
    if ofPlane request then
      (ControlPlane.step state.plane request).map fun plane => state.provision request plane
    else none

/-- No row provisioned under a later session changes, and no credential of one. -/
@[mk_iff]
structure LaterKept (own : Uuid) (before after : State) : Prop where
  rows : ∀ row ∈ before.plane.tables.rows, before.later own row.id = true →
    row ∈ after.plane.tables.rows
  credentials : ∀ row ∈ before.plane.tables.rows, before.later own row.id = true →
    ∀ credential ∈ before.plane.tables.credentials, row.credentialId = credential.id →
      credential ∈ after.plane.tables.credentials

instance (own : Uuid) (before after : State) : Decidable (LaterKept own before after) :=
  decidable_of_iff' _ (laterKept_iff own before after)

/-- The token of an ended session changes no other session and nothing provisioned under a later
one. -/
def OnlyOwn (before : State) (event : Event) (after : State) : Prop :=
  ∀ own ∈ before.presented event, own.state = .revoked →
    OthersKept own.id before.auth.tables after.auth.tables ∧ LaterKept own.id before after
  deriving Decidable

/-- A sign-out with an ended session's token finds nothing live on its device from a later session.
-/
def NoneLater (before : State) (event : Event) : Prop :=
  ∀ out ∈ before.signsOut event, out.1.state = .revoked →
    ∀ row ∈ before.plane.tables.rows, row.deviceId = out.1.deviceId →
      row.state.revocable = true → before.later out.1.id row.id = false
  deriving Decidable

/-! ## What a sign-out takes -/

section

variable {plane next : ControlPlane.State} {deviceId : Uuid} {now : Instant}

theorem logout_tables (paired : ControlPlane.Paired plane.tables)
    (taken : ControlPlane.step plane (.logout deviceId now) = some next) :
    next.tables = ControlPlane.revokeDeviceCredentials deviceId now plane.tables :=
  (ControlPlane.step_committed rfl
    (ControlPlane.markRevoking_consistent plane.tables _ now plane.database.consistent paired)
    taken).tables

theorem not_mem_revoked_rows {row : Row} (member : row ∈ plane.tables.rows)
    (own : row.deviceId = deviceId) (live : row.state.revocable = true) :
    row ∉ (ControlPlane.revokeDeviceCredentials deviceId now plane.tables).rows := by
  intro still
  obtain ⟨old, oldMember, rewritten⟩ := mem_map.mp still
  have sameId : old.id = row.id := by
    rw [← rewritten]
    split <;> rfl
  have one := ControlPlane.row_unique old row oldMember member sameId
  subst one
  rw [if_pos (by simp [own, live])] at rewritten
  rw [← rewritten] at live
  cases live

end

structure Sound (state : State) : Prop where
  confined : Auth.Confined state.auth
  agreement : ControlPlane.Agreement state.plane

theorem plane_agreement {plane next : ControlPlane.State}
    (agreement : ControlPlane.Agreement plane)
    {event : ControlPlane.Event} (taken : ControlPlane.step plane event = some next) :
    ControlPlane.Agreement next :=
  ControlPlane.step_agreement agreement taken

theorem step_sound (before after : State) (event : Event) (sound : Sound before)
    (taken : step before event = some after) : Sound after := by
  cases event with
  | auth request =>
    obtain ⟨auth, authTaken, taken⟩ := bind_eq_some_iff.mp taken
    have confined : Auth.Confined auth :=
      ⟨Auth.step_standing sound.confined.standing authTaken,
        Auth.step_calls sound.confined request authTaken⟩
    split at taken
    · cases taken
      exact ⟨confined, sound.agreement⟩
    · obtain ⟨plane, planeTaken, same⟩ := map_eq_some_iff.mp taken
      subst same
      exact ⟨confined, plane_agreement sound.agreement planeTaken⟩
  | connect | plane =>
    simp only [step] at taken
    split at taken
    · obtain ⟨plane, planeTaken, same⟩ := map_eq_some_iff.mp taken
      subst same
      exact ⟨sound.confined, plane_agreement sound.agreement planeTaken⟩
    · cases taken

theorem presented_of_signsOut {state : State} {event : Event} {out : UserSession × Instant}
    (signsOut : state.signsOut event = some out) : state.presented event = some out.1 := by
  unfold State.signsOut at signsOut
  split at signsOut
  · obtain ⟨transaction, _, ended⟩ := bind_eq_some_iff.mp signsOut
    split at ended
    · obtain ⟨own, presented, same⟩ := map_eq_some_iff.mp ended
      subst same
      exact presented
    · cases ended
  · cases signsOut

def State.planeAfter (state : State) (event : Event) : Tables :=
  match state.signsOut event with
  | none => state.plane.tables
  | some out => ControlPlane.revokeDeviceCredentials out.1.deviceId out.2 state.plane.tables

theorem laterKept_of_none {before after : State} {own : UserSession} {request : Auth.Event}
    (presented : before.presented (.auth request) = some own) (ended : own.state = .revoked)
    (noneLater : NoneLater before (.auth request))
    (tables : after.plane.tables = before.planeAfter (.auth request)) :
    LaterKept own.id before after := by
  unfold State.planeAfter at tables
  cases signsOut : before.signsOut (.auth request) with
  | none =>
    simp only [signsOut] at tables
    exact ⟨fun row member _ => tables ▸ member, fun _ _ _ credential present _ => tables ▸ present⟩
  | some out =>
    simp only [signsOut] at tables
    have same : out.1 = own := some.inj ((presented_of_signsOut signsOut).symm.trans presented)
    have spared : ∀ row ∈ before.plane.tables.rows, before.later own.id row.id = true →
        ¬ (row.deviceId = out.1.deviceId ∧ row.state.revocable = true) := by
      rintro row member later ⟨device, live⟩
      have earlier := noneLater out signsOut (same ▸ ended) row member device live
      rw [same, later] at earlier
      cases earlier
    constructor
    · intro row member later
      rw [tables]
      exact mem_map.mpr ⟨row, member, if_neg (by simpa using spared row member later)⟩
    intro row member later credential present named
    rw [tables]
    refine mem_map.mpr ⟨credential, present, if_neg ?_⟩
    intro marked
    obtain ⟨other, otherMember, chosen⟩ := any_eq_true.mp marked
    simp only [Bool.and_eq_true, beq_iff_eq] at chosen
    have one : other = row := inj_on_of_nodup_map
      before.plane.database.consistent.rowCredentialIds otherMember member
      (chosen.2.trans named.symm)
    subst one
    exact spared other member later chosen.1

theorem step_onlyOwn_iff {before after : State} {event : Event} (sound : Sound before)
    (taken : step before event = some after) :
    OnlyOwn before event after ↔ NoneLater before event := by
  cases event with
  | auth request =>
    obtain ⟨authTaken, tables⟩ : before.auth.step request = some after.auth ∧ after.plane.tables =
        before.planeAfter (.auth request) := by
      unfold State.planeAfter
      obtain ⟨auth, authTaken, taken⟩ := bind_eq_some_iff.mp taken
      cases signsOut : before.signsOut (.auth request) with
      | none =>
        simp only [signsOut] at taken
        cases taken
        exact ⟨authTaken, rfl⟩
      | some out =>
        simp only [signsOut] at taken
        obtain ⟨plane, planeTaken, same⟩ := map_eq_some_iff.mp taken
        subst same
        exact ⟨authTaken, logout_tables sound.agreement.paired planeTaken⟩
    constructor
    · intro only out signsOut ended row member device live
      obtain ⟨_, kept⟩ := only out.1 (presented_of_signsOut signsOut) ended
      rw [State.planeAfter, show before.signsOut (.auth request) = some out from signsOut] at tables
      refine Bool.eq_false_iff.mpr fun later => ?_
      have still := kept.rows row member later
      rw [tables] at still
      exact not_mem_revoked_rows member device live still
    · intro noneLater own presented ended
      exact ⟨Auth.step_others sound.confined request own presented authTaken,
        laterKept_of_none presented ended noneLater tables⟩
  | connect | plane =>
    constructor
    · intro _ out among
      cases among
    · intro _ own among
      cases among

def begun (auth : Service) (tables : Tables) (consistent : tables.Consistent) : State where
  auth := auth
  plane := ControlPlane.startOf tables consistent
  asked := []
  provisioned := []

/-- An ended session's token changes no other session, and spares what later ones provisioned
exactly when `NoneLater`. -/
theorem ended_token_touches_only_own (settings : AuthSettings) (users : List Auth.User)
    (devices : List Auth.Device) (resetTokens : List Auth.PasswordResetToken) (clock : Instant)
    (nextId : Uuid) (tables : Tables) (consistent : tables.Consistent)
    (unprovisioned : tables.credentials = []) (events : List Event) :
    EachStep step (fun before event after => OnlyOwn before event after ↔ NoneLater before event)
      events
      (begun (Auth.opening settings users devices resetTokens clock nextId) tables consistent) := by
  refine eachStep_of_invariant Sound ?_ ?_ ?_ (runMeets_of_forall _ (fun _ _ => trivial) _ _)
  · intro before event after sound _ taken
    exact step_sound before after event sound taken
  · intro before event after sound _ taken
    exact step_onlyOwn_iff sound taken
  refine ⟨⟨Auth.standing_start rfl rfl rfl, forall_mem_nil _⟩, ?_, ?_⟩
  · intro credential present
    have listed : credential ∈ tables.credentials := present
    rw [unprovisioned] at listed
    cases listed
  · exact forall_mem_nil _

def onePhone : State :=
  begun
    (Auth.opening Auth.defaultSettings
      [{ id := 1
         emailNormalized := 100
         usernameNormalized := none
         passwordHash := some 5
         state := .active
         expiresAt := none
         deviceLimit := 3 }]
      [{ id := 2, userId := 1, state := .active, hardwareHash := none }] [] 1000 10)
    ControlPlane.smallTables ControlPlane.smallStart.database.consistent

def login : Auth.Event :=
  .arrive (.login
    { identifier := 100, password := 5, deviceId := some 2, hardwareId := none, network := 7 })

/-- Session 10 with token 11, and session 13, which takes its place. -/
def signedInTwice : List Event :=
  ([login, .advance 0, .lock 0, .advance 0, .lock 0, .advance 0, .advance 0, .commit 0,
    login, .advance 1, .lock 1, .advance 1, .lock 1, .advance 1, .lock 1, .advance 1, .lock 1,
    .advance 1, .commit 1] : List Auth.Event).map Event.auth

def provisioned : List Event :=
  [.connect 1 13 ⟨1, 2, 30, 50, none⟩ true 1000, .plane (.connectLookup 0),
    .plane (.connectCommit 0), .plane (.answer 0 (.applied 1)), .plane (.finalize 0 1001)]

def oldSignOut : List Event :=
  ([.arrive (.logout 11), .advance 2, .lock 2, .advance 2, .advance 2] : List Auth.Event).map
    Event.auth

theorem ended_token_touches_only_own_twice :
    EachStep step (fun before event after => OnlyOwn before event after ↔ NoneLater before event)
        (signedInTwice ++ oldSignOut ++ [.auth (.commit 2)] ++ provisioned) onePhone ∧
      ((runEvents step (signedInTwice ++ oldSignOut ++ [.auth (.commit 2)] ++ provisioned)
        onePhone).map fun final => final.plane.tables.rows.map Row.state) = some [.active] :=
  ⟨ended_token_touches_only_own Auth.defaultSettings _ _ _ _ _ ControlPlane.smallTables
    (by decide) rfl _, by decide +kernel⟩

theorem old_sign_out_takes_new_credential :
    ¬ EachStep step OnlyOwn (signedInTwice ++ provisioned ++ oldSignOut ++ [.auth (.commit 2)])
      onePhone :=
  not_eachStep step
    (by decide +kernel)

end Nebula.SignOut
