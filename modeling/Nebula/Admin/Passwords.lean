import Nebula.Admin.SignInSteps

/-!
# The password a sign-in was begun with

A challenge outlives a change of the password it was given for: nothing looks at the password
again at the second step.
-/

namespace Nebula.SignIn

open Store Schema Work Runs

variable (settings : Settings)

variable (state : State)

def SignedInWithCurrent : Prop :=
  ∀ issue ∈ state.issued, ∀ password ∈ issue.verified, issue.inForce = some password
  deriving Decidable

def State.Unchallenged (adminId : Uuid) : Prop :=
  (∀ challenge ∈ state.preauths, state.now < challenge.expiresAt → challenge.adminId ≠ adminId) ∧
    ∀ job ∈ state.jobs.jobs, ∀ challenge ∈ job.2.challenge, challenge.adminId ≠ adminId
  deriving Decidable

def ChangesUnchallenged : Event → Prop
  | .commit number =>
    ∀ adminId ∈ (state.jobs.find number).bind Job.changes, state.Unchallenged adminId
  | _ => True

instance (event : Event) : Decidable (ChangesUnchallenged state event) := by
  unfold ChangesUnchallenged
  split <;> infer_instance

structure PasswordsCurrent : Prop where
  preauths : ∀ challenge ∈ state.preauths, state.now < challenge.expiresAt →
    state.inForce challenge.adminId = some challenge.password
  jobs : ∀ job ∈ state.jobs.jobs, ∀ challenge ∈ job.2.challenge,
    state.inForce challenge.adminId = some challenge.password
  issued : SignedInWithCurrent state

namespace PasswordsCurrent

variable {before : State} (current : PasswordsCurrent before)
include current

theorem kept (after : State) (later : before.now ≤ after.now)
    (inForce : ∀ adminId password, before.inForce adminId = some password →
      after.inForce adminId = some password)
    (preauths : ∀ challenge ∈ after.preauths, challenge ∈ before.preauths ∨
      before.inForce challenge.adminId = some challenge.password)
    (jobs : ∀ job ∈ after.jobs.jobs, ∀ challenge ∈ job.2.challenge,
      before.inForce challenge.adminId = some challenge.password)
    (issued : ∀ issue ∈ after.issued, issue ∈ before.issued ∨
      ∀ password ∈ issue.verified, issue.inForce = some password) : PasswordsCurrent after := by
  refine ⟨?_, ?_, ?_⟩
  · intro challenge member live
    rcases preauths challenge member with old | known
    · exact inForce _ _ (current.preauths challenge old (Nat.lt_of_le_of_lt later live))
    · exact inForce _ _ known
  · intro job member challenge spent
    exact inForce _ _ (jobs job member challenge spent)
  · intro issue member
    rcases issued issue member with old | new
    · exact current.issued issue old
    · exact new

variable (number : Nat)

theorem resume (next : Option Job) (known : ∀ job ∈ next, ∀ challenge ∈ job.challenge,
      before.inForce challenge.adminId = some challenge.password) :
    PasswordsCurrent (before.resume number next) :=
  current.kept _ (Nat.le_refl _) (fun _ _ held => held) (fun _ member => Or.inl member)
    (Pool.forall_resume current.jobs known) (fun _ member => Or.inl member)

theorem begin (job : Job) (known : ∀ challenge ∈ job.challenge,
      before.inForce challenge.adminId = some challenge.password) :
    PasswordsCurrent (before.begin job) :=
  current.kept _ (Nat.le_refl _) (fun _ _ held => held) (fun _ member => Or.inl member)
    (Pool.forall_begin current.jobs known) (fun _ member => Or.inl member)

theorem answered (job : Job) (found : before.jobs.find number = some job) :
    ∀ challenge ∈ job.challenge, before.inForce challenge.adminId = some challenge.password :=
  current.jobs (number, job) (before.jobs.find_mem number job found)

theorem goOn (job : Job) (next : Option Job) (found : before.jobs.find number = some job)
    (same : ∀ later ∈ next, ∀ challenge ∈ later.challenge, challenge ∈ job.challenge) :
    PasswordsCurrent (before.resume number next) :=
  current.resume number next fun later among challenge spent =>
    current.answered number job found challenge (same later among challenge spent)

theorem elsewhere (after : State) (now : after.now = before.now)
    (admins : after.admins = before.admins) (preauths : after.preauths = before.preauths)
    (jobs : after.jobs = before.jobs) (issued : after.issued = before.issued) :
    PasswordsCurrent after := by
  refine current.kept after (Nat.le_of_eq now.symm) ?_ ?_ ?_ ?_
  · intro adminId password held
    rw [State.inForce, State.admin, admins]
    exact held
  · intro challenge member
    exact Or.inl (preauths ▸ member)
  · intro job member
    exact current.jobs job (jobs ▸ member)
  · intro issue member
    exact Or.inl (issued ▸ member)

theorem beside {after : State} (same : Beside before after) : PasswordsCurrent after :=
  current.elsewhere after same.now same.admins same.preauths same.jobs same.issued

theorem lockoutStatus (key : AccountKey) : PasswordsCurrent (before.lockoutStatus key) := by
  unfold State.lockoutStatus
  split
  · exact current
  split
  · exact current
  · split
    · exact current.elsewhere _ rfl rfl rfl rfl rfl
    · exact current

theorem recordFailure (key : AccountKey) :
    PasswordsCurrent (before.recordFailure settings key) := by
  unfold State.recordFailure
  split
  · exact current
  · split
    · exact current.elsewhere _ rfl rfl rfl rfl rfl
    · exact current.elsewhere _ rfl rfl rfl rfl rfl

variable (adminId : Uuid)

theorem noteIssue (method : Admin.SessionMethod) (verified : Option Password)
    (known : ∀ password ∈ verified, before.inForce adminId = some password) :
    PasswordsCurrent (before.noteIssue adminId method verified) := by
  refine current.kept _ (Nat.le_refl _) (fun _ _ held => held) (fun _ member => Or.inl member)
    current.jobs ?_
  intro issue member
  rcases List.mem_cons.mp member with new | old
  · subst new
    exact Or.inr known
  · exact Or.inl old

theorem issuePreauth (purpose : Purpose) (context : Network) (password : Password)
    (known : before.inForce adminId = some password) :
    PasswordsCurrent (before.issuePreauth settings adminId purpose context password) := by
  refine current.kept _ (Nat.le_refl _) (fun _ _ held => held) ?_ current.jobs
    (fun _ member => Or.inl member)
  exact forall_mem_added (fun _ => Or.inl) (Or.inr known)

theorem dropPreauth (token : Token) : PasswordsCurrent (before.dropPreauth token) :=
  current.kept _ (Nat.le_refl _) (fun _ _ held => held)
    (fun _ member => Or.inl ((mem_remove PreAuth.token).mp member).1)
    current.jobs (fun _ member => Or.inl member)

theorem writePassword (new : Password) (now : Nat) (unchallenged : before.Unchallenged adminId) :
    PasswordsCurrent (before.writePassword adminId new now) := by
  have others : ∀ other, other ≠ adminId →
      (before.writePassword adminId new now).inForce other = before.inForce other := by
    intro other different
    refine inForce_updateWhere (fun _ _ => rfl) ?_
    intro admin _ named chosen
    exact absurd (named.symm.trans (of_decide_eq_true chosen)) different
  refine ⟨?_, ?_, current.issued⟩
  · intro challenge member live
    rw [others _ (unchallenged.1 challenge member live)]
    exact current.preauths challenge member live
  · intro job member challenge spent
    rw [others _ (unchallenged.2 job member challenge spent)]
    exact current.jobs job member challenge spent

end PasswordsCurrent

section

variable {before after : State}

variable (current : PasswordsCurrent before)
include current

theorem written_current {job : Job} {written : State}
    (known : ∀ challenge ∈ job.challenge,
      before.inForce challenge.adminId = some challenge.password)
    (writes : Written settings before job written) : PasswordsCurrent written := by
  cases writes with
  | beside same => exact current.beside same
  | challenged adminId purpose context password own right =>
    refine current.issuePreauth settings adminId purpose context password ?_
    rcases right with inForce | ⟨challenge, spent, rfl, rfl⟩
    · exact inForce
    · exact known challenge spent
  | issued adminId method verified own right same =>
    refine (current.noteIssue adminId method verified ?_).beside same
    intro password shown
    obtain ⟨challenge, spent, rfl, rfl⟩ := right password shown
    exact known challenge spent
  | cleared key => exact current.elsewhere _ rfl rfl rfl rfl rfl

theorem step_current (event : Event) (unchallenged : ChangesUnchallenged before event)
    (taken : step settings before event = some after) : PasswordsCurrent after := by
  cases step_change taken with
  | ticked later order =>
    exact current.kept _ order (fun _ _ held => held) (fun _ member => Or.inl member)
      current.jobs (fun _ member => Or.inl member)
  | administered admins inForce =>
    exact current.kept _ (Nat.le_refl _) inForce (fun _ member => Or.inl member) current.jobs
      (fun _ member => Or.inl member)
  | beside same => exact current.beside same
  | begun job free own plain => exact current.begin job (by simp [plain])
  | spent token job waits live same free own =>
    refine ((current.dropPreauth token).beside same).begin job ?_
    intro challenge spent
    cases own.symm.trans spent
    rw [State.inForce, State.admin, same.admins]
    exact current.preauths _ waits live
  | looked number next key found row plain known =>
    exact (current.lockoutStatus key).resume number _ (by simp [plain])
  | locked number next found free own spent =>
    exact current.goOn number _ _ found (by simp [spent])
  | denied number job key found wrong =>
    exact (current.recordFailure settings key).resume number _ (by simp [Job.challenge])
  | changed number next adminId new now found keeps changes =>
    have idle : before.Unchallenged adminId := unchallenged adminId (by rw [found]; exact changes)
    exact (current.writePassword adminId new now idle).goOn number _ next found keeps.spent
  | wentOn number next found keeps writes =>
    have known := current.answered number _ found
    rw [← writes.jobs] at found
    exact (written_current settings current known writes).goOn number _ next found keeps.spent

end

/-- Every session is for the password in force, if none is changed while a challenge is open. -/
theorem sessions_for_current_password (now : Nat) (admins : List AdminUser)
    (totp : List TotpCredential) (recovery : List RecoveryCode) (passkeys : List Passkey)
    (sessions : List Session) (nextToken : Nat) (events : List Event)
    (unchallenged : RunMeets (step settings) ChangesUnchallenged events
      (.begun now admins totp recovery passkeys sessions nextToken)) :
    AlwaysAlong (step settings) SignedInWithCurrent events
      (.begun now admins totp recovery passkeys sessions nextToken) := by
  refine alwaysAlong_of_invariant PasswordsCurrent
    SignedInWithCurrent ?_ (fun _ current => current.issued) ?_ unchallenged
  · intro before event after current idle taken
    exact step_current settings current event idle taken
  · exact ⟨List.forall_mem_nil _, List.forall_mem_nil _, List.forall_mem_nil _⟩

def changedRun : List Event :=
  passwordStep 0 7 ++ [.tick 300000, .stepUp 3 (.totp (some 1)), .check 1 true, .lockRow 1,
    .judge 1, .commit 1] ++ changeStep 2 5 7 8 ++ passwordStep 3 8 ++ codeStep 4 7 (some 2)

theorem sessions_for_current_password_changed :
    AlwaysAlong (step .defaults) SignedInWithCurrent changedRun .oneAdmin ∧
      ((runEvents (step .defaults) changedRun .oneAdmin).map fun final =>
        final.issued.map fun issue => (issue.verified, issue.inForce)) =
        some [(some 8, some 8), (none, some 7)] :=
  ⟨sessions_for_current_password .defaults 0 _ _ _ _ _ _ changedRun (by decide +kernel),
    by decide +kernel⟩

/-- The challenge given for the old password is answered after the change. -/
def outlivedRun : List Event :=
  passwordStep 0 7 ++ changeStep 1 3 7 8 ++ codeStep 2 4 (some 1)

theorem session_for_changed_password :
    ¬ AlwaysAlong (step .defaults) SignedInWithCurrent outlivedRun .oneAdmin :=
  not_alwaysAlong SignedInWithCurrent outlivedRun _ (by decide +kernel)

end Nebula.SignIn
