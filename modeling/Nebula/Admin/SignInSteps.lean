import Nebula.Admin.SignIn

/-!
# What a step of a sign-in can do

A step goes on with one request, begins one, or is no request's. What it leaves of the
clock, the passwords, the challenges, the lockouts and the sessions issued is said here
once, with what the request knew.
-/

namespace Nebula.SignIn

open Store Schema Option

/-- The account a request signs in without looking at its lockout again. -/
def Job.signsIn : Job → Option Uuid
  | .stepUpChecked adminId _ _ => some adminId
  | .stepUpLocked adminId _ _ => some adminId
  | job => job.challenge.map PreAuth.adminId

def Job.unlocked : Job → Option Uuid
  | .passwordChecked adminId _ _ _ false => adminId
  | job => job.signsIn

def Job.changes : Job → Option Uuid
  | .changeVerified adminId _ _ _ _ => some adminId
  | _ => none

variable {job : Job}

theorem Job.unlocked_of_challenge {challenge : PreAuth}
    (spent : job.challenge = some challenge) : job.unlocked = some challenge.adminId := by
  cases job <;> simp_all [Job.challenge, Job.unlocked, Job.signsIn]

structure Beside (before after : State) : Prop where
  now : after.now = before.now
  admins : after.admins = before.admins
  preauths : after.preauths = before.preauths
  lockouts : after.lockouts = before.lockouts
  jobs : after.jobs = before.jobs
  issued : after.issued = before.issued
  outcomes : after.outcomes = before.outcomes

theorem Beside.refl (state : State) : Beside state state :=
  ⟨rfl, rfl, rfl, rfl, rfl, rfl, rfl⟩

structure Keeps (job : Job) (next : Option Job) : Prop where
  row : ∀ later ∈ next, ∀ adminId ∈ later.holds, job.holds = some adminId
  own : ∀ later ∈ next, ∀ adminId ∈ later.unlocked, job.unlocked = some adminId
  spent : ∀ later ∈ next, ∀ challenge ∈ later.challenge, job.challenge = some challenge

theorem Keeps.ended (job : Job) : Keeps job none :=
  ⟨by simp, by simp, by simp⟩

theorem some_of_none_or {α : Type} {first second : Option α}
    (kept : first = none ∨ first = second) :
    ∀ value ∈ first, second = some value := by
  rcases kept with rfl | rfl
  · simp
  · exact fun _ held => held

theorem Keeps.going {later : Job} (row : later.holds = none ∨ later.holds = job.holds)
    (own : later.unlocked = none ∨ later.unlocked = job.unlocked)
    (spent : later.challenge = none ∨ later.challenge = job.challenge) : Keeps job (some later) :=
  ⟨by simpa using some_of_none_or row, by simpa using some_of_none_or own,
    by simpa using some_of_none_or spent⟩

inductive Written (settings : Settings) (before : State) (job : Job) : State → Prop
  | beside {after : State} (same : Beside before after) : Written settings before job after
  | challenged (adminId : Uuid) (purpose : Purpose) (context : Network) (password : Password)
    (own : job.unlocked = some adminId)
    (right : before.inForce adminId = some password ∨ ∃ challenge, job.challenge = some challenge ∧
      challenge.adminId = adminId ∧ challenge.password = password) :
    Written settings before job
      (before.issuePreauth settings adminId purpose context password)
  | issued (adminId : Uuid) (method : Admin.SessionMethod) (verified : Option Password)
    {after : State} (own : job.unlocked = some adminId)
    (right : ∀ password ∈ verified, ∃ challenge, job.challenge = some challenge ∧
      challenge.adminId = adminId ∧ challenge.password = password)
    (same : Beside (before.noteIssue adminId method verified) after) :
    Written settings before job after
  | cleared (key : AccountKey) : Written settings before job (before.clearFailures key)

inductive Change (settings : Settings) (before : State) : Event → State → Prop
  | ticked (later : Nat) (order : before.now ≤ later) :
    Change settings before (.tick later) { before with now := later }
  | administered {event : Event} (admins : List AdminUser)
    (inForce : ∀ adminId password, before.inForce adminId = some password →
      { before with admins := admins }.inForce adminId = some password) :
    Change settings before event { before with admins := admins }
  | beside {event : Event} {after : State} (same : Beside before after) :
    Change settings before event after
  | begun {event : Event} (job : Job) (free : job.holds = none) (own : job.unlocked = none)
    (plain : job.challenge = none) : Change settings before event (before.begin job)
  | spent {event : Event} (token : Token) {written : State} {challenge : PreAuth} (job : Job)
    (waits : challenge ∈ before.preauths) (live : before.now < challenge.expiresAt)
    (same : Beside (before.dropPreauth token) written) (free : job.holds = none)
    (own : job.challenge = some challenge) : Change settings before event (written.begin job)
  | looked {event : Event} (number : Nat) {job : Job} (next : Job) (key : AccountKey)
    (found : before.jobs.find number = some job)
    (row : ∀ adminId ∈ next.holds, job.holds = some adminId) (plain : next.challenge = none)
    (known : ∀ adminId ∈ next.unlocked, before.locked (.admin adminId) = false) :
    Change settings before event ((before.lockoutStatus key).resume number (some next))
  | locked {event : Event} (number : Nat) {job : Job} (next : Job)
    (found : before.jobs.find number = some job)
    (free : ∀ adminId ∈ next.holds, ¬ before.rowHeld adminId = true)
    (own : next.unlocked = job.unlocked) (spent : next.challenge = job.challenge) :
    Change settings before event (before.resume number (some next))
  | denied (number : Nat) (job : Job) (key : AccountKey)
    (found : before.jobs.find number = some job)
    (wrong : before.verdict job = some (.denied key)) :
    Change settings before (.judge number)
      ((before.recordFailure settings key).resume number (some (.closing job.holds)))
  | changed (number : Nat) {job : Job} (next : Option Job) (adminId : Uuid) (new : Password)
    (now : Nat) (found : before.jobs.find number = some job) (keeps : Keeps job next)
    (changes : job.changes = some adminId) :
    Change settings before (.commit number)
      ((before.writePassword adminId new now).resume number next)
  | wentOn {event : Event} (number : Nat) {job : Job} {written : State} (next : Option Job)
    (found : before.jobs.find number = some job) (keeps : Keeps job next)
    (writes : Written settings before job written) :
    Change settings before event (written.resume number next)

section

variable {settings : Settings} {before after : State} {event : Event} {number : Nat}

theorem Written.jobs (writes : Written settings before job after) :
    after.jobs = before.jobs := by
  cases writes with
  | beside same | issued adminId method verified own right same => exact same.jobs
  | challenged => rfl
  | cleared => rfl

theorem Change.goesOn {written : State} (next : Option Job)
    (found : before.jobs.find number = some job) (keeps : Keeps job next)
    (same : Beside before written) : Change settings before event (written.resume number next) :=
  .wentOn number next found keeps (.beside same)

theorem rotateSession_beside {state : State} {token : Token} :
    Beside state (state.rotateSession token) := by
  unfold State.rotateSession
  split
  · exact .refl state
  · exact ⟨rfl, rfl, rfl, rfl, rfl, rfl, rfl⟩

theorem writeFactor_beside (state : State) (adminId : Uuid) (factor : Factor) :
    Beside state (state.writeFactor adminId factor) := by
  cases factor <;> exact ⟨rfl, rfl, rfl, rfl, rfl, rfl, rfl⟩

theorem check_change {allowed : Bool} (taken : before.check number allowed = some after) :
    Change settings before event after := by
  unfold State.check at taken
  split at taken
  · rename_i adminId identifier password context found
    split at taken
    swap
    · cases taken
      exact .goesOn _ found (.going (.inr rfl) (.inl rfl) (.inl rfl)) (.refl before)
    cases taken
    refine .looked number _ _ found (fun _ held => held) rfl ?_
    intro own unlocked
    cases locked : before.locked (accountKey identifier adminId) with
    | true => simp [locked, Job.unlocked, Job.signsIn, Job.challenge] at unlocked
    | false =>
      obtain rfl : adminId = some own := by simpa [locked, Job.unlocked] using unlocked
      exact locked
  · rename_i adminId token factor found
    split at taken
    · rename_i unlocked
      cases taken
      have free := (Bool.and_eq_true_iff.mp unlocked).2
      exact .looked number _ _ found (by simp [Job.holds]) rfl
        (by simpa [Job.unlocked, Job.signsIn] using free)
    · cases taken
      exact .goesOn none found (.ended _) (.refl before)
  · cases taken

theorem lockActive_change {adminId : Uuid} {next : Job}
    (found : before.jobs.find number = some job)
    (taken : before.lockActive number adminId next = some after) (row : next.holds = some adminId)
    (own : next.unlocked = job.unlocked) (spent : next.challenge = job.challenge) :
    Change settings before event after := by
  unfold State.lockActive at taken
  split at taken
  · cases taken
    exact .goesOn none found (.ended _) (.refl before)
  split at taken
  · cases taken
  · rename_i free
    cases taken
    exact .locked number next found (by rw [row]; simpa using free) own spent

theorem lockRow_change (taken : before.lockRow number = some after) :
    Change settings before event after := by
  unfold State.lockRow at taken
  split at taken
  · rename_i found
    split at taken
    · cases taken
      exact .locked number _ found (by simp [Job.holds]) rfl rfl
    split at taken
    · cases taken
    · rename_i free
      cases taken
      exact .locked number _ found (by simpa [Job.holds] using free) rfl rfl
  · rename_i found
    exact lockActive_change found taken rfl rfl rfl
  · rename_i found
    split at taken
    · cases taken
    rename_i free
    split at taken
    · cases taken
      exact .locked number _ found (by simpa [Job.holds] using free) rfl rfl
    · cases taken
      exact .goesOn none found (.ended _) (.refl before)
  · rename_i found
    exact lockActive_change found taken rfl rfl rfl
  · rename_i found
    exact lockActive_change found taken rfl rfl rfl
  · cases taken

theorem judge_change (taken : before.judge settings number = some after) :
    Change settings before (.judge number) after := by
  unfold State.judge at taken
  split at taken
  · cases taken
  rename_i job found
  split at taken
  · rename_i accepted
    cases taken
    unfold State.accept
    split
    · rename_i adminId identifier password context locked
      obtain ⟨rfl, right⟩ := before.verdict_password accepted
      exact .wentOn number _ found (.going (.inr rfl) (.inl rfl) (.inl rfl))
        (.challenged adminId _ context password rfl (.inl right))
    · rename_i challenge factor expected
      exact .wentOn number _ found (.going (.inr rfl) (.inl rfl) (.inl rfl))
        (.issued challenge.adminId factor.method (some challenge.password) rfl
          (by simp [Job.challenge])
          ⟨rfl, rfl, rfl, rfl, rfl, rfl, rfl⟩)
    · rename_i adminId token factor
      exact .wentOn number _ found (.going (.inr rfl) (.inl rfl) (.inl rfl))
        (.issued adminId factor.method none rfl (by simp) rotateSession_beside)
    · exact .goesOn _ found (.going (.inr rfl) (.inl rfl) (.inl rfl)) (.refl before)
    · exact .beside (.refl before)
  · rename_i key wrong
    cases taken
    exact .denied number job key found wrong
  · cases taken
    refine .goesOn _ found ?_ (.refl before)
    unfold State.afterRejection
    split
    · exact .going (.inr rfl) (.inl rfl) (.inl rfl)
    · exact .ended _
  · cases taken

theorem commit_change (taken : before.commit number = some after) :
    Change settings before (.commit number) after := by
  unfold State.commit at taken
  split at taken
  · rename_i found
    cases taken
    exact .goesOn _ found (.going (.inl rfl) (.inr rfl) (.inr rfl))
      ⟨rfl, rfl, rfl, rfl, rfl, rfl, rfl⟩
  · rename_i adminId method token new now found
    cases taken
    exact .changed number _ adminId new now found (.going (.inl rfl) (.inl rfl) (.inl rfl)) rfl
  · rename_i found
    cases taken
    exact .goesOn _ found (.going (.inl rfl) (.inl rfl) (.inl rfl)) (writeFactor_beside _ _ _)
  · rename_i found
    cases taken
    exact .goesOn none found (.ended _) (.refl before)
  · cases taken

theorem afterCommit_change (taken : before.afterCommit settings number = some after) :
    Change settings before event after := by
  unfold State.afterCommit at taken
  split at taken
  · rename_i challenge found
    cases taken
    exact .wentOn number none found (.ended _)
      (.challenged _ _ _ _ rfl (.inr ⟨challenge, rfl, rfl, rfl⟩))
  · rename_i found
    cases taken
    exact .goesOn none found (.ended _) ⟨rfl, rfl, rfl, rfl, rfl, rfl, rfl⟩
  · rename_i found
    cases taken
    exact .wentOn number none found (.ended _) (.cleared _)
  · cases taken

theorem fail_change {revokes : Bool} (taken : before.fail number revokes = some after) :
    Change settings before event after := by
  unfold State.fail at taken
  split at taken
  · rename_i found
    cases taken
    cases revokes <;> exact .goesOn none found (.ended _) ⟨rfl, rfl, rfl, rfl, rfl, rfl, rfl⟩
  · rename_i found
    cases taken
    exact .goesOn none found (.ended _) (.refl before)
  · cases taken

theorem spent_change {token taken : Token} {purpose : Purpose} {context : Network}
    {challenge : PreAuth} {written : State}
    (found : before.preauth token purpose context = some challenge)
    (same : Beside (before.dropPreauth taken) written) (free : job.holds = none)
    (own : job.challenge = some challenge) : Change settings before event (written.begin job) := by
  have live := List.find?_some found
  simp only [decide_eq_true_eq] at live
  exact .spent taken job (List.mem_of_find?_eq_some found) live.2.2.2 same free own

theorem inForce_updateWhere {table : List AdminUser} {selected : AdminUser → Bool}
    {write : AdminUser → AdminUser} {adminId : Uuid}
    (ids : ∀ admin ∈ table, (write admin).id = admin.id)
    (same : ∀ admin ∈ table, admin.id = adminId → selected admin = true →
      (write admin).password = admin.password) :
    (lookup AdminUser.id adminId (updateWhere selected write table)).map AdminUser.password =
      (lookup AdminUser.id adminId table).map AdminUser.password := by
  unfold updateWhere
  rw [lookup_map]
  · cases found : lookup AdminUser.id adminId table with
    | none => rfl
    | some admin =>
      obtain ⟨member, named⟩ := lookup_mem found
      by_cases chosen : selected admin = true
      · simp [chosen, same admin member named chosen]
      · simp [chosen]
  · intro admin member
    split
    · exact ids admin member
    · rfl

theorem step_change (taken : step settings before event = some after) :
    Change settings before event after := by
  cases event with
  | tick later =>
    obtain ⟨order, same⟩ := ite_none_right_eq_some.mp taken
    cases same
    exact .ticked later order
  | invite admin =>
    obtain ⟨_, same⟩ := ite_none_left_eq_some.mp taken
    cases same
    refine .administered _ ?_
    intro adminId password held
    obtain ⟨row, found, same⟩ := map_eq_some_iff.mp held
    exact map_eq_some_iff.mpr ⟨row, lookup_append_of_some adminId found, same⟩
  | setState adminId wanted =>
    obtain ⟨_, same⟩ := ite_none_left_eq_some.mp taken
    cases same
    refine .administered _ ?_
    intro other password held
    refine (inForce_updateWhere ?_ ?_).trans held
    · intro admin _
      split <;> rfl
    · intro admin _ _ _
      split <;> rfl
  | dropSession token =>
    cases taken
    exact .beside ⟨rfl, rfl, rfl, rfl, rfl, rfl, rfl⟩
  | passwordChallenge identifier password context =>
    cases taken
    exact .begun _ rfl rfl rfl
  | passkeyLoginOptions token context =>
    simp only [step] at taken
    split at taken
    · cases taken
    · obtain ⟨_, same⟩ := ite_none_right_eq_some.mp taken
      cases same
      exact .beside ⟨rfl, rfl, rfl, rfl, rfl, rfl, rfl⟩
  | secondStep token context factor =>
    obtain ⟨challenge, found, rfl⟩ := map_eq_some_iff.mp taken
    unfold State.spend
    split <;> exact spent_change found ⟨rfl, rfl, rfl, rfl, rfl, rfl, rfl⟩ rfl rfl
  | startEnrollment token context =>
    obtain ⟨challenge, found, rfl⟩ := map_eq_some_iff.mp taken
    exact spent_change found (.refl _) rfl rfl
  | stepUp | changePassword =>
    simp only [step] at taken
    split at taken
    · cases taken
    · obtain ⟨_, same⟩ := ite_none_right_eq_some.mp taken
      cases same
      exact .begun _ rfl rfl rfl
  | check number allowed => exact check_change taken
  | lockRow number => exact lockRow_change taken
  | judge number => exact judge_change taken
  | commit number => exact commit_change taken
  | afterCommit number => exact afterCommit_change taken
  | fail number revokes => exact fail_change taken

end

end Nebula.SignIn
