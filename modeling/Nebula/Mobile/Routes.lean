import Nebula.Work
import Nebula.Runs
import Nebula.Schema.Vocabulary

/-!
# The addresses a request is sent to

`RouteFallbackInterceptor` and `ApiRouteSync`. A request takes its address from the shared `Dio`
when it is made; the interceptor moves it to the address in use, races it, or tries the others when
it fails. Whatever answers elsewhere becomes the address in use. Pairing with another deployment
replaces the addresses and forgets what was learned, but not the requests under way.

The code stores neither `epoch`, the pairings so far, nor `named`, the addresses of the paired
deployment and those it has named to a `refresh` made since. An attempt sent again with a new
access token goes where it went before.
-/

namespace Nebula.Mobile.Routes

open Schema Work Runs List Option

structure Address where
  name : Nat
  https : Bool
  deriving DecidableEq

inductive Stage where
  | composed (baseUrl : Address)
  | waiting (baseUrl : Address)
  | racing (first : Address) (order : List Address) (started : Nat) (failed : List Nat)
  | falling (candidate : Address) (rest : List Address)
  /-- `ApiRouteSync.refresh` has its answer and is about to store it. -/
  | storing (routes : List Address)

def Stage.atRequest : Stage → Option Address
  | .composed baseUrl => some baseUrl
  | _ => none

def Stage.toStore : Stage → Option (List Address)
  | .storing routes => some routes
  | _ => none

structure Job where
  epoch : Nat
  sync : Bool
  repeatable : Bool
  reauthorized : Bool
  stage : Stage

structure App where
  now : Instant
  first : Address
  backups : List Address
  learned : List Address
  remembered : Option (Address × Instant)
  current : Option Address
  baseUrl : Address
  jobs : Pool Job
  epoch : Nat
  named : List Address
  sent : List (Nat × Address)

inductive Outcome where
  | success (routes : List Address)
  | unauthorized
  | refused
  | failed
  deriving DecidableEq

structure Reaction where
  next : Option Job
  sends : List Address
  uses : Option Address

def Reaction.done : Reaction :=
  ⟨none, [], none⟩

variable (job : Job)

def Job.goesOn (stage : Stage) (sends : List Address) : Reaction :=
  ⟨some { job with stage := stage }, sends, none⟩

def Job.fallOn : List Address → Reaction
  | [] => .done
  | candidate :: rest => job.goesOn (.falling candidate rest) [candidate]

def Job.answered (uses : Option Address) (routes : List Address) : Reaction :=
  if job.sync then
    ⟨some { job with stage := .storing (routes.filter Address.https) }, [], uses⟩
  else ⟨none, [], uses⟩

def Job.start (first : Address) (order : List Address) (started : Nat)
    (failed : List Nat) : Reaction :=
  job.goesOn (.racing first order (started + 1) failed) order[started]?.toList

def Job.raced (first : Address) (order : List Address) (started : Nat)
    (failed : List Nat) (route : Address) : Outcome → Reaction
  | .success routes => job.answered (if route = first then none else some route) routes
  | .failed =>
    if started < order.length then job.start first order started failed
    else if failed.length = started then .done
    else job.goesOn (.racing first order started failed) []
  | _ => .done

namespace App

variable (app : App)

def known : List Address :=
  app.learned.foldl
    (fun all entry => if entry.https ∧ entry ∉ all then all ++ [entry] else all)
    (app.first :: app.backups)

def rememberFallbackFor : Nat := 3600000

def currentRoute : Address :=
  app.current.getD (((app.remembered.filter fun route =>
    decide (route.1 ∈ app.known ∧ app.now - route.2 < rememberFallbackFor)).map Prod.fst).getD
      app.first)

def settled : App :=
  { app with current := some app.currentRoute }

def read (baseUrl : Address) : App :=
  if baseUrl ∈ app.known then app.settled else app

def store (id epoch : Nat) (routes : List Address) : App :=
  { app with
    learned := routes
    named := if epoch = app.epoch then app.named ++ routes else app.named
    jobs := app.jobs.finish id }

def use (route : Address) : App :=
  { app with current := some route, baseUrl := route, remembered := some (route, app.now) }

def retarget (first : Address) (backups : List Address) : App :=
  { app with
    first := first
    backups := backups
    current := none
    remembered := none
    learned := []
    baseUrl := first
    epoch := app.epoch + 1
    named := first :: backups }

def moveOn : App :=
  match app.known[app.known.idxOf app.currentRoute + 1]? with
  | some route => app.settled.use route
  | none => app.settled

def onRequest (job : Job) (baseUrl : Address) : Reaction :=
  if baseUrl ∉ app.known then job.goesOn (.waiting baseUrl) [baseUrl]
  else if job.repeatable ∧ app.known.length > 1 then
    job.start app.currentRoute (app.currentRoute ::
      app.known.filter fun route => decide (route ≠ app.currentRoute)) 0 []
  else job.goesOn (.waiting app.currentRoute) [app.currentRoute]

def onError (job : Job) (baseUrl : Address) : Reaction :=
  if baseUrl ∈ app.known then
    job.fallOn (app.known.filter fun route => decide (route ≠ baseUrl))
  else .done

def onAnswer (job : Job) (attempt : Nat) (outcome : Outcome) : Option Reaction :=
  match job.stage, outcome with
  | .waiting _, .success routes => some (job.answered none routes)
  | .waiting baseUrl, .failed => some (app.onError job baseUrl)
  | .waiting baseUrl, .unauthorized =>
    some (if job.reauthorized then .done
      else { job with reauthorized := true }.goesOn (.composed baseUrl) [])
  | .falling candidate _, .success routes => some (job.answered (some candidate) routes)
  | .falling _ rest, .failed => some (job.fallOn rest)
  | .racing first order started failed, outcome =>
    if attempt < started ∧ attempt ∉ failed then
      order[attempt]?.map fun route =>
        job.raced first order started
          (if outcome = .failed then attempt :: failed else failed) route outcome
    else none
  | .waiting _, .refused | .falling _ _, .refused | .falling _ _, .unauthorized => some .done
  | _, _ => none

def onTimer (job : Job) : Option Reaction :=
  match job.stage with
  | .racing first order started failed =>
    if started < order.length then some (job.start first order started failed) else none
  | _ => none

def react (id epoch : Nat) (reaction : Reaction) : App :=
  { (reaction.uses.map app.use).getD app with
    jobs := app.jobs.resume id reaction.next
    sent := app.sent ++ reaction.sends.map fun route => (epoch, route) }

end App

inductive Event where
  | tick (later : Instant)
  | begin (sync repeatable : Bool)
  | onRequest (id : Nat)
  | answer (id attempt : Nat) (outcome : Outcome)
  | timer (id : Nat)
  | store (id : Nat)
  | moveOn
  | retarget (first : Address) (backups : List Address)

def step (app : App) : Event → Option App
  | .tick later => if app.now ≤ later then some { app with now := later } else none
  | .begin sync repeatable =>
    some { app with
      jobs := app.jobs.begin ⟨app.epoch, sync, repeatable, false, .composed app.baseUrl⟩ }
  | .onRequest id =>
    (app.jobs.find id).bind fun job => job.stage.atRequest.map fun baseUrl =>
      (app.read baseUrl).react id job.epoch (app.onRequest job baseUrl)
  | .answer id attempt outcome =>
    (app.jobs.find id).bind fun job =>
      (app.onAnswer job attempt outcome).map (app.react id job.epoch)
  | .timer id =>
    (app.jobs.find id).bind fun job => (App.onTimer job).map (app.react id job.epoch)
  | .store id =>
    (app.jobs.find id).bind fun job => job.stage.toStore.map (app.store id job.epoch)
  | .moveOn => some app.moveOn
  | .retarget first backups => some (app.retarget first backups)

/-- What was made since the last pairing went to the deployment that is paired. -/
def CutOff (app : App) : Prop :=
  ∀ entry ∈ app.sent, entry.1 = app.epoch → entry.2 ∈ app.named
  deriving Decidable

def App.writer (app : App) : Event → Option Job
  | .answer id attempt outcome =>
    (app.jobs.find id).filter fun job =>
      (app.onAnswer job attempt outcome).any fun reaction => reaction.uses.isSome
  | .store id => app.jobs.find id
  | _ => none

def NothingLate (app : App) (event : Event) : Prop :=
  ∀ job ∈ app.writer event, job.epoch = app.epoch
  deriving Decidable

def Stage.addresses : Stage → List Address
  | .composed baseUrl | .waiting baseUrl => [baseUrl]
  | .racing _ order _ _ => order
  | .falling candidate rest => candidate :: rest
  | .storing _ => []

structure Reaction.Within (named : List Address) (epoch : Nat) (reaction : Reaction) : Prop where
  next : ∀ job ∈ reaction.next, job.epoch = epoch ∧ job.stage.addresses ⊆ named
  sends : reaction.sends ⊆ named
  uses : ∀ route ∈ reaction.uses, route ∈ named

section

variable {named : List Address} (job : Job)

theorem within_done {epoch : Nat} : Reaction.done.Within named epoch :=
  ⟨by simp [Reaction.done], nil_subset _, by simp [Reaction.done]⟩

theorem within_goesOn (stage : Stage) (sends : List Address) (own : stage.addresses ⊆ named)
    (sent : sends ⊆ named) : (job.goesOn stage sends).Within named job.epoch :=
  ⟨by simpa [Job.goesOn] using own, sent, by simp [Job.goesOn]⟩

theorem within_fallOn {routes : List Address} (own : routes ⊆ named) :
    (job.fallOn routes).Within named job.epoch := by
  cases routes with
  | nil => exact within_done
  | cons candidate rest =>
    exact within_goesOn job _ _ own fun _ member =>
      own (mem_singleton.mp member ▸ mem_cons_self)

theorem within_answered {uses : Option Address} {routes : List Address}
    (used : ∀ route ∈ uses, route ∈ named) :
    (job.answered uses routes).Within named job.epoch := by
  unfold Job.answered
  split
  · exact ⟨by simp [Stage.addresses], nil_subset _, used⟩
  · exact ⟨by simp, nil_subset _, used⟩

theorem within_start {first : Address} {order : List Address} {started : Nat} {failed : List Nat}
    (own : order ⊆ named) : (job.start first order started failed).Within named job.epoch := by
  refine within_goesOn job _ _ own ?_
  intro route member
  exact own (mem_of_getElem? (mem_toList.mp member))

theorem within_raced {first : Address} {order : List Address} {started : Nat} {failed : List Nat}
    {route : Address} {outcome : Outcome} (own : order ⊆ named) (among : route ∈ order) :
    (job.raced first order started failed route outcome).Within named job.epoch := by
  cases outcome with
  | success routes =>
    refine within_answered job ?_
    intro other used
    split at used
    · cases used
    · exact some.inj used ▸ own among
  | failed =>
    simp only [Job.raced]
    split
    · exact within_start job own
    · split
      · exact within_done
      · exact within_goesOn job _ _ own (nil_subset _)
  | unauthorized | refused => exact within_done

variable {app : App} (known : app.known ⊆ named) (current : app.currentRoute ∈ named)
include known

theorem within_onAnswer {attempt : Nat} {outcome : Outcome} {reaction : Reaction}
    (own : job.stage.addresses ⊆ named)
    (answered : app.onAnswer job attempt outcome = some reaction) :
    reaction.Within named job.epoch := by
  unfold App.onAnswer at answered
  split at answered
  · cases answered
    exact within_answered _ (by simp)
  · cases answered
    unfold App.onError
    split
    · exact within_fallOn _ fun route member => known (mem_of_mem_filter member)
    · exact within_done
  · rename_i at_
    cases answered
    rw [at_] at own
    split
    · exact within_done
    · exact within_goesOn { job with reauthorized := true } _ _ own (nil_subset _)
  · rename_i at_
    cases answered
    rw [at_] at own
    refine within_answered _ ?_
    exact fun other used => some.inj used ▸ own mem_cons_self
  · rename_i at_
    cases answered
    rw [at_] at own
    exact within_fallOn _ fun route member => own (mem_cons_of_mem _ member)
  · rename_i at_
    rw [at_] at own
    split at answered
    · obtain ⟨route, found, rfl⟩ := map_eq_some_iff.mp answered
      exact within_raced _ own (mem_of_getElem? found)
    · cases answered
  all_goals cases answered
  all_goals exact within_done

include current

theorem within_onRequest {baseUrl : Address} (own : baseUrl ∈ named) :
    (app.onRequest job baseUrl).Within named job.epoch := by
  have alone : ∀ route ∈ named, [route] ⊆ named := fun route member other same =>
    mem_singleton.mp same ▸ member
  unfold App.onRequest
  split
  · exact within_goesOn job _ _ (alone _ own) (alone _ own)
  split
  · refine within_start job (cons_subset.mpr ⟨current, ?_⟩)
    exact fun route member => known (mem_of_mem_filter member)
  · exact within_goesOn job _ _ (alone _ current) (alone _ current)

end

structure Paired (app : App) : Prop where
  routes : app.first :: app.backups ⊆ app.named
  learned : app.learned ⊆ app.named
  current : ∀ route ∈ app.current, route ∈ app.named
  baseUrl : app.baseUrl ∈ app.named
  jobs : ∀ job ∈ app.jobs.jobs, job.2.epoch = app.epoch → job.2.stage.addresses ⊆ app.named
  past : ∀ job ∈ app.jobs.jobs, job.2.epoch ≤ app.epoch
  sent : CutOff app
  sentPast : ∀ entry ∈ app.sent, entry.1 ≤ app.epoch

namespace Paired

variable {app : App}

section

variable (paired : Paired app)
include paired

theorem known : app.known ⊆ app.named := by
  have fold : ∀ (learned all : List Address), learned ⊆ app.named → all ⊆ app.named →
      learned.foldl (fun all entry => if entry.https ∧ entry ∉ all then all ++ [entry] else all)
        all ⊆ app.named := by
    intro learned
    induction learned with
    | nil => exact fun _ _ own => own
    | cons entry rest ih =>
      intro all more own
      refine ih _ (fun _ member => more (mem_cons_of_mem _ member)) ?_
      dsimp only
      split
      · exact append_subset.mpr ⟨own, fun _ member =>
          more (mem_singleton.mp member ▸ mem_cons_self)⟩
      · exact own
  exact fold app.learned _ paired.learned paired.routes

theorem currentRoute : app.currentRoute ∈ app.named := by
  unfold App.currentRoute
  cases current : app.current with
  | some route => exact paired.current route current
  | none =>
    cases remembered : app.remembered.filter fun route => decide (route.1 ∈ app.known ∧
        app.now - route.2 < App.rememberFallbackFor) with
    | none => exact paired.routes mem_cons_self
    | some route =>
      have fresh := (filter_eq_some_iff.mp remembered).2
      exact paired.known (of_decide_eq_true fresh).1

theorem settled : Paired app.settled :=
  { paired with current := fun _ same => some.inj same ▸ paired.currentRoute }

theorem use (route : Address) (own : route ∈ app.named) : Paired (app.use route) :=
  { paired with current := fun _ same => some.inj same ▸ own, baseUrl := own }

theorem tick (later : Instant) : Paired { app with now := later } :=
  ⟨paired.routes, paired.learned, paired.current, paired.baseUrl, paired.jobs, paired.past,
    paired.sent, paired.sentPast⟩

theorem store (id : Nat) (routes : List Address) : Paired (app.store id app.epoch routes) := by
  have more : app.named ⊆ if app.epoch = app.epoch then app.named ++ routes else app.named := by
    simp
  exact
    { routes := fun _ member => more (paired.routes member)
      learned := by simp [App.store]
      current := fun _ member => more (paired.current _ member)
      baseUrl := more paired.baseUrl
      jobs := fun job member own _ among =>
        more (paired.jobs job ((app.jobs.mem_finish id job).mp member).1 own among)
      past := Pool.forall_finish paired.past
      sent := fun entry member own => more (paired.sent entry member own)
      sentPast := paired.sentPast }

theorem retarget (first : Address) (backups : List Address) :
    Paired (app.retarget first backups) := by
  have past : ∀ epoch, epoch ≤ app.epoch → epoch ≠ app.epoch + 1 := by
    intro epoch earlier
    omega
  exact
    { routes := fun _ member => member
      learned := nil_subset _
      current := by simp [App.retarget]
      baseUrl := mem_cons_self
      jobs := fun job member own => absurd own (past _ (paired.past job member))
      past := fun job member => Nat.le_succ_of_le (paired.past job member)
      sent := fun entry member own => absurd own (past _ (paired.sentPast entry member))
      sentPast := fun entry member => Nat.le_succ_of_le (paired.sentPast entry member) }

theorem react (id : Nat) (job : Job) (reaction : Reaction)
    (member : (id, job) ∈ app.jobs.jobs) (late : job.epoch ≠ app.epoch → reaction.uses = none)
    (stays : ∀ named, app.known ⊆ named → app.currentRoute ∈ named →
      job.stage.addresses ⊆ named → reaction.Within named job.epoch) :
    Paired (app.react id job.epoch reaction) := by
  have within := fun own : job.epoch = app.epoch =>
    stays app.named paired.known paired.currentRoute (paired.jobs _ member own)
  have epochs : ∀ next ∈ reaction.next, next.epoch = job.epoch := fun next goes =>
    ((stays (app.currentRoute :: (app.known ++ job.stage.addresses)) (by simp) (by simp)
      (by simp)).next next goes).1
  have used : Paired ((reaction.uses.map app.use).getD app) := by
    cases uses : reaction.uses with
    | none => exact paired
    | some route =>
      by_cases own : job.epoch = app.epoch
      · exact paired.use route ((within own).uses route uses)
      · rw [late own] at uses
        cases uses
  have rest : ((reaction.uses.map app.use).getD app).epoch = app.epoch ∧
      ((reaction.uses.map app.use).getD app).named = app.named := by
    cases reaction.uses <;> exact ⟨rfl, rfl⟩
  unfold App.react
  refine { used with jobs := ?_, past := ?_, sent := ?_, sentPast := ?_ }
  · intro other among
    rw [rest.1, rest.2]
    rcases app.jobs.mem_resume id among with ⟨old, _⟩ | ⟨_, new⟩
    · exact paired.jobs other old
    · intro current
      exact ((within ((epochs other.2 new).symm.trans current)).next other.2 new).2
  · intro other among
    rw [rest.1]
    rcases app.jobs.mem_resume id among with ⟨old, _⟩ | ⟨_, new⟩
    · exact paired.past other old
    · exact epochs other.2 new ▸ paired.past _ member
  · intro entry among current
    rw [rest.1] at current
    rw [rest.2]
    rcases mem_append.mp among with old | new
    · exact paired.sent entry old current
    · obtain ⟨route, sent, rfl⟩ := mem_map.mp new
      exact (within current).sends sent
  · intro entry among
    rw [rest.1]
    rcases mem_append.mp among with old | new
    · exact paired.sentPast entry old
    · obtain ⟨route, sent, rfl⟩ := mem_map.mp new
      exact paired.past _ member

end

end Paired

theorem step_paired {before after : App} {event : Event} (paired : Paired before)
    (late : NothingLate before event) (taken : step before event = some after) :
    Paired after := by
  cases event with
  | tick later =>
    simp only [step] at taken
    split at taken <;> cases taken
    exact paired.tick later
  | begin sync repeatable =>
    cases taken
    refine { paired with jobs := ?_, past := ?_ }
    · exact Pool.forall_begin paired.jobs fun _ =>
        cons_subset.mpr ⟨paired.baseUrl, nil_subset _⟩
    · exact Pool.forall_begin paired.past (Nat.le_refl _)
  | onRequest id =>
    obtain ⟨job, found, taken⟩ := bind_eq_some_iff.mp taken
    obtain ⟨baseUrl, composed, rfl⟩ := map_eq_some_iff.mp taken
    have own : ∀ named, job.stage.addresses ⊆ named → baseUrl ∈ named := by
      intro named own
      cases stage : job.stage <;> rw [stage] at composed own <;> cases composed
      exact own mem_cons_self
    have within := fun named (known : before.known ⊆ named)
        (current : before.currentRoute ∈ named) (addresses : job.stage.addresses ⊆ named) =>
      within_onRequest job known current (own named addresses)
    have unused : (before.onRequest job baseUrl).uses = none := by
      unfold App.onRequest
      split
      · rfl
      · split <;> rfl
    unfold App.read
    split
    · exact paired.settled.react id job _ (before.jobs.find_mem id job found) (fun _ => unused)
        within
    · exact paired.react id job _ (before.jobs.find_mem id job found) (fun _ => unused) within
  | answer id attempt outcome =>
    obtain ⟨job, found, taken⟩ := bind_eq_some_iff.mp taken
    obtain ⟨reaction, answered, rfl⟩ := map_eq_some_iff.mp taken
    refine paired.react id job reaction (before.jobs.find_mem id job found) ?_ ?_
    · intro stale
      by_contra uses
      refine stale (late job ?_)
      simp [App.writer, found, answered, isSome_iff_ne_none, uses]
    · exact fun named known _ own => within_onAnswer job known own answered
  | timer id =>
    obtain ⟨job, found, taken⟩ := bind_eq_some_iff.mp taken
    obtain ⟨reaction, started, rfl⟩ := map_eq_some_iff.mp taken
    unfold App.onTimer at started
    split at started
    · rename_i first order count failed racing
      split at started <;> cases started
      refine paired.react id job _ (before.jobs.find_mem id job found) (fun _ => rfl) ?_
      intro named _ _ own
      rw [racing] at own
      exact within_start job own
    · cases started
  | store id =>
    obtain ⟨job, found, taken⟩ := bind_eq_some_iff.mp taken
    obtain ⟨routes, storing, rfl⟩ := map_eq_some_iff.mp taken
    rw [late job found]
    exact paired.store id routes
  | moveOn =>
    cases taken
    unfold App.moveOn
    split
    · rename_i route found
      exact paired.settled.use route (paired.known (mem_of_getElem? found))
    · exact paired.settled
  | retarget first backups =>
    cases taken
    exact paired.retarget first backups

def App.paired (now : Instant) (first : Address) (backups learned : List Address)
    (remembered : Option (Address × Instant)) : App :=
  { now := now
    first := first
    backups := backups
    learned := learned
    remembered := remembered
    current := none
    baseUrl := first
    jobs := .empty
    epoch := 0
    named := first :: backups ++ learned
    sent := [] }

/-- Requests go only to the deployment paired last, if nothing made before a pairing writes after
it. -/
theorem pairing_cuts_off (now : Instant) (first : Address) (backups learned : List Address)
    (remembered : Option (Address × Instant)) (events : List Event)
    (late : RunMeets step NothingLate events (.paired now first backups learned remembered)) :
    AlwaysAlong step CutOff events (.paired now first backups learned remembered) :=
  alwaysAlong_of_invariant Paired CutOff
    (fun _ event _ paired late taken => step_paired paired late taken)
    (fun _ paired => paired.sent)
    { routes := subset_append_left _ _
      learned := subset_append_right _ _
      current := by simp [App.paired]
      baseUrl := mem_cons_self
      jobs := forall_mem_nil _
      past := forall_mem_nil _
      sent := forall_mem_nil _
      sentPast := forall_mem_nil _ } late

def direct : Address := ⟨1, true⟩

def proxied : Address := ⟨2, true⟩

def other : Address := ⟨7, true⟩

def otherFront : Address := ⟨8, true⟩

def firstPairing : App :=
  .paired 0 direct [proxied] [] none

def pairedAgain : List Event :=
  [.begin false true, .onRequest 0, .timer 0, .answer 0 1 (.success []), .retarget other [],
    .begin true true, .onRequest 1, .answer 1 0 (.success [otherFront]), .store 1,
    .begin false false, .onRequest 2, .answer 2 0 .failed, .answer 2 0 (.success []),
    .begin false false, .onRequest 3]

theorem pairing_cuts_off_pairedAgain :
    AlwaysAlong step CutOff pairedAgain firstPairing ∧
      ((runEvents step pairedAgain firstPairing).map fun app => app.sent) =
        some [(0, direct), (0, proxied), (1, other), (1, other), (1, otherFront),
          (1, otherFront)] :=
  ⟨pairing_cuts_off 0 direct [proxied] [] none pairedAgain (by decide +kernel),
    by decide +kernel⟩

/-- The second attempt of a race answers after the app was paired with the other deployment. -/
def lateAnswer : List Event :=
  [.begin false true, .onRequest 0, .timer 0, .retarget other [], .answer 0 1 (.success []),
    .begin false false, .onRequest 1]

theorem old_deployment_used_again : ¬ AlwaysAlong step CutOff lateAnswer firstPairing :=
  not_alwaysAlong CutOff lateAnswer firstPairing (by decide +kernel)

end Nebula.Mobile.Routes
