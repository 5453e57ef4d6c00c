import Nebula.Fleet.Steps

/-!
# One job at a time

Of the jobs at a server at most one is of a certain kind (it is at the WireGuard driver, or it holds
the lock of the Xray driver), and the agent's stores are as that job needs them.
-/

namespace Nebula.Fleet

open Schema ControlPlane Agent

/-- Which jobs exclude each other, and how the agent stands while one of them runs or none does. -/
structure Discipline where
  concerns : Job → Bool
  fits : AgentState → Job → Prop
  rests : AgentState → Prop

def World.FreeOf (world : World) (concerns : Job → Bool) (serverId : Uuid) : Prop :=
  ∀ job ∈ world.jobs, concerns job = true → job.envelope.serverId ≠ serverId
  deriving Decidable

inductive Kept (rule : Discipline) (world : World) (serverId : Uuid) : Prop
  | busy (job : Job) (member : job ∈ world.jobs) (concerned : rule.concerns job = true)
    (server : job.envelope.serverId = serverId)
    (alone : ∀ other ∈ world.jobs, rule.concerns other = true →
      other.envelope.serverId = serverId → other = job)
    (fits : rule.fits (world.agents serverId) job)
  | free (none : world.FreeOf rule.concerns serverId)
    (rests : rule.rests (world.agents serverId))

structure Bears (rule : Discipline) (world : World) (serverId : Uuid) (agent : AgentState) :
    Prop where
  fits : ∀ job ∈ world.jobs, rule.concerns job = true → job.envelope.serverId = serverId →
    rule.fits (world.agents serverId) job → rule.fits agent job
  rests : rule.rests (world.agents serverId) → rule.rests agent

inductive Proper (rule : Discipline) (world : World) (envelope : Envelope) (agent : AgentState)
    (others : List Job) (outcome : Outcome Phase) : Prop
  | alone (none : ∀ job ∈ others, rule.concerns job = true →
      job.envelope.serverId ≠ envelope.serverId)
    (goesOn : ∀ phase, outcome = .goesOn phase →
      rule.concerns ⟨envelope, phase⟩ = true ∧ rule.fits agent ⟨envelope, phase⟩)
    (answers : ∀ answer, outcome = .answers answer → rule.rests agent)
  | beside (unconcerned : ∀ phase, outcome = .goesOn phase →
      rule.concerns ⟨envelope, phase⟩ = false)
    (old : ∀ job ∈ world.jobs, rule.concerns job = true → job ∈ others)
    (bears : Bears rule world envelope.serverId agent)

section

variable {rule : Discipline} {world next : World}

variable {serverId : Uuid}

variable (kept : Kept rule world serverId)
include kept

theorem fits_of_kept {job : Job}
    (member : job ∈ world.jobs) (concerned : rule.concerns job = true)
    (server : job.envelope.serverId = serverId) :
    rule.fits (world.agents serverId) job ∧
      ∀ other ∈ world.jobs, rule.concerns other = true →
        other.envelope.serverId = serverId → other = job := by
  cases kept with
  | busy holder _ _ _ alone fits =>
    have same := alone job member concerned server
    subst same
    exact ⟨fits, alone⟩
  | free none _ => exact absurd server (none job member concerned)

theorem rests_of_kept (free : world.FreeOf rule.concerns serverId) : rule.rests (world.agents serverId) := by
  cases kept with
  | busy holder member concerned server _ _ =>
    exact absurd server (free holder member concerned)
  | free _ rests => exact rests

theorem kept_of_bears (jobs : ∀ job, rule.concerns job = true → job.envelope.serverId = serverId →
      (job ∈ next.jobs ↔ job ∈ world.jobs))
    (bears : Bears rule world serverId (next.agents serverId)) : Kept rule next serverId := by
  cases kept with
  | busy job member concerned server alone fits =>
    refine .busy job ((jobs job concerned server).mpr member) concerned server ?_
      (bears.fits job member concerned server fits)
    intro other present otherConcerned own
    exact alone other ((jobs other otherConcerned own).mp present) otherConcerned own
  | free none rests =>
    refine .free ?_ (bears.rests rests)
    intro job present concerned own
    exact none job ((jobs job concerned own).mp present) concerned own

omit kept

variable (rule world)

theorem bears_refl : Bears rule world serverId (world.agents serverId) :=
  ⟨fun _ _ _ _ fits => fits, id⟩

theorem handled_kept {envelope : Envelope} {agent : AgentState} {others : List Job}
    {outcome : Outcome Phase} (kept : Kept rule world envelope.serverId)
    (agents : next.agents envelope.serverId = agent)
    (handled : Handled world next envelope agent others outcome)
    (known : ∀ job ∈ others, job ∈ world.jobs) (stay : ∀ job ∈ others, job ∈ next.jobs)
    (proper : Proper rule world envelope agent others outcome) :
    Kept rule next envelope.serverId := by
  cases proper with
  | alone none goesOn answers =>
    cases handled with
    | goesOn phase jobs started _ =>
      obtain ⟨concerned, fits⟩ := goesOn phase rfl
      refine .busy ⟨envelope, phase⟩ started concerned rfl ?_ (by rw [agents]; exact fits)
      intro other present otherConcerned own
      rcases jobs other present with old | new
      · exact absurd own (none other old otherConcerned)
      · exact new
    | answers answer jobs _ =>
      refine .free ?_ (by rw [agents]; exact answers answer rfl)
      intro job present
      exact none job (jobs job present)
  | beside unconcerned old bears =>
    refine kept_of_bears kept ?_ (by rw [agents]; exact bears)
    intro job concerned _
    refine ⟨?_, fun before => stay job (old job before concerned)⟩
    intro present
    cases handled with
    | goesOn phase jobs _ _ =>
      rcases jobs job present with other | new
      · exact known job other
      · rw [new, unconcerned phase rfl] at concerned
        cases concerned
    | answers answer jobs _ => exact known job (jobs job present)

theorem elsewhere_kept {changed : Uuid} {agent : AgentState}
    (at_agent : AtAgent world next changed agent) (other : serverId ≠ changed)
    (jobs : ∀ job, job.envelope.serverId ≠ changed → (job ∈ next.jobs ↔ job ∈ world.jobs))
    (kept : Kept rule world serverId) : Kept rule next serverId := by
  refine kept_of_bears kept ?_ ?_
  · intro job _ own
    exact jobs job (by rw [own]; exact other)
  · rw [at_agent.elsewhere other]
    exact bears_refl rule world

variable (next)

/-- Calls are handled properly, a restart leaves the agent at rest, other changes are as good for
its jobs. -/
theorem step_kept (event : WorldEvent) (taken : world.step event = some next)
    (accepts : ∀ envelope readable agent outcome, event = .deliver envelope.task readable →
      envelope ∈ world.net →
      Accepts (world.agents envelope.serverId) readable envelope.call agent outcome →
      Proper rule world envelope agent world.jobs outcome)
    (drives : ∀ job driverEvent agent outcome, event = .drive job.envelope.task driverEvent →
      job ∈ world.jobs →
      (driverEvent = .xray .lockAcquired → world.lockHeld job.envelope.serverId = false) →
      Drives (world.agents job.envelope.serverId) job.envelope.call job.phase driverEvent agent
        outcome →
      Proper rule world job.envelope (agent.settled job.envelope.call outcome)
        (world.jobs.filter fun other => other != job) outcome)
    (restarts : ∀ serverId entries kernel agent, event = .restart serverId entries kernel →
      AgentShift world event serverId agent → rule.rests agent)
    (shifts : ∀ serverId agent, AgentShift world event serverId agent →
      (∀ entries kernel, event ≠ .restart serverId entries kernel) →
      Bears rule world serverId agent)
    (kept : ∀ serverId, Kept rule world serverId) (serverId : Uuid) :
    Kept rule next serverId := by
  have still : next.agents = world.agents → next.jobs = world.jobs → Kept rule next serverId := by
    intro agents jobs
    refine kept_of_bears (kept serverId) ?_ ?_
    · intro job _ _
      rw [jobs]
    · rw [agents]
      exact bears_refl rule world
  cases step_change world taken with
  | planned planeEvent _ _ advances _ | told task answer advances _ =>
    exact still advances.agents advances.jobs
  | dropped plane agents net jobs _ _ => exact still agents jobs
  | delivered task readable envelope agent outcome happened own present accepted at_agent _
      handled others =>
      subst own
      by_cases here : serverId = envelope.serverId
      · rw [here]
        exact handled_kept rule world (kept _)
          at_agent.here handled (fun _ member => member) others
          (accepts envelope readable agent outcome happened present (accepts_of_accept accepted))
      · refine elsewhere_kept rule world at_agent here ?_ (kept serverId)
        intro job elsewhere
        refine ⟨?_, others job⟩
        intro present
        rcases handled_underWay handled present with same | old
        · exact absurd (by rw [same]) elsewhere
        · exact old
  | driven task driverEvent job agent outcome happened own present free stepped at_agent _
      handled others =>
      subst own
      by_cases here : serverId = job.envelope.serverId
      · rw [here]
        refine handled_kept rule world (kept _) at_agent.here handled
          (fun _ member => (List.mem_filter.mp member).1) ?_
          (drives job driverEvent agent outcome happened present free (drives_of_drive stepped))
        intro other member
        obtain ⟨before, different⟩ := List.mem_filter.mp member
        exact others other before (by simpa using different)
      · refine elsewhere_kept rule world at_agent here ?_ (kept serverId)
        intro other elsewhere
        have different : other ≠ job := by
          intro same
          exact elsewhere (by rw [same])
        refine ⟨?_, fun before => others other before different⟩
        intro present
        rcases handled_underWay handled present with same | old
        · exact absurd (by rw [same]) elsewhere
        · exact (List.mem_filter.mp old).1
  | shifted changed agent shift at_agent _ jobs stay ended _ =>
    by_cases here : serverId = changed
    · subst here
      by_cases restart : ∃ entries kernel, event = .restart serverId entries kernel
      · obtain ⟨entries, kernel, happened⟩ := restart
        refine .free (fun job present _ => ended entries kernel happened job present) ?_
        rw [at_agent.here]
        exact restarts serverId entries kernel agent happened shift
      · refine kept_of_bears (kept serverId) ?_ ?_
        · intro job _ _
          refine ⟨jobs job, fun before => ?_⟩
          rcases stay job before with present | ⟨entries, kernel, happened, _⟩
          · exact present
          · exact absurd ⟨entries, kernel, happened⟩ restart
        · rw [at_agent.here]
          exact shifts serverId agent shift fun entries kernel happened =>
            restart ⟨entries, kernel, happened⟩
    · refine elsewhere_kept rule world at_agent here ?_ (kept serverId)
      intro job elsewhere
      refine ⟨jobs job, fun before => ?_⟩
      rcases stay job before with present | ⟨_, _, _, same⟩
      · exact present
      · exact absurd same elsewhere

end

end Nebula.Fleet
