import Nebula.Store

/-!
# Work in progress

The requests a process has under way are a list of numbered continuations. A
step takes one of them, by its number, to its next continuation or to its end;
numbers are not used again.
-/

namespace Nebula.Work

open Store List

structure Pool (Job : Type) where
  jobs : List (Nat × Job)
  nextId : Nat

namespace Pool

variable {Job : Type}

def empty : Pool Job :=
  { jobs := [], nextId := 0 }

variable (pool : Pool Job)

def find (id : Nat) : Option Job :=
  (lookup Prod.fst id pool.jobs).map Prod.snd

def begin (job : Job) : Pool Job :=
  { jobs := pool.jobs ++ [(pool.nextId, job)], nextId := pool.nextId + 1 }

def goOn (id : Nat) (job : Job) : Pool Job :=
  { pool with
    jobs := updateWhere (fun entry => decide (entry.1 = id)) (fun _ => (id, job)) pool.jobs }

def finish (id : Nat) : Pool Job :=
  { pool with jobs := remove Prod.fst id pool.jobs }

def resume (id : Nat) : Option Job → Pool Job
  | some job => pool.goOn id job
  | none => pool.finish id

variable (pool : Pool Job) (id : Nat) (job : Job)

theorem find_mem (found : pool.find id = some job) : (id, job) ∈ pool.jobs := by
  obtain ⟨entry, at_, same⟩ := Option.map_eq_some_iff.mp found
  obtain ⟨member, named⟩ := lookup_mem at_
  rw [← named, ← same]
  exact member

variable (entry : Nat × Job)

theorem mem_begin :
    entry ∈ (pool.begin job).jobs ↔ entry ∈ pool.jobs ∨ entry = (pool.nextId, job) := by
  simp [begin]

theorem mem_goOn (member : entry ∈ (pool.goOn id job).jobs) :
    (entry ∈ pool.jobs ∧ entry.1 ≠ id) ∨ entry = (id, job) := by
  obtain ⟨old, oldMember, rewritten⟩ := mem_map.mp member
  by_cases named : old.1 = id
  · rw [if_pos (by simpa using named)] at rewritten
    exact Or.inr rewritten.symm
  · rw [if_neg (by simpa using named)] at rewritten
    subst rewritten
    exact Or.inl ⟨oldMember, named⟩

theorem goOn_mem_self {before : Job} {job : Job} (member : (id, before) ∈ pool.jobs) :
    (id, job) ∈ (pool.goOn id job).jobs :=
  mem_map.mpr ⟨(id, before), member, if_pos (by simp)⟩

theorem mem_finish : entry ∈ (pool.finish id).jobs ↔ entry ∈ pool.jobs ∧ entry.1 ≠ id :=
  mem_remove Prod.fst

theorem mem_resume {next : Option Job} {entry : Nat × Job}
    (member : entry ∈ (pool.resume id next).jobs) :
    (entry ∈ pool.jobs ∧ entry.1 ≠ id) ∨ (entry.1 = id ∧ next = some entry.2) := by
  cases next with
  | none => exact Or.inl ((pool.mem_finish id entry).mp member)
  | some job =>
    rcases pool.mem_goOn id job entry member with old | new
    · exact Or.inl old
    · subst new
      exact Or.inr ⟨rfl, rfl⟩

section

variable {pool : Pool Job} {Holds : Nat × Job → Prop} (each : ∀ entry ∈ pool.jobs, Holds entry)
include each

theorem forall_begin {job : Job} (new : Holds (pool.nextId, job)) :
    ∀ entry ∈ (pool.begin job).jobs, Holds entry :=
  forall_mem_added each new

theorem forall_goOn {id : Nat} {job : Job} (new : Holds (id, job)) :
    ∀ entry ∈ (pool.goOn id job).jobs, Holds entry := by
  intro entry member
  rcases pool.mem_goOn id job entry member with ⟨old, _⟩ | rfl
  · exact each entry old
  · exact new

theorem forall_finish {id : Nat} : ∀ entry ∈ (pool.finish id).jobs, Holds entry :=
  fun entry member => each entry ((pool.mem_finish id entry).mp member).1

theorem forall_resume {id : Nat} {next : Option Job} (new : ∀ job ∈ next, Holds (id, job)) :
    ∀ entry ∈ (pool.resume id next).jobs, Holds entry := by
  cases next with
  | none => exact forall_finish each
  | some job => exact forall_goOn each (new job rfl)

end

def HeldApart {Held : Type} (holds : Job → Held → Prop) (pool : Pool Job) : Prop :=
  ∀ first ∈ pool.jobs, ∀ second ∈ pool.jobs, ∀ held, holds first.2 held → holds second.2 held →
    first.1 = second.1

section

variable {pool : Pool Job} {Held : Type} (holds : Job → Held → Prop)
  (apart : HeldApart holds pool)
include apart

theorem heldApart_begin {job : Job} (free : ∀ held, ¬ holds job held) :
    HeldApart holds (pool.begin job) :=
  forall_begin
    (fun first member => forall_begin (apart first member) fun held _ own => absurd own (free held))
    fun _ _ held own => absurd own (free held)

theorem heldApart_resume {id : Nat} (next : Option Job)
    (own : ∀ job ∈ next, ∀ held, holds job held → ∀ other ∈ pool.jobs, other.1 ≠ id →
      ¬ holds other.2 held) : HeldApart holds (pool.resume id next) := by
  intro first firstMember second secondMember held firstHolds secondHolds
  rcases pool.mem_resume id firstMember with ⟨old, other⟩ | ⟨at_, new⟩
  · rcases pool.mem_resume id secondMember with ⟨old', _⟩ | ⟨_, new'⟩
    · exact apart first old second old' held firstHolds secondHolds
    · exact absurd firstHolds (own second.2 new' held secondHolds first old other)
  · rcases pool.mem_resume id secondMember with ⟨old', other'⟩ | ⟨at', _⟩
    · exact absurd secondHolds (own first.2 new held firstHolds second old' other')
    · rw [at_, at']

end

structure Numbered (pool : Pool Job) : Prop where
  distinct : (pool.jobs.map Prod.fst).Nodup
  fresh : ∀ job ∈ pool.jobs, job.1 < pool.nextId

theorem numbered_empty : Numbered (empty : Pool Job) :=
  ⟨nodup_nil, forall_mem_nil _⟩

variable (numbered : Numbered pool)
include numbered

theorem find_of_mem {job : Nat × Job} (member : job ∈ pool.jobs) :
    pool.find job.1 = some job.2 := by
  rw [find, lookup_of_mem_nodup pool.jobs numbered.distinct member]
  rfl

theorem numbered_begin {job : Job} : Numbered (pool.begin job) := by
  constructor
  · exact nodup_added numbered.distinct fun entry member =>
      Nat.ne_of_lt (numbered.fresh entry member)
  · exact forall_begin (fun entry old => Nat.lt_succ_of_lt (numbered.fresh entry old))
      (Nat.lt_succ_self _)

theorem numbered_goOn {id : Nat} {job : Job} :
    Numbered (pool.goOn id job) := by
  have keys : (pool.goOn id job).jobs.map Prod.fst = pool.jobs.map Prod.fst := by
    simp only [goOn, updateWhere, map_map]
    apply map_congr_left
    intro entry _
    by_cases named : entry.1 = id
    · simp [named]
    · simp [named]
  refine ⟨by rw [keys]; exact numbered.distinct, ?_⟩
  intro entry member
  obtain ⟨old, oldMember, named⟩ : ∃ old ∈ pool.jobs, old.1 = entry.1 := by
    have listed := mem_map_of_mem (f := Prod.fst) member
    rw [keys] at listed
    exact mem_map.mp listed
  rw [← named]
  exact numbered.fresh old oldMember

theorem numbered_finish {id : Nat} : Numbered (pool.finish id) :=
  ⟨remove_nodup Prod.fst numbered.distinct, forall_finish numbered.fresh⟩

end Pool

end Nebula.Work
