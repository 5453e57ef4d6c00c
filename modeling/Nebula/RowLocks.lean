import Nebula.Work

/-!
# Transactions under row locks

A transaction under way holds rows and may wait for those its current statement has chosen and not
locked yet, which it locks one after another. A lock is exclusive and kept until the transaction
commits or is rolled back. Two that wait for each other wait until one is rolled back.
-/

namespace Nebula.RowLocks

open Work List

structure Transaction (Row Work : Type) where
  held : List Row
  waiting : List Row
  work : Work

variable {Row Work : Type}

namespace Transaction

def begin (work : Work) : Transaction Row Work :=
  { held := [], waiting := [], work := work }

variable (transaction : Transaction Row Work)

def next (rows : List Row) (work : Work) :
    Transaction Row Work :=
  { transaction with waiting := rows, work := work }

def Covers (row : Row) : Prop :=
  row ∈ transaction.held ∨ row ∈ transaction.waiting

def lockNext : Transaction Row Work :=
  { transaction with
    held := transaction.waiting.take 1 ++ transaction.held
    waiting := transaction.waiting.drop 1 }

theorem mem_lockNext (row : Row)
    (held : row ∈ transaction.held) : row ∈ transaction.lockNext.held :=
  mem_append_right _ held

theorem covers_lockNext (row : Row)
    (covers : transaction.Covers row) : transaction.lockNext.Covers row := by
  rcases covers with held | waiting
  · exact Or.inl (transaction.mem_lockNext row held)
  rw [← take_append_drop 1 transaction.waiting] at waiting
  rcases mem_append.mp waiting with first | later
  · exact Or.inl (mem_append_left _ first)
  · exact Or.inr later

end Transaction

section

variable [DecidableEq Row]

def heldElsewhere (pool : Pool (Transaction Row Work)) (id : Nat) (row : Row) : Bool :=
  pool.jobs.any fun job => decide (job.1 ≠ id) && decide (row ∈ job.2.held)

def lock (pool : Pool (Transaction Row Work)) (id : Nat) :
    Option (Pool (Transaction Row Work)) :=
  match pool.find id with
  | some transaction =>
    match transaction.waiting with
    | row :: _ =>
      if heldElsewhere pool id row then none else some (pool.goOn id transaction.lockNext)
    | [] => none
  | none => none

theorem lock_spec {pool locked : Pool (Transaction Row Work)} {id : Nat}
    (taken : lock pool id = some locked) :
    ∃ transaction, pool.find id = some transaction ∧
      locked = pool.goOn id transaction.lockNext ∧
      ∀ row ∈ transaction.waiting.take 1, heldElsewhere pool id row = false := by
  unfold lock at taken
  cases found : pool.find id with
  | none => simp [found] at taken
  | some transaction =>
    cases wanted : transaction.waiting with
    | nil => simp [found, wanted] at taken
    | cons row rest =>
      simp only [found, wanted] at taken
      obtain ⟨free, taken⟩ := Option.ite_none_left_eq_some.mp taken
      cases taken
      refine ⟨transaction, rfl, rfl, ?_⟩
      intro first member
      rw [wanted] at member
      rw [mem_singleton.mp member]
      simpa using free

end

def Exclusive (pool : Pool (Transaction Row Work)) : Prop :=
  ∀ first ∈ pool.jobs, ∀ second ∈ pool.jobs, ∀ row,
    row ∈ first.2.held → row ∈ second.2.held → first.1 = second.1

section

variable {pool : Pool (Transaction Row Work)}

theorem exclusive_finish (exclusive : Exclusive pool) (id : Nat) : Exclusive (pool.finish id) :=
  Pool.heldApart_resume (fun own row => row ∈ Transaction.held own) exclusive none
    fun _ ends => by cases ends

theorem exclusive_goOn (exclusive : Exclusive pool) {id : Nat}
    {after : Transaction Row Work}
    (apart : ∀ other ∈ pool.jobs, other.1 ≠ id → ∀ row ∈ other.2.held, row ∉ after.held) :
    Exclusive (pool.goOn id after) := by
  refine Pool.heldApart_resume (fun own row => row ∈ Transaction.held own) exclusive (some after) ?_
  intro next goes row held other member distinct elsewhere
  rw [← Option.some.inj goes] at held
  exact apart other member distinct row elsewhere held

theorem not_held_of_other (exclusive : Exclusive pool) {id : Nat}
    (transaction : Transaction Row Work) (member : (id, transaction) ∈ pool.jobs)
    (other : Nat × Transaction Row Work) (otherMember : other ∈ pool.jobs) (distinct : other.1 ≠ id)
    {row : Row} (held : row ∈ other.2.held) : row ∉ transaction.held :=
  fun own => distinct (exclusive other otherMember (id, transaction) member row held own)

theorem exclusive_lockNext [DecidableEq Row] (exclusive : Exclusive pool) {id : Nat}
    {transaction : Transaction Row Work} (member : (id, transaction) ∈ pool.jobs)
    (free : ∀ row ∈ transaction.waiting.take 1, heldElsewhere pool id row = false) :
    Exclusive (pool.goOn id transaction.lockNext) := by
  apply exclusive_goOn exclusive
  intro other otherMember distinct row held locked
  rcases mem_append.mp locked with added | own
  · have elsewhere : heldElsewhere pool id row = true :=
      any_eq_true.mpr ⟨other, otherMember, by simp [distinct, held]⟩
    rw [free row added] at elsewhere
    cases elsewhere
  · exact not_held_of_other exclusive transaction member other otherMember distinct held own

end

end Nebula.RowLocks
