import Mathlib.Data.List.Infix
import Mathlib.Data.List.Induction

/-!
# Chains of digests

A chain folds a link over a list of events, so its head depends on all of them.
Where the link does not take two different pairs to one digest, the head fixes the
events, and finding the head of one chain among the digests of another says that
the first is a beginning of the second.
-/

namespace Nebula.HashChain

open List hiding getElem?_eq_some_iff

section

variable {Digest Event : Type} (link : Digest → Event → Digest)

def head (start : Digest) (events : List Event) : Digest :=
  events.foldl link start

def linked : Digest → List Event → List (Digest × Event)
  | _, [] => []
  | start, event :: rest => (start, event) :: linked (link start event) rest

def digests (start : Digest) (events : List Event) : List Digest :=
  (linked link start events).map fun pair => link pair.1 pair.2

def NoCollision (first second : List (Digest × Event)) : Prop :=
  ∀ one ∈ first, ∀ other ∈ second, link one.1 one.2 = link other.1 other.2 → one = other

section

variable (start : Digest)

@[simp] theorem head_nil : head link start [] = start := rfl

@[simp] theorem head_cons (event : Event) (rest : List Event) :
    head link start (event :: rest) = head link (link start event) rest := rfl

@[simp] theorem head_concat (events : List Event) (event : Event) :
    head link start (events ++ [event]) = link (head link start events) event := by
  simp [head]

theorem linked_append (before after : List Event) :
    linked link start (before ++ after) =
      linked link start before ++ linked link (head link start before) after := by
  induction before generalizing start with
  | nil => rfl
  | cons event rest ih => simp [linked, ih]

@[simp] theorem linked_length {events : List Event} :
    (linked link start events).length = events.length := by
  induction events generalizing start with
  | nil => rfl
  | cons event rest ih => simp [linked, ih]

@[simp] theorem digests_length (events : List Event) :
    (digests link start events).length = events.length := by
  simp [digests]

theorem digests_cons (event : Event) (rest : List Event) :
    digests link start (event :: rest) =
      link start event :: digests link (link start event) rest := rfl

theorem digests_get (before after : List Event) (event : Event) :
    (digests link start (before ++ event :: after))[before.length]? =
      some (link (head link start before) event) := by
  have place : before.length = (linked link start before).length := (linked_length link start).symm
  rw [digests, linked_append, getElem?_map, place, getElem?_append_right (Nat.le_refl _)]
  simp [linked]

theorem digests_get_of_begins {older newer : List Event} (some_event : older ≠ [])
    (begins : older <+: newer) :
    (digests link start newer)[older.length - 1]? = some (head link start older) := by
  obtain ⟨before, event, rfl⟩ := (eq_nil_or_concat' older).resolve_left some_event
  obtain ⟨later, rfl⟩ := begins
  have place : (before ++ [event]).length - 1 = before.length := by simp
  have taken := digests_get link start before later event
  rw [place, ← append_cons, taken, head_concat]

end

variable {link}

theorem NoCollision.mono {first second less fewer : List (Digest × Event)}
    (clean : NoCollision link first second) (sub : less ⊆ first) (subset : fewer ⊆ second) :
    NoCollision link less fewer :=
  fun one inLess other inFewer same => clean one (sub inLess) other (subset inFewer) same

theorem events_eq_of_head_eq {start : Digest} {older : List Event} (newer : List Event)
    (clean : NoCollision link (linked link start older) (linked link start newer))
    (length : older.length = newer.length) (same : head link start older = head link start newer) :
    older = newer := by
  -- The last link is undone first; what it was applied to is the head of the rest.
  induction older using reverseRecOn generalizing newer with
  | nil => exact (length_eq_zero_iff.mp length.symm).symm
  | append_singleton before event ih =>
    rcases eq_nil_or_concat' newer with rfl | ⟨earlier, other, rfl⟩
    · simp at length
    rw [head_concat, head_concat] at same
    rw [linked_append, linked_append] at clean
    have pair := clean (head link start before, event) (by simp [linked])
      (head link start earlier, other) (by simp [linked]) same
    obtain ⟨heads, rfl⟩ := Prod.mk.inj pair
    have shorter : before.length = earlier.length := by simpa using length
    rw [ih earlier (clean.mono (subset_append_left _ _) (subset_append_left _ _)) shorter heads]

theorem digests_get_iff_begins {start : Digest} {older newer : List Event}
    (clean : NoCollision link (linked link start older) (linked link start newer))
    (some_event : older ≠ []) :
    (digests link start newer)[older.length - 1]? = some (head link start older) ↔
      older <+: newer := by
  refine ⟨?_, digests_get_of_begins link start some_event⟩
  obtain ⟨before, event, rfl⟩ := (eq_nil_or_concat' older).resolve_left some_event
  have place : (before ++ [event]).length - 1 = before.length := by simp
  intro found
  rw [place] at found
  have long : before.length < newer.length := by
    have inside := (List.getElem?_eq_some_iff.mp found).1
    simpa using inside
  obtain ⟨earlier, other, later, rfl, size⟩ : ∃ earlier other later,
      newer = earlier ++ other :: later ∧ earlier.length = before.length :=
    ⟨newer.take before.length, newer[before.length], newer.drop (before.length + 1),
      by simp, by simp; omega⟩
  have taken := digests_get link start earlier later other
  rw [size, found] at taken
  have heads : head link start (before ++ [event]) = head link start (earlier ++ [other]) := by
    rw [Option.some.inj taken, head_concat]
  have part : linked link start (earlier ++ [other]) ⊆
      linked link start (earlier ++ other :: later) := by
    rw [append_cons earlier other later, linked_append link start (earlier ++ [other])]
    exact subset_append_left _ _
  have events := events_eq_of_head_eq (earlier ++ [other])
    (clean.mono (Subset.refl _) part) (by simp [size]) heads
  rw [events, append_cons earlier other later]
  exact prefix_append _ _

end

end Nebula.HashChain
