import Mathlib.Algebra.BigOperators.Group.List.Basic
import Mathlib.Algebra.Ring.Nat
import Mathlib.Data.List.Find
import Mathlib.Data.List.Nodup
import Mathlib.Data.List.Pairwise

/-!
# Keyed tables

A table is a list of records. `updateWhere` is an `UPDATE … WHERE`, `lookup` a
`SELECT … WHERE id = …`, and a partial unique index is a key that only the
covered records have: the keys that exist are pairwise distinct.
-/

namespace Nebula.Store

open List

variable {Record Key : Type}

def updateWhere (selected : Record → Bool) (write : Record → Record) (table : List Record) :
    List Record :=
  table.map fun record => if selected record then write record else record

def lookup [DecidableEq Key] (key : Record → Key) (wanted : Key) (table : List Record) :
    Option Record :=
  table.find? fun record => decide (key record = wanted)

def remove [DecidableEq Key] (key : Record → Key) (unwanted : Key) (table : List Record) :
    List Record :=
  table.filter fun record => decide (key record ≠ unwanted)

def upsert [DecidableEq Key] (key : Record → Key) (added : Record) (table : List Record) :
    List Record :=
  remove key (key added) table ++ [added]

def put [DecidableEq Key] (key : Record → Key) (added : Record) (table : List Record) :
    List Record :=
  if table.any (fun record => decide (key record = key added)) then
    updateWhere (fun record => decide (key record = key added)) (fun _ => added) table
  else table ++ [added]

/-- A partial unique index: records without a key are not covered. -/
def UniqueOn (index : Record → Option Key) (table : List Record) : Prop :=
  (table.filterMap index).Nodup

instance [DecidableEq Key] (index : Record → Option Key) (table : List Record) :
    Decidable (UniqueOn index table) :=
  inferInstanceAs (Decidable (List.Nodup _))

variable (selected : Record → Bool) (write : Record → Record)

theorem updateWhere_none
    {table : List Record} (unselected : ∀ record ∈ table, selected record = false) :
    updateWhere selected write table = table := by
  refine (map_congr_left ?_).trans (map_id table)
  intro record member
  rw [unselected record member]
  rfl

theorem map_updateWhere {Field : Type}
    (field : Record → Field) (same : ∀ record, field (write record) = field record)
    (table : List Record) : (updateWhere selected write table).map field = table.map field := by
  unfold updateWhere
  rw [map_map]
  apply map_congr_left
  intro record _
  simp only [Function.comp_def]
  split
  · exact same record
  · rfl

theorem filter_updateWhere (selected kept : Record → Bool)
    {write : Record → Record} {table : List Record}
    (unseen : ∀ record ∈ table, selected record = true →
      kept record = false ∧ kept (write record) = false) :
    (updateWhere selected write table).filter kept = table.filter kept := by
  induction table with
  | nil => rfl
  | cons record rest ih =>
    have tail := ih fun other member => unseen other (mem_cons_of_mem record member)
    have split : updateWhere selected write (record :: rest) =
        (if selected record then write record else record) :: updateWhere selected write rest := rfl
    rw [split]
    by_cases chosen : selected record = true
    · obtain ⟨old, new⟩ := unseen record mem_cons_self chosen
      rw [if_pos chosen, filter_cons_of_neg (by simp [new]),
        filter_cons_of_neg (by simp [old]), tail]
    · rw [if_neg chosen, filter_cons, filter_cons, tail]

variable {table : List Record}

variable {record : Record}

theorem mem_updateWhere (member : record ∈ updateWhere selected write table) :
    ∃ old ∈ table, (selected old = true ∧ record = write old) ∨
      (selected old = false ∧ record = old) := by
  obtain ⟨old, among, rfl⟩ := mem_map.mp member
  refine ⟨old, among, ?_⟩
  by_cases chosen : selected old = true
  · exact Or.inl ⟨chosen, if_pos chosen⟩
  · exact Or.inr ⟨Bool.eq_false_iff.mpr chosen, if_neg chosen⟩

theorem forall_mem_added {Holds : Record → Prop} {added : Record}
    (each : ∀ record ∈ table, Holds record) (new : Holds added) :
    ∀ record ∈ table ++ [added], Holds record :=
  forall_mem_append.mpr ⟨each, forall_mem_singleton.mpr new⟩

theorem nodup_added {key : Record → Key} (distinct : (table.map key).Nodup)
    {added : Record} (new : ∀ old ∈ table, key old ≠ key added) :
    ((table ++ [added]).map key).Nodup := by
  rw [map_append, map_singleton, ← concat_eq_append]
  exact distinct.concat (by simpa using new)

section

variable [DecidableEq Key] {key : Record → Key} {wanted : Key} {table : List Record}

theorem lookup_mem (found : lookup key wanted table = some record) :
    record ∈ table ∧ key record = wanted := by
  refine ⟨mem_of_find?_eq_some found, ?_⟩
  simpa using find?_some found

variable (wanted table)

theorem lookup_isSome_of_mem
    (member : record ∈ table) (named : key record = wanted) :
    ∃ found, lookup key wanted table = some found := by
  have exists_found : (lookup key wanted table).isSome := by
    simp only [lookup, find?_isSome]
    exact ⟨record, member, by simpa using named⟩
  exact Option.isSome_iff_exists.mp exists_found

theorem lookup_map {write : Record → Record} {wanted : Key} {table : List Record}
    (kept : ∀ record ∈ table, key (write record) = key record) :
    lookup key wanted (table.map write) = (lookup key wanted table).map write := by
  unfold lookup
  rw [find?_map]
  congr 1
  apply find?_congr
  intro record member
  simp [kept record member]

theorem lookup_append_of_some {table : List Record} {added : List Record}
    (found : lookup key wanted table = some record) :
    lookup key wanted (table ++ added) = some record := by
  simp only [lookup] at found ⊢
  rw [find?_append, found]
  rfl

theorem lookup_of_mem_nodup (distinct : (table.map key).Nodup)
    (member : record ∈ table) :
    lookup key (key record) table = some record := by
  obtain ⟨found, at_⟩ := lookup_isSome_of_mem (key record) table member rfl
  obtain ⟨among, same⟩ := lookup_mem at_
  rw [at_, inj_on_of_nodup_map distinct among member same]

end

section

variable [DecidableEq Key] (key : Record → Key)

theorem mem_remove {unwanted : Key} {table : List Record} :
    record ∈ remove key unwanted table ↔ record ∈ table ∧ key record ≠ unwanted := by
  simp [remove]

theorem mem_upsert {added : Record} {table : List Record} :
    record ∈ upsert key added table ↔
      (record ∈ table ∧ key record ≠ key added) ∨ record = added := by
  simp [upsert, mem_remove]

theorem remove_nodup {unwanted : Key} {table : List Record} (distinct : (table.map key).Nodup) :
    ((remove key unwanted table).map key).Nodup := by
  have sublist : ((remove key unwanted table).map key).Sublist (table.map key) :=
    filter_sublist.map key
  exact distinct.sublist sublist

theorem upsert_nodup {added : Record} {table : List Record} (distinct : (table.map key).Nodup) :
    ((upsert key added table).map key).Nodup :=
  nodup_added (remove_nodup key distinct) fun _ kept =>
    ((mem_remove key).mp kept).2

end

section

variable [DecidableEq Key] {key : Record → Key}

theorem mem_put {added : Record} {table : List Record}
    (member : record ∈ put key added table) :
    (record ∈ table ∧ key record ≠ key added) ∨ record = added := by
  unfold put at member
  split at member
  · obtain ⟨old, oldMember, rewritten⟩ := mem_map.mp member
    by_cases named : key old = key added
    · rw [if_pos (by simpa using named)] at rewritten
      exact Or.inr rewritten.symm
    · rw [if_neg (by simpa using named)] at rewritten
      subst rewritten
      exact Or.inl ⟨oldMember, named⟩
  · rename_i absent
    rcases mem_append.mp member with old | new
    · refine Or.inl ⟨old, ?_⟩
      intro named
      exact absent (any_eq_true.mpr ⟨record, old, by simpa using named⟩)
    · exact Or.inr (mem_singleton.mp new)

variable (added : Record) (table : List Record)

variable (key)

theorem map_put :
    (put key added table).map key =
      if key added ∈ table.map key then table.map key else table.map key ++ [key added] := by
  unfold put
  have present : (table.any fun record => decide (key record = key added)) = true ↔
      key added ∈ table.map key := by
    simp [mem_map]
  by_cases known : key added ∈ table.map key
  swap
  · rw [if_neg (mt present.mp known), if_neg known, map_append, map_singleton]
  rw [if_pos (present.mpr known), if_pos known, updateWhere, map_map]
  apply map_congr_left
  intro record _
  simp only [Function.comp_def]
  split
  · rename_i named
    exact (by simpa using named : key record = key added).symm
  · rfl

theorem put_nodup (distinct : (table.map key).Nodup) : ((put key added table).map key).Nodup := by
  rw [map_put]
  split
  · exact distinct
  · rename_i fresh
    rw [← concat_eq_append]
    exact distinct.concat fresh

theorem lookup_put (wanted : Key) :
    lookup key wanted (put key added table) =
      if key added = wanted then some added else lookup key wanted table := by
  unfold put
  split
  · rename_i known
    rw [updateWhere, lookup_map]
    · by_cases named : key added = wanted
      · subst named
        obtain ⟨record, member, same⟩ := any_eq_true.mp known
        obtain ⟨found, at_⟩ := lookup_isSome_of_mem (key added) table member (by simpa using same)
        have own := (lookup_mem at_).2
        simp [at_, own]
      · rw [if_neg named]
        cases at_ : lookup key wanted table with
        | none => rfl
        | some found =>
          have other := (lookup_mem at_).2
          simp [other, Ne.symm named]
    · intro record _
      split
      · rename_i named
        exact (by simpa using named : key record = key added).symm
      · rfl
  · rename_i absent
    by_cases named : key added = wanted
    swap
    · simp [lookup, find?_append, named]
    have none : lookup key wanted table = none := by
      cases at_ : lookup key wanted table with
      | none => rfl
      | some found =>
        obtain ⟨member, own⟩ := lookup_mem at_
        exact absurd (any_eq_true.mpr ⟨found, member, by simp [own, named]⟩) absent
    simp only [lookup] at none ⊢
    simp [find?_append, none, named]

theorem lookup_remove (unwanted wanted : Key) (table : List Record) :
    lookup key wanted (remove key unwanted table) =
      if unwanted = wanted then none else lookup key wanted table := by
  unfold lookup remove
  rw [find?_filter]
  split
  · rename_i same
    subst same
    exact find?_eq_none.mpr (by simp)
  rename_i different
  congr 1
  funext record
  by_cases named : key record = wanted
  · simp [named, Ne.symm different]
  · simp [named]

theorem lookup_upsert (wanted : Key) :
    lookup key wanted (upsert key added table) =
      if key added = wanted then some added else lookup key wanted table := by
  have removed := lookup_remove key (key added) wanted table
  unfold lookup upsert at *
  rw [find?_append, removed]
  split
  · rename_i same
    simp [same]
  · rename_i different
    simp [different]

theorem lookup_drop {count : Nat} {table : List Record} {wanted : Key}
    (kept : wanted ∉ (table.take count).map key) :
    lookup key wanted (table.drop count) = lookup key wanted table := by
  have split : lookup key wanted table =
      (lookup key wanted (table.take count)).or (lookup key wanted (table.drop count)) := by
    simp only [lookup]
    rw [← find?_append, take_append_drop]
  have none : lookup key wanted (table.take count) = none := by
    cases at_ : lookup key wanted (table.take count) with
    | none => rfl
    | some found =>
      obtain ⟨member, own⟩ := lookup_mem at_
      exact absurd (own ▸ mem_map_of_mem member) kept
  rw [split, none, Option.none_or]

end

section

variable {index : Record → Option Key} {table : List Record}

variable (unique : UniqueOn index table)
include unique

theorem UniqueOn.eq_of_key {first second : Record} {shared : Key}
    (firstMember : first ∈ table) (secondMember : second ∈ table)
    (firstKey : index first = some shared) (secondKey : index second = some shared) :
    first = second := by
  let Apart (one other : Record) : Prop :=
    ∀ key, index one = some key → ∀ its, index other = some its → key ≠ its
  have symm : Std.Symm Apart := ⟨fun _ _ apart key own its other => (apart its other key own).symm⟩
  have apart : table.Pairwise Apart := pairwise_filterMap.mp unique
  by_contra different
  exact apart.forall firstMember secondMember different shared firstKey shared secondKey rfl

theorem UniqueOn.map (write : Record → Record)
    (keys : ∀ record ∈ table, index (write record) = none ∨ index (write record) = index record) :
    UniqueOn index (table.map write) := by
  have held : ∀ record ∈ table, ∀ key, index (write record) = some key →
      index record = some key := by
    intro record member key own
    rcases keys record member with dropped | same
    · rw [dropped] at own
      cases own
    · rw [← same, own]
  refine pairwise_filterMap.mpr (pairwise_map.mpr ?_)
  refine (pairwise_filterMap.mp unique).imp_of_mem ?_
  intro first second firstMember secondMember apart key own other its
  exact apart key (held first firstMember key own) other (held second secondMember other its)

theorem UniqueOn.append_singleton (added : Record)
    (fresh : ∀ record ∈ table, ∀ key, index record = some key → index added ≠ some key) :
    UniqueOn index (table ++ [added]) := by
  unfold UniqueOn at unique ⊢
  rw [filterMap_append]
  cases covered : index added with
  | none => simpa [covered] using unique
  | some key =>
    refine nodup_append.mpr ⟨unique, by simp [covered], ?_⟩
    intro old oldMember new newMember same
    obtain ⟨record, member, found⟩ := mem_filterMap.mp oldMember
    have own : new = key := by simpa [covered] using newMember
    exact fresh record member old found (by rw [covered, same, own])

end

theorem sum_filter_map_le {value : Record → Nat} {write : Record → Record}
    {before after : Record → Bool} {table : List Record}
    (kept : ∀ record ∈ table, 0 < value record → before record = true → after (write record) = true)
    (grows : ∀ record, value record ≤ value (write record)) :
    ((table.filter before).map value).sum ≤ (((table.map write).filter after).map value).sum := by
  induction table with
  | nil => simp
  | cons head rest ih =>
    have restBound := ih fun record member => kept record (mem_cons_of_mem head member)
    have headGrows := grows head
    rw [filter_cons, map_cons, filter_cons]
    by_cases stays : after (write head) = true
    · rw [if_pos stays, map_cons, sum_cons]
      split
      · rw [map_cons, sum_cons]
        omega
      · omega
    · rw [if_neg stays]
      split
      · rename_i counted
        have worthless : value head = 0 := by
          by_contra worth
          exact stays (kept head mem_cons_self (Nat.pos_of_ne_zero worth) counted)
        rw [map_cons, sum_cons]
        omega
      · exact restBound

theorem sum_map_grown [DecidableEq Key] {before after : Key → Nat} {one : Key} {grown : Nat}
    {keys : List Key} (distinct : keys.Nodup) (member : one ∈ keys)
    (others : ∀ key, key ≠ one → after key = before key) (grows : after one = before one + grown) :
    (keys.map after).sum = (keys.map before).sum + grown := by
  induction keys with
  | nil => cases member
  | cons head rest ih =>
    obtain ⟨fresh, restDistinct⟩ := nodup_cons.mp distinct
    simp only [map_cons, sum_cons]
    by_cases same : head = one
    · have kept : rest.map after = rest.map before := by
        apply map_congr_left
        intro key later
        exact others key fun named => fresh (same ▸ named ▸ later)
      rw [kept, same, grows]
      omega
    · have later := (mem_cons.mp member).resolve_left fun named => same named.symm
      rw [ih restDistinct later, others head same]
      omega

theorem sum_map_once [DecidableEq Key] {chosen : Key → Bool} (value : Nat) {keys : List Key}
    (distinct : keys.Nodup)
    (once : ∀ one ∈ keys, ∀ other ∈ keys, chosen one = true → chosen other = true → one = other) :
    (keys.map fun key => if chosen key then value else 0).sum ≤ value := by
  induction keys with
  | nil => exact Nat.zero_le value
  | cons head rest ih =>
    obtain ⟨fresh, restDistinct⟩ := nodup_cons.mp distinct
    simp only [map_cons, sum_cons]
    by_cases hit : chosen head = true
    · have missed : (rest.map fun key => if chosen key then value else 0) =
          rest.map fun _ => 0 := by
        apply map_congr_left
        intro key later
        rw [if_neg]
        intro also
        have same := once head mem_cons_self key (mem_cons_of_mem head later) hit also
        exact fresh (same ▸ later)
      simp [hit, missed]
    · rw [if_neg hit, Nat.zero_add]
      apply ih restDistinct
      intro one member other otherMember
      exact once one (mem_cons_of_mem head member) other (mem_cons_of_mem head otherMember)

theorem sum_charged_le [DecidableEq Key] {charged : Key → Record → Bool} {value : Record → Nat}
    {keys : List Key} (distinct : keys.Nodup) {table : List Record}
    (once : ∀ record ∈ table, ∀ one ∈ keys, ∀ other ∈ keys, charged one record = true →
      charged other record = true → one = other) :
    (keys.map fun key => ((table.filter (charged key)).map value).sum).sum ≤
      (table.map value).sum := by
  induction table with
  | nil => simp
  | cons head rest ih =>
    have restBound := ih fun record member => once record (mem_cons_of_mem head member)
    have headBound := sum_map_once (value head) distinct (once head mem_cons_self)
    have parted : (keys.map fun key =>
          (((head :: rest).filter (charged key)).map value).sum) =
        keys.map fun key => (if charged key head then value head else 0) +
          ((rest.filter (charged key)).map value).sum := by
      apply map_congr_left
      intro key _
      rw [filter_cons]
      split <;> simp
    rw [parted, sum_map_add, map_cons, sum_cons]
    omega

end Nebula.Store
