import Nebula.JsonRoundTrip

/-!
# The members of an object by name

Looking a member up and taking it out, and what adding one under another name
leaves of both. What is written of a well-formed value is printable ASCII, so it
stands on a line of its own.
-/

namespace Nebula.Json

open List

def get (name : Units) (members : Members) : Option Value :=
  (members.find? fun member => decide (member.1 = name)).map Prod.snd

/-- What is left once `members.pop(name, None)` took its member. -/
def without (name : Units) (members : Members) : Members :=
  members.filter fun member => decide (member.1 ≠ name)

section

variable (name other : Units) (value : Value) (members : Members)

theorem get_cons (first : Units × Value) :
    get name (first :: members) = if first.1 = name then some first.2 else get name members := by
  by_cases same : first.1 = name <;> simp [get, same]

theorem get_insertMember_self : get name (insertMember (name, value) members) = some value := by
  induction members with
  | nil => simp [insertMember, get_cons]
  | cons first rest ih =>
    unfold insertMember
    split
    · simp [get_cons]
    rename_i differ
    split
    · simp [get_cons]
    · rw [get_cons, if_neg (Ne.symm differ), ih]

theorem get_insertMember_other (differ : other ≠ name) :
    get other (insertMember (name, value) members) = get other members := by
  induction members with
  | nil => rw [insertMember, get_cons, if_neg (Ne.symm differ)]
  | cons first rest ih =>
    unfold insertMember
    split
    · rename_i same
      have passed : first.1 ≠ other := fun found => differ (found.symm.trans same.symm)
      rw [get_cons, get_cons, if_neg (Ne.symm differ), if_neg passed]
    · split
      · rw [get_cons, if_neg (Ne.symm differ)]
      · rw [get_cons, get_cons, ih]

theorem get_eq_none_iff : get name members = none ↔ ∀ member ∈ members, member.1 ≠ name := by
  simp [get]

variable {name}

theorem without_insertMember (absent : get name members = none) :
    without name (insertMember (name, value) members) = members := by
  induction members with
  | nil => simp [insertMember, without]
  | cons first rest ih =>
    have differs := (get_eq_none_iff name (first :: rest)).mp absent
    have own : first.1 ≠ name := differs first mem_cons_self
    have later : get name rest = none :=
      (get_eq_none_iff name rest).mpr fun member among =>
        differs member (mem_cons_of_mem _ among)
    have whole : without name (first :: rest) = (first :: rest) := by
      rw [get_eq_none_iff] at absent
      exact filter_eq_self.mpr fun member among => by simpa using absent member among
    unfold insertMember
    rw [if_neg (Ne.symm own)]
    split
    · unfold without at whole ⊢
      rw [filter_cons_of_neg (by simp), whole]
    · unfold without at ih ⊢
      rw [filter_cons_of_pos (by simpa using own), ih later]

theorem get_foldl_insertMember {pairs : Members} (absent : ∀ pair ∈ pairs, pair.1 ≠ name) :
    get name (pairs.foldl (fun members member => insertMember member members) members) =
      get name members := by
  induction pairs generalizing members with
  | nil => rfl
  | cons pair rest ih =>
    have differ : name ≠ pair.1 := Ne.symm (absent pair mem_cons_self)
    rw [foldl_cons, ih _ fun other among => absent other (mem_cons_of_mem _ among),
      get_insertMember_other pair.1 name pair.2 members differ]

theorem get_dict (before after : Members) (absent : ∀ pair ∈ after, pair.1 ≠ name) :
    get name (dict (before ++ (name, value) :: after)) = some value := by
  rw [dict, foldl_append, foldl_cons, get_foldl_insertMember _ absent, get_insertMember_self]

end

theorem without_comm (first second : Units) (members : Members) :
    without first (without second members) = without second (without first members) := by
  simp [without, Bool.and_comm]

theorem without_wellFormed {decoder : Decoder} (name : Units) {members : Members}
    (formed : (Value.object members).WellFormed decoder) :
    (Value.object (without name members)).WellFormed decoder := by
  obtain ⟨each, sorted⟩ := formed
  rw [membersWellFormed_iff] at each
  refine ⟨?_, sorted.sublist filter_sublist⟩
  rw [membersWellFormed_iff]
  exact fun member among => each member (mem_of_mem_filter among)

section

variable (decoder : Decoder)

theorem quotedUnits_printable {content : Units} :
    ∀ char ∈ quotedUnits content, printable char = true := by
  refine enclosed_printable (by decide) (forall_mem_flatMap.mpr fun unit _ => ?_)
  unfold escapeUnit
  split
  · exact escapeAscii_printable
  · exact unicodeEscape_printable

theorem numberChar_printable {char : Char} (number : numberChar char = true) :
    printable char = true := by
  simp only [numberChar, Bool.or_eq_true, decide_eq_true_eq] at number
  rcases number with digit | rfl | rfl | rfl | rfl | rfl
  · exact digit_printable digit
  all_goals decide

theorem floatText_printable {text : Text} (shape : FloatText text) :
    ∀ char ∈ text, printable char = true := by
  rcases shape with ⟨_, number⟩ | rfl | rfl | rfl
  · exact fun char member => numberChar_printable (number char member)
  all_goals exact all_eq_true.mp (by decide)

theorem bracketed_printable (opening closing : Char) {parts : List Text}
    (bracket : printable opening = true ∧ printable closing = true)
    (each : ∀ part ∈ parts, ∀ char ∈ part, printable char = true) :
    ∀ char ∈ opening :: (joined [','] parts ++ [closing]), printable char = true :=
  enclosed_printable bracket
    (joined_printable (all_eq_true.mp (by decide)) each)

mutual

theorem dumps_printable (value : Value) (formed : value.WellFormed decoder) :
    ∀ char ∈ value.dumps, printable char = true := by
  cases value with
  | null => exact all_eq_true.mp (by decide)
  | bool value => cases value <;> exact all_eq_true.mp (by decide)
  | int value => exact fun char member =>
    numberChar_printable (decimal_numberChar value char member)
  | float text => exact floatText_printable formed.1
  | text content => exact quotedUnits_printable
  | array items =>
    exact bracketed_printable '[' ']' (by decide) (dumpsItems_printable items formed)
  | object members =>
    exact bracketed_printable _ _ (by decide) (dumpsMembers_printable members formed.1)

theorem dumpsItems_printable (items : List Value) (formed : ItemsWellFormed decoder items) :
    ∀ part ∈ dumpsItems items, ∀ char ∈ part, printable char = true := by
  cases items with
  | nil => exact forall_mem_nil _
  | cons value rest =>
    exact forall_mem_cons.mpr ⟨dumps_printable value formed.1, dumpsItems_printable rest formed.2⟩

theorem dumpsMembers_printable (members : Members) (formed : MembersWellFormed decoder members) :
    ∀ part ∈ dumpsMembers members, ∀ char ∈ part, printable char = true := by
  cases members with
  | nil => exact forall_mem_nil _
  | cons member rest =>
    cases member with
    | mk name value =>
    refine forall_mem_cons.mpr ⟨?_, dumpsMembers_printable rest formed.2⟩
    exact forall_mem_append.mpr ⟨quotedUnits_printable,
      forall_mem_cons.mpr ⟨by decide, dumps_printable value formed.1⟩⟩

end

end

end Nebula.Json
