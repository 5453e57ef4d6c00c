import Mathlib.Data.Nat.Basic
import Mathlib.Order.PiLex
import Nebula.JsonReader

/-!
# Which release is newer

`compareVersions` and `updateFromRelease` of `update_check.dart`. Versions are compared part by
part, and a part that one of them lacks is a zero.
-/

namespace Nebula.Mobile.Versions

open Nebula.Json (Text hexValue)

/-- The white space that `String.trim` takes off. -/
def blank (c : Char) : Bool :=
  let n := c.toNat
  decide (9 ≤ n ∧ n ≤ 13 ∨ 0x2000 ≤ n ∧ n ≤ 0x200A) ||
    [0x20, 0x85, 0xA0, 0x1680, 0x2028, 0x2029, 0x202F, 0x205F, 0x3000, 0xFEFF].contains n

def trim (text : Text) : Text :=
  (text.reverse.dropWhile blank).reverse.dropWhile blank

def digits (base : Nat) (text : Text) : Option Nat :=
  if text.isEmpty then none
  else (text.mapM fun c => (hexValue c).filter (· < base)).map fun values =>
    values.foldl (fun number value => base * number + value) 0

/-- `int.tryParse` of a text without a sign: what is too large for 64 bits is no number, and a
hexadecimal one may be negative. -/
def tryParse (text : Text) : Option Int :=
  match trim text with
  | '0' :: 'x' :: rest | '0' :: 'X' :: rest =>
    ((digits 16 rest).filter (· < 2 ^ 64)).map fun number => Int.bmod number (2 ^ 64)
  | core => ((digits 10 core).filter (· < 2 ^ 63)).map Int.ofNat

def dropLetter (core : Text) : Text :=
  if core.head? = some 'v' ∨ core.head? = some 'V' then core.tail else core

/-- `core.split(RegExp(r'[+-]')).first` -/
def beforeSign (core : Text) : Text :=
  core.takeWhile fun c => c != '+' && c != '-'

def number (part : Text) : Option Nat := do
  let number ← tryParse part
  if number < 0 then none else some number.toNat

def parts (core : Text) : Option (List Nat) :=
  (core.splitOn '.').mapM number

def parse (value : Text) : Option (List Nat) :=
  let core := beforeSign (dropLetter (trim value))
  if core.isEmpty then none else parts core

/-- The loop of `compareVersions`, from part `i` on. -/
def compareFrom (left right : List Nat) : Nat → Nat → Ordering
  | 0, _ => .eq
  | count + 1, i =>
    let x := left.getD i 0
    let y := right.getD i 0
    if x ≠ y then compare x y else compareFrom left right count (i + 1)

def compareParts (left right : List Nat) : Ordering :=
  compareFrom left right (max left.length right.length) 0

/-- The sign of what the source returns. -/
def compareVersions (a b : Text) : Option Ordering := do
  let left ← parse a
  let right ← parse b
  some (compareParts left right)

structure Uri where
  scheme : Text
  host : Text
  rest : Text

structure Release where
  draft : Bool
  prerelease : Bool
  tagName : Option Text
  htmlUrl : Option Uri

structure AvailableUpdate where
  version : Text
  page : Uri

def Uri.onGitHub (page : Uri) : Bool :=
  page.scheme == "https".toList && page.host == "github.com".toList

def updateFromRelease (release : Release) (installed : Text) : Option AvailableUpdate := do
  let tag ← release.tagName
  let page ← release.htmlUrl
  let order ← compareVersions tag installed
  if release.draft || release.prerelease || !page.onGitHub || order.isLE then none
  else some ⟨if tag.head? = some 'v' then tag.tail else tag, page⟩

/-- A version as the sequence of its parts, with a zero for each that it lacks. -/
def place (parts : List Nat) : Lex (ℕ → ℕ) :=
  toLex fun i => parts.getD i 0

theorem compareFrom_place {left right : List Nat} {count i : Nat}
    (before : ∀ j < i, left.getD j 0 = right.getD j 0)
    (after : ∀ j, i + count ≤ j → left.getD j 0 = right.getD j 0) :
    compareFrom left right count i = compare (place left) (place right) := by
  induction count generalizing i with
  | zero =>
    refine (compare_eq_iff_eq.mpr ?_).symm
    funext j
    by_cases early : j < i
    · exact before j early
    · exact after j (by omega)
  | succ count ih =>
    rw [compareFrom]
    by_cases same : left.getD i 0 = right.getD i 0
    · rw [if_neg (not_not.mpr same)]
      apply ih
      · intro j early
        by_cases last : j = i
        · rwa [last]
        · exact before j (by omega)
      · intro j late
        exact after j (by omega)
    · rw [if_pos same]
      rcases Nat.lt_or_gt_of_ne same with less | more
      · have first : place left < place right := ⟨i, before, less⟩
        rw [Nat.compare_eq_lt.mpr less, compare_lt_iff_lt.mpr first]
      · have first : place right < place left := ⟨i, fun j h => (before j h).symm, more⟩
        rw [Nat.compare_eq_gt.mpr more, compare_gt_iff_gt.mpr first]

theorem compareParts_place (left right : List Nat) :
    compareParts left right = compare (place left) (place right) := by
  apply compareFrom_place
  · intro j early
    omega
  · intro j late
    simp [List.getElem?_eq_none (show left.length ≤ j by omega),
      List.getElem?_eq_none (show right.length ≤ j by omega)]

theorem place_append_zeros (parts : List Nat) (n : Nat) :
    place (parts ++ List.replicate n 0) = place parts := by
  funext i
  show (parts ++ List.replicate n 0).getD i 0 = parts.getD i 0
  by_cases early : i < parts.length
  · simp [early, List.getElem?_append_left]
  · simp [Nat.le_of_not_lt early, List.getElem?_append_right, List.getElem?_replicate]
    split <;> rfl

variable {core rest : Text} {c : Char}

theorem blank_other (c : Char) (space : blank c) :
    c ≠ '.' ∧ c ≠ '+' ∧ c ≠ '-' ∧ c ≠ 'v' ∧ c ≠ 'V' := by
  refine ⟨?_, ?_, ?_, ?_, ?_⟩ <;> rintro rfl <;> revert space <;> decide

theorem trim_cons (solid : ¬ blank c) :
    trim (c :: rest) = c :: (rest.reverse.dropWhile blank).reverse := by
  simp only [trim, List.reverse_cons, List.dropWhile_append]
  split
  · rename_i empty
    simp [List.isEmpty_iff.mp empty, solid]
  · simp [solid]

theorem trim_cons_blank (space : blank c) (text : Text) : trim (c :: text) = trim text := by
  simp only [trim, List.reverse_cons, List.dropWhile_append]
  split
  · rename_i empty
    simp [List.isEmpty_iff.mp empty, space]
  · simp [space]

theorem tryParse_letter (letter : c = 'v' ∨ c = 'V') : tryParse (c :: rest) = none := by
  rcases letter with rfl | rfl
  all_goals
    rw [tryParse, trim_cons (by decide)]
    rfl

theorem parts_nil : parts [] = none :=
  rfl

theorem parts_cons (other : c ≠ '.') (core : Text) : ∃ part more,
    parts core = (part :: more).mapM number ∧
      parts (c :: core) = ((c :: part) :: more).mapM number := by
  obtain ⟨part, more, split⟩ := List.exists_cons_of_ne_nil (List.splitOn_ne_nil '.' core)
  refine ⟨part, more, by rw [parts, split], ?_⟩
  rw [parts, List.splitOn_cons_eq_if_modifyHead, if_neg (by simpa using other), split]
  rfl

theorem parts_cons_blank (space : blank c) : parts (c :: core) = parts core := by
  obtain ⟨part, more, short, long⟩ := parts_cons (blank_other c space).1 core
  have same : number (c :: part) = number part := by
    rw [number, tryParse, trim_cons_blank space, ← tryParse, ← number]
  rw [short, long, List.mapM_cons, List.mapM_cons, same]

theorem parts_letter (letter : c = 'v' ∨ c = 'V') : parts (c :: core) = none := by
  have other : c ≠ '.' := by
    rcases letter with rfl | rfl <;> decide
  obtain ⟨part, more, -, long⟩ := parts_cons other core
  rw [long]
  rcases letter with rfl | rfl <;> simp [number, tryParse_letter]

theorem parse_eq (value : Text) :
    parse value = parts (beforeSign (dropLetter (trim value))) := by
  rw [parse]
  cases beforeSign (dropLetter (trim value)) with
  | nil => rw [parts_nil, if_pos List.isEmpty_nil]
  | cons c rest => rfl

theorem parts_of_blanks (read : (parts (beforeSign rest)).isSome) :
    parts (beforeSign (dropLetter (rest.dropWhile blank))) =
      parts (beforeSign rest) := by
  induction rest with
  | nil => rfl
  | cons c rest ih =>
    by_cases blank : blank c
    · have other := blank_other c blank
      have shorter : parts (beforeSign (c :: rest)) = parts (beforeSign rest) := by
        rw [beforeSign, List.takeWhile_cons_of_pos (by simp [other]), parts_cons_blank blank]
        rfl
      rw [shorter] at read ⊢
      rw [List.dropWhile_cons_of_pos blank, ih read]
    · by_cases letter : c = 'v' ∨ c = 'V'
      · rw [beforeSign, List.takeWhile_cons_of_pos (by rcases letter with rfl | rfl <;> decide),
          parts_letter letter] at read
        cases read
      · rw [List.dropWhile_cons_of_neg blank, dropLetter, if_neg (by simpa using letter)]

theorem parse_of_letter (letter : c = 'v' ∨ c = 'V') (read : (parse (c :: rest)).isSome) :
    parse rest = parse (c :: rest) := by
  have solid : ¬ blank c := by
    intro blank
    have other := blank_other c blank
    simp_all
  have shown : parse (c :: rest) =
      parts (beforeSign (rest.reverse.dropWhile blank).reverse) := by
    rw [parse_eq, trim_cons solid, dropLetter, if_pos (by simpa using letter), List.tail_cons]
  rw [shown] at read ⊢
  rw [parse_eq]
  exact parts_of_blanks read

theorem beforeSign_append {sign : Char} (signed : sign = '+' ∨ sign = '-') :
    beforeSign (core ++ sign :: rest) = beforeSign core := by
  induction core with
  | nil => rcases signed with rfl | rfl <;> rfl
  | cons c core ih =>
    simp only [beforeSign, List.cons_append, List.takeWhile_cons] at ih ⊢
    rw [ih]

theorem parse_of_suffix {a b : Text} {sign : Char} (signed : sign = '+' ∨ sign = '-')
    (read : (parse a).isSome) (longer : trim b = trim a ++ sign :: rest) :
    parse b = parse a := by
  rw [parse_eq] at read
  rw [parse_eq, parse_eq, longer]
  cases core : trim a with
  | nil => simp [core, dropLetter, beforeSign, parts_nil] at read
  | cons c m =>
    have kept : dropLetter (c :: m ++ sign :: rest) = dropLetter (c :: m) ++ sign :: rest := by
      unfold dropLetter
      split <;> simp_all
    rw [kept, beforeSign_append signed]

def order (a b : Text) : Ordering :=
  compareParts ((parse a).getD []) ((parse b).getD [])

theorem order_eq :
    order = compareOn fun text => place ((parse text).getD []) := by
  funext a b
  exact compareParts_place _ _

theorem order_same {a b : Text} (same : parse b = parse a) : order a b = .eq := by
  rw [order_eq, compareOn, same, compare_eq_iff_eq]

theorem compareVersions_eq (a b : Text) : compareVersions a b =
    if (parse a).isSome ∧ (parse b).isSome then some (order a b) else none := by
  unfold compareVersions order
  cases parse a <;> cases parse b <;> simp

def Newer (earlier later : Text) : Prop :=
  compareVersions later earlier = some .gt

def Offered (installed next : Text) : Prop :=
  ∃ release page, updateFromRelease release installed = some ⟨next, page⟩

theorem newer_of_offered {installed next : Text} (offered : Offered installed next) :
    Newer installed next := by
  obtain ⟨release, page, offered⟩ := offered
  simp only [updateFromRelease, Option.bind_eq_bind, Option.bind_eq_some_iff] at offered
  obtain ⟨tag, -, page, -, order, compared, offered⟩ := offered
  split at offered
  · cases offered
  cases offered
  have newer : Newer installed tag := by
    cases order <;> simp_all [Newer]
  have read : (parse tag).isSome := by
    rw [compareVersions_eq] at compared
    simp_all
  split
  · rename_i starts
    obtain ⟨rest, rfl⟩ := List.head?_eq_some_iff.mp starts
    rwa [Newer, compareVersions, List.tail_cons, parse_of_letter (Or.inl rfl) read]
  · exact newer

/-- `order` is what the comparison gives of two texts that are read as versions. -/
structure Ordered (order : Text → Text → Ordering) : Prop where
  compares : ∀ a b, (parse a).isSome → (parse b).isSome →
    compareVersions a b = some (order a b)
  zeros : ∀ a b parts n, parse a = some parts →
    parse b = some (parts ++ List.replicate n 0) → order a b = .eq
  letter : ∀ c rest, c = 'v' ∨ c = 'V' → (parse (c :: rest)).isSome →
    order (c :: rest) rest = .eq
  suffix : ∀ a b sign rest, sign = '+' ∨ sign = '-' → (parse a).isSome →
    trim b = trim a ++ sign :: rest → order a b = .eq
  newer : ∀ installed next, Offered installed next → Newer installed next
  upwards : ∀ versions : List Text, versions.IsChain Offered → versions.Pairwise Newer

/-- Comparing versions is a total preorder, in which offers only go up. -/
theorem versions_ordered : ∃ order, Std.TransCmp order ∧ Ordered order := by
  have transitive : Std.TransCmp order := by
    rw [order_eq]
    infer_instance
  refine ⟨order, transitive, ?_, ?_, ?_, ?_, fun _ _ => newer_of_offered, ?_⟩
  · intro a b readA readB
    rw [compareVersions_eq, if_pos ⟨readA, readB⟩]
  · intro a b parts n readA readB
    rw [order_eq, compareOn, readA, readB, compare_eq_iff_eq]
    exact (place_append_zeros parts n).symm
  · intro c rest letter read
    exact order_same (parse_of_letter letter read)
  · intro a b sign rest signed read longer
    exact order_same (parse_of_suffix signed read longer)
  · intro versions chain
    have : Trans Newer Newer Newer := by
      constructor
      intro a b c first second
      simp only [Newer, compareVersions_eq, Option.ite_none_right_eq_some,
        Option.some.injEq] at first second ⊢
      exact ⟨⟨second.1.1, first.1.2⟩, Std.TransCmp.gt_trans second.2 first.2⟩
    exact (chain.imp fun _ _ => newer_of_offered).pairwise

example : compareVersions "v0.1.10+7".toList "0.1.9".toList = some .gt := by
  decide

end Nebula.Mobile.Versions
