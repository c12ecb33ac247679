import CodeSurvey.Proofs.Path.Normal
import CodeSurvey.Proofs.Source.Collection
import CodeSurvey.Tree.Basic
import Mathlib.Data.List.Nodup

set_option autoImplicit false

namespace CodeSurvey.Tree

open Text

/-- A name that an entry of a directory may have: not blank, not one of the two names for directories
above and without a slash of either kind. -/
structure IsEntryName (name : String) : Prop where
  isName : Path.IsName name.toList
  filled : isBlankText name.toList = false
  slash : '/' ∉ name.toList
  backslash : '\\' ∉ name.toList

theorem IsEntryName.ne_empty {name : String} (named : IsEntryName name) : name ≠ "" := by
  rintro rfl
  exact named.isName.1 rfl

instance (name : String) : Decidable (IsEntryName name) :=
  decidable_of_iff
    ((name.toList ≠ [] ∧ name.toList ≠ ['.'] ∧ name.toList ≠ ['.', '.']) ∧
      isBlankText name.toList = false ∧ '/' ∉ name.toList ∧ '\\' ∉ name.toList)
    ⟨fun ⟨isName, filled, slash, backslash⟩ => ⟨isName, filled, slash, backslash⟩,
      fun ⟨isName, filled, slash, backslash⟩ => ⟨isName, filled, slash, backslash⟩⟩

/-- A tree without links in which no directory has two entries of one name. -/
inductive Proper : Tree → Prop
  | file (octets : List Nat) : Proper (.file octets)
  | directory {entries : List (String × Tree)} (distinct : (entries.map Prod.fst).Nodup)
      (named : ∀ entry ∈ entries, IsEntryName entry.1)
      (below : ∀ entry ∈ entries, Proper entry.2) : Proper (.directory entries)

theorem Proper.exists_octets {tree : Tree} (proper : Proper tree)
    (single : tree.isDirectory = false) : ∃ octets, tree = .file octets := by
  cases proper with
  | file octets => exact ⟨octets, rfl⟩
  | directory distinct named below => cases single

/-- The names lead from the tree to a file with these octets. -/
inductive Holds : Tree → List String → List Nat → Prop
  | here (octets : List Nat) : Holds (.file octets) [] octets
  | inside {entries : List (String × Tree)} {name : String} {tree : Tree} {way : List String}
      {octets : List Nat} (member : (name, tree) ∈ entries) (below : Holds tree way octets) :
      Holds (.directory entries) (name :: way) octets

theorem Holds.ne_nil {entries : List (String × Tree)} {way : List String} {octets : List Nat}
    (holds : Holds (.directory entries) way octets) : way ≠ [] := by
  cases holds
  exact List.cons_ne_nil _ _

theorem Holds.names {tree : Tree} {way : List String} {octets : List Nat}
    (holds : Holds tree way octets) (proper : Proper tree) : ∀ name ∈ way, IsEntryName name := by
  induction holds with
  | here octets => exact fun name member => absurd member List.not_mem_nil
  | inside member below ih =>
      cases proper with
      | directory distinct named proper =>
          intro other among
          rcases List.mem_cons.mp among with rfl | later
          · exact named _ member
          · exact ih (proper _ member) other later

def pathOf (way : List String) : String :=
  "/".intercalate way

theorem toList_pathOf (way : List String) :
    (pathOf way).toList = joinWith ['/'] (way.map String.toList) :=
  String.toList_intercalate

theorem pathOf_singleton (name : String) : pathOf [name] = name := by
  apply String.toList_inj.mp
  rw [toList_pathOf, List.map_singleton, joinWith_singleton]

theorem pathOf_cons {way : List String} (name : String) (more : way ≠ []) :
    pathOf (name :: way) = name ++ "/" ++ pathOf way := by
  obtain ⟨next, rest, rfl⟩ := List.exists_cons_of_ne_nil more
  apply String.toList_inj.mp
  rw [toList_pathOf, List.map_cons, List.map_cons, joinWith_cons, String.toList_append,
    String.toList_append, toList_pathOf, List.map_cons, List.append_assoc]
  rfl

theorem splitAt_pathOf {way : List String} (filled : way ≠ [])
    (names : ∀ name ∈ way, IsEntryName name) :
    splitAt '/' (pathOf way).toList = way.map String.toList := by
  rw [toList_pathOf]
  apply splitAt_joinWith
  · simpa using filled
  · intro part member
    obtain ⟨name, among, rfl⟩ := List.mem_map.mp member
    exact (names name among).slash

theorem pathOf_injective {way other : List String} (filled : way ≠ []) (more : other ≠ [])
    (names : ∀ name ∈ way, IsEntryName name) (others : ∀ name ∈ other, IsEntryName name)
    (same : pathOf way = pathOf other) : way = other := by
  have parts : way.map String.toList = other.map String.toList := by
    rw [← splitAt_pathOf filled names, ← splitAt_pathOf more others, same]
  exact (List.map_inj_right fun _ _ => String.toList_inj.mp).mp parts

theorem pathOf_filled {way : List String} (filled : way ≠ [])
    (names : ∀ name ∈ way, IsEntryName name) : isBlankText (pathOf way).toList = false := by
  obtain ⟨name, rest, rfl⟩ := List.exists_cons_of_ne_nil filled
  have first := (names name List.mem_cons_self).filled
  by_cases last : rest = []
  · rw [last, pathOf_singleton]
    exact first
  · rw [pathOf_cons name last, String.append_assoc, String.toList_append, isBlankText, List.all_append]
    change (isBlankText name.toList && _) = false
    rw [first, Bool.false_and]

theorem pathOf_forward {way : List String} (names : ∀ name ∈ way, IsEntryName name) :
    SourceFile.Forward (pathOf way) := by
  intro member
  rw [toList_pathOf] at member
  rcases mem_joinWith member with mark | ⟨part, among, inside⟩
  · simp at mark
  · obtain ⟨name, named, rfl⟩ := List.mem_map.mp among
    exact (names name named).backslash inside

end CodeSurvey.Tree
