import CodeSurvey.Path
import CodeSurvey.Proofs.Text.Parts

set_option autoImplicit false

namespace CodeSurvey.Path

open Text

/-- A segment that names a file or a directory. -/
def IsName (segment : List Char) : Prop :=
  segment ≠ [] ∧ segment ≠ ['.'] ∧ segment ≠ ['.', '.']

instance (segment : List Char) : Decidable (IsName segment) :=
  inferInstanceAs (Decidable (_ ∧ _ ∧ _))

/-- A path of which every segment is a name. -/
def IsNormal (path : String) : Prop :=
  ∀ segment ∈ splitAt '/' path.toList, IsName segment

instance (path : String) : Decidable (IsNormal path) :=
  inferInstanceAs (Decidable (∀ segment ∈ splitAt '/' path.toList, IsName segment))

theorem IsNormal.ne_empty {path : String} (normal : IsNormal path) : path ≠ "" := by
  rintro rfl
  exact (normal [] List.mem_cons_self).1 rfl

theorem isName_of_long {segment : List Char} (long : 2 < segment.length) : IsName segment := by
  refine ⟨?_, ?_, ?_⟩ <;> rintro rfl <;> simp at long

theorem place_of_isName {segment : List Char} (name : IsName segment)
    (stack : List (List Char)) : place stack segment = segment :: stack := by
  simp [place, name.1, name.2.1, name.2.2]

theorem foldl_place_of_names {segments : List (List Char)} (stack : List (List Char))
    (names : ∀ segment ∈ segments, IsName segment) :
    segments.foldl place stack = segments.reverse ++ stack := by
  induction segments generalizing stack with
  | nil => rfl
  | cons segment rest ih =>
      rw [List.foldl_cons, place_of_isName (names segment List.mem_cons_self),
        ih _ fun other member => names other (List.mem_cons_of_mem _ member), List.reverse_cons,
        List.append_assoc, List.singleton_append]

theorem settle_of_names {segments : List (List Char)}
    (names : ∀ segment ∈ segments, IsName segment) : settle segments = segments := by
  rw [settle, foldl_place_of_names [] names, List.append_nil, List.reverse_reverse]

theorem settle_concat_name (segments : List (List Char)) {name : List Char} (named : IsName name) :
    settle (segments ++ [name]) = settle segments ++ [name] := by
  rw [settle, List.foldl_append, List.foldl_cons, List.foldl_nil, place_of_isName named,
    List.reverse_cons]
  rfl

theorem settle_concat_dot (segments : List (List Char)) :
    settle (segments ++ [['.']]) = settle segments := by
  rw [settle, List.foldl_append, List.foldl_cons, List.foldl_nil]
  rfl

/-- What is on the stack was there before, or is the segment just placed and a name. -/
theorem mem_place {stack : List (List Char)} {segment placed : List Char}
    (member : segment ∈ place stack placed) :
    segment ∈ stack ∨ segment = placed ∧ IsName placed := by
  unfold place at member
  split at member
  · exact .inl (List.mem_of_mem_drop member)
  · rename_i notUp
    split at member
    · exact .inl member
    · rename_i proper
      rw [not_or] at proper
      rcases List.mem_cons.mp member with rfl | old
      · exact .inr ⟨rfl, proper.1, proper.2, notUp⟩
      · exact .inl old

theorem mem_settle {segments : List (List Char)} {segment : List Char}
    (member : segment ∈ settle segments) : segment ∈ segments ∧ IsName segment := by
  have names : ∀ other ∈ segments.foldl place [], other ∈ segments ∧ IsName other := by
    apply List.foldlRecOn (motive := fun stack => ∀ other ∈ stack, other ∈ segments ∧ IsName other)
    · exact fun other none => absurd none List.not_mem_nil
    · intro stack known placed given other above
      rcases mem_place above with old | ⟨rfl, name⟩
      · exact known other old
      · exact ⟨given, name⟩
  exact names segment (List.mem_reverse.mp member)

theorem normalize_toList (base specifier : String) :
    (normalize base specifier).toList =
      joinWith ['/'] (segments base.toList specifier.toList) := by
  rw [normalize, String.toList_ofList]

/-- A normal form is empty or all its segments are names. -/
theorem normalize_isNormal (base specifier : String) :
    normalize base specifier = "" ∨ IsNormal (normalize base specifier) := by
  by_cases none : segments base.toList specifier.toList = []
  · left
    rw [normalize, none]
    rfl
  · right
    intro segment member
    rw [normalize_toList, splitAt_joinWith none] at member
    · exact (mem_settle member).2
    · intro part inside
      exact not_mem_of_mem_splitAt (mem_settle inside).1

/-- The path of a name in a directory, or of the name alone. -/
def within (directory : Option String) (name : String) : String :=
  directory.elim name fun directory => directory ++ "/" ++ name

theorem within_some_toList (directory name : String) :
    (within (some directory) name).toList = directory.toList ++ '/' :: name.toList := by
  simp [within]

theorem directory_within (directory : Option String) {name : String} (flat : '/' ∉ name.toList) :
    Path.directory (within directory name) = directory.getD "" := by
  cases directory with
  | none => simp [Path.directory, within, splitLast?_of_not_mem flat]
  | some directory =>
      rw [Path.directory, within_some_toList, splitLast?_append_mark _ flat]
      simp

theorem isNormal_within (directory : Option String) {name : String} (flat : '/' ∉ name.toList)
    (named : IsName name.toList) :
    IsNormal (within directory name) ↔ ∀ above ∈ directory, IsNormal above := by
  cases directory with
  | none => simpa [IsNormal, within, splitAt_of_not_mem flat] using named
  | some directory =>
      rw [IsNormal, within_some_toList, splitAt_append_mark, splitAt_of_not_mem flat]
      simp only [List.mem_append, List.mem_singleton, Option.mem_some_iff, forall_eq']
      constructor
      · exact fun names segment member => names segment (.inl member)
      · rintro names segment (inside | rfl)
        · exact names segment inside
        · exact named

theorem segments_sibling (directory : List Char) {name : List Char} (flat : '/' ∉ name)
    (named : IsName name) :
    segments directory ('.' :: '/' :: name) = settle (splitAt '/' directory) ++ [name] := by
  have parts : splitAt '/' ('.' :: '/' :: name) = [['.']] ++ [name] := by
    have split := splitAt_append_mark '/' ['.'] name
    rwa [splitAt_of_not_mem flat] at split
  rw [segments, joined, if_neg (by simp), splitAt_append_mark, parts, ← List.append_assoc,
    settle_concat_name _ named, settle_concat_dot]

theorem dot_slash_toList (name : String) : ("./" ++ name).toList = '.' :: '/' :: name.toList := by
  rw [String.toList_append]
  rfl

/-- Seen from a directory in normal form, a sibling has the path that it has in the directory. -/
theorem normalize_sibling {directory : Option String} {name : String} (flat : '/' ∉ name.toList)
    (named : IsName name.toList) (normal : ∀ above ∈ directory, IsNormal above) :
    normalize (directory.getD "") ("./" ++ name) = within directory name := by
  rw [← String.toList_inj, normalize_toList, dot_slash_toList, segments_sibling _ flat named]
  cases directory with
  | none =>
      change joinWith ['/'] [name.toList] = _
      rw [joinWith_singleton]
      rfl
  | some directory =>
      have names := normal directory rfl
      rw [Option.getD_some, settle_of_names names, within_some_toList, ← splitAt_of_not_mem flat,
        ← splitAt_append_mark, joinWith_splitAt]

/-- What follows a path without a slash is added to its last segment. -/
theorem exists_last_segment (path : List Char) :
    ∃ front last, ∀ extension, '/' ∉ extension →
      splitAt '/' (path ++ extension) = front ++ [last ++ extension] := by
  by_cases nested : '/' ∈ path
  · obtain ⟨after, before, reversed, flat⟩ :=
      List.eq_append_cons_of_mem (List.mem_reverse.mpr nested)
    have whole : path = before.reverse ++ '/' :: after.reverse := by
      rw [← List.reverse_reverse path, reversed, List.reverse_append, List.reverse_cons,
        List.append_assoc, List.singleton_append]
    refine ⟨splitAt '/' before.reverse, after.reverse, ?_⟩
    intro extension free
    have unbroken : '/' ∉ after.reverse ++ extension := by simp [flat, free]
    rw [whole, List.append_assoc, List.cons_append, splitAt_append_mark,
      splitAt_of_not_mem unbroken]
  · refine ⟨[], path, ?_⟩
    intro extension free
    have unbroken : '/' ∉ path ++ extension := by simp [nested, free]
    rw [splitAt_of_not_mem unbroken, List.nil_append]

/-- A longer name is still a name, so a path stays in normal form under an extension. -/
theorem isNormal_append {path extension : String} (normal : IsNormal path)
    (flat : '/' ∉ extension.toList) (long : 2 < extension.toList.length) :
    IsNormal (path ++ extension) := by
  obtain ⟨front, last, extended⟩ := exists_last_segment path.toList
  intro segment member
  rw [String.toList_append, extended _ flat] at member
  have plain := extended [] List.not_mem_nil
  rw [List.append_nil, List.append_nil] at plain
  rcases List.mem_append.mp member with inside | ends
  · exact normal segment (plain ▸ List.mem_append_left _ inside)
  · rw [List.mem_singleton.mp ends]
    apply isName_of_long
    rw [List.length_append]
    omega

end CodeSurvey.Path
