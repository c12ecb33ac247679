import CodeSurvey.Proofs.Path.Normal

/-!
Normal forms put one behind the other. What is left of a list of segments is all that later segments see
of it, however far they climb; so a specifier read from a normal form is read from all that led to it.
-/

set_option autoImplicit false

namespace CodeSurvey.Path

open Text

theorem settle_settle_append (front back : List (List Char)) :
    settle (settle front ++ back) = settle (front ++ back) := by
  have names : ∀ segment ∈ settle front, IsName segment := fun _ member => (mem_settle member).2
  have stack : (settle front).foldl place [] = front.foldl place [] := by
    rw [foldl_place_of_names [] names, List.append_nil, settle, List.reverse_reverse]
  rw [settle, List.foldl_append, stack, ← List.foldl_append]
  rfl

theorem settle_empty_cons (segments : List (List Char)) : settle ([] :: segments) = settle segments :=
  rfl

theorem foldl_place_up (count : Nat) (stack : List (List Char)) :
    (List.replicate count ['.', '.']).foldl place stack = stack.drop count := by
  induction count generalizing stack with
  | zero => rfl
  | succ count ih =>
      have popped : place stack ['.', '.'] = stack.drop 1 := rfl
      rw [List.replicate_succ, List.foldl_cons, ih, popped, List.drop_drop, Nat.add_comm]

/-- Each double dot takes one segment off the end of what is left, while there is one. -/
theorem settle_append_up (front : List (List Char)) (count : Nat) :
    settle (front ++ List.replicate count ['.', '.']) =
      (settle front).take ((settle front).length - count) := by
  rw [settle, List.foldl_append, foldl_place_up, List.reverse_drop, settle, List.length_reverse]

/-- Slashes in front of a path give empty segments only. -/
theorem settle_splitAt_dropWhile (text : List Char) :
    settle (splitAt '/' (text.dropWhile (· == '/'))) = settle (splitAt '/' text) := by
  induction text with
  | nil => rfl
  | cons c rest ih =>
      by_cases slash : c = '/'
      · subst slash
        rw [List.dropWhile_cons_of_pos (by decide), ih, splitAt_cons_mark, settle_empty_cons]
      · rw [List.dropWhile_cons_of_neg (by simpa using slash)]

/-- The segments of a rooted specifier are its own. -/
theorem segments_of_rooted (base : List Char) {specifier : List Char}
    (rooted : specifier.head? = some '/') :
    segments base specifier = settle (splitAt '/' specifier) := by
  rw [segments, joined, if_pos rooted, settle_splitAt_dropWhile]

/-- Any other specifier goes on from its base. -/
theorem segments_of_not_rooted (base : List Char) {specifier : List Char}
    (relative : specifier.head? ≠ some '/') :
    segments base specifier = settle (splitAt '/' base ++ splitAt '/' specifier) := by
  rw [segments, joined, if_neg relative, splitAt_append_mark]

/-- From the root, a path has what is left of its own segments. -/
theorem segments_from_root (path : List Char) :
    segments [] path = settle (splitAt '/' path) := by
  by_cases rooted : path.head? = some '/'
  · exact segments_of_rooted [] rooted
  · rw [segments_of_not_rooted [] rooted]
    exact settle_empty_cons _

/-- The segments of a normal form can be read off its text; the empty text has an empty segment, which
does not count. -/
theorem settle_splitAt_joinWith {names : List (List Char)}
    (named : ∀ segment ∈ names, IsName segment) (flat : ∀ segment ∈ names, '/' ∉ segment) :
    settle (splitAt '/' (joinWith ['/'] names)) = names := by
  by_cases none : names = []
  · subst none
    rfl
  · rw [splitAt_joinWith none flat, settle_of_names named]

theorem settle_splitAt_normalize (base specifier : String) :
    settle (splitAt '/' (normalize base specifier).toList) =
      segments base.toList specifier.toList := by
  rw [normalize_toList]
  apply settle_splitAt_joinWith
  · intro segment member
    exact (mem_settle member).2
  · intro segment member
    exact not_mem_of_mem_splitAt (mem_settle member).1

theorem normalize_eq_of_segments {base specifier base' specifier' : String}
    (same : segments base.toList specifier.toList = segments base'.toList specifier'.toList) :
    normalize base specifier = normalize base' specifier' := by
  rw [normalize, normalize, same]

theorem segments_append (base : List Char) {first second : List Char} (filled : first ≠ []) :
    segments base (first ++ '/' :: second) =
      settle (segments base first ++ splitAt '/' second) := by
  have begins : (first ++ '/' :: second).head? = first.head? := by
    cases first with
    | nil => exact absurd rfl filled
    | cons c rest => rfl
  by_cases rooted : first.head? = some '/'
  · rw [segments_of_rooted base (begins.trans rooted), segments_of_rooted base rooted,
      splitAt_append_mark, settle_settle_append]
  · rw [segments_of_not_rooted base (begins ▸ rooted), segments_of_not_rooted base rooted,
      splitAt_append_mark, settle_settle_append, List.append_assoc]

/-- Normalization gives the empty path or one whose segments are all names, leaves its own results as
they are, and composes: a specifier that is not rooted, read from where a first one leads, leads to where
both lead together. -/
theorem normalize_composes (base first : String) :
    (normalize base first = "" ∨ IsNormal (normalize base first)) ∧
      normalize "" (normalize base first) = normalize base first ∧
      (first ≠ "" → ∀ second : String, second.toList.head? ≠ some '/' →
        normalize (normalize base first) second = normalize base (first ++ "/" ++ second)) := by
  refine ⟨normalize_isNormal base first, ?_, ?_⟩
  · apply normalize_eq_of_segments
    rw [String.toList_empty, segments_from_root, settle_splitAt_normalize]
  · intro filled second relative
    have some : first.toList ≠ [] := by
      intro empty
      exact filled (String.toList_eq_nil_iff.mp empty)
    have both : (first ++ "/" ++ second).toList = first.toList ++ '/' :: second.toList := by
      simp
    apply normalize_eq_of_segments
    rw [both, segments_append _ some, segments_of_not_rooted _ relative, ← settle_settle_append,
      settle_splitAt_normalize]

theorem normalize_composes_of_climbing_specifier :
    normalize "src/app" "..//lib/./" = "src/lib" ∧
      normalize (normalize "src/app" "..//lib/./") "../../../x" =
        normalize "src/app" ("..//lib/./" ++ "/" ++ "../../../x") :=
  ⟨by decide, (normalize_composes "src/app" "..//lib/./").2.2 (by decide) "../../../x" (by decide)⟩

end CodeSurvey.Path
