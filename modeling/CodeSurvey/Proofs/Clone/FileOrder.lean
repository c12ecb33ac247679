import CodeSurvey.Proofs.Clone.Limits
import Mathlib.Data.List.Zip
import Mathlib.Data.Multiset.Bind
import Mathlib.Data.Sym.Sym2

/-!
The order of the files in a search. A pair of windows is scored in one orientation only, the earlier file
first; but the score and the test on lengths are the same in both, so a search that leaves nothing out
finds the same duplicates in any order of the files, and compares as many pairs.
-/

set_option autoImplicit false

namespace CodeSurvey.Clone

variable {σ τ α : Type}

theorem agreeing_comm (a b : List Char) : agreeing a b = agreeing b a := by
  rw [agreeing, agreeing, ← List.zip_swap b a, List.countP_map]
  apply List.countP_congr
  rintro ⟨x, y⟩ _
  change (y == x) = true ↔ (x == y) = true
  rw [beq_iff_eq, beq_iff_eq]
  exact eq_comm

theorem similarity_comm (m : Measure σ τ) (a b : List Char) :
    similarity m a b = similarity m b a := by
  simp only [similarity, agreeing_comm a b, Nat.max_comm a.length b.length]

theorem isCandidate_comm (m : Measure σ τ) (threshold : τ) (a b : Block) :
    isCandidate m threshold a b = isCandidate m threshold b a := by
  simp only [isCandidate, Nat.min_comm a.content.length, Nat.max_comm a.content.length]

theorem isSimilar_comm (m : Measure σ τ) (threshold : τ) (a b : Block) :
    isSimilar m threshold (a, b) = isSimilar m threshold (b, a) := by
  simp only [isSimilar, similarity_comm m a.content]

/-- A finding without the order of its two windows. -/
def Duplicate.unordered (found : Duplicate σ) : Sym2 Block × σ × Int :=
  (s(found.left, found.right), found.similarity, found.lines)

theorem finding_unordered_comm (m : Measure σ τ) (window : Int) (a b : Block) :
    (finding m window (a, b)).unordered = (finding m window (b, a)).unordered := by
  simp only [Duplicate.unordered, finding, similarity_comm m a.content, Sym2.eq_swap (a := a)]

def tally (gives : Block × Block → Multiset α) (pairs : List (Block × Block)) : Multiset α :=
  (pairs : Multiset (Block × Block)).bind gives

theorem tally_candidatesOf (m : Measure σ τ) (threshold : τ)
    (gives : Block × Block → Multiset α) (left right : List Block) :
    tally gives (candidatesOf m threshold left right) =
      (left : Multiset Block).bind fun a => (right : Multiset Block).bind fun b =>
        if isCandidate m threshold a b then gives (a, b) else 0 := by
  have row : ∀ a : Block,
      (((right.filter (isCandidate m threshold a)).map fun b => (a, b) : List (Block × Block)) :
        Multiset (Block × Block)).bind gives =
      (right : Multiset Block).bind fun b =>
        if isCandidate m threshold a b then gives (a, b) else 0 := by
    intro a
    induction right with
    | nil => rfl
    | cons b rest ih =>
        rw [List.filter_cons, ← Multiset.cons_coe, Multiset.cons_bind, ← ih]
        by_cases candidate : isCandidate m threshold a b = true
        · rw [if_pos candidate, if_pos candidate, List.map_cons, ← Multiset.cons_coe,
            Multiset.cons_bind]
        · rw [if_neg candidate, if_neg candidate, Multiset.zero_add]
  rw [tally, candidatesOf, ← Multiset.coe_bind, Multiset.bind_assoc]
  exact Multiset.bind_congr fun a _ => row a

/-- The two nested loops over the windows of two files can change places. -/
theorem tally_candidatesOf_comm (m : Measure σ τ) (threshold : τ)
    {gives : Block × Block → Multiset α} (symmetric : ∀ a b, gives (a, b) = gives (b, a))
    (left right : List Block) :
    tally gives (candidatesOf m threshold left right) =
      tally gives (candidatesOf m threshold right left) := by
  rw [tally_candidatesOf, tally_candidatesOf, Multiset.bind_bind]
  refine Multiset.bind_congr fun b _ => Multiset.bind_congr fun a _ => ?_
  rw [isCandidate_comm m threshold a b, symmetric a b]

theorem tally_candidates_cons (m : Measure σ τ) (threshold : τ)
    (gives : Block × Block → Multiset α) (first : List Block) (rest : List (List Block)) :
    tally gives (candidates m threshold (first :: rest)) =
      ((rest : Multiset (List Block)).bind fun other =>
        tally gives (candidatesOf m threshold first other)) +
        tally gives (candidates m threshold rest) := by
  rw [tally, candidates, ← Multiset.coe_add, Multiset.add_bind, ← Multiset.coe_bind,
    Multiset.bind_assoc]
  rfl

/-- What pairs give in either orientation, the pairs that are compared give in any order of the files. -/
theorem tally_candidates_perm (m : Measure σ τ) (threshold : τ)
    {gives : Block × Block → Multiset α} (symmetric : ∀ a b, gives (a, b) = gives (b, a))
    {lists others : List (List Block)} (reordered : lists.Perm others) :
    tally gives (candidates m threshold lists) = tally gives (candidates m threshold others) := by
  induction reordered with
  | nil => rfl
  | cons first reordered ih =>
      rw [tally_candidates_cons, tally_candidates_cons, ih, Multiset.coe_eq_coe.mpr reordered]
  | swap first second rest =>
      -- Only the pairs of the first two files change their orientation.
      simp only [tally_candidates_cons, ← Multiset.cons_coe, Multiset.cons_bind]
      rw [tally_candidatesOf_comm m threshold symmetric second first]
      ac_rfl
  | trans _ _ first second => exact first.trans second

/-- What a pair of windows adds to the findings. -/
def gain (m : Measure σ τ) (threshold : τ) (window : Int) (pair : Block × Block) :
    Multiset (Sym2 Block × σ × Int) :=
  if isSimilar m threshold pair then {(finding m window pair).unordered} else 0

theorem gain_comm (m : Measure σ τ) (threshold : τ) (window : Int) (a b : Block) :
    gain m threshold window (a, b) = gain m threshold window (b, a) := by
  rw [gain, gain, isSimilar_comm, finding_unordered_comm]

theorem hits_unordered (m : Measure σ τ) (threshold : τ) (window : Int)
    (pairs : List (Block × Block)) :
    Multiset.ofList ((hits m threshold window pairs).map Duplicate.unordered) =
      tally (gain m threshold window) pairs := by
  induction pairs with
  | nil => rfl
  | cons pair rest ih =>
      rw [hits_cons, List.map_append, ← Multiset.coe_add, ih, tally, tally, ← Multiset.cons_coe,
        Multiset.cons_bind, gain]
      by_cases similar : isSimilar m threshold pair = true
      · rw [if_pos similar, if_pos similar]
        rfl
      · rw [if_neg similar, if_neg similar]
        rfl

theorem card_tally_singleton (pairs : List (Block × Block)) :
    (tally (fun _ => {()}) pairs).card = pairs.length := by
  simp [tally]

theorem search_comparisons_of_complete {m : Measure σ τ} {threshold : τ} {window minChars : Int}
    {budget : Budget} {clock : Clock} {files : List SourceFile}
    (complete : (search m threshold window minChars budget clock files).truncated = false) :
    (search m threshold window minChars budget clock files).comparisons =
      (searchedPairs m threshold window minChars budget files).length := by
  rw [search_eq_compare] at complete ⊢
  obtain ⟨scored, left, run⟩ := compare_scores m threshold window budget clock
    (searchedPairs m threshold window minChars budget files) 1
    ⟨[], !(windowReasons window minChars budget files).isEmpty,
      windowReasons window minChars budget files, 0⟩
  rcases run.ending with ⟨none, -, -⟩ | ⟨-, cut, -⟩
  · have all : searchedPairs m threshold window minChars budget files = scored := by
      rw [run.split, none, List.append_nil]
    rw [run.comparisons, Nat.zero_add, all]
  · rw [complete] at cut
    cases cut

/-- Two searches in files that differ in their order only, whatever their limits, find the same
duplicates, each as often and with the same similarity, and compare as many pairs, if both leave nothing
out. -/
theorem search_same_in_any_order (m : Measure σ τ) (threshold : τ) (window minChars : Int)
    {files others : List SourceFile} (reordered : files.Perm others) {budget otherBudget : Budget}
    {clock otherClock : Clock}
    (complete : (search m threshold window minChars budget clock files).truncated = false)
    (otherComplete :
      (search m threshold window minChars otherBudget otherClock others).truncated = false) :
    let result := search m threshold window minChars budget clock files
    let other := search m threshold window minChars otherBudget otherClock others
    Multiset.ofList (result.findings.map Duplicate.unordered) =
        Multiset.ofList (other.findings.map Duplicate.unordered) ∧
      result.comparisons = other.comparisons := by
  have lists := reordered.map fun file => blocks file window minChars
  dsimp only
  constructor
  · rw [search_findings_of_complete complete, search_findings_of_complete otherComplete,
      searchedPairs_of_complete complete, searchedPairs_of_complete otherComplete, hits_unordered,
      hits_unordered]
    exact tally_candidates_perm m threshold (gain_comm m threshold window) lists
  · rw [search_comparisons_of_complete complete, search_comparisons_of_complete otherComplete,
      searchedPairs_of_complete complete, searchedPairs_of_complete otherComplete,
      ← card_tally_singleton, ← card_tally_singleton,
      tally_candidates_perm m threshold (fun _ _ => rfl) lists]

/-- Three files of one line each, of which the second is close to both others. -/
def threeVersions : List SourceFile :=
  [⟨"a.js", "let x = 1", "js"⟩, ⟨"b.js", "let x = 12", "js"⟩, ⟨"c.js", "let y = 12", "js"⟩]

theorem search_same_in_any_order_of_three_versions :
    let result := search .double 0.8 1 1 {} (fun _ => 0) threeVersions
    let other := search .double 0.8 1 1 {} (fun _ => 0) threeVersions.reverse
    result.findings.length = 2 ∧
      Multiset.ofList (result.findings.map Duplicate.unordered) =
        Multiset.ofList (other.findings.map Duplicate.unordered) ∧
      result.comparisons = other.comparisons :=
  ⟨by decide +kernel,
    search_same_in_any_order .double 0.8 1 1 (List.reverse_perm threeVersions).symm
      (by decide +kernel) (by decide +kernel)⟩

end CodeSurvey.Clone
