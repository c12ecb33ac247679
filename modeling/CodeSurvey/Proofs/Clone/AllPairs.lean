import CodeSurvey.Proofs.Clone.Limits

/-!
The search with exact fractions against the comparison of all pairs. No share of equal characters is
above that of the shorter length in the longer, so passing over pairs by their lengths loses nothing;
a search that leaves nothing out reports every similar pair of windows of different files, once, in
the order of the places where the windows stand.
-/

set_option autoImplicit false

namespace CodeSurvey.Clone

theorem agreeing_le_min (a b : List Char) : agreeing a b ≤ min a.length b.length := by
  calc
    agreeing a b ≤ (a.zip b).length := List.countP_le_length
    _ = min a.length b.length := List.length_zip

theorem similarity_exact (a b : List Char) (filled : 0 < max a.length b.length) :
    similarity .exact a b = (agreeing a b : Rat) / (max a.length b.length : Nat) := by
  have positive : max a.length b.length ≠ 0 := by omega
  simp only [similarity, positive, ↓reduceIte, Measure.exact]

theorem isSimilar_exact {threshold : Rat} {pair : Block × Block} :
    isSimilar .exact threshold pair = true ↔
      threshold < similarity .exact pair.1.content pair.2.content := by
  simp only [isSimilar, Measure.exact, decide_eq_true_eq]

def areEmpty (pair : Block × Block) : Bool :=
  pair.1.content.isEmpty && pair.2.content.isEmpty

theorem areEmpty_iff (pair : Block × Block) :
    areEmpty pair = true ↔ pair.1.content = [] ∧ pair.2.content = [] := by
  simp [areEmpty]

theorem length_pos_of_not_areEmpty {pair : Block × Block} (filled : areEmpty pair = false) :
    0 < max pair.1.content.length pair.2.content.length := by
  cases left : pair.1.content with
  | nil =>
      cases right : pair.2.content with
      | nil => simp [areEmpty, left, right] at filled
      | cons first rest =>
          simp only [List.length_nil, List.length_cons]
          omega
  | cons first rest =>
      simp only [List.length_cons]
      omega

/-- A pair that is similar enough to be reported is a candidate: the characters it shares are at most
those of the shorter window. -/
theorem isCandidate_of_isSimilar {threshold : Rat} {pair : Block × Block}
    (filled : areEmpty pair = false) (similar : isSimilar .exact threshold pair = true) :
    isCandidate .exact threshold pair.1 pair.2 = true := by
  have positive := length_pos_of_not_areEmpty filled
  have above := isSimilar_exact.mp similar
  rw [similarity_exact _ _ positive, Rat.lt_div_iff (by exact_mod_cast positive)] at above
  have shared : (agreeing pair.1.content pair.2.content : Rat) ≤
      (min pair.1.content.length pair.2.content.length : Nat) := by
    exact_mod_cast agreeing_le_min _ _
  have long := Rat.not_le.mpr (Std.lt_of_lt_of_le above shared)
  simp only [isCandidate, Measure.exact, long, decide_false, Bool.not_false]

theorem not_isCandidate_of_areEmpty {threshold : Rat} {pair : Block × Block}
    (empty : areEmpty pair = true) :
    isCandidate .exact threshold pair.1 pair.2 = false := by
  obtain ⟨left, right⟩ := (areEmpty_iff pair).mp empty
  simp [isCandidate, Measure.exact, left, right]

/-- Passing over pairs by their lengths leaves out two empty windows and nothing else that would be
found. -/
theorem hits_candidates (threshold : Rat) (window : Int) (pairs : List (Block × Block)) :
    hits .exact threshold window
        (pairs.filter fun pair => isCandidate .exact threshold pair.1 pair.2) =
      hits .exact threshold window (pairs.filter fun pair => !areEmpty pair) := by
  unfold hits
  rw [List.filter_filter, List.filter_filter]
  congr 1
  apply List.filter_congr
  intro pair _
  cases similar : isSimilar .exact threshold pair with
  | false => rfl
  | true =>
      cases empty : areEmpty pair with
      | false => rw [isCandidate_of_isSimilar empty similar]; rfl
      | true => rw [not_isCandidate_of_areEmpty empty]; rfl

/-- Where the two windows of a pair stand: the indices of their files, and of the windows among those
of the files. -/
structure Place where
  leftFile : Nat
  rightFile : Nat
  leftBlock : Nat
  rightBlock : Nat

/-- The order of the four indices, the files first. -/
def Place.Before (a b : Place) : Prop :=
  a.leftFile < b.leftFile ∨ a.leftFile = b.leftFile ∧
    (a.rightFile < b.rightFile ∨ a.rightFile = b.rightFile ∧
      (a.leftBlock < b.leftBlock ∨ a.leftBlock = b.leftBlock ∧ a.rightBlock < b.rightBlock))

/-- All pairs of windows of two files, with their places. -/
def pairsOf (leftFile rightFile : Nat) (left right : List Block) :
    List (Place × Block × Block) :=
  left.zipIdx.flatMap fun a =>
    right.zipIdx.map fun b => (⟨leftFile, rightFile, a.2, b.2⟩, a.1, b.1)

/-- All pairs of windows of different files, with their places; the first file has an index. -/
def allPairs : Nat → List (List Block) → List (Place × Block × Block)
  | _, [] => []
  | index, first :: rest =>
    ((rest.zipIdx (index + 1)).flatMap fun other => pairsOf index other.2 first other.1) ++
      allPairs (index + 1) rest

theorem pairsOf_candidates {σ τ : Type} (m : Measure σ τ) (threshold : τ)
    (leftFile rightFile : Nat) (left right : List Block) :
    ((pairsOf leftFile rightFile left right).map (·.2)).filter
        (fun pair => isCandidate m threshold pair.1 pair.2) =
      candidatesOf m threshold left right := by
  have row : ∀ a : Block,
      (right.zipIdx.map fun b => (a, b.1)).filter
          (fun pair => isCandidate m threshold pair.1 pair.2) =
        (right.filter (isCandidate m threshold a)).map fun b => (a, b) := by
    intro a
    have plain : (right.zipIdx.map fun b => (a, b.1)) = right.map fun b => (a, b) := by
      calc
        _ = (right.zipIdx.map Prod.fst).map fun b => (a, b) := by rw [List.map_map]; rfl
        _ = right.map fun b => (a, b) := by rw [List.zipIdx_map_fst]
    rw [plain, List.filter_map]
    rfl
  unfold pairsOf candidatesOf
  rw [List.map_flatMap, List.filter_flatMap]
  simp only [List.map_map, Function.comp_def, row]
  rw [← List.flatMap_map Prod.fst (fun a => (right.filter (isCandidate m threshold a)).map (a, ·)),
    List.zipIdx_map_fst]

theorem allPairs_candidates {σ τ : Type} (m : Measure σ τ) (threshold : τ) (index : Nat)
    (lists : List (List Block)) :
    ((allPairs index lists).map (·.2)).filter
        (fun pair => isCandidate m threshold pair.1 pair.2) =
      candidates m threshold lists := by
  induction lists generalizing index with
  | nil => rfl
  | cons first rest ih =>
      rw [allPairs, candidates, List.map_append, List.filter_append, ih, List.map_flatMap,
        List.filter_flatMap]
      simp only [pairsOf_candidates]
      rw [← List.flatMap_map Prod.fst (candidatesOf m threshold first), List.zipIdx_map_fst]

theorem mem_pairsOf {leftFile rightFile : Nat} {left right : List Block} {place : Place}
    {pair : Block × Block} :
    (place, pair) ∈ pairsOf leftFile rightFile left right ↔
      place.leftFile = leftFile ∧ place.rightFile = rightFile ∧
        left[place.leftBlock]? = some pair.1 ∧ right[place.rightBlock]? = some pair.2 := by
  simp only [pairsOf, List.mem_flatMap, List.mem_map, List.mem_zipIdx_iff_getElem?]
  constructor
  · rintro ⟨⟨a, i⟩, left, ⟨b, j⟩, right, same⟩
    cases same
    exact ⟨rfl, rfl, left, right⟩
  · rintro ⟨rfl, rfl, left, right⟩
    exact ⟨(pair.1, place.leftBlock), left, (pair.2, place.rightBlock), right, rfl⟩

/-- The pairs whose left window is in the first of some files. -/
theorem mem_first_pairs {index : Nat} {first : List Block} {rest : List (List Block)}
    {place : Place} {pair : Block × Block} :
    ((place, pair) ∈ (rest.zipIdx (index + 1)).flatMap fun other =>
        pairsOf index other.2 first other.1) ↔
      place.leftFile = index ∧ index < place.rightFile ∧
        first[place.leftBlock]? = some pair.1 ∧
        ∃ right, rest[place.rightFile - (index + 1)]? = some right ∧
          right[place.rightBlock]? = some pair.2 := by
  simp only [List.mem_flatMap, mem_pairsOf, List.mem_zipIdx_iff_le_and_getElem?_sub]
  constructor
  · rintro ⟨⟨right, file⟩, ⟨later, found⟩, here, rfl, leftBlock, rightBlock⟩
    exact ⟨here, later, leftBlock, right, found, rightBlock⟩
  · rintro ⟨here, later, leftBlock, right, found, rightBlock⟩
    exact ⟨(right, place.rightFile), ⟨later, found⟩, here, rfl, leftBlock, rightBlock⟩

theorem mem_allPairs {index : Nat} {lists : List (List Block)} {place : Place}
    {pair : Block × Block} :
    (place, pair) ∈ allPairs index lists ↔
      index ≤ place.leftFile ∧ place.leftFile < place.rightFile ∧
        ∃ left right, lists[place.leftFile - index]? = some left ∧
          lists[place.rightFile - index]? = some right ∧
          left[place.leftBlock]? = some pair.1 ∧ right[place.rightBlock]? = some pair.2 := by
  induction lists generalizing index with
  | nil => simp [allPairs]
  | cons first rest ih =>
      -- Behind the first file, an index into all lists is one into the rest, one lower.
      have behind : ∀ file, index < file →
          (first :: rest)[file - index]? = rest[file - (index + 1)]? := by
        intro file later
        have next : file - index = file - (index + 1) + 1 := by omega
        rw [next, List.getElem?_cons_succ]
      rw [allPairs, List.mem_append, mem_first_pairs, ih]
      constructor
      · rintro (⟨here, later, leftBlock, right, found, rightBlock⟩ |
          ⟨later, ordered, left, right, leftFound, rightFound, leftBlock, rightBlock⟩)
        · refine ⟨by omega, by omega, first, right, ?_, ?_, leftBlock, rightBlock⟩
          · rw [here, Nat.sub_self, List.getElem?_cons_zero]
          · rw [behind _ later, found]
        · refine ⟨by omega, ordered, left, right, ?_, ?_, leftBlock, rightBlock⟩
          · rw [behind _ later, leftFound]
          · rw [behind _ (by omega), rightFound]
      · rintro ⟨above, ordered, left, right, leftFound, rightFound, leftBlock, rightBlock⟩
        rw [behind _ (by omega)] at rightFound
        by_cases here : place.leftFile = index
        · rw [here, Nat.sub_self, List.getElem?_cons_zero] at leftFound
          cases leftFound
          exact .inl ⟨here, by omega, leftBlock, right, rightFound, rightBlock⟩
        · rw [behind _ (by omega)] at leftFound
          exact .inr ⟨by omega, ordered, left, right, leftFound, rightFound, leftBlock, rightBlock⟩

private theorem zipIdx_indices {α : Type} (items : List α) (start : Nat) :
    (items.zipIdx start).Pairwise fun a b => a.2 < b.2 := by
  rw [← List.pairwise_map (f := Prod.snd) (R := (· < ·)), List.zipIdx_map_snd]
  exact List.pairwise_lt_range'

theorem pairsOf_ordered (leftFile rightFile : Nat) (left right : List Block) :
    (pairsOf leftFile rightFile left right).Pairwise fun a b => a.1.Before b.1 := by
  rw [pairsOf, List.pairwise_flatMap]
  constructor
  · intro a _
    rw [List.pairwise_map]
    exact (zipIdx_indices right 0).imp fun next => .inr ⟨rfl, .inr ⟨rfl, .inr ⟨rfl, next⟩⟩⟩
  · apply (zipIdx_indices left 0).imp
    intro a b next c fromA d fromB
    obtain ⟨_, _, rfl⟩ := List.mem_map.mp fromA
    obtain ⟨_, _, rfl⟩ := List.mem_map.mp fromB
    exact .inr ⟨rfl, .inr ⟨rfl, .inl next⟩⟩

theorem allPairs_ordered (index : Nat) (lists : List (List Block)) :
    (allPairs index lists).Pairwise fun a b => a.1.Before b.1 := by
  induction lists generalizing index with
  | nil => exact .nil
  | cons first rest ih =>
      rw [allPairs, List.pairwise_append]
      refine ⟨?_, ih (index + 1), ?_⟩
      · rw [List.pairwise_flatMap]
        refine ⟨fun other _ => pairsOf_ordered index other.2 first other.1, ?_⟩
        apply (zipIdx_indices rest (index + 1)).imp
        intro a b next c fromA d fromB
        obtain ⟨leftC, rightC, -⟩ := mem_pairsOf.mp fromA
        obtain ⟨leftD, rightD, -⟩ := mem_pairsOf.mp fromB
        exact .inr ⟨leftC.trans leftD.symm, .inl (rightC ▸ rightD ▸ next)⟩
      · intro a inFirst b inRest
        have here := (mem_first_pairs.mp inFirst).1
        have later := (mem_allPairs.mp inRest).1
        exact .inl (by omega)

/-- A finding as the comparison of all pairs would give it: windows of two files, the earlier file
first, not both empty, whose similarity is above the threshold. -/
structure IsDuplicate (files : List SourceFile) (window minChars : Int) (threshold : Rat)
    (place : Place) (found : Duplicate Rat) : Prop where
  ordered : place.leftFile < place.rightFile
  left : ∃ file, files[place.leftFile]? = some file ∧
    (blocks file window minChars)[place.leftBlock]? = some found.left
  right : ∃ file, files[place.rightFile]? = some file ∧
    (blocks file window minChars)[place.rightBlock]? = some found.right
  filled : ¬(found.left.content = [] ∧ found.right.content = [])
  score : found.similarity = similarity .exact found.left.content found.right.content
  above : threshold < found.similarity
  lines : found.lines = window

/-- The pairs of windows that are similar and not both empty, with their places. -/
def similarPairs (threshold : Rat) (lists : List (List Block)) : List (Place × Block × Block) :=
  (allPairs 0 lists).filter fun entry => isSimilar .exact threshold entry.2 && !areEmpty entry.2

/-- What is found among the candidates is what is found among all pairs. -/
theorem hits_similarPairs (threshold : Rat) (window : Int) (lists : List (List Block)) :
    hits .exact threshold window (candidates .exact threshold lists) =
      (similarPairs threshold lists).map fun entry => finding .exact window entry.2 := by
  rw [← allPairs_candidates .exact threshold 0 lists, hits_candidates, hits, List.filter_filter,
    List.filter_map, List.map_map]
  rfl

theorem mem_similarPairs {files : List SourceFile} {window minChars : Int} {threshold : Rat}
    {place : Place} {pair : Block × Block} :
    (place, pair) ∈
        similarPairs threshold (files.map fun file => blocks file window minChars) ↔
      IsDuplicate files window minChars threshold place (finding .exact window pair) := by
  have filled : areEmpty pair = false ↔ ¬(pair.1.content = [] ∧ pair.2.content = []) := by
    rw [← areEmpty_iff, Bool.not_eq_true]
  simp only [similarPairs, List.mem_filter, mem_allPairs, Nat.sub_zero, List.getElem?_map,
    Option.map_eq_some_iff, Bool.and_eq_true, Bool.not_eq_true', isSimilar_exact, filled]
  constructor
  · rintro ⟨⟨-, ordered, _, _, ⟨left, leftFile, rfl⟩, ⟨right, rightFile, rfl⟩, leftBlock,
      rightBlock⟩, above, filled⟩
    exact ⟨ordered, ⟨left, leftFile, leftBlock⟩, ⟨right, rightFile, rightBlock⟩, filled, rfl, above,
      rfl⟩
  · rintro ⟨ordered, ⟨left, leftFile, leftBlock⟩, ⟨right, rightFile, rightBlock⟩, filled, -, above, -⟩
    exact ⟨⟨Nat.zero_le _, ordered, _, _, ⟨left, leftFile, rfl⟩, ⟨right, rightFile, rfl⟩, leftBlock,
      rightBlock⟩, above, filled⟩

theorem IsDuplicate.eq_finding {files : List SourceFile} {window minChars : Int} {threshold : Rat}
    {place : Place} {found : Duplicate Rat}
    (duplicate : IsDuplicate files window minChars threshold place found) :
    finding .exact window (found.left, found.right) = found := by
  cases found
  rw [finding, ← duplicate.score, ← duplicate.lines]

/-- With exact fractions, passing over pairs by their lengths never loses a similar one, two empty
windows apart; and a search that leaves nothing out is the comparison of all pairs: its findings are
the duplicates, each at one place, in the order of the places. -/
theorem search_exact_all_pairs (files : List SourceFile) (window minChars : Int) (threshold : Rat)
    (budget : Budget) (clock : Clock) :
    (∀ a b : Block, ¬(a.content = [] ∧ b.content = []) →
      threshold < similarity .exact a.content b.content →
      isCandidate .exact threshold a b = true) ∧
    ((search .exact threshold window minChars budget clock files).truncated = false →
      ∃ table : List (Place × Duplicate Rat),
        table.map (·.2) = (search .exact threshold window minChars budget clock files).findings ∧
        table.Pairwise (fun a b => a.1.Before b.1) ∧
        ∀ place found, (place, found) ∈ table ↔
          IsDuplicate files window minChars threshold place found) := by
  constructor
  · intro a b filled above
    have candidate : isCandidate .exact threshold (a, b).1 (a, b).2 = true :=
      isCandidate_of_isSimilar (by rwa [← Bool.not_eq_true, areEmpty_iff])
        (by rwa [isSimilar_exact])
    exact candidate
  · intro whole
    let lists := files.map fun file => blocks file window minChars
    refine ⟨(similarPairs threshold lists).map fun entry =>
      (entry.1, finding .exact window entry.2), ?_, ?_, ?_⟩
    · rw [search_findings_of_complete whole, searchedPairs_of_complete whole, hits_similarPairs,
        List.map_map]
      rfl
    · rw [List.pairwise_map]
      exact (allPairs_ordered 0 lists).filter _
    · intro place found
      rw [List.mem_map]
      constructor
      · rintro ⟨⟨_, pair⟩, member, same⟩
        cases same
        exact mem_similarPairs.mp member
      · intro duplicate
        have same := duplicate.eq_finding
        refine ⟨(place, found.left, found.right), mem_similarPairs.mpr (same.symm ▸ duplicate), ?_⟩
        rw [same]

/-- Two files of two lines, of which one line is in both. -/
def sharedLine : List SourceFile :=
  [⟨"a", "x = 1\ny = 2", ""⟩, ⟨"b", "x = 1\ny = 3", ""⟩]

theorem search_exact_all_pairs_of_shared_line :
    (search .exact (9 / 10) 1 0 {} (fun _ => 0) sharedLine).findings.length = 1 ∧
      ∃ table : List (Place × Duplicate Rat),
        table.map (·.2) = (search .exact (9 / 10) 1 0 {} (fun _ => 0) sharedLine).findings ∧
        table.Pairwise (fun a b => a.1.Before b.1) ∧
        ∀ place found, (place, found) ∈ table ↔
          IsDuplicate sharedLine 1 0 (9 / 10) place found :=
  ⟨by decide +kernel,
    (search_exact_all_pairs sharedLine 1 0 (9 / 10) {} fun _ => 0).2 (by decide +kernel)⟩

end CodeSurvey.Clone
