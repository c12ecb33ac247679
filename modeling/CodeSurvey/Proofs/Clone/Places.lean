import CodeSurvey.Proofs.Clone.AllPairs
import CodeSurvey.Proofs.Decimal.Quotient

set_option autoImplicit false

namespace CodeSurvey.Clone

/-- The window is so many lines in a row of a file. -/
structure Block.LiesIn (block : Block) (window : Int) (file : SourceFile) : Prop where
  path : block.file = file.path
  first : 1 ≤ block.startLine
  ordered : block.startLine ≤ block.endLine
  last : block.endLine ≤ file.lines.length
  size : block.endLine - block.startLine + 1 = window

theorem blocks_liesIn {file : SourceFile} {window minChars : Int} {block : Block}
    (positive : 1 ≤ window) (member : block ∈ blocks file window minChars) :
    block.LiesIn window file := by
  rw [blocks, blocksOf, List.mem_filter, List.mem_map] at member
  obtain ⟨⟨index, inside, rfl⟩, -⟩ := member
  rw [List.mem_range, windowCount] at inside
  refine ⟨rfl, ?_, ?_, ?_, ?_⟩ <;> simp only [blockAt] <;> omega

theorem mem_of_cappedBlocks {budget : Budget} {window minChars : Int} {file : SourceFile}
    {block : Block} (member : block ∈ (cappedBlocks budget window minChars file).1) :
    block ∈ blocks file window minChars := by
  unfold cappedBlocks at member
  dsimp only at member
  split at member
  · exact List.mem_of_mem_take member
  · exact member

/-- The windows of a compared pair come from an earlier and a later list. -/
theorem mem_candidates {σ τ : Type} {m : Measure σ τ} {threshold : τ} {lists : List (List Block)}
    {pair : Block × Block} (member : pair ∈ candidates m threshold lists) :
    ∃ i j : Nat, i < j ∧ (∃ left, lists[i]? = some left ∧ pair.1 ∈ left) ∧
      ∃ right, lists[j]? = some right ∧ pair.2 ∈ right := by
  rw [← allPairs_candidates m threshold 0, List.mem_filter, List.mem_map] at member
  obtain ⟨⟨⟨place, _⟩, listed, rfl⟩, -⟩ := member
  obtain ⟨-, less, left, right, atLeft, atRight, first, second⟩ := mem_allPairs.mp listed
  exact ⟨place.leftFile, place.rightFile, less, ⟨left, atLeft, List.mem_of_getElem? first⟩,
    right, atRight, List.mem_of_getElem? second⟩

/-- Whatever is found is a similar pair of windows of two files, one before the other. -/
theorem mem_search_findings {σ τ : Type} {m : Measure σ τ} {threshold : τ} {window minChars : Int}
    {budget : Budget} {clock : Clock} {files : List SourceFile} {found : Duplicate σ}
    (member : found ∈ (search m threshold window minChars budget clock files).findings) :
    (∃ (i j : Nat) (left right : SourceFile), i < j ∧ files[i]? = some left ∧ files[j]? = some right ∧
      found.left ∈ blocks left window minChars ∧ found.right ∈ blocks right window minChars) ∧
    found.similarity = similarity m found.left.content found.right.content ∧
    m.above found.similarity threshold = true := by
  unfold search at member
  dsimp only at member
  obtain ⟨scored, rest, run⟩ := compare_scores m threshold window budget clock _ _ _
  rw [run.findings, List.nil_append, hits, List.mem_map] at member
  obtain ⟨pair, kept, rfl⟩ := member
  obtain ⟨inScored, similar⟩ := List.mem_filter.mp kept
  refine ⟨?_, rfl, similar⟩
  have listed := run.split ▸ List.mem_append_left rest inScored
  obtain ⟨i, j, less, ⟨left, atLeft, first⟩, right, atRight, second⟩ := mem_candidates listed
  rw [List.map_map, List.getElem?_map, Option.map_eq_some_iff] at atLeft atRight
  obtain ⟨leftFile, hasLeft, rfl⟩ := atLeft
  obtain ⟨rightFile, hasRight, rfl⟩ := atRight
  exact ⟨i, j, leftFile, rightFile, less, hasLeft, hasRight, mem_of_cappedBlocks first,
    mem_of_cappedBlocks second⟩

theorem agreeing_le_max (a b : List Char) : agreeing a b ≤ max a.length b.length := by
  have shared := agreeing_le_min a b
  omega

/-- A similarity above a threshold is a share: at least none and at most all. -/
theorem similarity_double_in_unit {a b : List Char} {threshold : Float}
    (above : Measure.double.above (similarity .double a b) threshold = true) :
    0 ≤ similarity .double a b ∧ similarity .double a b ≤ 1 := by
  unfold similarity at above ⊢
  by_cases empty : max a.length b.length = 0
  · rw [if_pos empty]
    exact ⟨by decide +kernel, by decide +kernel⟩
  · rw [if_neg empty] at above ⊢
    exact Double.div_ofNat_in_unit (agreeing_le_max a b) (Nat.pos_of_ne_zero empty)
      (of_decide_eq_true above)

end CodeSurvey.Clone
