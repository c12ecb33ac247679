import CodeSurvey.Clone.Block
import CodeSurvey.Proofs.Clone.EdgeBlanks
import CodeSurvey.Proofs.Text.Parts
import Mathlib.Data.List.Forall2

set_option autoImplicit false

namespace CodeSurvey.Clone

open Text

def isTrail (c : Char) : Bool :=
  isBlank c && c != '\n'

/-- A layout of one line: the spaces and tabs it begins with and the blanks it ends in. -/
structure Layout where
  indent : List Char
  trail : List Char
  indents : ∀ c ∈ indent, isIndent c = true
  trails : ∀ c ∈ trail, isTrail c = true

def bare (line : List Char) : List Char :=
  dropEndWhile isTrail (line.dropWhile isIndent)

/-- A line in another layout than its own. -/
def Layout.lay (layout : Layout) (line : List Char) : List Char :=
  layout.indent ++ (bare line ++ layout.trail)

theorem isTrail_iff {c : Char} : isTrail c = true ↔ isBlank c = true ∧ c ≠ '\n' := by
  simp [isTrail]

theorem isTrail_of_isIndent {c : Char} (indent : isIndent c = true) : isTrail c = true := by
  have cases : c = ' ' ∨ c = '\t' := by simpa [isIndent] using indent
  rcases cases with rfl | rfl
  · decide
  · decide

def Layout.own (line : List Char) : Layout where
  indent := line.takeWhile isIndent
  trail := ((line.dropWhile isIndent).reverse.takeWhile isTrail).reverse
  indents := List.all_eq_true.mp List.all_takeWhile
  trails := by
    intro c member
    exact List.all_eq_true.mp List.all_takeWhile c (List.mem_reverse.mp member)

theorem Layout.lay_own (line : List Char) : (Layout.own line).lay line = line := by
  have behind : bare line ++ (Layout.own line).trail = line.dropWhile isIndent := by
    rw [bare, dropEndWhile, Layout.own, ← List.reverse_append, List.takeWhile_append_dropWhile,
      List.reverse_reverse]
  rw [Layout.lay, behind]
  exact List.takeWhile_append_dropWhile

/-- Spaces and tabs at the beginning of a line. -/
theorem plain_indent {front run : List Char} (back : List Char)
    (begins : beginsLine (lastOf none front) = true) (indents : ∀ c ∈ run, isIndent c = true) :
    plain (front ++ (run ++ back)) = plain (front ++ back) := by
  induction run with
  | nil => rfl
  | cons c run ih =>
      have indent := indents c List.mem_cons_self
      have blank := isTrail_iff.mp (isTrail_of_isIndent indent)
      rw [List.cons_append, plain_of_atEdge ⟨blank.1, blank.2, .inl ⟨indent, begins⟩⟩]
      exact ih fun d member => indents d (List.mem_cons_of_mem _ member)

/-- Blanks at the end of a line. -/
theorem plain_trail {run back : List Char} (front : List Char) (ends : endsLine back = true)
    (trails : ∀ c ∈ run, isTrail c = true) :
    plain (front ++ (run ++ back)) = plain (front ++ back) := by
  induction run generalizing front with
  | nil => rfl
  | cons c run ih =>
      have blank := isTrail_iff.mp (trails c List.mem_cons_self)
      -- The blanks behind the first go first: then the end of the line follows it.
      have rest := ih (front ++ [c]) fun d member => trails d (List.mem_cons_of_mem _ member)
      rw [List.append_assoc, List.append_assoc, List.singleton_append, List.singleton_append] at rest
      rw [List.cons_append, rest, plain_of_atEdge ⟨blank.1, blank.2, .inr ends⟩]

theorem plain_bare (layout : Layout) (line : List Char) {front back : List Char}
    (begins : beginsLine (lastOf none front) = true) (ends : endsLine back = true) :
    plain (front ++ (layout.lay line ++ back)) = plain (front ++ (bare line ++ back)) := by
  calc
    plain (front ++ (layout.lay line ++ back))
      = plain (front ++ (layout.indent ++ (bare line ++ (layout.trail ++ back)))) := by
        simp only [Layout.lay, List.append_assoc]
    _ = plain ((front ++ bare line) ++ (layout.trail ++ back)) := by
        rw [plain_indent _ begins layout.indents, List.append_assoc]
    _ = plain (front ++ (bare line ++ back)) := by
        rw [plain_trail _ ends layout.trails, List.append_assoc]

/-- A whole line, in its own layout and in another. -/
theorem plain_lay (layout : Layout) (line : List Char) {front back : List Char}
    (begins : beginsLine (lastOf none front) = true) (ends : endsLine back = true) :
    plain (front ++ (layout.lay line ++ back)) = plain (front ++ (line ++ back)) := by
  have own := plain_bare (Layout.own line) line begins ends
  rw [Layout.lay_own] at own
  rw [plain_bare layout line begins ends, own]

/-- The second line is the first in some layout. -/
def Relaid (line other : List Char) : Prop :=
  ∃ layout : Layout, other = layout.lay line

/-- Lines one after another, behind the end of a line. -/
theorem plain_unlines {lines others : List (List Char)} (relaid : List.Forall₂ Relaid lines others)
    {front : List Char} (begins : beginsLine (lastOf none front) = true) :
    plain (front ++ unlines others) = plain (front ++ unlines lines) := by
  induction relaid generalizing front with
  | nil => rfl
  | @cons line other lines others first rest ih =>
      obtain ⟨layout, rfl⟩ := first
      cases rest with
      | nil =>
          have whole := plain_lay layout line begins (rfl : endsLine [] = true)
          rw [List.append_nil, List.append_nil] at whole
          simpa only [unlines, joinWith_singleton] using whole
      | @cons next following lines others second rest =>
          have behind : beginsLine (lastOf none (front ++ (line ++ ['\n']))) = true := by
            simp [lastOf_none, beginsLine]
          have later := ih behind
          simp only [unlines, List.append_assoc, List.singleton_append] at later ⊢
          rw [joinWith_cons_cons, joinWith_cons_cons, plain_lay layout line begins rfl, later]

theorem slice_forall₂ {α : Type} {R : α → α → Prop} {items others : List α}
    (related : List.Forall₂ R items others) (start : Nat) (stop : Int) :
    List.Forall₂ R (slice items start stop) (slice others start stop) := by
  rw [slice, slice, capped, capped, related.length_eq]
  exact List.forall₂_drop _ (List.forall₂_take _ related)

theorem blocksOf_relaid (file : String) {lines others : List (List Char)}
    (relaid : List.Forall₂ Relaid lines others) (window minChars : Int) :
    blocksOf file others window minChars = blocksOf file lines window minChars := by
  have same : blockAt file others window = blockAt file lines window := by
    funext index
    have text := plain_unlines (slice_forall₂ relaid index (index + window))
      (rfl : beginsLine (lastOf none []) = true)
    rw [List.nil_append, List.nil_append] at text
    rw [blockAt, blockAt, text]
  rw [blocksOf, blocksOf, same, relaid.length_eq]

/-- A file with each of its lines in a layout. -/
def laidOut (file : SourceFile) (layouts : Nat → Layout) : SourceFile :=
  { file with
    content := String.ofList (unlines
      (file.lines.mapIdx fun index line => (layouts index).lay line)) }

theorem Layout.newline_not_mem_lay (layout : Layout) {line : List Char} (flat : '\n' ∉ line) :
    '\n' ∉ layout.lay line := by
  intro member
  rw [Layout.lay, List.mem_append, List.mem_append] at member
  rcases member with indent | core | trail
  · exact (isTrail_iff.mp (isTrail_of_isIndent (layout.indents _ indent))).2 rfl
  · have kept := (List.dropWhile_sublist _).mem (List.mem_reverse.mp core)
    exact flat ((List.dropWhile_sublist _).mem (List.mem_reverse.mp kept))
  · exact (isTrail_iff.mp (layout.trails _ trail)).2 rfl

theorem laidOut_lines (file : SourceFile) (layouts : Nat → Layout) :
    (laidOut file layouts).lines =
      file.lines.mapIdx fun index line => (layouts index).lay line := by
  unfold SourceFile.lines laidOut
  rw [String.toList_ofList]
  apply splitAt_joinWith
  · obtain ⟨first, more, split⟩ := exists_splitAt '\n' file.content.toList
    rw [SourceFile.lines, Text.lines, split]
    simp
  · intro part member
    obtain ⟨index, inside, rfl⟩ := List.mem_mapIdx.mp member
    apply Layout.newline_not_mem_lay
    exact not_mem_of_mem_splitAt (List.getElem_mem inside)

theorem relaid_laidOut (file : SourceFile) (layouts : Nat → Layout) :
    List.Forall₂ Relaid file.lines (laidOut file layouts).lines := by
  rw [laidOut_lines, List.forall₂_iff_get]
  refine ⟨by simp, ?_⟩
  intro index inside _
  exact ⟨layouts index, by simp⟩

/-- A text with a carriage return before each newline. -/
def withReturns (text : List Char) : List Char :=
  text.flatMap fun c => if c = '\n' then ['\r', '\n'] else [c]

/-- The second line is the first with blanks added. -/
def Trailed (line other : List Char) : Prop :=
  ∃ trail : List Char, (∀ c ∈ trail, isTrail c = true) ∧ other = line ++ trail

theorem Trailed.relaid {line other : List Char} (trailed : Trailed line other) :
    Relaid line other := by
  obtain ⟨trail, trails, rfl⟩ := trailed
  refine ⟨⟨(Layout.own line).indent, (Layout.own line).trail ++ trail, (Layout.own line).indents, ?_⟩, ?_⟩
  · intro c member
    rcases List.mem_append.mp member with own | added
    · exact (Layout.own line).trails c own
    · exact trails c added
  · have whole := Layout.lay_own line
    rw [Layout.lay] at whole ⊢
    rw [← List.append_assoc (bare line), ← List.append_assoc, whole]

theorem lines_withReturns (text : List Char) :
    List.Forall₂ Trailed (lines text) (lines (withReturns text)) := by
  induction text with
  | nil => exact .cons ⟨[], by simp, rfl⟩ .nil
  | cons c rest ih =>
      obtain ⟨first, more, split⟩ := exists_splitAt '\n' rest
      obtain ⟨other, others, splitOther⟩ := exists_splitAt '\n' (withReturns rest)
      rw [lines, lines] at ih ⊢
      by_cases newline : c = '\n'
      · subst newline
        have breaks : withReturns ('\n' :: rest) = ['\r'] ++ '\n' :: withReturns rest := rfl
        have returns : isTrail '\r' = true := by decide
        rw [splitAt_cons_mark, breaks, splitAt_append_mark]
        exact .cons ⟨['\r'], List.forall_mem_singleton.mpr returns, rfl⟩ ih
      · have kept : withReturns (c :: rest) = c :: withReturns rest := by
          simp [withReturns, newline]
        rw [split, splitOther] at ih
        rw [kept, splitAt_cons_of_ne newline split, splitAt_cons_of_ne newline splitOther]
        cases ih with
        | cons here later =>
            obtain ⟨trail, trails, rfl⟩ := here
            exact .cons ⟨trail, trails, rfl⟩ later

/-- The windows of a file are the same in every layout of its lines, and also when each newline gets a
carriage return before it: their texts, where they begin and end, and which of them are long enough. -/
theorem blocks_same_in_any_layout (file : SourceFile) (window minChars : Int) :
    (∀ layouts : Nat → Layout,
      blocks (laidOut file layouts) window minChars = blocks file window minChars) ∧
      blocks { file with content := String.ofList (withReturns file.content.toList) } window
        minChars = blocks file window minChars := by
  constructor
  · intro layouts
    exact blocksOf_relaid file.path (relaid_laidOut file layouts) window minChars
  · have relaid := (lines_withReturns file.content.toList).imp fun _ _ => Trailed.relaid
    rw [blocks, blocks]
    unfold SourceFile.lines
    rw [String.toList_ofList]
    exact blocksOf_relaid file.path relaid window minChars

end CodeSurvey.Clone
