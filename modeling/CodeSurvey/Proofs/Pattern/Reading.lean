import CodeSurvey.Proofs.Pattern.Disjoint
import CodeSurvey.Proofs.Pattern.InLine

/-!
What a pattern reads where a given text follows. Patterns one after another read texts one after another,
each by its first choice; a choice that the rest of the pattern refuses is passed over. So the match of a
pattern in a text that was put together from parts is found part by part.
-/

set_option autoImplicit false

namespace CodeSurvey

open Text

namespace Cursor

/-- Of two ways over characters of a kind, the first one tried is the longer one, or the shorter one. -/
def Sooner (greedy : Bool) (near far : Cursor) : Prop :=
  if greedy then far.pos < near.pos else near.pos < far.pos

theorem spanEnds_sooner (allowed : Char → Bool) (least : Nat) (greedy : Bool) (c : Cursor) :
    (c.spanEnds allowed least greedy).Pairwise (Sooner greedy) := by
  have places : (reach allowed c.parts c.rest c.pos c.last []).Pairwise (Sooner true) := by
    rw [reach_eq, List.append_nil, List.pairwise_reverse, List.pairwise_map]
    apply List.pairwise_lt_range.imp
    intro short long less
    exact Nat.add_lt_add_left less c.pos
  have enough := places.sublist (List.take_sublist
    ((reach allowed c.parts c.rest c.pos c.last []).length - least) _)
  cases greedy with
  | true => exact enough
  | false => exact List.pairwise_reverse.mpr enough

/-- The ways that are tried before a given one. -/
theorem exists_spanEnds_split {allowed : Char → Bool} {least : Nat} (greedy : Bool) {c stop : Cursor}
    {taken : List Char} (moves : c.MovesOver taken stop) (fit : ∀ x ∈ taken, allowed x = true)
    (enough : least ≤ taken.length) (parts : stop.parts = c.parts) :
    ∃ front back, c.spanEnds allowed least greedy = front ++ stop :: back ∧
      ∀ other ∈ front, Sooner greedy other stop ∧ ∃ way, c.MovesOver way other ∧
        (∀ x ∈ way, allowed x = true) ∧ least ≤ way.length := by
  obtain ⟨front, back, whole⟩ := List.append_of_mem
    (mem_spanEnds_of_moves moves fit enough parts : stop ∈ c.spanEnds allowed least greedy)
  refine ⟨front, back, whole, ?_⟩
  intro other inFront
  have sorted := spanEnds_sooner allowed least greedy c
  rw [whole] at sorted
  have choice : other ∈ c.spanEnds allowed least greedy := by
    rw [whole]
    exact List.mem_append_left _ inFront
  obtain ⟨way, reaches, fits, long, -⟩ := mem_spanEnds choice
  exact ⟨(List.pairwise_append.mp sorted).2.2 other inFront stop List.mem_cons_self, way, reaches,
    fits, long⟩

end Cursor

namespace Pattern

variable {p q : Pattern} {last : Option Char} {taken more behind : List Char}
  {found later : List (Nat × List Char)}

/-- Between the character `last` and the text `behind`, the first match of a pattern takes a text and
captures parts, latest first. -/
def Reads (p : Pattern) (last : Option Char) (taken behind : List Char)
    (found : List (Nat × List Char)) : Prop :=
  ∀ c : Cursor, c.last = last → c.rest = taken ++ behind →
    ∃ stop, (p.ends c).head? = some stop ∧ stop.rest = behind ∧ stop.parts = found ++ c.parts

/-- A match takes a text and captures parts, and those tried before it leave a text that has been
`passed` over. -/
def Offers (p : Pattern) (last : Option Char) (taken behind : List Char)
    (found : List (Nat × List Char)) (passed : List Char → Prop) : Prop :=
  ∀ c : Cursor, c.last = last → c.rest = taken ++ behind →
    ∃ front stop back, p.ends c = front ++ stop :: back ∧ stop.rest = behind ∧
      stop.parts = found ++ c.parts ∧ ∀ other ∈ front, passed other.rest

/-- Between the character `last` and a text there is no match. -/
def Refuses (p : Pattern) (last : Option Char) (text : List Char) : Prop :=
  ∀ c : Cursor, c.last = last → c.rest = text → p.ends c = []

theorem movesOver_of_rest {c stop : Cursor} (member : stop ∈ p.ends c)
    (follows : c.rest = taken ++ behind) (rest : stop.rest = behind) : c.MovesOver taken stop := by
  obtain ⟨other, moves⟩ := mem_ends_moves member
  have whole := moves.rest
  rw [follows, rest] at whole
  rw [List.append_cancel_right whole]
  exact moves

namespace Refuses

variable {ahead : List Char}

theorem of_forall (none : ∀ c stop : Cursor, c.rest = ahead → stop ∉ p.ends c) :
    Refuses p last ahead := by
  intro c _ follows
  exact List.eq_nil_iff_forall_not_mem.mpr fun stop => none c stop follows

theorem of_opens {kind : Char → Prop} (opens : OpensWith p kind)
    (other : ∀ x ∈ ahead.head?, ¬ kind x) : Refuses p last ahead := by
  apply of_forall
  intro c stop follows member
  obtain ⟨x, rest, starts, fits⟩ := opens c stop member
  rw [← follows, starts] at other
  exact other x rfl fits

theorem text {word : String} (other : ¬ word.toList <+: ahead) :
    Refuses (.text word) last ahead := by
  apply of_forall
  intro c stop follows member
  apply other
  rw [← follows, rest_of_mem_ends_text member]
  exact List.prefix_append _ _

theorem lineStart {x : Char} (inside : x ≠ '\n') : Refuses .lineStart (some x) ahead := by
  intro c before _
  have other : ¬ (c.last.all (· == '\n')) = true := by
    rw [before]
    simpa using inside
  rw [ends, if_neg other]

theorem seq (refuses : Refuses p last ahead) : Refuses (.seq p q) last ahead := by
  intro c before follows
  rw [ends, refuses c before follows]
  rfl

/-- A pattern that takes nothing leaves the text to the pattern behind. -/
theorem of_stays (stays : ∀ c stop : Cursor, stop ∈ p.ends c → stop = c)
    (refuses : Refuses q last ahead) : Refuses (.seq p q) last ahead := by
  intro c before follows
  apply List.flatMap_eq_nil_iff.mpr
  intro stop member
  rw [stays c stop member]
  exact refuses c before follows

theorem span {allowed : Char → Bool} {least : Nat} {greedy : Bool}
    (stops : ahead.head?.any allowed = false) (some : 0 < least) :
    Refuses (.span allowed least greedy) last ahead := by
  apply of_forall
  intro c stop follows member
  obtain ⟨taken, moves, fit, enough, -⟩ := Cursor.mem_spanEnds member
  obtain ⟨x, rest, rfl⟩ := List.exists_cons_of_length_pos (Nat.lt_of_lt_of_le some enough)
  rw [← follows, moves.rest] at stops
  exact absurd (fit x List.mem_cons_self) (Bool.eq_false_iff.mp stops)

/-- Where no character of a kind follows, none is taken. -/
theorem span_seq {allowed : Char → Bool} {least : Nat} {greedy : Bool}
    (stops : ahead.head?.any allowed = false) (refuses : Refuses q last ahead) :
    Refuses (.seq (.span allowed least greedy) q) last ahead := by
  intro c before follows
  apply List.eq_nil_iff_forall_not_mem.mpr
  intro stop member
  obtain ⟨middle, near, far⟩ := List.mem_flatMap.mp member
  obtain ⟨taken, moves, fit, -⟩ := Cursor.mem_spanEnds near
  cases taken with
  | nil =>
      have refused := refuses middle (moves.last.trans before) (moves.rest.symm.trans follows)
      rw [refused] at far
      cases far
  | cons x taken =>
      rw [← follows, moves.rest] at stops
      exact absurd (fit x List.mem_cons_self) (Bool.eq_false_iff.mp stops)

end Refuses

theorem OpensWith.text {word : String} {x : Char} {rest : List Char} (begins : word.toList = x :: rest) :
    OpensWith (.text word) (· = x) := by
  intro c later member
  refine ⟨x, rest ++ later.rest, ?_, rfl⟩
  rw [rest_of_mem_ends_text member, begins, List.cons_append]

namespace Reads

/-! Single patterns. -/

theorem empty : Reads .empty last [] behind [] :=
  fun c _ follows => ⟨c, rfl, follows, rfl⟩

theorem one {allowed : Char → Bool} {x : Char} (fits : allowed x = true) :
    Reads (.one allowed) last [x] behind [] := by
  intro c _ follows
  rw [List.singleton_append] at follows
  simp [ends, follows, fits]

theorem char (mark : Char) : Reads (.char mark) last [mark] behind [] :=
  one (beq_self_eq_true mark)

theorem lineStart (fresh : last.all (· == '\n') = true) : Reads .lineStart last [] behind [] := by
  intro c before follows
  rw [← before] at fresh
  exact ⟨c, by rw [ends, if_pos fresh]; rfl, follows, rfl⟩

theorem textStart : Reads .textStart none [] behind [] := by
  intro c before follows
  exact ⟨c, by rw [ends, before]; rfl, follows, rfl⟩

theorem textEnd : Reads .textEnd last [] [] [] := by
  intro c _ follows
  exact ⟨c, by rw [ends, follows]; rfl, follows, rfl⟩

theorem edge (between : (last.any isWord != behind.head?.any isWord) = true) :
    Reads .edge last [] behind [] := by
  intro c before follows
  have here : c.atEdge = true := by
    rw [Cursor.atEdge, before, follows]
    exact between
  exact ⟨c, by rw [ends, if_pos here]; rfl, follows, rfl⟩

/-- As many characters of a kind as there are. -/
theorem span {allowed : Char → Bool} {least : Nat} (fit : ∀ x ∈ taken, allowed x = true)
    (enough : least ≤ taken.length) (stops : behind.head?.any allowed = false) :
    Reads (.span allowed least true) last taken behind [] := by
  intro c _ follows
  have none : behind.takeWhile allowed = [] ∧ behind.dropWhile allowed = behind := by
    cases behind with
    | nil => exact ⟨rfl, rfl⟩
    | cons x rest =>
        have other : allowed x = false := stops
        simp [other]
  have run : c.rest.takeWhile allowed = taken := by
    rw [follows, List.takeWhile_append_of_pos fit, none.1, List.append_nil]
  have rest : c.rest.dropWhile allowed = behind := by
    rw [follows, List.dropWhile_append_of_pos fit, none.2]
  exact ⟨_, Cursor.spanEnds_head? allowed c (by rw [run]; exact enough), rest, rfl⟩

theorem part (slot : Nat) (reads : Reads p last taken behind found) :
    Reads (.part slot p) last taken behind ((slot, taken) :: found) := by
  intro c before follows
  obtain ⟨stop, first, rest, parts⟩ := reads c before follows
  have moves := movesOver_of_rest (List.mem_of_head? first) follows rest
  refine ⟨⟨stop.pos, stop.last, stop.rest, (slot, c.upTo stop) :: stop.parts⟩, ?_, rest, ?_⟩
  · rw [ends, List.head?_map, first]
    rfl
  · rw [moves.upTo_eq, parts]
    rfl

/-! Patterns put together. -/

theorem offers (reads : Reads p last taken behind found) :
    Offers p last taken behind found fun _ => False := by
  intro c before follows
  obtain ⟨stop, first, rest, parts⟩ := reads c before follows
  obtain ⟨back, whole⟩ := List.head?_eq_some_iff.mp first
  refine ⟨[], stop, back, whole, rest, parts, ?_⟩
  intro other member
  cases member

end Reads

namespace Offers

variable {passed : List Char → Prop}

theorem part (slot : Nat) (offers : Offers p last taken behind found passed) :
    Offers (.part slot p) last taken behind ((slot, taken) :: found) passed := by
  intro c before follows
  obtain ⟨front, stop, back, whole, rest, parts, ahead⟩ := offers c before follows
  have member : stop ∈ p.ends c := by
    rw [whole]
    exact List.mem_append_right front List.mem_cons_self
  have moves := movesOver_of_rest member follows rest
  let capture (middle : Cursor) : Cursor :=
    ⟨middle.pos, middle.last, middle.rest, (slot, c.upTo middle) :: middle.parts⟩
  refine ⟨front.map capture, capture stop, back.map capture, ?_, rest, ?_, ?_⟩
  · rw [← List.map_cons, ← List.map_append, ← whole]
    rfl
  · show (slot, c.upTo stop) :: stop.parts = (slot, taken) :: found ++ c.parts
    rw [moves.upTo_eq, parts]
    rfl
  · intro other member
    obtain ⟨earlier, inFront, rfl⟩ := List.mem_map.mp member
    exact ahead earlier inFront

/-- What has been passed over is refused by the pattern behind. -/
theorem seq (offers : Offers p last taken (more ++ behind) found passed)
    (refuse : ∀ text, passed text → ∀ last, Refuses q last text)
    (second : Reads q (taken.getLast?.or last) more behind later) :
    Reads (.seq p q) last (taken ++ more) behind (later ++ found) := by
  intro c before follows
  rw [List.append_assoc] at follows
  obtain ⟨front, near, back, whole, rest, parts, ahead⟩ := offers c before follows
  have member : near ∈ p.ends c := by
    rw [whole]
    exact List.mem_append_right front List.mem_cons_self
  have moves := movesOver_of_rest member follows rest
  obtain ⟨far, head, stop, all⟩ := second near (by rw [moves.last, before]) rest
  have none : front.flatMap q.ends = [] := by
    apply List.flatMap_eq_nil_iff.mpr
    intro other inFront
    exact refuse other.rest (ahead other inFront) other.last other rfl rfl
  refine ⟨far, ?_, stop, by rw [all, parts, List.append_assoc]⟩
  rw [ends, whole, List.flatMap_append, none, List.nil_append, List.flatMap_cons, List.head?_append,
    head]
  rfl

/-- As many characters of a kind as the pattern behind leaves: longer ways are passed over. -/
theorem span {allowed : Char → Bool} {least : Nat} (fit : ∀ x ∈ taken, allowed x = true)
    (enough : least ≤ taken.length) :
    Offers (.span allowed least true) last taken behind [] fun text =>
      ∃ extra, extra ≠ [] ∧ (∀ x ∈ extra, allowed x = true) ∧ behind = extra ++ text := by
  intro c before follows
  let stop : Cursor := ⟨c.pos + taken.length, taken.getLast?.or c.last, behind, c.parts⟩
  have moves : c.MovesOver taken stop := ⟨follows, rfl, rfl⟩
  obtain ⟨front, back, whole, ahead⟩ := Cursor.exists_spanEnds_split true moves fit enough rfl
  refine ⟨front, stop, back, whole, rfl, rfl, ?_⟩
  intro other inFront
  obtain ⟨sooner, way, reaches, fits, -⟩ := ahead other inFront
  have size : taken.length < way.length := by
    have longer : c.pos + taken.length < other.pos := sooner
    have place := reaches.pos
    omega
  have same : taken ++ behind = way ++ other.rest := follows.symm.trans reaches.rest
  obtain ⟨extra, rfl⟩ : taken <+: way :=
    List.prefix_of_prefix_length_le (List.prefix_append taken behind)
      (same ▸ List.prefix_append way other.rest) (Nat.le_of_lt size)
  rw [List.append_assoc] at same
  refine ⟨extra, ?_, ?_, List.append_cancel_left same⟩
  · intro none
    rw [none, List.append_nil] at size
    exact absurd size (Nat.lt_irrefl _)
  · intro x inExtra
    exact fits x (List.mem_append_right taken inExtra)

/-- As few characters of a kind as the pattern behind needs: shorter ways are passed over. -/
theorem few {allowed : Char → Bool} {least : Nat} (fit : ∀ x ∈ taken, allowed x = true)
    (enough : least ≤ taken.length) :
    Offers (.span allowed least false) last taken behind [] fun text =>
      ∃ short left, left ≠ [] ∧ least ≤ short.length ∧ taken = short ++ left ∧
        text = left ++ behind := by
  intro c before follows
  let stop : Cursor := ⟨c.pos + taken.length, taken.getLast?.or c.last, behind, c.parts⟩
  have moves : c.MovesOver taken stop := ⟨follows, rfl, rfl⟩
  obtain ⟨front, back, whole, ahead⟩ := Cursor.exists_spanEnds_split false moves fit enough rfl
  refine ⟨front, stop, back, whole, rfl, rfl, ?_⟩
  intro other inFront
  obtain ⟨sooner, way, reaches, fits, long⟩ := ahead other inFront
  have size : way.length < taken.length := by
    have shorter : other.pos < c.pos + taken.length := sooner
    have place := reaches.pos
    omega
  have same : way ++ other.rest = taken ++ behind := reaches.rest.symm.trans follows
  obtain ⟨left, rfl⟩ : way <+: taken :=
    List.prefix_of_prefix_length_le (List.prefix_append way other.rest)
      (same ▸ List.prefix_append taken behind) (Nat.le_of_lt size)
  rw [List.append_assoc] at same
  refine ⟨way, left, ?_, long, rfl, List.append_cancel_left same⟩
  intro none
  rw [none, List.append_nil] at size
  exact absurd size (Nat.lt_irrefl _)

end Offers

namespace Reads

theorem seq (first : Reads p last taken (more ++ behind) found)
    (second : Reads q (taken.getLast?.or last) more behind later) :
    Reads (.seq p q) last (taken ++ more) behind (later ++ found) :=
  first.offers.seq (fun _ never => never.elim) second

/-- The first pattern captures nothing. -/
theorem andThen (first : Reads p last taken (more ++ behind) [])
    (second : Reads q (taken.getLast?.or last) more behind later) :
    Reads (.seq p q) last (taken ++ more) behind later := by
  have both := first.seq second
  rwa [List.append_nil] at both

/-- The second pattern captures nothing. -/
theorem upTo (first : Reads p last taken (more ++ behind) found)
    (second : Reads q (taken.getLast?.or last) more behind []) :
    Reads (.seq p q) last (taken ++ more) behind found :=
  first.seq second

/-- The first pattern takes nothing. -/
theorem here (first : Reads p last [] (taken ++ behind) [])
    (second : Reads q last taken behind found) : Reads (.seq p q) last taken behind found :=
  first.andThen second

/-- The second pattern takes nothing. -/
theorem stop (first : Reads p last taken behind found)
    (second : Reads q (taken.getLast?.or last) [] behind []) :
    Reads (.seq p q) last taken behind found := by
  have whole := upTo (show Reads p last taken ([] ++ behind) found from first) second
  rwa [List.append_nil] at whole

theorem alone (reads : Reads p last taken behind found) :
    Reads (.seq p .empty) last taken behind found :=
  reads.stop empty

theorem text (word : String) : Reads (.text word) last word.toList behind [] := by
  rw [Pattern.text]
  generalize word.toList = letters
  induction letters generalizing last with
  | nil => exact empty
  | cons x letters ih => exact seq (char x) ih

theorem alt_left (reads : Reads p last taken behind found) :
    Reads (.alt p q) last taken behind found := by
  intro c before follows
  obtain ⟨stop, first, rest⟩ := reads c before follows
  exact ⟨stop, by rw [ends, List.head?_append, first]; rfl, rest⟩

theorem alt_right (refuses : Refuses p last (taken ++ behind))
    (reads : Reads q last taken behind found) : Reads (.alt p q) last taken behind found := by
  intro c before follows
  rw [ends, refuses c before follows, List.nil_append]
  exact reads c before follows

theorem optional_none (refuses : Refuses p last behind) : Reads (.optional p) last [] behind [] :=
  alt_right refuses empty

/-- What may stand first is left out where the pattern behind refuses what it leaves. -/
theorem optional_seq (refuses : Refuses (.seq p q) last (taken ++ behind))
    (reads : Reads q last taken behind found) :
    Reads (.seq (.optional p) q) last taken behind found := by
  intro c before follows
  have none : (p.ends c).flatMap q.ends = [] := refuses c before follows
  have whole : (Pattern.seq (.optional p) q).ends c = (p.ends c).flatMap q.ends ++ q.ends c := by
    simp [ends, optional]
  rw [whole, none, List.nil_append]
  exact reads c before follows

/-- A repetition reads pieces one after another up to a text that it refuses. -/
theorem star {pieces : List (List Char)}
    (step : ∀ piece after, piece :: after <:+ pieces →
      piece ≠ [] ∧ ∀ last, Reads p last piece (after.flatten ++ behind) [])
    (stops : ∀ last, Refuses p last behind) : Reads (.star p) last pieces.flatten behind [] := by
  have run : ∀ (n : Nat) (c : Cursor), c.rest = pieces.flatten ++ behind → c.rest.length ≤ n →
      ∃ stop, (repeatEnds p.ends n c).head? = some stop ∧ stop.rest = behind ∧
        stop.parts = c.parts := by
    induction pieces with
    | nil =>
        intro n c follows _
        have none : p.ends c = [] := stops c.last c rfl follows
        refine ⟨c, ?_, follows, rfl⟩
        cases n with
        | zero => rfl
        | succ n => rw [repeatEnds, none]; rfl
    | cons piece after ih =>
        intro n c follows enough
        have filled := (step piece after List.suffix_rfl).1
        have long := List.length_pos_iff.mpr filled
        rw [List.flatten_cons, List.append_assoc] at follows
        obtain ⟨near, first, rest, parts⟩ :=
          (step piece after List.suffix_rfl).2 c.last c rfl follows
        have moves := movesOver_of_rest (List.mem_of_head? first) follows rest
        have onward : c.pos < near.pos := by
          have place := moves.pos
          omega
        have sizes := moves.rest_length
        obtain ⟨m, rfl⟩ : ∃ m, n = m + 1 := ⟨n - 1, by omega⟩
        obtain ⟨far, head, stop, kept⟩ := ih (fun piece after inside =>
          step piece after (inside.trans (List.suffix_cons _ _))) m near rest (by omega)
        obtain ⟨others, whole⟩ := List.head?_eq_some_iff.mp first
        refine ⟨far, ?_, stop, kept.trans parts⟩
        rw [repeatEnds, whole, List.flatMap_cons, if_pos onward, List.head?_append,
          List.head?_append, head]
        rfl
  intro c _ follows
  exact run c.rest.length c follows (Nat.le_refl _)

/-! Where a search and a scan find what is read. -/

theorem matchAt (reads : Reads p last taken behind found) (pos : Nat) :
    p.matchAt ⟨pos, last, taken ++ behind, []⟩ = some ⟨pos, pos + taken.length, found⟩ := by
  obtain ⟨stop, first, rest, parts⟩ := reads ⟨pos, last, taken ++ behind, []⟩ rfl rfl
  have moves := movesOver_of_rest (List.mem_of_head? first) rfl rest
  rw [matchAt_eq, first, Option.map_some, moves.pos, parts, List.append_nil]

theorem matchStart (reads : Reads p none taken behind found) :
    p.matchStart (taken ++ behind) = some ⟨0, taken.length, found⟩ := by
  have here := reads.matchAt 0
  rwa [Nat.zero_add] at here

theorem matchStart_all (reads : Reads p none taken [] found) :
    p.matchStart taken = some ⟨0, taken.length, found⟩ := by
  have here := reads.matchStart
  rwa [List.append_nil] at here

end Reads

theorem Refuses.matchAt {text : List Char} (refuses : Refuses p last text) (pos : Nat) :
    p.matchAt ⟨pos, last, text, []⟩ = none := by
  rw [matchAt_eq, refuses _ rfl rfl]
  rfl

section Search

variable {mark : Char} {front : List Char}

theorem searchFrom_of_opens (opens : OpensWith p (· = mark)) (absent : mark ∉ front)
    (text : List Char) (pos : Nat) (last : Option Char) :
    ∃ before, p.searchFrom (front ++ text) pos last =
      p.searchFrom text (pos + front.length) before := by
  induction front generalizing pos last with
  | nil => exact ⟨last, rfl⟩
  | cons x front ih =>
      rw [List.mem_cons, not_or] at absent
      obtain ⟨before, same⟩ := ih absent.2 (pos + 1) (some x)
      have refuses : Refuses p last (x :: (front ++ text)) :=
        .of_opens opens fun y first => by
          cases first
          exact Ne.symm absent.1
      refine ⟨before, ?_⟩
      rw [List.cons_append, searchFrom, refuses.matchAt]
      dsimp only
      rw [same, List.length_cons, Nat.add_assoc, Nat.add_comm 1]

/-- A pattern that begins with a mark is found at the first mark, if it reads what stands there. -/
theorem search_of_opens (opens : OpensWith p (· = mark)) (absent : mark ∉ front)
    (reads : ∀ last, Reads p last taken behind found) (filled : taken ≠ []) :
    p.search (front ++ (taken ++ behind)) =
      some ⟨front.length, front.length + taken.length, found⟩ := by
  obtain ⟨before, same⟩ := searchFrom_of_opens opens absent (taken ++ behind) 0 none
  rw [search, same, Nat.zero_add]
  obtain ⟨x, rest, rfl⟩ := List.exists_cons_of_ne_nil filled
  have here := (reads before).matchAt front.length
  rw [List.cons_append] at here ⊢
  rw [searchFrom, here]

theorem search_eq_none_of_opens (opens : OpensWith p (· = mark)) (absent : mark ∉ front) :
    p.search front = none := by
  obtain ⟨before, same⟩ := searchFrom_of_opens opens absent [] 0 none
  have refuses : Refuses p before [] := .of_opens opens fun x first => by cases first
  rw [List.append_nil] at same
  rw [search, same]
  exact refuses.matchAt _

end Search

section Scan

variable {text : List Char}

/-- A match that takes the whole text is the only one. -/
theorem scan_of_reads_all (reads : Reads p none text [] found) (filled : text ≠ []) :
    p.scan text = [⟨0, text.length, found⟩] := by
  obtain ⟨x, rest, rfl⟩ := List.exists_cons_of_ne_nil filled
  have here := reads.matchAt 0
  rw [List.append_nil, Nat.zero_add] at here
  obtain ⟨stop, moves⟩ : ∃ stop : Cursor,
      Cursor.MovesOver ⟨0 + 1, some x, rest, []⟩ rest stop ∧ stop.rest = [] :=
    ⟨⟨0 + 1 + rest.length, rest.getLast?.or (some x), [], []⟩, ⟨(List.append_nil rest).symm, rfl, rfl⟩,
      rfl⟩
  have none := scanFrom_behind (p := p) moves.1
  rw [moves.2] at none
  rw [scan, scanFrom, here]
  dsimp only
  rw [Nat.sub_zero, List.length_cons, Nat.add_sub_cancel]
  exact congrArg _ none

theorem scan_eq_nil (refuses : ∀ last suffix, suffix <:+ text → Refuses p last suffix) :
    p.scan text = [] := by
  have run : ∀ pos last, p.scanFrom text pos last 0 = [] := by
    induction text with
    | nil => exact fun _ _ => rfl
    | cons x rest ih =>
        intro pos last
        rw [scanFrom, (refuses last _ List.suffix_rfl).matchAt]
        exact ih (fun last suffix inside =>
          refuses last suffix (inside.trans (List.suffix_cons x rest))) (pos + 1) (some x)
  exact run 0 none

/-- On one line, a pattern bound to the beginning of a line is found at most once. -/
theorem scan_lineStart (patterns : List Pattern) (newline : '\n' ∉ text) (filled : text ≠ []) :
    (all (.lineStart :: patterns)).scan text =
      ((all (.lineStart :: patterns)).matchStart text).toList := by
  have inside : ∀ (rest : List Char) (x : Char) (pos skip : Nat), '\n' ∉ x :: rest →
      (all (.lineStart :: patterns)).scanFrom rest pos (some x) skip = [] := by
    intro rest
    induction rest with
    | nil => exact fun _ _ _ _ => rfl
    | cons y rest ih =>
        intro x pos skip newline
        have later := ih y (pos + 1)
        rw [List.mem_cons, not_or] at newline
        have refuses : Refuses (all (.lineStart :: patterns)) (some x) (y :: rest) :=
          (Refuses.lineStart (Ne.symm newline.1)).seq
        cases skip with
        | zero =>
            rw [scanFrom, refuses.matchAt]
            exact later 0 newline.2
        | succ skip => exact later skip newline.2
  obtain ⟨x, rest, rfl⟩ := List.exists_cons_of_ne_nil filled
  rw [scan, scanFrom, matchStart, Cursor.start]
  cases (all (.lineStart :: patterns)).matchAt ⟨0, none, x :: rest, []⟩ with
  | none => exact inside rest x 1 0 newline
  | some found => exact congrArg _ (inside rest x 1 _ newline)

theorem scan_of_reads_line {patterns : List Pattern}
    (reads : Reads (all (.lineStart :: patterns)) none taken behind found)
    (newline : '\n' ∉ taken ++ behind) (filled : taken ≠ []) :
    (all (.lineStart :: patterns)).scan (taken ++ behind) = [⟨0, taken.length, found⟩] := by
  rw [scan_lineStart patterns newline (List.append_ne_nil_of_left_ne_nil filled behind),
    reads.matchStart]
  rfl

theorem Refuses.matchStart (refuses : Refuses p none text) : p.matchStart text = none :=
  refuses.matchAt 0

theorem scan_of_refuses_line {patterns : List Pattern}
    (refuses : Refuses (all (.lineStart :: patterns)) none text) (newline : '\n' ∉ text) :
    (all (.lineStart :: patterns)).scan text = [] := by
  cases text with
  | nil => rfl
  | cons x rest =>
      rw [scan_lineStart patterns newline (List.cons_ne_nil x rest), refuses.matchStart]
      rfl

end Scan

end Pattern

end CodeSurvey
