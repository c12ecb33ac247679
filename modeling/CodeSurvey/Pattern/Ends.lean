import CodeSurvey.Pattern.Basic

set_option autoImplicit false

namespace CodeSurvey.Pattern

/-- The ends of repeated matches of which each moves on. -/
def repeatEnds (body : Cursor → List Cursor) : Nat → Cursor → List Cursor
  | 0, c => [c]
  | n + 1, c =>
    ((body c).flatMap fun c' => if c.pos < c'.pos then repeatEnds body n c' else []) ++ [c]

/-- The ends of a pattern at a place, first choice first. -/
def ends : Pattern → Cursor → List Cursor
  | .empty, c => [c]
  | .one allowed, c =>
    match c.rest with
    | x :: rest => if allowed x then [⟨c.pos + 1, some x, rest, c.parts⟩] else []
    | [] => []
  | .seq first second, c => (first.ends c).flatMap second.ends
  | .alt first second, c => first.ends c ++ second.ends c
  | .span allowed least greedy, c => c.spanEnds allowed least greedy
  | .star body, c => repeatEnds body.ends c.rest.length c
  | .part slot body, c =>
    (body.ends c).map fun c' => ⟨c'.pos, c'.last, c'.rest, (slot, c.upTo c') :: c'.parts⟩
  | .edge, c => if c.atEdge then [c] else []
  | .lineStart, c => if c.last.all (· == '\n') then [c] else []
  | .textStart, c => if c.last.isNone then [c] else []
  | .textEnd, c => if c.rest.isEmpty || c.rest == ['\n'] then [c] else []
  | .absent body, c => if (body.ends c).isEmpty then [c] else []

private theorem findSome_flatMap {α β γ : Type} (next : β → Option γ) (f : α → List β)
    (places : List α) :
    (places.flatMap f).findSome? next = places.findSome? fun a => (f a).findSome? next := by
  induction places with
  | nil => rfl
  | cons a rest ih =>
    simp only [List.flatMap_cons, List.findSome?_append, ih, List.findSome?_cons]
    cases (f a).findSome? next <;> simp

private theorem repeatRun_eq (body : Cursor → (Cursor → Option Cursor) → Option Cursor)
    (places : Cursor → List Cursor)
    (agrees : ∀ c next, body c next = (places c).findSome? next) (n : Nat) (c : Cursor)
    (next : Cursor → Option Cursor) :
    repeatRun body n c next = (repeatEnds places n c).findSome? next := by
  induction n generalizing c next with
  | zero => simp [repeatRun, repeatEnds]
  | succ n ih =>
    have inner : (fun c' => if c.pos < c'.pos then repeatRun body n c' next else none)
        = fun c' => (if c.pos < c'.pos then repeatEnds places n c' else []).findSome? next := by
      funext c'
      by_cases moves : c.pos < c'.pos <;> simp [moves, ih]
    simp only [repeatRun, repeatEnds, agrees, inner, List.findSome?_append, findSome_flatMap]
    cases (places c).findSome? fun c' =>
      (if c.pos < c'.pos then repeatEnds places n c' else []).findSome? next <;> simp

/-- Matching returns what the continuation gives for the first end it accepts. -/
theorem run_eq_findSome (p : Pattern) (c : Cursor) (next : Cursor → Option Cursor) :
    p.run c next = (p.ends c).findSome? next := by
  induction p generalizing c next with
  | empty => simp [run, ends]
  | one allowed =>
    simp only [run, ends]
    cases c.rest with
    | nil => rfl
    | cons x rest => by_cases good : allowed x = true <;> simp [good]
  | seq first second ihFirst ihSecond =>
    simp only [run, ends, ihFirst, findSome_flatMap]
    congr 1
    funext c'
    exact ihSecond c' next
  | alt first second ihFirst ihSecond =>
    simp only [run, ends, ihFirst, ihSecond, List.findSome?_append]
    cases (first.ends c).findSome? next <;> simp
  | span allowed least greedy => rfl
  | star body ih => exact repeatRun_eq body.run body.ends ih _ c next
  | part slot body ih => simp only [run, ends, ih, List.findSome?_map]; rfl
  | edge => by_cases here : c.atEdge = true <;> simp [run, ends, here]
  | lineStart => simp only [run, ends]; split <;> simp
  | textStart => simp only [run, ends]; split <;> simp
  | textEnd => simp only [run, ends]; split <;> simp
  | absent body ih =>
    simp only [run, ends, ih]
    cases body.ends c with
    | nil => simp
    | cons first more => simp

end CodeSurvey.Pattern
