import CodeSurvey.Proofs.Graph.Imports
import CodeSurvey.Proofs.Pattern.InLine

set_option autoImplicit false

namespace CodeSurvey

open Text Pattern

theorem mem_distinct {texts : List (List Char)} {specifier : String} :
    specifier ∈ distinct texts ↔ specifier ≠ "" ∧ specifier.toList ∈ texts := by
  rw [distinct, List.mem_map]
  constructor
  · intro listed
    obtain ⟨text, member, rfl⟩ := listed
    rw [List.mem_eraseDups, List.mem_filter] at member
    rw [String.toList_ofList]
    refine ⟨?_, member.1⟩
    intro empty
    have none : text = [] := by
      rw [← String.toList_ofList (l := text), empty]
      rfl
    rw [none] at member
    cases member.2
  · intro given
    refine ⟨specifier.toList, ?_, String.ofList_toList⟩
    rw [List.mem_eraseDups, List.mem_filter]
    refine ⟨given.2, ?_⟩
    have filled : specifier.toList ≠ [] := mt String.toList_eq_nil_iff.mp given.1
    simpa using filled

theorem distinct_of_filled {texts : List (List Char)} (filled : ∀ text ∈ texts, text ≠ []) :
    distinct texts = texts.eraseDups.map String.ofList := by
  have all : texts.filter (!·.isEmpty) = texts := by
    apply List.filter_eq_self.mpr
    intro text member
    simpa using filled text member
  rw [distinct, all]

namespace Pattern

/-- What a match captures somewhere in a text, one captures on a line of it. -/
theorem exists_scan_iff {p : Pattern} (inLine : p.staysInLine = true) (some : p.takesSome = true)
    (text : List Char) (holds : List (Nat × List Char) → Prop) :
    (∃ found ∈ p.scan text, holds found.parts) ↔
      ∃ line ∈ lines text, ∃ found ∈ p.scan line, holds found.parts := by
  have whole : ∀ scanned : List Found, (∃ found ∈ scanned, holds found.parts) ↔
      ∃ parts ∈ scanned.map (·.parts), holds parts := by
    simp
  rw [whole, scan_parts inLine some]
  simp only [whole, List.mem_flatMap]
  constructor
  · intro captured
    obtain ⟨parts, ⟨line, onLine, member⟩, good⟩ := captured
    exact ⟨line, onLine, parts, member, good⟩
  · intro captured
    obtain ⟨line, onLine, parts, member, good⟩ := captured
    exact ⟨parts, ⟨line, onLine, member⟩, good⟩

end Pattern

namespace Import

theorem mem_captured {p : Pattern} {text specifier : List Char} :
    specifier ∈ captured p text ↔ ∃ found ∈ p.scan text,
      Found.part ⟨0, 0, found.parts⟩ 1 ≠ [] ∧ trim (Found.part ⟨0, 0, found.parts⟩ 1) = specifier := by
  simp only [captured, List.mem_map, List.mem_filter, Bool.not_eq_true', List.isEmpty_eq_false_iff,
    and_assoc]
  rfl

theorem captured_of_scan {p : Pattern} {text part : List Char} {start stop : Nat}
    (scanned : p.scan text = [⟨start, stop, [(1, part)]⟩]) (filled : part ≠ [])
    (trimmed : trim part = part) : captured p text = [part] := by
  simp [captured, scanned, Found.part, Found.part?, filled, trimmed]

theorem captured_of_scan_nil {p : Pattern} {text : List Char} (scanned : p.scan text = []) :
    captured p text = [] := by
  rw [captured, scanned]
  rfl

theorem mem_captured_lines {p : Pattern} (inLine : p.staysInLine = true) (some : p.takesSome = true)
    (text : List Char) {specifier : List Char} :
    specifier ∈ captured p text ↔ ∃ line ∈ lines text, specifier ∈ captured p line := by
  simp only [mem_captured]
  exact exists_scan_iff inLine some text fun parts =>
    Found.part ⟨0, 0, parts⟩ 1 ≠ [] ∧ trim (Found.part ⟨0, 0, parts⟩ 1) = specifier

theorem mem_listed {text specifier : List Char} :
    specifier ∈ listed text ↔ ∃ found ∈ moduleList.scan text,
      ∃ item ∈ Name.items (Found.part ⟨0, 0, found.parts⟩ 1), (words item).headD [] = specifier := by
  simp only [listed, List.mem_flatMap, List.mem_map]
  rfl

theorem mem_listed_lines (text : List Char) {specifier : List Char} :
    specifier ∈ listed text ↔ ∃ line ∈ lines text, specifier ∈ listed line := by
  simp only [mem_listed]
  exact exists_scan_iff (by decide) (by decide) text fun parts =>
    ∃ item ∈ Name.items (Found.part ⟨0, 0, parts⟩ 1), (words item).headD [] = specifier

theorem mem_found_lines {family : Family} (lineBound : family = .python ∨ family = .java)
    (text : List Char) {specifier : List Char} :
    specifier ∈ found family text ↔ ∃ line ∈ lines text, specifier ∈ found family line := by
  rcases lineBound with rfl | rfl
  · have fromModules : specifier ∈ captured fromModule text ↔
        ∃ line ∈ lines text, specifier ∈ captured fromModule line :=
      mem_captured_lines (by decide) (by decide) text
    simp only [found, List.mem_append, fromModules, mem_listed_lines text, and_or_left, exists_or]
  · exact mem_captured_lines (by decide) (by decide) text

end Import

namespace Source

/-- What is declared on a text of one line. -/
theorem declaredBy_of_line (find : List Char → List (List Char)) {line : List Char}
    (newline : '\n' ∉ line) :
    declaredBy find line = (find line).map fun name => ⟨String.ofList name, 1⟩ := by
  rw [declaredBy, lines, splitAt_of_not_mem newline]
  simp

/-- In two families a text imports what its lines import, each line by itself. Each specifier comes once
and none is empty. So one text can lack an import of another only if it lacks a line that has this import
by itself: what other lines there are, and in which order, does not matter. -/
theorem imports_line_by_line {family : Family} (lineBound : family = .python ∨ family = .java)
    (text : List Char) :
    (∀ specifier, specifier ∈ imports (some family) text ↔
        ∃ line ∈ lines text, specifier ∈ imports (some family) line) ∧
      (imports (some family) text).Nodup ∧ "" ∉ imports (some family) text ∧
      ∀ other specifier, specifier ∈ imports (some family) text →
        specifier ∉ imports (some family) other →
          ∃ line ∈ lines text, line ∉ lines other ∧ specifier ∈ imports (some family) line := by
  have byLine : ∀ (text : List Char) (specifier : String),
      specifier ∈ imports (some family) text ↔
        ∃ line ∈ lines text, specifier ∈ imports (some family) line := by
    intro text specifier
    show specifier ∈ distinct (Import.found family text) ↔
      ∃ line ∈ lines text, specifier ∈ distinct (Import.found family line)
    simp only [mem_distinct, Import.mem_found_lines lineBound text]
    constructor
    · intro found
      obtain ⟨filled, line, onLine, member⟩ := found
      exact ⟨line, onLine, filled, member⟩
    · intro found
      obtain ⟨line, onLine, filled, member⟩ := found
      exact ⟨filled, line, onLine, member⟩
  refine ⟨byLine text, imports_nodup _ text, ?_, ?_⟩
  · intro empty
    exact (mem_distinct.mp empty).1 rfl
  · intro other specifier here there
    obtain ⟨line, onLine, member⟩ := (byLine text specifier).mp here
    refine ⟨line, onLine, ?_, member⟩
    intro shared
    exact there ((byLine other specifier).mpr ⟨line, shared, member⟩)

/-- An import with an alias, a line that is open to be continued, and an import of a relative module. -/
theorem imports_line_by_line_of_three_lines :
    "..pkg" ∈ imports (some .python) "import os as o, sys\nfrom\n\tfrom ..pkg import x".toList ∧
      "" ∉ imports (some .python) "import os as o, sys\nfrom\n\tfrom ..pkg import x".toList := by
  have whole := @imports_line_by_line .python (.inl rfl)
    "import os as o, sys\nfrom\n\tfrom ..pkg import x".toList
  refine ⟨(whole.1 "..pkg").mpr ⟨"\tfrom ..pkg import x".toList, by decide, ?_⟩, whole.2.2.1⟩
  decide +kernel

end Source

end CodeSurvey
