import CodeSurvey.Proofs.Value.Fields
import CodeSurvey.Text.Lines
import CodeSurvey.Yaml.Writer
import Mathlib.Data.List.SplitBy

set_option autoImplicit false

namespace CodeSurvey

/-- A text without carriage returns has one kind of line breaks already. -/
theorem Text.unifyBreaks_of_not_mem {text : List Char} (clear : '\r' ∉ text) :
    unifyBreaks text = text := by
  have kept : ∀ pair ∈ text.zip (' ' :: text),
      (if pair.1 = '\n' ∧ pair.2 = '\r' then none
        else if pair.1 = '\r' then some '\n' else some pair.1) = (some ∘ Prod.fst) pair := by
    intro pair member
    obtain ⟨own, before⟩ := List.of_mem_zip member
    have first : pair.1 ≠ '\r' := fun same => clear (same ▸ own)
    have second : pair.2 ≠ '\r' := by
      intro same
      rw [same, List.mem_cons] at before
      exact clear (before.resolve_left (by decide))
    simp [first, second]
  calc unifyBreaks text
      = (text.zip (' ' :: text)).filterMap (some ∘ Prod.fst) := List.filterMap_congr kept
    _ = text := by rw [List.filterMap_eq_map, List.map_fst_zip (by simp)]

namespace Yaml

open Text

def isBare (text : List Char) : Bool :=
  text.all fun c => !Style.needsEscape c

@[simp] theorem isBare_nil : isBare [] = true :=
  rfl

@[simp] theorem isBare_cons (c : Char) (text : List Char) :
    isBare (c :: text) = (!Style.needsEscape c && isBare text) :=
  rfl

@[simp] theorem isBare_append (first second : List Char) :
    isBare (first ++ second) = (isBare first && isBare second) :=
  List.all_append

theorem isBare_iff {text : List Char} :
    isBare text = true ↔ ∀ c ∈ text, Style.needsEscape c = false := by
  simp [isBare]

theorem isBare_of_subset {part text : List Char} (inside : part ⊆ text) (bare : isBare text = true) :
    isBare part = true :=
  isBare_iff.mpr fun c member => isBare_iff.mp bare c (inside member)

theorem isBare_replicate {c : Char} (bare : Style.needsEscape c = false) (count : Nat) :
    isBare (List.replicate count c) = true := by
  apply isBare_iff.mpr
  intro d member
  rw [List.eq_of_mem_replicate member]
  exact bare

@[simp] theorem isBare_spaces (count : Nat) : isBare (spaces count) = true :=
  isBare_replicate (by decide) count

theorem isBare_intercalate {gap : List Char} {lines : List (List Char)} (bareGap : isBare gap = true)
    (bare : ∀ line ∈ lines, isBare line = true) : isBare (gap.intercalate lines) = true := by
  induction lines with
  | nil => rfl
  | cons line lines ih =>
      have here := bare line List.mem_cons_self
      have later := ih fun other member => bare other (List.mem_cons_of_mem _ member)
      cases lines with
      | nil => simpa using here
      | cons next lines =>
          rw [List.intercalate_cons_cons, isBare_append, isBare_append, here, bareGap, later]
          rfl

/-! Numbers. -/

theorem mem_toDigits {base : Nat} (above : 1 < base) (below : base ≤ 16) {n : Nat} {c : Char}
    (member : c ∈ Nat.toDigits base n) : ∃ digit < 16, c = Nat.digitChar digit := by
  induction n using Nat.strongRecOn with
  | ind n ih =>
      by_cases small : n < base
      · rw [Nat.toDigits_of_lt_base small, List.mem_singleton] at member
        exact ⟨n, by omega, member⟩
      · rw [Nat.toDigits_of_base_le above (by omega), List.mem_append, List.mem_singleton] at member
        rcases member with front | last
        · exact ih (n / base) (Nat.div_lt_self (by omega) above) front
        · have rest := Nat.mod_lt n (show base > 0 by omega)
          exact ⟨n % base, by omega, last⟩

theorem isBare_repr (n : Nat) : isBare (toString n).toList = true := by
  have digits : ∀ digit < 16, Style.needsEscape (Nat.digitChar digit) = false := by decide
  rw [Nat.toString_eq_ofList_toDigits, String.toList_ofList]
  apply isBare_iff.mpr
  intro c member
  obtain ⟨digit, small, rfl⟩ := mem_toDigits (by decide) (by decide) member
  exact digits digit small

theorem isBare_toUpper_hexText (width n : Nat) :
    isBare ((hexText width n).toList.map Char.toUpper) = true := by
  have digits : ∀ digit < 16, Style.needsEscape (Nat.digitChar digit).toUpper = false := by decide
  rw [hexText, String.toList_ofList, List.map_append, List.map_replicate, isBare_append,
    isBare_replicate (by decide), Bool.true_and]
  apply isBare_iff.mpr
  intro c member
  obtain ⟨d, inside, rfl⟩ := List.mem_map.mp member
  obtain ⟨digit, small, rfl⟩ := mem_toDigits (by decide) (by decide) inside
  exact digits digit small

theorem isBare_int (n : Int) : isBare (toString n).toList = true := by
  have written : toString n = if 0 ≤ n then toString n.toNat else "-" ++ toString (-n).toNat :=
    Int.repr_eq_if
  rw [written]
  split
  · exact isBare_repr _
  · rw [String.toList_append, isBare_append, isBare_repr]
    rfl

theorem isBare_take {text : List Char} (bare : isBare text = true) (count : Nat) :
    isBare (text.take count) = true :=
  isBare_of_subset (List.take_subset _ _) bare

theorem isBare_drop {text : List Char} (bare : isBare text = true) (count : Nat) :
    isBare (text.drop count) = true :=
  isBare_of_subset (List.drop_subset _ _) bare

theorem isBare_positional {digits : String} (bare : isBare digits.toList = true) (point : Int) :
    isBare (Decimal.positional digits point).toList = true := by
  have zeros : ∀ count, isBare (Decimal.zeros count).toList = true := by
    intro count
    rw [Decimal.zeros, String.toList_ofList]
    exact isBare_replicate (by decide) count
  unfold Decimal.positional
  dsimp only
  split
  · simp only [String.toList_append, isBare_append, bare, zeros]
    rfl
  · split
    · simp only [String.toList_append, isBare_append, bare, zeros]
      rfl
    · simp only [String.toList_append, String.toList_ofList, isBare_append, isBare_take bare,
        isBare_drop bare]
      rfl

theorem isBare_scientific {digits : String} (bare : isBare digits.toList = true) (exponent : Int) :
    isBare (Decimal.scientific digits exponent).toList = true := by
  have size := isBare_repr exponent.natAbs
  have tail := isBare_drop bare 1
  have point : isBare (if (String.ofList (digits.toList.drop 1)).isEmpty then ""
      else "." ++ String.ofList (digits.toList.drop 1)).toList = true := by
    split
    · rfl
    · simp only [String.toList_append, String.toList_ofList, isBare_append, tail]
      rfl
  have sign : isBare (if exponent < 0 then "-" else "+").toList = true := by
    split <;> rfl
  have power : isBare (if (toString exponent.natAbs).length < 2 then "0" ++ toString exponent.natAbs
      else toString exponent.natAbs).toList = true := by
    split
    · rw [String.toList_append, isBare_append, size]
      rfl
    · exact size
  unfold Decimal.scientific
  simp only [String.toList_append, isBare_append, String.toList_ofList, isBare_take bare, point, sign,
    power]
  rfl

theorem isBare_decimal (x : Float) : isBare (Decimal.text x).toList = true := by
  have sign : ∀ negative, isBare (Decimal.signText negative).toList = true := by decide
  unfold Decimal.text
  split
  · rfl
  · rw [String.toList_append, isBare_append, sign]
    rfl
  · split
    · rw [String.toList_append, isBare_append, sign]
      rfl
    · dsimp only
      rw [String.toList_append, isBare_append, sign, Bool.true_and]
      unfold Decimal.magnitudeText
      dsimp only
      split
      · exact isBare_positional (isBare_repr _) _
      · exact isBare_scientific (isBare_repr _) _

theorem isBare_writeFloat (x : Float) : isBare (writeFloat x).toList = true := by
  have sign : ∀ negative, isBare (Decimal.signText negative).toList = true := by decide
  have bare := isBare_decimal x
  unfold writeFloat
  split
  · rfl
  · rw [String.toList_append, isBare_append, sign]
    rfl
  · dsimp only
    split
    · rwa [String.toList_ofList]
    · rw [String.toList_ofList, isBare_append, isBare_append,
        isBare_of_subset (List.takeWhile_subset _) bare, isBare_of_subset (List.dropWhile_subset _) bare]
      rfl

/-! Texts. -/

theorem isBare_writeRuns {quoted fold : Bool} {indent : Nat} {first : Bool} {column : Nat}
    {runs : List (List Char)} (bare : ∀ run ∈ runs, isBare run = true) :
    isBare (writeRuns quoted fold indent first column runs) = true := by
  induction runs generalizing first column with
  | nil => rfl
  | cons run runs ih =>
      have here := bare run List.mem_cons_self
      have later : ∀ first column, isBare (writeRuns quoted fold indent first column runs) = true :=
        fun _ _ => ih fun other member => bare other (List.mem_cons_of_mem _ member)
      have newline : Style.needsEscape '\n' = false := rfl
      rw [writeRuns]
      split
      · simp [newline, here, later]
      · split
        · simp [newline, later]
        · dsimp only
          rw [isBare_append, later, Bool.and_true]
          apply isBare_iff.mpr
          intro c member
          obtain ⟨own, inside, written⟩ := List.mem_flatMap.mp member
          have same : c = own := by
            split at written
            · next quote =>
                have c_eq : c = '\'' := by simpa using written
                rw [c_eq, quote.2]
            · exact List.mem_singleton.mp written
          rw [same]
          exact isBare_iff.mp here own inside

theorem isBare_runsOf {text run : List Char} (bare : isBare text = true) (member : run ∈ runsOf text) :
    isBare run = true := by
  apply isBare_iff.mpr
  intro c inside
  have whole : c ∈ (runsOf text).flatten := List.mem_flatten.mpr ⟨run, member, inside⟩
  rw [runsOf, List.flatten_splitBy] at whole
  exact isBare_iff.mp bare c whole

theorem isBare_escape {c : Char} {out : List Char} (escaped : escape? c = some out) :
    isBare out = true := by
  have short : isBare (shortEscapes.map (·.2)) = true := by decide
  unfold escape? at escaped
  split at escaped
  · cases escaped
  · dsimp only at escaped
    split at escaped
    · next entry found =>
        cases escaped
        have listed : entry ∈ shortEscapes.map (·.2) :=
          List.mem_map.mpr ⟨_, List.mem_of_find?_eq_some found, rfl⟩
        rw [isBare_cons, isBare_cons, isBare_iff.mp short _ listed]
        rfl
    · cases escaped
      split
      · rw [isBare_append, isBare_toUpper_hexText]
        rfl
      · split
        · rw [isBare_append, isBare_toUpper_hexText]
          rfl
        · rw [isBare_append, isBare_toUpper_hexText]
          rfl

theorem needsEscape_of_escape {c : Char} (kept : escape? c = none) : Style.needsEscape c = false := by
  unfold escape? at kept
  split at kept
  · next plain => simp [Style.needsEscape, plain]
  · dsimp only at kept
    split at kept <;> cases kept

theorem isBare_writeDouble {fold : Bool} {indent : Nat} {first fresh : Bool} {column : Nat}
    {text : List Char} : isBare (writeDouble fold indent first fresh column text) = true := by
  have newline : Style.needsEscape '\n' = false := rfl
  have backslash : Style.needsEscape '\\' = false := rfl
  have kept : ∀ next : Option Char, isBare (if next = some ' ' then ['\\'] else []) = true := by
    intro next
    split <;> rfl
  induction text generalizing first fresh column with
  | nil => rfl
  | cons c text ih =>
      rw [writeDouble]
      split
      · next out escaped =>
          have bare := isBare_escape escaped
          split
          · simp only [isBare_append, isBare_cons, isBare_spaces, bare, newline, backslash, kept, ih]
            rfl
          · rw [isBare_append, bare, ih]
            rfl
      · next plain =>
          have bare := needsEscape_of_escape plain
          split
          · simp only [isBare_append, isBare_cons, isBare_spaces, bare, newline, backslash, kept, ih]
            rfl
          · rw [isBare_cons, bare, ih]
            rfl

/-- A text that is not written in double quotes needs no escapes. -/
theorem isBare_of_style {isKey : Bool} {text : List Char} (other : Style.ofText isKey text ≠ .double) :
    isBare text = true := by
  have allowed : Style.allowsPlain text = true ∨ Style.allowsSingle text = true := by
    by_contra neither
    rw [not_or, Bool.not_eq_true, Bool.not_eq_true] at neither
    exact other (by simp [Style.ofText, neither])
  have clear : text.any Style.needsEscape = false := by
    rcases allowed with plain | single
    · rw [Style.allowsPlain, Bool.not_eq_true'] at plain
      simp only [Bool.or_eq_false_iff] at plain
      exact plain.1.1.2
    · rw [Style.allowsSingle, Bool.not_eq_true'] at single
      simp only [Bool.or_eq_false_iff] at single
      exact single.1.1
  apply isBare_iff.mpr
  simpa using clear

theorem isBare_writeText (isKey : Bool) (indent column : Nat) (text : List Char) :
    isBare (writeText isKey indent column text).toList = true := by
  have runs : ∀ {style} quoted first column, Style.ofText isKey text = style → style ≠ .double →
      isBare (writeRuns quoted (!isKey) indent first column (runsOf text)) = true := by
    intro style quoted first column same other
    apply isBare_writeRuns
    intro run
    exact isBare_runsOf (isBare_of_style (same ▸ other))
  rw [writeText, String.toList_ofList]
  split
  · next plain => exact runs _ _ _ plain (by decide)
  · next single =>
      rw [isBare_append, isBare_append, runs _ _ _ single (by decide)]
      rfl
  · rw [isBare_append, isBare_append, isBare_writeDouble]
    rfl

@[simp] theorem isBare_newLine (indent : Nat) : isBare (newLine indent).toList = true := by
  rw [newLine, String.toList_ofList, isBare_cons, isBare_spaces]
  rfl

/-! Values. -/

theorem isBare_lines {gap : String} {lines : List String} (bareGap : isBare gap.toList = true)
    (bare : ∀ line ∈ lines, isBare line.toList = true) :
    isBare (gap.intercalate lines).toList = true := by
  rw [String.toList_intercalate]
  apply isBare_intercalate bareGap
  intro line member
  obtain ⟨own, inside, rfl⟩ := List.mem_map.mp member
  exact bare own inside

theorem isBare_writeItems {items : List Value}
    (bare : ∀ item ∈ items, ∀ indent column below,
      isBare (writeValue indent column below item).toList = true) (indent : Nat) :
    ∀ line ∈ writeItems indent items, isBare line.toList = true := by
  induction items with
  | nil =>
      rw [writeItems]
      exact fun _ none => absurd none List.not_mem_nil
  | cons item items ih =>
      rw [writeItems]
      intro line member
      rcases List.mem_cons.mp member with rfl | later
      · rw [String.toList_append, isBare_append, bare item List.mem_cons_self]
        rfl
      · exact ih (fun other inside => bare other (List.mem_cons_of_mem _ inside)) line later

theorem isBare_writeFields {fields : Fields}
    (bare : ∀ field ∈ fields, ∀ indent column below,
      isBare (writeValue indent column below field.2).toList = true) (indent : Nat) :
    ∀ line ∈ writeFields indent fields, isBare line.toList = true := by
  induction fields with
  | nil =>
      rw [writeFields]
      exact fun _ none => absurd none List.not_mem_nil
  | cons field fields ih =>
      obtain ⟨key, value⟩ := field
      have here := bare _ List.mem_cons_self
      rw [writeFields]
      intro line member
      rcases List.mem_cons.mp member with rfl | later
      · split
        · simp only [String.toList_append, isBare_append, isBare_writeText, here]
          rfl
        · simp only [String.toList_append, isBare_append, isBare_writeText, isBare_newLine, here]
          rfl
      · exact ih (fun other inside => bare other (List.mem_cons_of_mem _ inside)) line later

theorem isBare_writeValue {value : Value} (json : value.IsJson) (indent column : Nat) (below : Bool) :
    isBare (writeValue indent column below value).toList = true := by
  induction json generalizing indent column below with
  | null =>
      rw [writeValue]
      rfl
  | bool b =>
      cases b <;> rw [writeValue] <;> rfl
  | int n =>
      rw [writeValue, String.toList_append, isBare_append, isBare_int]
      rfl
  | float x =>
      rw [writeValue, String.toList_append, isBare_append, isBare_writeFloat]
      rfl
  | text s =>
      rw [writeValue, String.toList_append, isBare_append, isBare_writeText]
      rfl
  | @list items inner ih =>
      have lines : ∀ gap indent, isBare ((newLine gap).intercalate (writeItems indent items)).toList =
          true := fun gap indent => isBare_lines (isBare_newLine gap) (isBare_writeItems ih indent)
      cases items with
      | nil =>
          rw [writeValue]
          rfl
      | cons first rest =>
          rw [writeValue]
          split
          · rw [String.toList_append, isBare_append, isBare_newLine, lines]
            rfl
          · rw [String.toList_append, isBare_append, lines]
            rfl
  | @object fields inner ih =>
      have lines : ∀ gap indent, isBare ((newLine gap).intercalate (writeFields indent fields)).toList =
          true := fun gap indent => isBare_lines (isBare_newLine gap) (isBare_writeFields ih indent)
      cases fields with
      | nil =>
          rw [writeValue]
          rfl
      | cons first rest =>
          rw [writeValue]
          split
          · rw [String.toList_append, isBare_append, isBare_newLine, lines]
            rfl
          · rw [String.toList_append, isBare_append, lines]
            rfl

/-- A document has no character that needs an escape. -/
theorem isBare_document {fields : Fields} (json : (Value.object fields).IsJson) :
    isBare (document fields).toList = true := by
  unfold document
  split
  · rfl
  · have lines := isBare_lines (isBare_newLine 0)
      (isBare_writeFields (fun field member => isBare_writeValue (json.of_mem member)) 0)
    rw [String.toList_append, isBare_append, lines]
    rfl

/-- The line breaks of a document are newlines. -/
theorem not_mem_document {fields : Fields} (json : (Value.object fields).IsJson) :
    '\r' ∉ (document fields).toList := by
  intro member
  have clear := isBare_iff.mp (isBare_document json) _ member
  exact absurd clear (by decide)

end Yaml

end CodeSurvey
