import CodeSurvey.Proofs.Rules.Overlay
import CodeSurvey.Proofs.Survey.Outcome
import CodeSurvey.Proofs.Yaml.Names
import CodeSurvey.Proofs.Yaml.Written
import CodeSurvey.Rules.File

set_option autoImplicit false

namespace CodeSurvey.Rules

open CodeSurvey.Fields

/-- What the loading and saving of rules relies on: no object that is read has a name twice, and
rules without dates are written without carriage returns. -/
structure Format.Lawful {ε : Type} (format : Format ε) : Prop where
  distinct : ∀ {text value}, format.read text = .ok value → value.WellFormed
  unbroken : ∀ {rules : Fields}, (Value.object rules).IsJson → '\r' ∉ (format.write rules).toList

theorem yaml_lawful : yaml.Lawful where
  distinct read := Yaml.ofText_wellFormed (Except.mapError_eq_ok.mp read)
  unbroken := Yaml.not_mem_document

variable {ε : Type} {format : Format ε}

/-- Loaded rules have all of the default ones: laid over them once more, they stay as they are. -/
theorem overlay_defaults_of_load (lawful : format.Lawful) {text : Option String} {rules : Fields}
    {fault : Option FileFault} (loaded : load format text = .ok (rules, fault)) :
    overlay defaults rules = rules := by
  have own := overlay_self defaults_wellFormed
  cases text with
  | none =>
      cases loaded
      exact own
  | some text =>
      have loaded : ofText format (Text.unifyBreaks text.toList) = .ok (rules, fault) := loaded
      unfold ofText at loaded
      split at loaded
      · next read =>
          cases loaded
          exact overlay_under_again defaults_wellFormed (lawful.distinct read)
      · cases loaded
        exact own
      · cases loaded
      · cases loaded
        exact own

/-- Rules that have all of the default ones are loaded as they were saved, if what is written means
them. -/
theorem load_save (lawful : format.Lawful) {rules : Fields} (json : (Value.object rules).IsJson)
    (full : overlay defaults rules = rules)
    (read : format.read (format.write rules).toList = .ok (.object rules)) :
    load format (some (save format rules)) = .ok (rules, none) := by
  show ofText format (Text.unifyBreaks (format.write rules).toList) = .ok (rules, none)
  rw [Text.unifyBreaks_of_not_mem (lawful.unbroken json), ofText, read]
  show Except.ok (overlay defaults rules, none) = Except.ok (rules, none)
  rw [full]

/-- A survey by rules that have all of the default ones is made by these rules. -/
theorem run_of_full {σ : Type} {m : Clone.Measure σ Float} {scale : Clone.Scale σ} {clock : Clock}
    {rules : Fields} {budget : Option Budget} {strict : Bool}
    {files : Except InputFault (List SourceFile)} {survey : Survey σ}
    (full : overlay defaults rules = rules)
    (returned :
      (Survey.run m scale clock (.object rules) budget strict files).outcome = .ok survey) :
    ∃ limits found, files = .ok found ∧
      (Survey.ofFiles m scale clock (.object rules) limits found).outcome = .ok survey := by
  obtain ⟨laid, limits, found, merged, accepted, analyzed⟩ := Survey.run_eq returned
  have same : overlay defaults rules = laid := Except.ok.inj merged
  rw [← same, full] at analyzed
  exact ⟨limits, found, accepted, analyzed⟩

/-- Laying fields over a base gives the names of the base and then the new ones, with what is given
laid over what was there. Given once more, or laid over the base once more, they change nothing. So
with any lawful format, and the program's own is one, a survey is made by the rules that were
loaded, and rules that are saved are loaded again as they are if reading takes back what writing
makes of them. -/
theorem merge_stable {base given : Fields} (formedBase : (Value.object base).WellFormed)
    (formed : (Value.object given).WellFormed) :
    (∃ merged, merge base (.object given) = .ok merged ∧
      merged.names = base.names ++ given.names.filter (fun name => decide (name ∉ base.names)) ∧
      (∀ key, merged.get? key = (given.get? key).elim (base.get? key) fun value =>
        some (overlayValue (base.get? key) value)) ∧
      merge merged (.object given) = .ok merged ∧ merge base (.object merged) = .ok merged) ∧
    yaml.Lawful ∧ ∀ {ε : Type} {format : Format ε}, format.Lawful →
      (∀ {text rules fault}, load format text = .ok (rules, fault) →
        merge defaults (.object rules) = .ok rules ∧
        ∀ {σ : Type} (m : Clone.Measure σ Float) (scale : Clone.Scale σ) (clock : Clock) budget
          strict files survey,
          (Survey.run m scale clock (.object rules) budget strict files).outcome = .ok survey →
          ∃ limits found, files = .ok found ∧
            (Survey.ofFiles m scale clock (.object rules) limits found).outcome = .ok survey) ∧
      ((Value.object given).IsJson → ∀ {rules}, merge defaults (.object given) = .ok rules →
        format.read (format.write rules).toList = .ok (.object rules) →
        load format (some (save format rules)) = .ok (rules, none)) := by
  refine ⟨⟨overlay base given, rfl, names_overlay formed.nodup, get?_overlay formed.nodup, ?_, ?_⟩,
    yaml_lawful, fun lawful => ⟨?_, ?_⟩⟩
  · exact congrArg Except.ok (overlay_again formedBase formed)
  · exact congrArg Except.ok (overlay_under_again formedBase formed)
  · intro text rules fault loaded
    have full := overlay_defaults_of_load lawful loaded
    exact ⟨congrArg Except.ok full, fun _ _ _ _ _ _ _ => run_of_full full⟩
  · intro json rules merged read
    have same : overlay defaults given = rules := Except.ok.inj merged
    subst same
    have full := overlay_under_again defaults_wellFormed formed
    exact load_save lawful (overlay_defaults_isJson json) full read

/-- A lower threshold, sections left empty, and a text that needs an escape. -/
def lowered : Fields :=
  [("complexity", .object [("warn_at", .int 3)]), ("duplication", .null), ("digest", .null),
   ("budget", .null), ("note", .list [.text "a\rb", .float 0.5])]

def loweredLaid : Fields :=
  [("complexity", .object [("warn_at", .int 3), ("error_at", .int 20)]), ("duplication", .null),
   ("budget", .null), ("digest", .null), ("note", .list [.text "a\rb", .float 0.5])]

theorem merge_stable_of_lower_threshold :
    merge defaults (.object lowered) = .ok loweredLaid ∧
      merge loweredLaid (.object lowered) = .ok loweredLaid ∧
      merge defaults (.object loweredLaid) = .ok loweredLaid ∧
      load yaml (some (save yaml loweredLaid)) = .ok (loweredLaid, none) := by
  have formed : (Value.object lowered).WellFormed := by
    simp [lowered, Value.WellFormed.plain]
  have json : (Value.object lowered).IsJson := by
    simp [lowered, Value.IsJson.list]
  have laid : overlay defaults lowered = loweredLaid := by decide +kernel
  have merged : merge defaults (.object lowered) = .ok loweredLaid := congrArg Except.ok laid
  have read : yaml.read (yaml.write loweredLaid).toList = .ok (.object loweredLaid) :=
    Except.eq_ok_of_toOption (by decide +kernel)
  obtain ⟨⟨rules, first, -, -, again, -⟩, lawful, files⟩ := merge_stable defaults_wellFormed formed
  obtain ⟨loads, saves⟩ := files lawful
  have same : rules = loweredLaid := Except.ok.inj (first.symm.trans merged)
  rw [same] at again
  have saved := saves json merged read
  exact ⟨merged, again, (loads saved).1, saved⟩

end CodeSurvey.Rules
