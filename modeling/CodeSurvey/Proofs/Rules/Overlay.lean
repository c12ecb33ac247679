import CodeSurvey.Proofs.Value.Fields
import CodeSurvey.Rules.Basic

set_option autoImplicit false

namespace CodeSurvey.Rules

open CodeSurvey.Fields

/-! A value laid over another one. -/

theorem overlayValue_object (base fields : Fields) :
    overlayValue (some (.object base)) (.object fields) = .object (overlay base fields) := by
  rw [overlayValue]

/-- Unless both are objects, the new value replaces the old one. -/
theorem overlayValue_of_plain {old : Option Value} {value : Value}
    (plain : (∀ base, old ≠ some (.object base)) ∨ ∀ fields, value ≠ .object fields) :
    overlayValue old value = value := by
  cases value with
  | object fields =>
      have replaced : ∀ base, old ≠ some (.object base) :=
        plain.resolve_right fun other => other fields rfl
      rw [overlayValue]
      exact replaced
  | null | bool | int | float | text | date | list => rw [overlayValue]

theorem object_or_plain (old : Option Value) :
    (∃ base, old = some (.object base)) ∨ ∀ base, old ≠ some (.object base) := by
  by_cases some : ∃ base, old = some (.object base)
  · exact .inl some
  · exact .inr fun base same => some ⟨base, same⟩

/-! Fields laid over others. -/

theorem overlay_nil (base : Fields) : overlay base [] = base := by
  rw [overlay]

theorem overlay_cons (base rest : Fields) (key : String) (value : Value) :
    overlay base ((key, value) :: rest) =
      overlay (base.put key (overlayValue (base.get? key) value)) rest := by
  rw [overlay]

variable {base given : Fields}

theorem names_overlay (distinct : given.names.Nodup) :
    (overlay base given).names =
      base.names ++ given.names.filter fun name => decide (name ∉ base.names) := by
  induction given generalizing base with
  | nil => simp [overlay_nil]
  | cons field given ih =>
      obtain ⟨key, value⟩ := field
      rw [names_cons, List.nodup_cons] at distinct
      rw [overlay_cons, ih distinct.2, names_put, names_cons]
      by_cases known : key ∈ base.names
      · rw [if_pos known, List.filter_cons_of_neg (by simpa using known)]
      · have later : (names given).filter (fun name => decide (name ∉ base.names ++ [key])) =
            (names given).filter fun name => decide (name ∉ base.names) := by
          apply List.filter_congr
          intro name member
          have other : name ≠ key := by
            intro same
            exact distinct.1 (same ▸ member)
          simp [other]
        rw [if_neg known, later, List.filter_cons_of_pos (by simpa using known), List.append_assoc,
          List.singleton_append]

theorem names_overlay_nodup (first : base.names.Nodup) (second : given.names.Nodup) :
    (overlay base given).names.Nodup := by
  rw [names_overlay second]
  refine List.Nodup.append first (second.filter _) ?_
  intro name inBase new
  have absent := (List.mem_filter.mp new).2
  simp [inBase] at absent

/-- Each name has what is given for it, laid over what the base has, or what the base has. -/
theorem get?_overlay (distinct : given.names.Nodup) (key : String) :
    (overlay base given).get? key = (given.get? key).elim (base.get? key) fun value =>
      some (overlayValue (base.get? key) value) := by
  induction given generalizing base with
  | nil => rw [overlay_nil]; rfl
  | cons field given ih =>
      obtain ⟨name, value⟩ := field
      rw [names_cons, List.nodup_cons] at distinct
      rw [overlay_cons, ih distinct.2, get?_put, get?_cons]
      by_cases same : name = key
      · have absent : get? given key = none := get?_eq_none_iff.mpr (same ▸ distinct.1)
        rw [absent, if_pos same, if_pos same, same]
        rfl
      · rw [if_neg same, if_neg same]

theorem get?_overlay_of_none (distinct : given.names.Nodup) {key : String}
    (absent : given.get? key = none) : (overlay base given).get? key = base.get? key := by
  rw [get?_overlay distinct, absent]
  rfl

theorem get?_overlay_of_some (distinct : given.names.Nodup) {key : String} {value : Value}
    (found : given.get? key = some value) :
    (overlay base given).get? key = some (overlayValue (base.get? key) value) := by
  rw [get?_overlay distinct, found]
  rfl

/-- Fields laid over some that have all their names leave the names as they are. -/
theorem names_overlay_of_subset (distinct : given.names.Nodup) (known : given.names ⊆ base.names) :
    (overlay base given).names = base.names := by
  have none : given.names.filter (fun name => decide (name ∉ base.names)) = [] := by
    apply List.filter_eq_nil_iff.mpr
    intro name member
    simpa using known member
  rw [names_overlay distinct, none, List.append_nil]

theorem names_subset_overlay (distinct : given.names.Nodup) :
    given.names ⊆ (overlay base given).names := by
  intro name member
  rw [names_overlay distinct, List.mem_append, List.mem_filter]
  by_cases known : name ∈ base.names
  · exact .inl known
  · exact .inr ⟨member, by simpa using known⟩

/-- A second layer of the base under fields adds the names that the first layer added. -/
theorem names_overlay_overlay (first : base.names.Nodup) (second : given.names.Nodup) :
    (overlay base (overlay base given)).names = (overlay base given).names := by
  have own : base.names.filter (fun name => decide (name ∉ base.names)) = [] := by
    apply List.filter_eq_nil_iff.mpr
    intro name member
    simpa using member
  rw [names_overlay (names_overlay_nodup first second), names_overlay second, List.filter_append, own,
    List.nil_append, List.filter_filter]
  simp

/-! The laws, by induction on the value that is laid over another one. -/

/-- A value laid over itself. -/
theorem overlayValue_self {value : Value} (formed : value.WellFormed) :
    overlayValue (some value) value = value := by
  induction formed with
  | plain other => exact overlayValue_of_plain (.inr other)
  | @object fields distinct inner ih =>
      rw [overlayValue_object]
      congr 1
      apply ext_get?
      · exact names_overlay_of_subset distinct (List.Subset.refl _)
      · exact names_overlay_nodup distinct distinct
      · intro key
        cases found : get? fields key with
        | none => rw [get?_overlay_of_none distinct found, found]
        | some value => rw [get?_overlay_of_some distinct found, found, ih _ (mem_of_get? found)]

/-- A value laid over a second time. -/
theorem overlayValue_again {value : Value} (formed : value.WellFormed) {old : Option Value}
    (formedOld : ∀ before ∈ old, before.WellFormed) :
    overlayValue (some (overlayValue old value)) value = overlayValue old value := by
  induction formed generalizing old with
  | plain other => rw [overlayValue_of_plain (.inr other), overlayValue_of_plain (.inr other)]
  | @object fields distinct inner ih =>
      rcases object_or_plain old with ⟨base, rfl⟩ | plain
      · have formedBase := formedOld _ rfl
        rw [overlayValue_object, overlayValue_object]
        congr 1
        apply ext_get?
        · exact names_overlay_of_subset distinct (names_subset_overlay distinct)
        · exact names_overlay_nodup (names_overlay_nodup formedBase.nodup distinct) distinct
        · intro key
          cases found : get? fields key with
          | none => rw [get?_overlay_of_none distinct found]
          | some value =>
              have formedKey : ∀ before ∈ get? base key, before.WellFormed :=
                fun _ => formedBase.of_get?
              rw [get?_overlay_of_some distinct found, get?_overlay_of_some distinct found,
                ih _ (mem_of_get? found) formedKey]
      · rw [overlayValue_of_plain (.inl plain)]
        exact overlayValue_self (.object distinct inner)

/-- A value that has been laid over another one, laid over the same one. -/
theorem overlayValue_under_again {value : Value} (formed : value.WellFormed) {old : Option Value}
    (formedOld : ∀ before ∈ old, before.WellFormed) :
    overlayValue old (overlayValue old value) = overlayValue old value := by
  induction formed generalizing old with
  | plain other => rw [overlayValue_of_plain (.inr other), overlayValue_of_plain (.inr other)]
  | @object fields distinct inner ih =>
      rcases object_or_plain old with ⟨base, rfl⟩ | plain
      · have formedBase := formedOld _ rfl
        have laid := names_overlay_nodup formedBase.nodup distinct
        rw [overlayValue_object, overlayValue_object]
        congr 1
        apply ext_get?
        · exact names_overlay_overlay formedBase.nodup distinct
        · exact names_overlay_nodup formedBase.nodup laid
        · intro key
          cases found : get? fields key with
          | none =>
              have kept : get? (overlay base fields) key = get? base key :=
                get?_overlay_of_none distinct found
              cases old : get? base key with
              | none =>
                  rw [old] at kept
                  rw [get?_overlay_of_none laid kept, old, kept]
              | some value =>
                  rw [old] at kept
                  rw [get?_overlay_of_some laid kept, old, kept,
                    overlayValue_self (formedBase.of_get? old)]
          | some value =>
              have formedKey : ∀ before ∈ get? base key, before.WellFormed :=
                fun _ => formedBase.of_get?
              have here : get? (overlay base fields) key =
                  some (overlayValue (get? base key) value) := get?_overlay_of_some distinct found
              rw [get?_overlay_of_some laid here, here, ih _ (mem_of_get? found) formedKey]
      · rw [overlayValue_of_plain (.inl plain)]

/-- Laying fields over others twice is laying them over once. -/
theorem overlay_again (formedBase : (Value.object base).WellFormed)
    (formed : (Value.object given).WellFormed) :
    overlay (overlay base given) given = overlay base given := by
  have formedOld : ∀ before ∈ some (Value.object base), before.WellFormed := by
    intro before same
    cases same
    exact formedBase
  have twice := overlayValue_again formed formedOld
  rw [overlayValue_object, overlayValue_object] at twice
  exact Value.object.inj twice

/-- Fields that have been laid over a base have all of it. -/
theorem overlay_under_again (formedBase : (Value.object base).WellFormed)
    (formed : (Value.object given).WellFormed) :
    overlay base (overlay base given) = overlay base given := by
  have formedOld : ∀ before ∈ some (Value.object base), before.WellFormed := by
    intro before same
    cases same
    exact formedBase
  have twice := overlayValue_under_again formed formedOld
  rw [overlayValue_object, overlayValue_object] at twice
  exact Value.object.inj twice

theorem overlay_self (formed : (Value.object given).WellFormed) : overlay given given = given := by
  have same := overlayValue_self formed
  rw [overlayValue_object] at same
  exact Value.object.inj same

theorem defaults_wellFormed : (Value.object defaults).WellFormed := by
  simp [defaults, Value.WellFormed.plain]

/-! Values without dates. -/

/-- What holds of the values of a base and of each value that is laid over one of which it holds, holds
of all values in the end. -/
theorem forall_mem_overlay {P : Value → Prop} (held : ∀ field ∈ base, P field.2)
    (laid : ∀ field ∈ given, ∀ old : Option Value, (∀ before ∈ old, P before) →
      P (overlayValue old field.2)) :
    ∀ field ∈ overlay base given, P field.2 := by
  induction given generalizing base with
  | nil =>
      rw [overlay_nil]
      exact held
  | cons field given ih =>
      obtain ⟨key, value⟩ := field
      rw [overlay_cons]
      apply ih
      · intro other member
        rcases mem_put member with old | rfl
        · exact held other old
        · apply laid _ List.mem_cons_self
          intro before found
          exact held _ (mem_of_get? found)
      · intro other member
        exact laid other (List.mem_cons_of_mem _ member)

theorem overlayValue_isJson {value : Value} (json : value.IsJson) {old : Option Value}
    (jsonOld : ∀ before ∈ old, before.IsJson) : (overlayValue old value).IsJson := by
  induction json generalizing old with
  | @object fields inner ih =>
      rcases object_or_plain old with ⟨base, rfl⟩ | plain
      · rw [overlayValue_object]
        have jsonBase := jsonOld _ rfl
        exact .object (forall_mem_overlay (fun _ => jsonBase.of_mem) fun field member _ => ih field member)
      · rw [overlayValue_of_plain (.inl plain)]
        exact .object inner
  | list inner =>
      rw [overlayValue]
      exact .list inner
  | null | bool | int | float | text =>
      rw [overlayValue]
      constructor

/-- Rules without dates laid over the default ones have no dates. -/
theorem overlay_defaults_isJson (json : (Value.object given).IsJson) :
    (Value.object (overlay defaults given)).IsJson := by
  have jsonDefaults : ∀ before ∈ some (Value.object defaults), before.IsJson := by
    intro before same
    cases same
    simp [defaults]
  have laid := overlayValue_isJson json jsonDefaults
  rwa [overlayValue_object] at laid

end CodeSurvey.Rules
