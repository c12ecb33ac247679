import CodeSurvey.Value.Basic
import Mathlib.Data.List.Nodup

set_option autoImplicit false

namespace CodeSurvey

namespace Fields

def names (fields : Fields) : List String :=
  fields.map (·.1)

variable {fields : Fields} {key other : String} {value : Value}

@[simp] theorem names_nil : names [] = [] :=
  rfl

@[simp] theorem names_cons (key : String) (value : Value) (fields : Fields) :
    names ((key, value) :: fields) = key :: fields.names :=
  rfl

@[simp] theorem get?_nil (key : String) : get? [] key = none :=
  rfl

theorem get?_cons (key other : String) (value : Value) (fields : Fields) :
    get? ((key, value) :: fields) other = if key = other then some value else fields.get? other := by
  by_cases same : key = other <;> simp [get?, same]

theorem get?_eq_none_iff : fields.get? key = none ↔ key ∉ fields.names := by
  induction fields with
  | nil => simp
  | cons field fields ih =>
      rw [get?_cons, names_cons, List.mem_cons]
      by_cases same : field.1 = key
      · simp [same]
      · simp [same, Ne.symm same, ih]

theorem mem_of_get? (found : fields.get? key = some value) : (key, value) ∈ fields := by
  induction fields with
  | nil => cases found
  | cons field fields ih =>
      obtain ⟨name, first⟩ := field
      rw [get?_cons] at found
      split at found
      · next same =>
          cases found
          rw [same]
          exact List.mem_cons_self
      · exact List.mem_cons_of_mem _ (ih found)

theorem names_put (fields : Fields) (key : String) (value : Value) :
    (fields.put key value).names =
      if key ∈ fields.names then fields.names else fields.names ++ [key] := by
  induction fields with
  | nil => rfl
  | cons field fields ih =>
      obtain ⟨name, first⟩ := field
      rw [put]
      by_cases same : name = key
      · simp [same]
      · by_cases known : key ∈ names fields
        · simp [same, Ne.symm same, ih, known]
        · simp [same, Ne.symm same, ih, known]

theorem get?_put (fields : Fields) (key : String) (value : Value) (other : String) :
    (fields.put key value).get? other = if key = other then some value else fields.get? other := by
  induction fields with
  | nil => rw [put, get?_cons]
  | cons field fields ih =>
      obtain ⟨name, first⟩ := field
      rw [put]
      by_cases same : name = key
      · rw [if_pos same, get?_cons, get?_cons, same]
        split <;> rfl
      · rw [if_neg same, get?_cons, get?_cons, ih]
        by_cases here : name = other
        · rw [if_pos here, if_pos here, if_neg (here ▸ Ne.symm same)]
        · rw [if_neg here, if_neg here]

theorem mem_put {field : String × Value} (member : field ∈ fields.put key value) :
    field ∈ fields ∨ field = (key, value) := by
  induction fields with
  | nil => exact .inr (List.mem_singleton.mp member)
  | cons first fields ih =>
      rw [put] at member
      split at member
      · next same =>
          rw [List.mem_cons] at member
          rcases member with here | later
          · exact .inr (same ▸ here)
          · exact .inl (List.mem_cons_of_mem _ later)
      · rw [List.mem_cons] at member
        rcases member with here | later
        · exact .inl (here ▸ List.mem_cons_self)
        · rcases ih later with old | new
          · exact .inl (List.mem_cons_of_mem _ old)
          · exact .inr new

theorem names_put_nodup (distinct : fields.names.Nodup) (key : String) (value : Value) :
    (fields.put key value).names.Nodup := by
  rw [names_put]
  split
  · exact distinct
  · next new =>
      rw [← List.concat_eq_append]
      exact distinct.concat new

/-- Fields with distinct names are determined by the names and the values under them. -/
theorem ext_get? {first second : Fields} (same : first.names = second.names)
    (distinct : first.names.Nodup) (equal : ∀ key, first.get? key = second.get? key) :
    first = second := by
  induction first generalizing second with
  | nil => exact (List.map_eq_nil_iff.mp same.symm).symm
  | cons field first ih =>
      obtain ⟨name, value⟩ := field
      cases second with
      | nil => cases same
      | cons other second =>
          obtain ⟨name', value'⟩ := other
          rw [names_cons, names_cons, List.cons.injEq] at same
          obtain ⟨rfl, rest⟩ := same
          rw [names_cons, List.nodup_cons] at distinct
          have here := equal name
          rw [get?_cons, get?_cons, if_pos rfl, if_pos rfl, Option.some.injEq] at here
          have later : ∀ key, get? first key = get? second key := by
            intro key
            by_cases own : name = key
            · have absent := distinct.1
              rw [own] at absent
              rw [get?_eq_none_iff.mpr absent, get?_eq_none_iff.mpr (rest ▸ absent)]
            · have there := equal key
              rwa [get?_cons, get?_cons, if_neg own, if_neg own] at there
          rw [here, ih rest distinct.2 later]

theorem names_ofPairs_nodup (pairs : List (String × Value)) : (ofPairs pairs).names.Nodup := by
  apply List.foldlRecOn (motive := fun fields : Fields => fields.names.Nodup)
  · exact List.nodup_nil
  · intro fields distinct pair _
    exact names_put_nodup distinct pair.1 pair.2

theorem mem_ofPairs {pairs : List (String × Value)} {field : String × Value}
    (member : field ∈ ofPairs pairs) : field ∈ pairs := by
  have known : ∀ other ∈ ofPairs pairs, other ∈ pairs := by
    apply List.foldlRecOn (motive := fun fields : Fields => ∀ other ∈ fields, other ∈ pairs)
    · exact fun _ none => absurd none List.not_mem_nil
    · intro fields known pair given other put
      rcases mem_put put with old | rfl
      · exact known other old
      · exact given
  exact known field member

end Fields

/-- In no object is a name twice: neither in the value itself nor in what its fields hold. -/
inductive Value.WellFormed : Value → Prop
  | object {fields : Fields} (distinct : fields.names.Nodup)
      (inner : ∀ field ∈ fields, WellFormed field.2) : WellFormed (.object fields)
  | plain {value : Value} (other : ∀ fields, value ≠ .object fields) : WellFormed value

namespace Value.WellFormed

variable {fields : Fields}

theorem nodup (formed : WellFormed (.object fields)) : fields.names.Nodup := by
  cases formed with
  | object distinct inner => exact distinct
  | plain other => exact absurd rfl (other fields)

theorem of_mem (formed : WellFormed (.object fields)) {field : String × Value}
    (member : field ∈ fields) : WellFormed field.2 := by
  cases formed with
  | object distinct inner => exact inner field member
  | plain other => exact absurd rfl (other fields)

theorem of_get? (formed : WellFormed (.object fields)) {key : String} {value : Value}
    (found : fields.get? key = some value) : WellFormed value :=
  formed.of_mem (Fields.mem_of_get? found)

@[simp] theorem nil : WellFormed (.object []) :=
  .object List.nodup_nil fun _ none => absurd none List.not_mem_nil

@[simp] theorem cons_iff {key : String} {value : Value} :
    WellFormed (.object ((key, value) :: fields)) ↔
      key ∉ fields.names ∧ WellFormed value ∧ WellFormed (.object fields) := by
  constructor
  · intro formed
    have distinct := List.nodup_cons.mp formed.nodup
    refine ⟨distinct.1, formed.of_mem List.mem_cons_self, .object distinct.2 ?_⟩
    intro field member
    exact formed.of_mem (List.mem_cons_of_mem _ member)
  · intro parts
    refine .object (List.nodup_cons.mpr ⟨parts.1, parts.2.2.nodup⟩) ?_
    intro field member
    rcases List.mem_cons.mp member with rfl | later
    · exact parts.2.1
    · exact parts.2.2.of_mem later

end Value.WellFormed

/-- There is no date in a value. -/
inductive Value.IsJson : Value → Prop
  | null : IsJson .null
  | bool (b : Bool) : IsJson (.bool b)
  | int (n : Int) : IsJson (.int n)
  | float (x : Float) : IsJson (.float x)
  | text (s : String) : IsJson (.text s)
  | list {items : List Value} (inner : ∀ item ∈ items, IsJson item) : IsJson (.list items)
  | object {fields : Fields} (inner : ∀ field ∈ fields, IsJson field.2) : IsJson (.object fields)

namespace Value.IsJson

variable {fields : Fields}

theorem of_mem (json : IsJson (.object fields)) {field : String × Value} (member : field ∈ fields) :
    IsJson field.2 := by
  cases json with
  | object inner => exact inner field member

@[simp] theorem nil : IsJson (.object []) :=
  .object fun _ none => absurd none List.not_mem_nil

@[simp] theorem cons_iff {key : String} {value : Value} :
    IsJson (.object ((key, value) :: fields)) ↔ IsJson value ∧ IsJson (.object fields) := by
  constructor
  · intro json
    exact ⟨json.of_mem List.mem_cons_self, .object fun _ later =>
      json.of_mem (List.mem_cons_of_mem _ later)⟩
  · intro parts
    refine .object ?_
    intro field member
    rcases List.mem_cons.mp member with rfl | later
    · exact parts.1
    · exact parts.2.of_mem later

end Value.IsJson

attribute [simp] Value.IsJson.null Value.IsJson.bool Value.IsJson.int Value.IsJson.float
  Value.IsJson.text

namespace Value

mutual

def same : Value → Value → Bool
  | .null, .null => true
  | .bool a, .bool b => a == b
  | .int a, .int b => a == b
  | .float a, .float b => decide (a = b)
  | .text a, .text b => a == b
  | .date a timed, .date b timed' => a == b && timed == timed'
  | .list items, .list items' => sameItems items items'
  | .object fields, .object fields' => sameFields fields fields'
  | _, _ => false

def sameItems : List Value → List Value → Bool
  | [], [] => true
  | item :: rest, item' :: rest' => item.same item' && sameItems rest rest'
  | _, _ => false

def sameFields : List (String × Value) → List (String × Value) → Bool
  | [], [] => true
  | (key, value) :: rest, (key', value') :: rest' =>
    key == key' && value.same value' && sameFields rest rest'
  | _, _ => false

end

mutual

theorem same_iff : ∀ a b : Value, a.same b = true ↔ a = b
  | .null, b | .bool _, b | .int _, b | .float _, b | .text _, b | .date .., b => by
      cases b <;> simp [same]
  | .list items, b => by
      cases b with
      | list items' => simp [same, sameItems_iff items items']
      | _ => simp [same]
  | .object fields, b => by
      cases b with
      | object fields' => simp [same, sameFields_iff fields fields']
      | _ => simp [same]

theorem sameItems_iff : ∀ a b : List Value, sameItems a b = true ↔ a = b
  | [], b => by cases b <;> simp [sameItems]
  | item :: rest, b => by
      cases b with
      | nil => simp [sameItems]
      | cons item' rest' => simp [sameItems, same_iff item item', sameItems_iff rest rest']

theorem sameFields_iff : ∀ a b : List (String × Value), sameFields a b = true ↔ a = b
  | [], b => by cases b <;> simp [sameFields]
  | (key, value) :: rest, b => by
      cases b with
      | nil => simp [sameFields]
      | cons field rest' =>
          simp [sameFields, same_iff value field.2, sameFields_iff rest rest', Prod.ext_iff]

end

instance : DecidableEq Value := fun a b => decidable_of_iff _ (same_iff a b)

end Value

end CodeSurvey
