import CodeSurvey.Resolution

set_option autoImplicit false

namespace CodeSurvey.Resolution

/-- A specifier as a path: one family writes relative modules instead. -/
def asPath (family : Option Family) (specifier : String) : String :=
  if family = some .python then modulePath specifier else specifier

/-- The directory from which the specifiers of a file are read. -/
def importerDirectory (importer : String) : String :=
  Path.directory (String.ofList (importer.toList.map fun c => if c = '\\' then '/' else c))

/-- The paths that a specifier in a file may mean, in the order they are tried. -/
def triedPaths (family : Option Family) (specifier importer : String) : List String :=
  candidates (Path.normalize (importerDirectory importer) (asPath family specifier))

theorem isExternal_iff (specifier : String) :
    isExternal specifier = true ↔
      specifier.toList.head? ≠ some '.' ∧ specifier.toList.head? ≠ some '/' := by
  simp [isExternal]

theorem not_isExternal_of_dot {specifier : String} {rest : List Char}
    (dot : specifier.toList = '.' :: rest) : isExternal specifier = false := by
  simp [isExternal, dot]

theorem relativeModule?_some {specifier path : List Char} {dots : Nat}
    (relative : relativeModule? specifier = some (dots, path)) :
    0 < dots ∧ ∃ rest, specifier = '.' :: rest := by
  unfold relativeModule? at relative
  obtain ⟨accepted, same⟩ := Option.ite_none_left_eq_some.mp relative
  rw [Bool.or_eq_true, not_or] at accepted
  obtain ⟨count, -⟩ := Prod.mk.inj (Option.some.inj same)
  match specifier with
  | [] => exact absurd rfl accepted.1
  | first :: rest =>
      by_cases dot : first = '.'
      · subst dot
        rw [List.takeWhile_cons_of_pos rfl, List.length_cons] at count
        exact ⟨by omega, rest, rfl⟩
      · rw [List.takeWhile_cons_of_neg (by simpa using dot)] at accepted
        exact absurd rfl accepted.1

/-- Written as a path, a relative module begins with a dot as before. -/
theorem modulePath_dot {specifier : String} {dots : Nat} {path : List Char}
    (relative : relativeModule? specifier.toList = some (dots, path)) :
    ∃ rest, (modulePath specifier).toList = '.' :: rest := by
  obtain ⟨positive, -⟩ := relativeModule?_some relative
  simp only [modulePath, relative]
  split
  · rw [String.toList_append]
    exact ⟨_, rfl⟩
  · rename_i several
    obtain ⟨more, rfl⟩ : ∃ more, dots = more + 2 := ⟨dots - 2, by omega⟩
    rw [String.toList_append, Nat.add_sub_assoc (by decide), List.replicate_succ, String.join_cons,
      String.toList_append]
    exact ⟨_, rfl⟩

theorem isExternal_asPath (family : Option Family) (specifier : String) :
    isExternal (asPath family specifier) = isExternal specifier := by
  unfold asPath
  split
  · cases relative : relativeModule? specifier.toList with
    | none => simp only [modulePath, relative]
    | some found =>
        obtain ⟨dots, path⟩ := found
        obtain ⟨_, dot⟩ := modulePath_dot relative
        obtain ⟨-, _, begins⟩ := relativeModule?_some relative
        rw [not_isExternal_of_dot dot, not_isExternal_of_dot begins]
  · rfl

/-- A specifier is external by its own first character; any other means the first of the tried paths
that is a file of the project. -/
theorem resolve_eq (family : Option Family) (specifier importer : String) (files : List String) :
    resolve family specifier importer files =
      if isExternal specifier then .external
      else firstPresent files (triedPaths family specifier importer) := by
  rw [← isExternal_asPath family specifier]
  rfl

theorem firstPresent_eq_resolved {files paths : List String} {path : String} :
    firstPresent files paths = .resolved path ↔ paths.find? files.contains = some path := by
  unfold firstPresent
  cases paths.find? files.contains <;> simp

theorem firstPresent_eq_unresolved {files paths : List String} :
    firstPresent files paths = .unresolved ↔ ∀ path ∈ paths, path ∉ files := by
  unfold firstPresent
  cases found : paths.find? files.contains with
  | none =>
      simp only [Option.elim_none, true_iff]
      simpa [List.find?_eq_none] using found
  | some path =>
      simp only [Option.elim_some, reduceCtorEq, false_iff]
      intro absent
      exact absent path (List.mem_of_find?_eq_some found) (by simpa using List.find?_some found)

theorem firstPresent_ne_external (files paths : List String) :
    firstPresent files paths ≠ .external := by
  unfold firstPresent
  cases paths.find? files.contains <;> simp

theorem resolve_eq_external_iff {family : Option Family} {specifier importer : String}
    {files : List String} :
    resolve family specifier importer files = .external ↔ isExternal specifier = true := by
  rw [resolve_eq]
  split
  · rename_i external
    simp [external]
  · rename_i inside
    simp [inside, firstPresent_ne_external]

theorem resolve_eq_resolved_iff {family : Option Family} {specifier importer path : String}
    {files : List String} :
    resolve family specifier importer files = .resolved path ↔
      isExternal specifier = false ∧
        (triedPaths family specifier importer).find? files.contains = some path := by
  rw [resolve_eq]
  split
  · rename_i external
    simp [external]
  · rename_i inside
    simp [inside, firstPresent_eq_resolved]

theorem resolve_mem {family : Option Family} {specifier importer path : String}
    {files : List String} (resolved : resolve family specifier importer files = .resolved path) :
    path ∈ files := by
  have present := List.find?_some (resolve_eq_resolved_iff.mp resolved).2
  simpa using present

theorem resolve_eq_unresolved_iff {family : Option Family} {specifier importer : String}
    {files : List String} :
    resolve family specifier importer files = .unresolved ↔
      isExternal specifier = false ∧
        ∀ path ∈ triedPaths family specifier importer, path ∉ files := by
  rw [resolve_eq]
  split
  · rename_i external
    simp [external]
  · rename_i inside
    simp [inside, firstPresent_eq_unresolved]

end CodeSurvey.Resolution
