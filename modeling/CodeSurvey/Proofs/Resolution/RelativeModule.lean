import CodeSurvey.Proofs.Resolution.Relative
import CodeSurvey.Proofs.Text.Classes

set_option autoImplicit false

namespace CodeSurvey.Resolution

open CodeSurvey.Path Text

/-- A relative module: so many dots, and names with a dot between neighbours. -/
def dottedModule (dots : Nat) (names : List String) : String :=
  String.ofList (List.replicate dots '.' ++ joinWith ['.'] (names.map String.toList))

def IsModuleName (name : String) : Prop :=
  name ≠ "" ∧ ∀ c ∈ name.toList, isWord c = true

namespace IsModuleName

variable {name : String}

theorem toList_ne_nil (named : IsModuleName name) : name.toList ≠ [] := by
  intro empty
  exact named.1 (String.toList_eq_nil_iff.mp empty)

theorem not_mem (named : IsModuleName name) {mark : Char} (other : isWord mark = false) :
    mark ∉ name.toList := by
  intro member
  rw [named.2 mark member] at other
  cases other

/-- A module's name is a name of a file or a directory, too. -/
theorem isName (named : IsModuleName name) : IsName name.toList := by
  have dotless := named.not_mem isWord_dot
  refine ⟨named.toList_ne_nil, ?_, ?_⟩
  · intro dot
    rw [dot] at dotless
    simp at dotless
  · intro up
    rw [up] at dotless
    simp at dotless

end IsModuleName

section Dots

variable {parts : List (List Char)}

/-- The dots between the parts become slashes, and no other dots are there. -/
theorem map_joinWith_dot (free : ∀ part ∈ parts, '.' ∉ part) :
    (joinWith ['.'] parts).map (fun c => if c = '.' then '/' else c) = joinWith ['/'] parts := by
  have same : ∀ part : List Char, '.' ∉ part →
      part.map (fun c => if c = '.' then '/' else c) = part := by
    intro part dotless
    have kept : ∀ c ∈ part, (if c = '.' then '/' else c) = c := by
      intro c member
      rw [if_neg]
      intro dot
      exact dotless (dot ▸ member)
    rw [List.map_congr_left kept, List.map_id']
  induction parts with
  | nil => rfl
  | cons first rest ih =>
      have here := same first (free first List.mem_cons_self)
      cases rest with
      | nil => rw [joinWith_singleton, joinWith_singleton, here]
      | cons second rest =>
          have there := ih fun part member => free part (List.mem_cons_of_mem _ member)
          rw [joinWith_cons_cons, joinWith_cons_cons, List.map_append, List.map_cons, here, there]
          rfl

theorem head?_joinWith_dot (filled : ∀ part ∈ parts, part ≠ []) (free : ∀ part ∈ parts, '.' ∉ part) :
    (joinWith ['.'] parts).head? ≠ some '.' := by
  cases parts with
  | nil => simp [joinWith]
  | cons first rest =>
      obtain ⟨c, more, rfl⟩ := List.exists_cons_of_ne_nil (filled first List.mem_cons_self)
      have dotless := free _ List.mem_cons_self
      have begins : (joinWith ['.'] ((c :: more) :: rest)).head? = some c := by
        cases rest with
        | nil => rw [joinWith_singleton]; rfl
        | cons second rest => rw [joinWith_cons_cons]; rfl
      rw [begins]
      intro dot
      cases dot
      exact dotless List.mem_cons_self

end Dots

variable {dots : Nat} {names : List String}

theorem dottedModule_toList (dots : Nat) (names : List String) :
    (dottedModule dots names).toList =
      List.replicate dots '.' ++ joinWith ['.'] (names.map String.toList) := by
  rw [dottedModule, String.toList_ofList]

theorem not_mem_parts (named : ∀ name ∈ names, IsModuleName name) {mark : Char}
    (other : isWord mark = false) : ∀ part ∈ names.map String.toList, mark ∉ part := by
  intro part member
  obtain ⟨name, listed, rfl⟩ := List.mem_map.mp member
  exact (named name listed).not_mem other

theorem isDotted_of_mem (named : ∀ name ∈ names, IsModuleName name) {c : Char}
    (member : c ∈ joinWith ['.'] (names.map String.toList)) : Import.isDotted c = true := by
  rw [Import.isDotted, Bool.or_eq_true, beq_iff_eq]
  rcases mem_joinWith member with dot | ⟨part, inside, holds⟩
  · exact .inr (List.mem_singleton.mp dot)
  · obtain ⟨name, listed, rfl⟩ := List.mem_map.mp inside
    exact .inl ((named name listed).2 c holds)

/-- The dots in front are told from those between the names, since a name begins behind them. -/
theorem relativeModule?_dottedModule (relative : 0 < dots)
    (named : ∀ name ∈ names, IsModuleName name) :
    relativeModule? (dottedModule dots names).toList =
      some (dots, joinWith ['.'] (names.map String.toList)) := by
  have filled : ∀ part ∈ names.map String.toList, part ≠ [] := by
    intro part member
    obtain ⟨name, listed, rfl⟩ := List.mem_map.mp member
    exact (named name listed).toList_ne_nil
  have begins := head?_joinWith_dot filled (not_mem_parts named isWord_dot)
  have dotted : ∀ c ∈ joinWith ['.'] (names.map String.toList), Import.isDotted c = true :=
    fun _ member => isDotted_of_mem named member
  rw [dottedModule_toList]
  generalize joinWith ['.'] (names.map String.toList) = path at begins dotted
  have stops : path.takeWhile (· == '.') = [] ∧ path.dropWhile (· == '.') = path := by
    cases path with
    | nil => exact ⟨rfl, rfl⟩
    | cons c rest =>
        have other : c ≠ '.' := by simpa using begins
        simp [other]
  have front : (List.replicate dots '.' ++ path).takeWhile (· == '.') = List.replicate dots '.' := by
    rw [List.takeWhile_append_of_pos (by simp), stops.1, List.append_nil]
  have back : (List.replicate dots '.' ++ path).dropWhile (· == '.') = path := by
    rw [List.dropWhile_append_of_pos (by simp), stops.2]
  have unbroken : path.getLast? ≠ some '\n' := by
    intro newline
    have word := dotted '\n' (List.mem_of_getLast? newline)
    simp [Import.isDotted, isWord_newline] at word
  have all : path.all Import.isDotted = true := List.all_eq_true.mpr dotted
  have some : dots ≠ 0 := by omega
  simp [relativeModule?, front, back, unbroken, all, some]

/-- One dot stays in the directory, each further one climbs. -/
theorem splitAt_modulePath (relative : 0 < dots) (named : ∀ name ∈ names, IsModuleName name) :
    splitAt '/' (modulePath (dottedModule dots names)).toList =
      (if dots = 1 then [['.']] else List.replicate (dots - 1) ['.', '.']) ++
        splitAt '/' (joinWith ['/'] (names.map String.toList)) := by
  simp only [modulePath, relativeModule?_dottedModule relative named, String.toList_append,
    String.toList_ofList, map_joinWith_dot (not_mem_parts named isWord_dot)]
  split
  · exact splitAt_append_mark '/' ['.'] _
  · exact splitAt_climb (dots - 1) _

theorem settle_concat_empty (segments : List (List Char)) :
    settle (segments ++ [[]]) = settle segments := by
  rw [settle, List.foldl_append, List.foldl_cons, List.foldl_nil]
  rfl

/-- Behind other segments, the text of some names has these names; without any it has an empty segment,
which does not count. -/
theorem settle_append_splitAt_joinWith (front : List (List Char)) {parts : List (List Char)}
    (named : ∀ part ∈ parts, IsName part) (flat : ∀ part ∈ parts, '/' ∉ part) :
    settle (front ++ splitAt '/' (joinWith ['/'] parts)) = settle front ++ parts := by
  by_cases none : parts = []
  · subst none
    rw [List.append_nil]
    exact settle_concat_empty front
  · rw [splitAt_joinWith none flat, ← settle_settle_append]
    apply settle_of_names
    intro segment member
    rcases List.mem_append.mp member with early | late
    · exact (mem_settle early).2
    · exact named segment late

theorem settle_append_dots (front : List (List Char)) (relative : 0 < dots) :
    settle (front ++ if dots = 1 then [['.']] else List.replicate (dots - 1) ['.', '.']) =
      (settle front).take ((settle front).length - (dots - 1)) := by
  split
  · next single =>
      subst single
      rw [settle_concat_dot, Nat.sub_self, Nat.sub_zero, List.take_length]
  · exact settle_append_up front (dots - 1)

/-- A relative module lies below what is left of the directory when one segment less than there are dots
is taken off its end. -/
theorem segments_modulePath (directory : List Char) (relative : 0 < dots)
    (named : ∀ name ∈ names, IsModuleName name) :
    segments directory (modulePath (dottedModule dots names)).toList =
      (segments [] directory).take ((segments [] directory).length - (dots - 1)) ++
        names.map String.toList := by
  obtain ⟨rest, begins⟩ := modulePath_dot (relativeModule?_dottedModule relative named)
  have unrooted : (modulePath (dottedModule dots names)).toList.head? ≠ some '/' := by
    rw [begins]
    simp
  have names_isName : ∀ part ∈ names.map String.toList, IsName part := by
    intro part member
    obtain ⟨name, listed, rfl⟩ := List.mem_map.mp member
    exact (named name listed).isName
  rw [segments_of_not_rooted _ unrooted, splitAt_modulePath relative named, ← List.append_assoc,
    settle_append_splitAt_joinWith _ names_isName (not_mem_parts named isWord_slash),
    settle_append_dots _ relative, segments_from_root]

theorem isExternal_dottedModule (relative : 0 < dots) (names : List String) :
    isExternal (dottedModule dots names) = false := by
  obtain ⟨more, rfl⟩ := Nat.exists_eq_add_of_lt relative
  apply not_isExternal_of_dot
  rw [dottedModule_toList, Nat.zero_add, List.replicate_succ, List.cons_append]

/-- The path of some names below a directory, without its last segments: one for each dot but the
first, while there is one. -/
def pathBelow (directory : List (List Char)) (dots : Nat) (names : List String) : String :=
  String.ofList (joinWith ['/']
    (directory.take (directory.length - (dots - 1)) ++ names.map String.toList))

/-- A relative module of any number of dots and any names leads from a file to the path of its names
below the file's directory, after one step up for each dot but the first. In the language that has such
modules it is never external: it means the first candidate of that path that is there. -/
theorem dottedModule_resolved (importer : String) (relative : 0 < dots)
    (named : ∀ name ∈ names, IsModuleName name) {directory : List (List Char)}
    (here : segments [] (importerDirectory importer).toList = directory) :
    normalize (importerDirectory importer) (modulePath (dottedModule dots names)) =
        pathBelow directory dots names ∧
      ∀ tag, Family.ofTag? tag = some .python → ∀ files,
        resolve (Family.ofTag? tag) (dottedModule dots names) importer files ≠ .external ∧
          resolve (Family.ofTag? tag) (dottedModule dots names) importer files =
            ((candidates (pathBelow directory dots names)).find? files.contains).elim
              .unresolved .resolved := by
  have leads : normalize (importerDirectory importer) (modulePath (dottedModule dots names)) =
      pathBelow directory dots names := by
    rw [Path.normalize, segments_modulePath _ relative named, here]
    rfl
  have inside := isExternal_dottedModule relative names
  refine ⟨leads, ?_⟩
  intro tag python files
  have rewritten : asPath (Family.ofTag? tag) (dottedModule dots names) =
      modulePath (dottedModule dots names) := by
    rw [asPath, if_pos python]
  constructor
  · rw [ne_eq, resolve_eq_external_iff, inside]
    exact Bool.false_ne_true
  · rw [resolve_eq, inside, if_neg Bool.false_ne_true, triedPaths, rewritten, leads]
    rfl

/-- Three dots climb two directories, from one that is spelled with a backslash, a dot and an empty
segment. -/
theorem dottedModule_resolved_of_three_dots :
    dottedModule 3 ["core", "util"] = "...core.util" ∧
      resolve (Family.ofTag? " .PyW") "...core.util" "src\\./app//page/a.py"
        ["core/util.py", "src/core/util/__init__.py", "src/core/util.ts"] =
          .resolved "src/core/util.ts" := by
  have named : ∀ name ∈ ["core", "util"], IsModuleName name := by
    intro name member
    rcases List.mem_cons.mp member with rfl | later
    · exact ⟨by decide, List.all_eq_true.mp (by decide)⟩
    · rw [List.mem_singleton.mp later]
      exact ⟨by decide, List.all_eq_true.mp (by decide)⟩
  have found := @dottedModule_resolved 3 ["core", "util"] "src\\./app//page/a.py" (by decide) named
    ["src".toList, "app".toList, "page".toList] (by decide)
  exact ⟨by decide, (found.2 " .PyW" (by decide +kernel) _).2.trans (by decide)⟩

end CodeSurvey.Resolution
