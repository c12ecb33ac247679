import CodeSurvey.Proofs.Survey.StrictMode
import CodeSurvey.Proofs.Tree.Ways
import CodeSurvey.Tree.Walk

set_option autoImplicit false

namespace CodeSurvey.Walk

open Text Log CodeSurvey.Tree

theorem join_empty (name : String) : join "" name = name :=
  rfl

theorem join_of_ne {directory : String} (filled : directory ≠ "") (name : String) :
    join directory name = directory ++ "/" ++ name := by
  rw [join, if_neg (by simpa using filled)]

theorem join_ne_empty (directory : String) {name : String} (filled : name ≠ "") :
    join directory name ≠ "" := by
  by_cases top : directory = ""
  · rwa [top, join_empty]
  · rw [join_of_ne top]
    simp [filled]

theorem join_injective {directory name other : String}
    (same : join directory name = join directory other) : name = other := by
  by_cases top : directory = ""
  · rwa [top, join_empty, join_empty] at same
  · rw [join_of_ne top, join_of_ne top] at same
    have letters := congrArg String.toList same
    simp only [String.toList_append] at letters
    exact String.toList_inj.mp (List.append_cancel_left letters)

theorem join_pathOf (directory : String) {name : String} {way : List String} (filled : name ≠ "")
    (more : way ≠ []) :
    join (join directory name) (pathOf way) = join directory (pathOf (name :: way)) := by
  rw [pathOf_cons name more, join_of_ne (join_ne_empty directory filled)]
  by_cases top : directory = ""
  · rw [top, join_empty, join_empty]
  · rw [join_of_ne top, join_of_ne top]
    simp only [String.append_assoc]

/-- Every directory that the way passes through is entered. -/
def Filter.Opens (filter : Filter) (directory : String) (way : List String) : Prop :=
  ∀ front name rest, way = front ++ name :: rest → rest ≠ [] →
    filter.enters name (join directory (pathOf (front ++ [name]))) = true

theorem Filter.opens_singleton (filter : Filter) (directory name : String) :
    filter.Opens directory [name] := by
  intro front other rest split more
  have sizes := congrArg List.length split
  have some := List.length_pos_of_ne_nil more
  simp only [List.length_append, List.length_cons, List.length_nil] at sizes
  omega

theorem Filter.opens_cons {filter : Filter} {directory name : String} {way : List String}
    (filled : name ≠ "") (more : way ≠ []) :
    filter.Opens directory (name :: way) ↔
      filter.enters name (join directory name) = true ∧ filter.Opens (join directory name) way := by
  constructor
  · intro opens
    refine ⟨?_, fun front other rest split behind => ?_⟩
    · have first := opens [] name way rfl more
      rwa [List.nil_append, pathOf_singleton] at first
    · rw [join_pathOf directory filled (by simp)]
      exact opens (name :: front) other rest (by rw [split, List.cons_append]) behind
  · rintro ⟨enters, opens⟩ front other rest split behind
    cases front with
    | nil =>
        cases split
        rwa [List.nil_append, pathOf_singleton]
    | cons first front =>
        obtain ⟨rfl, below⟩ := List.cons.inj split
        rw [List.cons_append, ← join_pathOf directory filled (by simp)]
        exact opens front other rest below behind

theorem deepLeaves_eq (filter : Filter) (path : String) (entries : List (String × Tree)) :
    deepLeaves filter path entries = entries.flatMap fun entry =>
      if filter.enters entry.1 (join path entry.1) then
        leaves filter (join path entry.1) entry.2
      else [] := by
  induction entries with
  | nil => rw [deepLeaves, List.flatMap_nil]
  | cons entry rest ih => rw [deepLeaves, List.flatMap_cons, ih]

theorem mem_ownLeaves {directory path : String} {entries : List (String × Tree)} {tree : Tree} :
    (path, tree) ∈ ownLeaves directory entries ↔
      ∃ name, (name, tree) ∈ entries ∧ tree.isDirectory = false ∧ path = join directory name := by
  rw [ownLeaves, List.mem_map]
  constructor
  · rintro ⟨⟨name, found⟩, member, same⟩
    rw [List.mem_filter] at member
    cases same
    exact ⟨name, member.1, by simpa using member.2, rfl⟩
  · rintro ⟨name, member, leaf, rfl⟩
    exact ⟨(name, tree), List.mem_filter.mpr ⟨member, by simp [leaf]⟩, rfl⟩

/-- The files below a directory are those at the end of ways that are open. -/
theorem mem_leaves {tree : Tree} (proper : Proper tree) (filter : Filter) (directory path : String)
    (leaf : Tree) :
    (path, leaf) ∈ leaves filter directory tree ↔
      ∃ way octets, way ≠ [] ∧ leaf = .file octets ∧ tree.Holds way octets ∧
        path = join directory (pathOf way) ∧ filter.Opens directory way := by
  induction proper generalizing directory with
  | file octets =>
      rw [leaves]
      constructor
      · intro member
        cases member
      · rintro ⟨way, others, filled, -, holds, -⟩
        cases holds
        exact absurd rfl filled
  | @directory entries distinct named below ih =>
      rw [leaves, List.mem_append, mem_ownLeaves, deepLeaves_eq, List.mem_flatMap]
      constructor
      · rintro (⟨name, member, single, rfl⟩ | ⟨⟨name, tree⟩, member, deeper⟩)
        · obtain ⟨octets, rfl⟩ := (below _ member).exists_octets single
          exact ⟨[name], octets, List.cons_ne_nil _ _, rfl, .inside member (.here octets),
            by rw [pathOf_singleton], filter.opens_singleton directory name⟩
        · have filled := (named _ member).ne_empty
          dsimp only at deeper
          split at deeper
          · rename_i enters
            obtain ⟨way, octets, more, rfl, holds, rfl, opens⟩ :=
              (ih _ member (join directory name)).mp deeper
            exact ⟨name :: way, octets, List.cons_ne_nil _ _, rfl, .inside member holds,
              join_pathOf directory filled more, (Filter.opens_cons filled more).mpr ⟨enters, opens⟩⟩
          · cases deeper
      · rintro ⟨way, octets, -, rfl, holds, rfl, opens⟩
        cases holds with
        | @inside _ name tree way _ member holds =>
            have filled := (named _ member).ne_empty
            by_cases last : way = []
            · subst last
              cases holds
              exact .inl ⟨name, member, rfl, by rw [pathOf_singleton]⟩
            · obtain ⟨enters, opens⟩ := (Filter.opens_cons filled last).mp opens
              refine .inr ⟨(name, tree), member, ?_⟩
              rw [if_pos enters]
              exact (ih _ member (join directory name)).mpr
                ⟨way, octets, last, rfl, holds, (join_pathOf directory filled last).symm, opens⟩

/-- The way to a leaf below an entry begins with the name of the entry. -/
theorem exists_way_of_entry {name : String} {tree : Tree} (named : IsEntryName name)
    (proper : Proper tree) {filter : Filter} {directory path : String}
    (member : path ∈ (if filter.enters name (join directory name) then
      leaves filter (join directory name) tree else []).map Prod.fst) :
    ∃ way, way ≠ [] ∧ (∀ other ∈ name :: way, IsEntryName other) ∧
      path = join directory (pathOf (name :: way)) := by
  obtain ⟨⟨_, leaf⟩, found, rfl⟩ := List.mem_map.mp member
  split at found
  · obtain ⟨way, octets, filled, -, holds, same, -⟩ := (mem_leaves proper filter _ _ leaf).mp found
    refine ⟨way, filled, ?_, same.trans (join_pathOf directory named.ne_empty filled)⟩
    exact List.forall_mem_cons.mpr ⟨named, holds.names proper⟩
  · cases found

theorem ownLeaves_paths_nodup {entries : List (String × Tree)}
    (distinct : (entries.map Prod.fst).Nodup) (directory : String) :
    ((ownLeaves directory entries).map Prod.fst).Nodup := by
  have paths : (ownLeaves directory entries).map Prod.fst =
      ((entries.filter fun entry => !entry.2.isDirectory).map Prod.fst).map (join directory) := by
    rw [ownLeaves, List.map_map, List.map_map]
    rfl
  rw [paths]
  apply List.Nodup.map
  · intro name other same
    exact join_injective same
  · exact distinct.sublist (List.filter_sublist.map Prod.fst)

/-- Leaves below different entries of a directory, or of which one lies deeper, have different paths. -/
theorem leaves_paths_nodup {tree : Tree} (proper : Proper tree) (filter : Filter)
    (directory : String) : ((leaves filter directory tree).map Prod.fst).Nodup := by
  induction proper generalizing directory with
  | file octets =>
      rw [leaves]
      exact List.nodup_nil
  | @directory entries distinct named below ih =>
      rw [leaves, List.map_append, List.nodup_append, deepLeaves_eq, List.map_flatMap,
        List.nodup_flatMap]
      refine ⟨ownLeaves_paths_nodup distinct directory, ⟨?_, ?_⟩, ?_⟩
      · intro entry member
        split
        · exact ih entry member _
        · exact List.nodup_nil
      · -- A path below two entries would be that of one way, which begins with one name.
        refine (List.pairwise_map.mp distinct).imp_of_mem ?_
        intro entry other here there apart path first second
        obtain ⟨way, -, names, same⟩ := exists_way_of_entry (named _ here) (below _ here) first
        obtain ⟨beside, -, others, again⟩ :=
          exists_way_of_entry (named _ there) (below _ there) second
        have ways := pathOf_injective (List.cons_ne_nil _ _) (List.cons_ne_nil _ _) names others
          (join_injective (same.symm.trans again))
        exact apart (List.cons.inj ways).1
      · -- A way to a file of the directory itself has no second name.
        intro path own other deep same
        obtain ⟨⟨_, leaf⟩, found, rfl⟩ := List.mem_map.mp own
        obtain ⟨name, member, -, here⟩ := mem_ownLeaves.mp found
        obtain ⟨entry, among, deeper⟩ := List.mem_flatMap.mp deep
        obtain ⟨way, filled, names, there⟩ :=
          exists_way_of_entry (named _ among) (below _ among) deeper
        rw [← pathOf_singleton name] at here
        have ways := pathOf_injective (List.cons_ne_nil _ _) (List.cons_ne_nil _ _)
          (List.forall_mem_singleton.mpr (named _ member)) names
          (join_injective (here.symm.trans (same.trans there)))
        exact filled (List.cons.inj ways).2.symm

/-- The file of a leaf, if it is loaded. -/
def loaded? (filter : Filter) : String × Tree → Option SourceFile
  | (path, .file octets) =>
    if filter.ignored path = false ∧ filter.wanted path = true ∧
        (octets.length : Int) ≤ filter.maxBytes then
      some ⟨path, textOf octets, languageTag path⟩
    else none
  | (_, .directory _) => none
  | (_, .dangling) => none

theorem loaded?_eq_some {filter : Filter} {leaf : String × Tree} {file : SourceFile} :
    loaded? filter leaf = some file ↔
      ∃ octets, leaf = (file.path, .file octets) ∧ filter.ignored file.path = false ∧
        filter.wanted file.path = true ∧ (octets.length : Int) ≤ filter.maxBytes ∧
        file = ⟨file.path, textOf octets, languageTag file.path⟩ := by
  obtain ⟨path, tree⟩ := leaf
  constructor
  · intro loaded
    cases tree with
    | file octets =>
        rw [loaded?] at loaded
        split at loaded
        · rename_i kept
          cases loaded
          exact ⟨octets, rfl, kept.1, kept.2.1, kept.2.2, rfl⟩
        · cases loaded
    | directory entries => cases loaded
    | dangling => cases loaded
  · rintro ⟨octets, same, shown, wanted, small, whole⟩
    cases same
    rw [loaded?, if_pos ⟨shown, wanted, small⟩]
    exact congrArg some whole.symm

/-- Loading cannot fail on paths that are not blank and have forward slashes only. -/
theorem load_outcome {filter : Filter} {found : List (String × Tree)}
    (plain : ∀ leaf ∈ found, isBlankText leaf.1.toList = false ∧ SourceFile.Forward leaf.1) :
    (load filter found).outcome = .ok (found.filterMap (loaded? filter)) := by
  induction found with
  | nil => rfl
  | cons leaf rest ih =>
      have later := ih fun other member => plain other (List.mem_cons_of_mem leaf member)
      obtain ⟨filled, forward⟩ := plain leaf List.mem_cons_self
      obtain ⟨path, tree⟩ := leaf
      cases tree with
      | file octets =>
          rw [load, List.filterMap_cons, loaded?]
          by_cases left : (filter.ignored path || !filter.wanted path) = true
          · have dropped : ¬(filter.ignored path = false ∧ filter.wanted path = true ∧
                (octets.length : Int) ≤ filter.maxBytes) := by
              rintro ⟨shown, wanted, -⟩
              rw [shown, wanted] at left
              cases left
            rw [if_pos left, if_neg dropped]
            exact later
          · obtain ⟨shown, wanted⟩ : filter.ignored path = false ∧ filter.wanted path = true := by
              simpa using left
            rw [if_neg left]
            by_cases large : filter.maxBytes < (octets.length : Int)
            · rw [if_pos large, if_neg (by omega), Trace.outcome_bind_of_ok (Trace.outcome_note _ _ _)]
              exact later
            · rw [if_neg large, if_pos ⟨shown, wanted, by omega⟩,
                SourceFile.make_of_forward filled forward, Trace.outcome_bind_of_ok rfl,
                Trace.outcome_bind_of_ok later]
              rfl
      | directory entries =>
          rw [load]
          · exact later
          · rintro _ _ ⟨⟩
      | dangling =>
          rw [load]
          · exact later
          · rintro _ _ ⟨⟩

/-- The tag that a name carries: what follows its last dot, in small letters, if there is something on
both sides of the dot. -/
inductive IsTag (name : List Char) : String → Prop
  | dotted {stem extension : List Char} (cut : name = stem ++ '.' :: extension)
      (last : '.' ∉ extension) (before : stem ≠ []) (behind : extension ≠ []) :
      IsTag name (String.ofList (lower extension))
  | plain (bare : ∀ stem extension, name = stem ++ '.' :: extension → '.' ∉ extension →
      stem = [] ∨ extension = []) : IsTag name ""

theorem nameOf_pathOf {front : List String} {name : String}
    (names : ∀ other ∈ front ++ [name], IsEntryName other) :
    nameOf (pathOf (front ++ [name])) = name.toList := by
  have kept : ((front ++ [name]).map String.toList).filter (fun s => s != [] && s != ['.']) =
      (front ++ [name]).map String.toList := by
    refine List.filter_eq_self.mpr fun part member => ?_
    obtain ⟨other, among, rfl⟩ := List.mem_map.mp member
    have isName := (names other among).isName
    simp [isName.1, isName.2.1]
  rw [nameOf, splitAt_pathOf (by simp) names, kept]
  simp

theorem languageTag_of_dotted {path : String} {stem extension : List Char}
    (cut : nameOf path = stem ++ '.' :: extension) (last : '.' ∉ extension) :
    languageTag path =
      if stem = [] ∨ extension = [] then "" else String.ofList (lower extension) := by
  rw [languageTag, cut, splitLast?_append_mark stem last]
  simp only [List.isEmpty_iff]

theorem isTag_iff {path tag : String} : IsTag (nameOf path) tag ↔ tag = languageTag path := by
  by_cases dot : '.' ∈ nameOf path
  · obtain ⟨stem, extension, cut, last⟩ := exists_last_mark dot
    rw [languageTag_of_dotted cut last]
    constructor
    · intro carries
      cases carries with
      | dotted again absent before behind =>
          obtain ⟨rfl, rfl⟩ := last_mark_unique absent last (again.symm.trans cut)
          rw [if_neg (by simp [before, behind])]
      | plain bare => rw [if_pos (bare stem extension cut last)]
    · rintro rfl
      split
      · rename_i bare
        refine .plain fun front back again absent => ?_
        obtain ⟨rfl, rfl⟩ := last_mark_unique absent last (again.symm.trans cut)
        exact bare
      · rename_i filled
        exact .dotted cut last (fun empty => filled (.inl empty)) fun empty => filled (.inr empty)
  · have undotted {stem extension : List Char} : nameOf path ≠ stem ++ '.' :: extension := by
      intro cut
      rw [cut] at dot
      simp at dot
    rw [languageTag, splitLast?_of_not_mem dot]
    constructor
    · intro carries
      cases carries with
      | dotted cut => exact absurd cut undotted
      | plain => rfl
    · rintro rfl
      exact .plain fun stem extension cut => absurd cut undotted

/-- The filter lets the file at the end of a way through: no directory on the way is one of tools or
ignored, and the file itself is not ignored, wanted and not too large. -/
structure Filter.Admits (filter : Filter) (way : List String) (octets : List Nat) : Prop where
  entered : ∀ front name rest, way = front ++ name :: rest → rest ≠ [] →
    name ∉ hardExcluded ∧ filter.ignored (pathOf (front ++ [name]) ++ "/") = false
  shown : filter.ignored (pathOf way) = false
  wanted : filter.wanted (pathOf way) = true
  small : (octets.length : Int) ≤ filter.maxBytes

theorem Filter.opens_iff {filter : Filter} {way : List String} :
    filter.Opens "" way ↔ ∀ front name rest, way = front ++ name :: rest → rest ≠ [] →
      name ∉ hardExcluded ∧ filter.ignored (pathOf (front ++ [name]) ++ "/") = false := by
  simp only [Filter.Opens, Filter.enters, join_empty, Bool.not_eq_true', Bool.or_eq_false_iff,
    List.contains_eq_mem, decide_eq_false_iff_not]

/-- The file is the one at the end of a way, with its path, its text and the tag of its name. -/
structure IsFileAt (way : List String) (octets : List Nat) (file : SourceFile) : Prop where
  path : file.path = pathOf way
  content : file.content = textOf octets
  language : ∀ front name, way = front ++ [name] → IsTag name.toList file.language

theorem isFileAt_iff {way : List String} {octets : List Nat} {file : SourceFile} (filled : way ≠ [])
    (names : ∀ name ∈ way, IsEntryName name) :
    IsFileAt way octets file ↔ file = ⟨pathOf way, textOf octets, languageTag (pathOf way)⟩ := by
  constructor
  · intro here
    obtain ⟨front, name, same⟩ := (List.eq_nil_or_concat' way).resolve_left filled
    have tag := here.language front name same
    rw [← nameOf_pathOf (same ▸ names), isTag_iff, ← same] at tag
    obtain ⟨path, content, language⟩ := file
    obtain ⟨rfl, rfl, -⟩ := here
    rw [← tag]
  · rintro rfl
    refine ⟨rfl, rfl, fun front name same => ?_⟩
    subst same
    rw [← nameOf_pathOf names]
    exact isTag_iff.mpr rfl

theorem existsUnique_isFileAt {way : List String} (octets : List Nat) (filled : way ≠ [])
    (names : ∀ name ∈ way, IsEntryName name) : ∃! file, IsFileAt way octets file :=
  ⟨_, (isFileAt_iff filled names).mpr rfl, fun _ here => (isFileAt_iff filled names).mp here⟩

theorem mem_loaded_iff {entries : List (String × Tree)} (proper : Proper (.directory entries))
    (filter : Filter) (file : SourceFile) :
    file ∈ (leaves filter "" (.directory entries)).filterMap (loaded? filter) ↔
      ∃ way octets, Holds (.directory entries) way octets ∧ filter.Admits way octets ∧
        IsFileAt way octets file := by
  rw [List.mem_filterMap]
  constructor
  · rintro ⟨leaf, member, loaded⟩
    obtain ⟨octets, rfl, shown, wanted, small, whole⟩ := loaded?_eq_some.mp loaded
    obtain ⟨way, others, filled, same, holds, path, opens⟩ := (mem_leaves proper filter _ _ _).mp member
    cases same
    rw [join_empty] at path
    rw [path] at shown wanted whole
    exact ⟨way, octets, holds, ⟨Filter.opens_iff.mp opens, shown, wanted, small⟩,
      (isFileAt_iff filled (holds.names proper)).mpr whole⟩
  · rintro ⟨way, octets, holds, admits, here⟩
    have filled := holds.ne_nil
    have whole := (isFileAt_iff filled (holds.names proper)).mp here
    refine ⟨(file.path, .file octets), ?_, ?_⟩
    · refine (mem_leaves proper filter _ _ _).mpr ⟨way, octets, filled, rfl, holds, ?_, ?_⟩
      · exact here.path
      · exact Filter.opens_iff.mpr admits.entered
    · refine loaded?_eq_some.mpr ⟨octets, rfl, ?_⟩
      rw [here.path]
      exact ⟨admits.shown, admits.wanted, admits.small, whole⟩

/-- The file of an admitted way is there, and no other. -/
theorem mem_sorted_iff {entries : List (String × Tree)} (proper : Proper (.directory entries))
    (filter : Filter) (file : SourceFile) :
    file ∈ sorted ((leaves filter "" (.directory entries)).filterMap (loaded? filter)) ↔
      ∃ way octets, Holds (.directory entries) way octets ∧ filter.Admits way octets ∧
        IsFileAt way octets file := by
  rw [← mem_loaded_iff proper filter file]
  exact (List.mergeSort_perm _ _).mem_iff

theorem loaded_paths_sublist (filter : Filter) (found : List (String × Tree)) :
    ((found.filterMap (loaded? filter)).map (·.path)).Sublist (found.map Prod.fst) := by
  induction found with
  | nil => exact List.Sublist.slnil
  | cons leaf rest ih =>
      rw [List.filterMap_cons]
      cases loaded : loaded? filter leaf with
      | none => exact ih.cons _
      | some file =>
          obtain ⟨octets, rfl, -⟩ := loaded?_eq_some.mp loaded
          exact ih.cons_cons _

theorem sorted_pairwise {found : List SourceFile} (distinct : (found.map (·.path)).Nodup) :
    (sorted found).Pairwise fun file later => file.path < later.path := by
  have perm : (sorted found).Perm found := List.mergeSort_perm found _
  have apart : (sorted found).Pairwise fun file later => file.path ≠ later.path :=
    List.pairwise_map.mp ((perm.map SourceFile.path).nodup_iff.mpr distinct)
  have ordered : (sorted found).Pairwise fun file later => file.path ≤ later.path := by
    have steps := @List.pairwise_mergeSort SourceFile (fun a b => decide (a.path ≤ b.path))
      (fun a b c first second => by
        simp only [decide_eq_true_eq] at first second ⊢
        exact String.le_trans first second)
      (fun a b => by simpa using String.le_total a.path b.path) found
    exact steps.imp fun le => by simpa using le
  refine ordered.imp₂ (fun file later le ne => ?_) apart
  exact String.not_le.mp fun back => ne (String.le_antisymm le back)

theorem leaves_plain {entries : List (String × Tree)} (proper : Proper (.directory entries))
    (filter : Filter) :
    ∀ leaf ∈ leaves filter "" (.directory entries),
      isBlankText leaf.1.toList = false ∧ SourceFile.Forward leaf.1 := by
  rintro ⟨path, leaf⟩ member
  obtain ⟨way, octets, filled, -, holds, same, -⟩ := (mem_leaves proper filter _ _ _).mp member
  rw [join_empty] at same
  subst same
  have names := holds.names proper
  exact ⟨pathOf_filled filled names, pathOf_forward names⟩

theorem files_outcome {entries : List (String × Tree)} (proper : Proper (.directory entries))
    (filter : Filter) :
    (files filter (.directory entries)).outcome =
      .ok (sorted ((leaves filter "" (.directory entries)).filterMap (loaded? filter))) := by
  rw [files, Trace.outcome_bind_of_ok (load_outcome (leaves_plain proper filter)),
    Trace.outcome_pure]

theorem run_outcome {tree : Tree} {wanted unwanted : List String} {filter : Filter}
    (read : filterOf tree wanted unwanted filter.maxBytes = .ok filter) {found : List SourceFile}
    (walked : (files filter tree).outcome = .ok found) (shown : String) :
    (run (some tree) shown wanted unwanted filter.maxBytes).outcome = .ok found := by
  have filtered : (Trace.ofExcept (filterOf tree wanted unwanted filter.maxBytes)).outcome =
      .ok filter := read
  rw [run, Option.getD_some, Trace.outcome_bind_of_ok filtered, Trace.outcome_bind_of_ok walked,
    Trace.outcome_bind_of_ok (Trace.outcome_note _ _ _), Trace.outcome_pure]

/-- A walk through a directory always gives files. They are those at the end of the ways that the filter
lets through, one for each, with path, text and tag, in the strict order of their paths. A walk with a
filter from an ignore file and patterns is the same, and no survey is refused for what a walk gave. -/
theorem files_admitted_in_order {entries : List (String × Tree)}
    (proper : Proper (.directory entries)) (filter : Filter) :
    ∃ found, (files filter (.directory entries)).outcome = .ok found ∧
      (∀ file ∈ found, ∃ way octets, Holds (.directory entries) way octets ∧
        filter.Admits way octets ∧ IsFileAt way octets file) ∧
      (∀ way octets, Holds (.directory entries) way octets → filter.Admits way octets →
        ∃! file, file ∈ found ∧ IsFileAt way octets file) ∧
      (found.Pairwise fun file later => file.path < later.path) ∧
      (∀ shown wanted unwanted,
        filterOf (.directory entries) wanted unwanted filter.maxBytes = .ok filter →
          (run (some (.directory entries)) shown wanted unwanted filter.maxBytes).outcome =
            .ok found) ∧
      ∀ (σ : Type) (m : Clone.Measure σ Float) (scale : Clone.Scale σ) (clock : Clock)
        (rules : Value) (budget : Option Budget) (strict : Bool) (fault : InputFault),
        (Survey.run m scale clock rules budget strict
          (SourceFile.collect [] (found.map .ok))).outcome ≠ .error (.input fault) := by
  have walked := files_outcome proper filter
  have distinct : (((leaves filter "" (.directory entries)).filterMap (loaded? filter)).map
      (·.path)).Nodup :=
    (leaves_paths_nodup proper filter "").sublist (loaded_paths_sublist filter _)
  have ordered := sorted_pairwise distinct
  refine ⟨_, walked, ?_, ?_, ordered, ?_, ?_⟩
  · intro file member
    exact (mem_sorted_iff proper filter file).mp member
  · intro way octets holds admits
    obtain ⟨file, here, only⟩ := existsUnique_isFileAt octets holds.ne_nil (holds.names proper)
    refine ⟨file, ⟨?_, here⟩, fun other both => only other both.2⟩
    exact (mem_sorted_iff proper filter file).mpr ⟨way, octets, holds, admits, here⟩
  · intro shown wanted unwanted read
    exact run_outcome read walked shown
  · intro σ m scale clock rules budget strict fault
    refine Survey.run_outcome_ne_input rules budget strict (SourceFile.collect_of_nodup ?_ ?_) fault
    · refine List.pairwise_map.mpr (ordered.imp fun less same => ?_)
      exact String.lt_irrefl _ (same ▸ less)
    · intro file member
      exact List.not_mem_nil

/-- A directory of tools beside one of sources. -/
def toolsAndSources : List (String × Tree) :=
  [("vendor", .directory [("b.js", .file [59])]), ("lib", .directory [("c.JS", .file [59])])]

theorem proper_singleton {name : String} (named : IsEntryName name) (octets : List Nat) :
    Proper (.directory [(name, .file octets)]) :=
  .directory (List.nodup_singleton name) (List.forall_mem_singleton.mpr named)
    (List.forall_mem_singleton.mpr (.file octets))

theorem toolsAndSources_proper : Proper (.directory toolsAndSources) := by
  refine .directory (by decide) ?_ ?_
  · refine List.forall_mem_cons.mpr ⟨?_, List.forall_mem_singleton.mpr ?_⟩ <;> decide
  · refine List.forall_mem_cons.mpr ⟨?_, List.forall_mem_singleton.mpr ?_⟩
    · exact proper_singleton (by decide) [59]
    · exact proper_singleton (by decide) [59]

theorem files_admitted_in_order_beside_tools :
    ∃ found, (files ⟨fun _ => false, fun _ => true, 1⟩ (.directory toolsAndSources)).outcome =
        .ok found ∧
      (∃ file ∈ found, file.path = "lib/c.JS" ∧ file.language = "js") ∧
      ∀ file ∈ found, file.path ≠ "vendor/b.js" := by
  have proper := toolsAndSources_proper
  obtain ⟨found, walked, sound, complete, -⟩ :=
    files_admitted_in_order proper ⟨fun _ => false, fun _ => true, 1⟩
  refine ⟨found, walked, ?_, ?_⟩
  · have holds : Holds (.directory toolsAndSources) ["lib", "c.JS"] [59] :=
      .inside (List.mem_cons_of_mem _ List.mem_cons_self) (.inside List.mem_cons_self (.here [59]))
    have opens : Filter.Opens ⟨fun _ => false, fun _ => true, 1⟩ "" ["lib", "c.JS"] :=
      (Filter.opens_cons (by decide) (by decide)).mpr ⟨by decide, Filter.opens_singleton _ _ _⟩
    obtain ⟨file, ⟨member, here⟩, -⟩ := complete ["lib", "c.JS"] [59] holds
      ⟨Filter.opens_iff.mp opens, rfl, rfl, by decide⟩
    rw [isFileAt_iff (by decide) (by decide)] at here
    subst here
    exact ⟨_, member, by decide, by decide⟩
  · intro file member same
    obtain ⟨way, octets, holds, admits, here⟩ := sound file member
    have path : pathOf way = pathOf ["vendor", "b.js"] :=
      here.path.symm.trans (same.trans (by decide))
    have ways := pathOf_injective holds.ne_nil (by decide) (holds.names proper) (by decide) path
    exact absurd (by decide) (admits.entered [] "vendor" ["b.js"] ways (by decide)).1

end CodeSurvey.Walk
