import CodeSurvey.Source.File

set_option autoImplicit false

namespace CodeSurvey.SourceFile

/-- A path whose slashes are all forward ones. -/
def Forward (path : String) : Prop :=
  '\\' ∉ path.toList

theorem forwardSlashes_of_forward {path : String} (forward : Forward path) :
    String.ofList (path.toList.map fun c => if c = '\\' then '/' else c) = path := by
  have same : (path.toList.map fun c => if c = '\\' then '/' else c) = path.toList := by
    calc
      (path.toList.map fun c => if c = '\\' then '/' else c) = path.toList.map id := by
        apply List.map_congr_left
        intro c member
        have other : c ≠ '\\' := fun equal => forward (equal ▸ member)
        rw [if_neg other, id]
      _ = path.toList := List.map_id _
  rw [same, String.ofList_toList]

theorem forwardSlashes_forward (path : String) : Forward (forwardSlashes path) := by
  intro member
  rw [forwardSlashes, String.toList_ofList, List.mem_map] at member
  obtain ⟨c, -, same⟩ := member
  split at same
  · cases same
  · rename_i other
    exact other same

theorem make_forward {path content language : String} {file : SourceFile}
    (made : make path content language = .ok file) : Forward file.path := by
  unfold make at made
  split at made
  · cases made
  · cases made
    exact forwardSlashes_forward path

theorem make_of_forward {path : String} (filled : Text.isBlankText path.toList = false)
    (forward : Forward path) (content language : String) :
    make path content language = .ok ⟨path, content, language⟩ := by
  rw [make, filled, if_neg Bool.false_ne_true, forwardSlashes, forwardSlashes_of_forward forward]

theorem ofFields_forward {path content language : Value} {file : SourceFile}
    (made : ofFields path content language = .ok file) : Forward file.path := by
  unfold ofFields at made
  split at made
  · split at made
    · cases made
    · split at made
      · exact make_forward made
      · exact make_forward made
      · cases made
      · cases made
  · cases made

theorem ofValue_forward {value : Value} {file : SourceFile} (made : ofValue value = .ok file) :
    Forward file.path := by
  unfold ofValue at made
  split at made
  · exact ofFields_forward made
  · cases made

theorem mem_of_collect {seen : List String} {items : List (Except InputFault SourceFile)}
    {files : List SourceFile} (accepted : collect seen items = .ok files) {file : SourceFile}
    (member : file ∈ files) : .ok file ∈ items := by
  induction items generalizing seen files with
  | nil =>
      cases accepted
      cases member
  | cons item rest ih =>
      cases item with
      | error fault => cases accepted
      | ok first =>
          rw [collect] at accepted
          split at accepted
          · cases accepted
          · cases later : collect (first.path :: seen) rest with
            | error fault =>
                rw [later] at accepted
                cases accepted
            | ok others =>
                rw [later] at accepted
                cases accepted
                rcases List.mem_cons.mp member with rfl | behind
                · exact List.mem_cons_self
                · exact List.mem_cons_of_mem _ (ih later behind)

theorem collectValue_forward {given : Value} {files : List SourceFile}
    (accepted : collectValue given = .ok files) {file : SourceFile} (member : file ∈ files) :
    Forward file.path := by
  unfold collectValue at accepted
  split at accepted
  · obtain ⟨_, -, made⟩ := List.mem_map.mp (mem_of_collect accepted member)
    exact ofValue_forward made
  · obtain ⟨_, -, made⟩ := List.mem_map.mp (mem_of_collect accepted member)
    exact ofValue_forward made
  · cases accepted

theorem collect_paths {seen : List String} {items : List (Except InputFault SourceFile)}
    {files : List SourceFile} (accepted : collect seen items = .ok files) :
    (files.map (·.path)).Nodup ∧ ∀ file ∈ files, file.path ∉ seen := by
  induction items generalizing seen files with
  | nil =>
      cases accepted
      exact ⟨List.nodup_nil, nofun⟩
  | cons item rest ih =>
      cases item with
      | error fault => cases accepted
      | ok first =>
          rw [collect] at accepted
          split at accepted
          · cases accepted
          · rename_i fresh
            rw [List.contains_iff_mem] at fresh
            cases later : collect (first.path :: seen) rest with
            | error fault =>
                rw [later] at accepted
                cases accepted
            | ok others =>
                rw [later] at accepted
                cases accepted
                obtain ⟨distinct, unseen⟩ := ih later
                refine ⟨?_, ?_⟩
                · refine List.nodup_cons.mpr ⟨?_, distinct⟩
                  intro member
                  obtain ⟨file, behind, same⟩ := List.mem_map.mp member
                  exact unseen file behind (same ▸ List.mem_cons_self)
                · intro file member
                  rcases List.mem_cons.mp member with rfl | behind
                  · exact fresh
                  · exact fun known => unseen file behind (List.mem_cons_of_mem _ known)

/-- Files with paths of their own, none of them seen before, are accepted. -/
theorem collect_of_nodup {seen : List String} {files : List SourceFile}
    (distinct : (files.map (·.path)).Nodup) (unseen : ∀ file ∈ files, file.path ∉ seen) :
    collect seen (files.map .ok) = .ok files := by
  induction files generalizing seen with
  | nil => rfl
  | cons file rest ih =>
      obtain ⟨apart, later⟩ := List.nodup_cons.mp distinct
      obtain ⟨fresh, others⟩ := List.forall_mem_cons.mp unseen
      have accepted : collect (file.path :: seen) (rest.map .ok) = .ok rest := by
        refine ih later fun other member known => ?_
        rcases List.mem_cons.mp known with same | before
        · exact apart (List.mem_map.mpr ⟨other, member, same⟩)
        · exact others other member before
      rw [List.map_cons, collect, if_neg (by simpa using fresh), accepted]
      rfl

theorem collectValue_paths_nodup {given : Value} {files : List SourceFile}
    (accepted : collectValue given = .ok files) : (files.map (·.path)).Nodup := by
  unfold collectValue at accepted
  split at accepted
  · exact (collect_paths accepted).1
  · exact (collect_paths accepted).1
  · cases accepted

/-- Files as a collection that is handed in. -/
def asCollection (files : List SourceFile) : Value :=
  .list (files.map fun file => .object
    [("path", .text file.path), ("content", .text file.content), ("language", .text file.language)])

end CodeSurvey.SourceFile
