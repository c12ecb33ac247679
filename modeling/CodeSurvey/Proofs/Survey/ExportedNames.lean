import CodeSurvey.Proofs.Graph.FileOrder
import CodeSurvey.Proofs.Quality.Lines
import CodeSurvey.Proofs.Source.Collection
import CodeSurvey.Proofs.Survey.Outcome

set_option autoImplicit false

namespace CodeSurvey

namespace FileNode

theorem link_exports (node : FileNode) (specifier : String) (meaning : Resolution) :
    (node.link specifier meaning).exports = node.exports := by
  unfold link
  split
  · split <;> rfl
  · rfl
  · rfl

theorem ofFile_exports (paths : List String) (file : SourceFile) :
    (ofFile paths file).exports = Source.exports file.family file.content.toList := by
  unfold ofFile
  apply List.foldlRecOn (motive := fun node : FileNode =>
    node.exports = Source.exports file.family file.content.toList)
  · dsimp only
  · intro node same specifier _
    rw [link_exports, same]

end FileNode

theorem NodeMap.build_exports {files : List SourceFile} (distinct : (files.map (·.path)).Nodup)
    {file : SourceFile} (member : file ∈ files) :
    ∃ node, (build files).get? file.path = some node ∧
      node.exports = Source.exports file.family file.content.toList := by
  have present : FileNode.ofFile (files.map (·.path)) file ∈ bare files := by
    rw [bare_of_nodup distinct]
    exact List.mem_map_of_mem member
  have found := get?_of_mem (bare_paths_nodup files) present
  have exports := FileNode.ofFile_exports (files.map (·.path)) file
  rw [FileNode.ofFile_path] at found
  rw [build_get?, found, Option.map_some]
  generalize FileNode.ofFile (files.map (·.path)) file = node at exports
  exact ⟨_, rfl, exports⟩

namespace Survey

variable {σ : Type} {m : Clone.Measure σ Float} {scale : Clone.Scale σ} {clock : Clock}

/-- Dead code lies in a file that was analysed. If it is a function or a class, its name is not among
the exports of the file's node. A variable is reported, exported or not, just if its name occurs
once in its file. -/
theorem run_spares_exported_functions_and_classes {collection given : Value}
    {files : List SourceFile} {budget : Option Budget} {strict : Bool} {survey : Survey σ}
    (accepted : SourceFile.collectValue collection = .ok files)
    (returned : (run m scale clock given budget strict
      (SourceFile.collectValue collection)).outcome = .ok survey) :
    (∀ d ∈ survey.quality.dead, ∃ file ∈ files.take survey.filesAnalyzed, d.file = file.path ∧
      ∃ node, survey.graph.nodes.get? d.file = some node ∧
        node.exports = Source.exports file.family file.content.toList ∧
        (d.kind = "function" ∨ d.kind = "class" → d.name ∉ node.exports)) ∧
    ∀ file ∈ files.take survey.filesAnalyzed, ∀ (name : String) (line : Nat),
      (∃ d ∈ survey.quality.dead, d.file = file.path ∧ d.kind = "variable" ∧ d.name = name ∧
        d.line = line) ↔ DeadCode.OccursOnce file ⟨name, line⟩ := by
  obtain ⟨_, _, _, -, tells⟩ := run_tellsOf accepted returned
  have distinct : ((files.take survey.filesAnalyzed).map (·.path)).Nodup := by
    rw [List.map_take]
    exact (SourceFile.collectValue_paths_nodup accepted).sublist (List.take_sublist _ _)
  simp only [tells.dead, List.mem_flatMap]
  refine ⟨?_, ?_⟩
  · rintro d ⟨file, analysed, reported⟩
    have path := (DeadCode.detect_line reported).2.1
    obtain ⟨node, found, exports⟩ := NodeMap.build_exports distinct analysed
    have known : survey.graph.nodes.get? file.path = some node := by
      rw [tells.graph]
      exact found
    refine ⟨file, analysed, path, node, path ▸ known, exports, ?_⟩
    intro kind
    have spared := DeadCode.detect_spares_exported reported kind
    rwa [Quality.exportsOf, known] at spared
  · intro file analysed name line
    constructor
    · rintro ⟨d, ⟨other, listed, reported⟩, path, kind, named, place⟩
      have same : other = file := List.inj_on_of_nodup_map distinct listed analysed
        ((DeadCode.detect_line reported).2.1.symm.trans path)
      subst same
      exact DeadCode.detect_variable_iff.mp ⟨d, reported, kind, named, place⟩
    · intro once
      obtain ⟨d, reported, kind, named, place⟩ := DeadCode.detect_variable_iff.mpr once
      exact ⟨d, ⟨file, analysed, reported⟩, (DeadCode.detect_line reported).2.1, kind, named, place⟩

/-- A script with a constant, a function and a class that it exports, and a function that it does not
export. -/
def exporter : SourceFile :=
  ⟨"src/orphan.ts", "export const lonely = 2\nexport function f() \x7b\x7d\n" ++
    "export class C \x7b\x7d\nfunction g() \x7b\x7d\n", "ts"⟩

theorem run_spares_exported_functions_and_classes_of_exporter :
    ∃ survey, (run .double .double (fun _ => 0) .null none true
        (SourceFile.collectValue (SourceFile.asCollection [exporter]))).outcome = .ok survey ∧
      survey.quality.dead.map (fun d => (d.kind, d.name)) =
        [("function", "g"), ("variable", "lonely")] ∧
      ∀ d ∈ survey.quality.dead, d.kind = "function" →
        ∃ node, survey.graph.nodes.get? "src/orphan.ts" = some node ∧
          node.exports = ["lonely", "f", "C"] ∧ d.name ∉ node.exports := by
  have accepted : SourceFile.collectValue (SourceFile.asCollection [exporter]) = .ok [exporter] := by
    rfl
  obtain ⟨survey, returned, checked⟩ : ∃ survey, (run .double .double (fun _ => 0) .null none true
      (SourceFile.collectValue (SourceFile.asCollection [exporter]))).outcome = .ok survey ∧
        (survey.filesAnalyzed == 1 && survey.quality.dead.map (fun d => (d.kind, d.name)) ==
          [("function", "g"), ("variable", "lonely")]) = true :=
    Except.exists_of_any (by decide +kernel)
  rw [Bool.and_eq_true, beq_iff_eq, beq_iff_eq] at checked
  refine ⟨survey, returned, checked.2, ?_⟩
  intro d reported kind
  obtain ⟨file, analysed, path, node, found, exports, spared⟩ :=
    (run_spares_exported_functions_and_classes accepted returned).1 d reported
  rw [checked.1] at analysed
  cases List.mem_singleton.mp analysed
  rw [path] at found
  exact ⟨node, found, exports.trans (by decide +kernel), spared (.inl kind)⟩

/-- The constant of the script is reported although it is exported. -/
theorem run_reports_exported_variable :
    SourceFile.collectValue (SourceFile.asCollection [exporter]) = .ok [exporter] ∧
      ∃ survey, (run .double .double (fun _ => 0) .null none false
          (SourceFile.collectValue (SourceFile.asCollection [exporter]))).outcome = .ok survey ∧
        ∃ d ∈ survey.quality.dead, d.kind = "variable" ∧
          ∃ node, survey.graph.nodes.get? d.file = some node ∧ d.name ∈ node.exports := by
  refine ⟨rfl, ?_⟩
  obtain ⟨survey, returned, checked⟩ : ∃ survey, (run .double .double (fun _ => 0) .null none false
      (SourceFile.collectValue (SourceFile.asCollection [exporter]))).outcome = .ok survey ∧
        (survey.quality.dead.any fun d => d.kind == "variable" &&
          (survey.graph.nodes.get? d.file).any fun node => node.exports.contains d.name) = true :=
    Except.exists_of_any (by decide +kernel)
  obtain ⟨d, reported, here⟩ := List.any_eq_true.mp checked
  rw [Bool.and_eq_true, beq_iff_eq, Option.any_eq_true] at here
  obtain ⟨kind, node, found, exported⟩ := here
  exact ⟨survey, returned, d, reported, kind, node, found, List.contains_iff_mem.mp exported⟩

end Survey

end CodeSurvey
