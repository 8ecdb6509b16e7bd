import Rollout.Promotion
import Rollout.Proofs.Identifier.Words

/-!
# Paths of generated files

* `exists_joinPath`: a file in a directory has a fixed text before its name.
* `manifestPath`: where the manifest of a resource is written.
* **`manifestPath_inj`**, **`WorkflowOptions.path_inj`**: two manifests share a path when they share
  their name, two workflows when the words of their identifiers are the same.
* `manifestPath_ne_path`: a manifest and a workflow never share a path.
-/

namespace Rollout

theorem exists_joinPath (dir : String) : ∃ start, ∀ file, joinPath dir file = start ++ file := by
  by_cases h : ((dropEndSlashes dir).isEmpty || dropEndSlashes dir = ".") = true
  · exact ⟨"", fun file => by rw [joinPath, if_pos h, String.empty_append]⟩
  · exact ⟨dropEndSlashes dir ++ "/", fun file => by rw [joinPath, if_neg h]⟩

theorem joinPath_inj {dir a b : String} : joinPath dir a = joinPath dir b ↔ a = b := by
  obtain ⟨start, h⟩ := exists_joinPath dir
  simp only [h, String.append_right_inj]

/-- The path of a resource's manifest. -/
def manifestPath (options : ManifestOptions) (resource : String) : String :=
  joinPath options.outputDir (resource ++ ".yaml")

theorem manifestPath_inj {options : ManifestOptions} {a b : String} :
    manifestPath options a = manifestPath options b ↔ a = b := by
  unfold manifestPath
  rw [joinPath_inj, String.append_left_inj]

namespace WorkflowOptions

variable {o : WorkflowOptions} {a b : String}

/-- **Workflows share a path exactly when their names have one identifier.** -/
theorem path_inj : o.path a = o.path b ↔ identifierWords a = identifierWords b := by
  unfold path
  simp only [joinPath_inj, fileName, String.append_left_inj, String.append_right_inj, sanitize_inj]

end WorkflowOptions

/-- No name has both endings. -/
theorem append_yaml_ne_append_yml (a b : String) : a ++ ".yaml" ≠ b ++ ".yml" := by
  intro h
  rw [← String.toList_inj] at h
  -- Read from the end, the third character tells the two kinds of files apart.
  have := congrArg List.reverse h
  have hy : ".yaml".toList.reverse = ['l', 'm', 'a', 'y', '.'] := by cbv
  have hw : ".yml".toList.reverse = ['l', 'm', 'y', '.'] := by cbv
  simp only [String.toList_append, List.reverse_append, hy, hw, List.cons_append,
    List.cons.injEq] at this
  exact absurd this.2.2.1 (by decide)

theorem manifestPath_ne_path (options : ManifestOptions) (resource : String) (o : WorkflowOptions)
    (workflow : String) : manifestPath options resource ≠ o.path workflow := by
  obtain ⟨start, hs⟩ := exists_joinPath options.outputDir
  obtain ⟨start', hs'⟩ := exists_joinPath o.outputDir
  rw [manifestPath, WorkflowOptions.path, hs, hs', WorkflowOptions.fileName, ← String.append_assoc,
    ← String.append_assoc]
  exact append_yaml_ne_append_yml _ _

end Rollout
