import Mathlib
import Rollout.CommandLine.Run
import Rollout.Proofs.Document.Lines

/-!
# What a dry run prints

The files stand one after the other, each below a line with its path, and nothing is escaped. They
can be told apart because no line of a document starts with a number sign.

* `CommandLine.Shows`: a text has some files, in this order; **`CommandLine.shows_dryRunText`**.
* `CommandLine.printedFiles`: reads files off such a text.
* **`CommandLine.printedFiles_dryRunText`**: the files of a dry run are read back, unless a path has
  a line break.
-/

namespace Rollout.CommandLine

/-! ## The text -/

/-- The text has these files in order: each is a line with its path and then its contents, and
dashes stand between two. -/
inductive Shows : String → List RenderedArtifact → Prop
  | none : Shows "" []
  | one (a : RenderedArtifact) : Shows ("# Source: " ++ a.path ++ "\n" ++ a.contents) [a]
  | more (a b : RenderedArtifact) {rest : List RenderedArtifact} {text : String}
      (h : Shows text (b :: rest)) :
    Shows ("# Source: " ++ a.path ++ "\n" ++ a.contents ++ "---\n" ++ text) (a :: b :: rest)

theorem dryRunText_cons_cons (a b : RenderedArtifact) (rest : List RenderedArtifact) :
    dryRunText (a :: b :: rest) = "# Source: " ++ a.path ++ "\n" ++ a.contents ++ "---\n"
      ++ dryRunText (b :: rest) := by
  rw [dryRunText, List.map_cons, List.map_cons, String.intercalate_cons_cons]
  rfl

/-- **A dry run shows its files.** -/
theorem shows_dryRunText : ∀ as : List RenderedArtifact, Shows (dryRunText as) as
  | [] => .none
  | [a] => .one a
  | a :: b :: rest => by
    rw [dryRunText_cons_cons]
    exact .more a b (shows_dryRunText (b :: rest))

/-! ## Reading it back -/

/-- What a line with a path starts with. -/
def sourceMark : List Char := "# Source: ".toList

/-- What stands between two files. -/
def dashes : List Char := "---".toList

/-- The lines before the first one with a path, and each path with the lines that follow it. -/
def sections : List (List Char) → List (List Char) × List (List Char × List (List Char))
  | [] => ([], [])
  | line :: rest =>
    let (before, found) := sections rest
    match sourceMark.isPrefixOf? line with
    | some path => ([], (path, before) :: found)
    | none => (line :: before, found)

/-- Reads files off a printed text. Dashes are put at its end, so that they follow every file. -/
def printedFiles (text : String) : List RenderedArtifact :=
  (sections ((text.toList ++ dashes).splitOn '\n')).2.map fun (path, lines) =>
    ⟨String.ofList path, String.ofList ((['\n'].intercalate lines).rdrop dashes.length)⟩

section Sections

variable {path : List Char} {lines more : List (List Char)}

theorem sections_cons_source : sections ((sourceMark ++ path) :: lines) =
    ([], (path, (sections lines).1) :: (sections lines).2) := by
  have hmark : sourceMark.isPrefixOf? (sourceMark ++ path) = some path :=
    List.isPrefixOf?_eq_some_iff_append_eq.mpr rfl
  rw [sections, hmark]

theorem sections_append (h : ∀ line ∈ lines, ¬ sourceMark <+: line) :
    sections (lines ++ more) = (lines ++ (sections more).1, (sections more).2) := by
  induction lines with
  | nil => rfl
  | cons line lines ih =>
    obtain ⟨hline, hlines⟩ := List.forall_mem_cons.mp h
    have hmark : sourceMark.isPrefixOf? line = none :=
      Option.eq_none_iff_forall_ne_some.mpr fun path hp =>
        hline ⟨path, List.isPrefixOf?_eq_some_iff_append_eq.mp hp⟩
    rw [List.cons_append, sections, ih hlines, hmark, List.cons_append]

end Sections

/-- **No line of a generated file looks like one with a path.** -/
theorem not_prefix_of_mem_lines (a : Artifact) : ∀ line ∈
    (a.render.contents.toList ++ dashes).splitOn '\n', ¬ sourceMark <+: line := by
  have hcontents : a.render.contents.toList ++ dashes = generatedHeader.toList.dropLast
      ++ '\n' :: ((Yaml.write a.content.encode).toList ++ dashes) := by
    show (generatedHeader ++ _).toList ++ _ = _
    rw [String.toList_append, List.append_assoc]
    rfl
  have hdashes : Yaml.Tame dashes := by decide
  have hlines := (Yaml.uncommented_write a.content.encode).append_tame hdashes
  rw [hcontents, List.splitOn_append_cons_self, List.splitOn_eq_singleton (by decide),
    List.singleton_append, List.forall_mem_cons]
  refine ⟨by decide, ?_⟩
  rintro line hline ⟨rest, rfl⟩
  exact hlines.head?_ne hline rfl

/-- A file as it is printed, with dashes after it. -/
def fileText (a : Artifact) : List Char :=
  sourceMark ++ a.path.toList ++ '\n' :: (a.render.contents.toList ++ dashes)

/-- Its lines are below the line with its path. -/
theorem sections_fileText {a : Artifact} (h : '\n' ∉ a.path.toList)
    (more : List (List Char)) : sections ((fileText a).splitOn '\n' ++ more) =
      ([], (a.path.toList, (a.render.contents.toList ++ dashes).splitOn '\n' ++ (sections more).1)
        :: (sections more).2) := by
  have hsource : '\n' ∉ sourceMark ++ a.path.toList := by
    rw [List.mem_append, not_or]
    exact ⟨by decide, h⟩
  rw [fileText, List.splitOn_append_cons_self, List.splitOn_eq_singleton hsource,
    List.singleton_append, List.cons_append, sections_cons_source,
    sections_append (not_prefix_of_mem_lines a)]

/-- A dry run read by its lines. -/
theorem sections_dryRunText : ∀ (a : Artifact) (as : List Artifact),
    (∀ b ∈ a :: as, '\n' ∉ b.path.toList) →
    sections (((dryRunText ((a :: as).map (·.render))).toList ++ dashes).splitOn '\n') =
      ([], (a :: as).map fun b =>
        (b.path.toList, (b.render.contents.toList ++ dashes).splitOn '\n'))
  | a, [], h => by
    have htext : (dryRunText [a.render]).toList ++ dashes = fileText a := by
      show ("# Source: " ++ a.path ++ "\n" ++ a.render.contents).toList ++ dashes = _
      simp only [String.toList_append, List.append_assoc]
      rfl
    rw [List.map_singleton, List.map_singleton, htext, ← List.append_nil (List.splitOn ..),
      sections_fileText (h a List.mem_cons_self), sections, List.append_nil]
  | a, b :: as, h => by
    obtain ⟨ha, hrest⟩ := List.forall_mem_cons.mp h
    have htext : (dryRunText ((a :: b :: as).map (·.render))).toList ++ dashes =
        fileText a ++ '\n' :: ((dryRunText ((b :: as).map (·.render))).toList ++ dashes) := by
      rw [List.map_cons, List.map_cons, dryRunText_cons_cons]
      simp only [fileText, String.toList_append, List.append_assoc, List.cons_append]
      rfl
    rw [htext, List.splitOn_append_cons_self, sections_fileText ha, sections_dryRunText b as hrest,
      List.append_nil]
    rfl

/-- **The files of a dry run are read back.** -/
theorem printedFiles_dryRunText {as : List Artifact} (h : ∀ a ∈ as, '\n' ∉ a.path.toList) :
    printedFiles (dryRunText (as.map (·.render))) = as.map (·.render) := by
  cases as with
  | nil => decide
  | cons a as =>
    rw [printedFiles, sections_dryRunText a as h, List.map_map]
    refine List.map_congr_left fun b _ => ?_
    have hcontents : ((['\n'].intercalate ((b.render.contents.toList ++ dashes).splitOn '\n')).rdrop
        dashes.length) = b.render.contents.toList := by
      rw [List.intercalate_splitOn, List.rdrop, List.length_append, Nat.add_sub_cancel,
        List.take_left]
    simp only [Function.comp_apply, hcontents, String.ofList_toList]
    rfl

/-- A file whose path has a line break may be read as two. -/
example : printedFiles (dryRunText [⟨"a\n---\n# Source: b", "c"⟩]) = [⟨"a", ""⟩, ⟨"b", "c"⟩] := by
  decide +kernel

end Rollout.CommandLine
