import Rollout.Proofs.Footprint
import Rollout.Proofs.Targets

/-!
# Directories that are written and cleaned

A directory for generated files is read twice: as a text to which a file name is joined, and as a
path whose files are cleaned. Both are the same directory, however it is written, unless it is
written as slashes alone: joined to a name these disappear, while as a path they are the root of all
files.

* `rooted`: a path as it is read from a root; `Way.ofPath_rooted`: its names.
* `Way.ofPath_rooted_joinPath`: where a file of a directory is written.
* `FileTree.LiesIn`: a path leads right into the directory at another path.
* `FileTree.liesIn_joinPath_iff`: a file that was written lies in its directory, or this is slashes
  alone.
* **`cleaned_where_written`**: when generated files are written where they are cleaned.
-/

namespace Rollout

/-! ## Paths from a root -/

/-- A path as it is read from a root. One that starts with a slash is not. -/
def rooted (root path : String) : String :=
  if path.toList.head? = some '/' then path
  else if root.isEmpty || FileTree.endsInSlash root then root ++ path
  else root ++ "/" ++ path

/-- The writer whose directories are read from a root. -/
def Writer.rooted (root : String) (w : Writer) : Writer :=
  { w with
    manifestDir := Rollout.rooted root w.manifestDir
    workflowDir := Rollout.rooted root w.workflowDir }

/-- The file whose path is read from a root. -/
def RenderedArtifact.rooted (root : String) (a : RenderedArtifact) : RenderedArtifact :=
  { a with path := Rollout.rooted root a.path }

/-- A path of slashes alone. -/
def OnlySlashes (dir : String) : Prop := dir ≠ "" ∧ ∀ c ∈ dir.toList, c = '/'

instance (dir : String) : Decidable (OnlySlashes dir) := by unfold OnlySlashes; infer_instance

theorem dropEndSlashes_eq_empty_iff {dir : String} :
    dropEndSlashes dir = "" ↔ dir = "" ∨ OnlySlashes dir := by
  have hall : dropEndSlashes dir = "" ↔ ∀ c ∈ dir.toList, c = '/' := by
    rw [← String.toList_eq_nil_iff, dropEndSlashes, String.toList_ofList, List.reverse_eq_nil_iff,
      List.dropWhile_eq_nil_iff]
    simp
  rw [hall, OnlySlashes]
  by_cases h : dir = ""
  · simp [h]
  · simp [h]

namespace Way

variable {root dir file path : String}

theorem rooted_of_absolute (h : path.toList.head? = some '/') : rooted root path = path := if_pos h

/-- **A path from a root** has the names of the root and then its own. -/
theorem ofPath_rooted (h : path.toList.head? ≠ some '/') (root : String) :
    ofPath (rooted root path) = (ofPath root).along (namesOf path.toList) := by
  rw [rooted, if_neg h]
  by_cases hempty : root = ""
  · rw [if_pos (by simp [hempty]), hempty, String.empty_append, ofPath_eq, decide_eq_false h]
    rfl
  by_cases hslash : FileTree.endsInSlash root = true
  · -- the slash at the end of the root stands between the two
    obtain ⟨cs, hcs⟩ := List.getLast?_eq_some_iff.mp (of_decide_eq_true hslash)
    have hroot : root = String.ofList cs ++ "/" := String.ext (by simp [hcs])
    rw [if_pos (by simp [hslash]), hroot, ofPath_append_slash]
  · rw [if_neg (by simp [hempty, hslash]), ofPath_append_slash, ofPath_slash hempty]

theorem head?_of_onlySlashes (h : OnlySlashes dir) : dir.toList.head? = some '/' := by
  obtain ⟨c, cs, hcs⟩ := List.exists_cons_of_ne_nil (mt String.toList_eq_nil_iff.mp h.1)
  rw [hcs, h.2 c (by rw [hcs]; exact List.mem_cons_self)]
  rfl

theorem ofPath_of_onlySlashes (h : OnlySlashes dir) : ofPath dir = ⟨true, []⟩ := by
  have hdrop : dropEndSlashes dir = "" := dropEndSlashes_eq_empty_iff.mpr (.inr h)
  rw [ofPath_eq, decide_eq_true (head?_of_onlySlashes h), ← namesOf_dropEndSlashes, hdrop]
  rfl

/-- A directory of slashes alone is the root of all files, whatever it is read from. -/
theorem ofPath_rooted_of_onlySlashes (h : OnlySlashes dir) (root : String) :
    ofPath (rooted root dir) = ⟨true, []⟩ := by
  rw [rooted_of_absolute (head?_of_onlySlashes h), ofPath_of_onlySlashes h]

/-- A directory that is left out of a path is the one from which paths are read. -/
theorem namesOf_of_leftOut (h : dropEndSlashes dir = "" ∨ dropEndSlashes dir = ".")
    (hs : ¬ OnlySlashes dir) : dir.toList.head? ≠ some '/' ∧ namesOf dir.toList = [] := by
  constructor
  · rcases h with h | h
    · rw [(dropEndSlashes_eq_empty_iff.mp h).resolve_right hs]
      decide
    · rw [← head?_dropEndSlashes (by rw [h]; decide), h]
      decide
  · rw [← namesOf_dropEndSlashes]
    rcases h with h | h <;> rw [h] <;> rfl

/-- **Where a file of a directory is written**, seen from a root. -/
theorem ofPath_rooted_joinPath (hf : file.toList.head? ≠ some '/') (root dir : String) :
    ofPath (rooted root (joinPath dir file)) =
      (ofPath (if OnlySlashes dir then root else rooted root dir)).along
        (namesOf file.toList) := by
  by_cases h : dropEndSlashes dir = "" ∨ dropEndSlashes dir = "."
  · have hdir : ofPath (if OnlySlashes dir then root else rooted root dir) = ofPath root := by
      split_ifs with hs
      · rfl
      · obtain ⟨hhead, hnames⟩ := namesOf_of_leftOut h hs
        rw [ofPath_rooted hhead, hnames, along_nil]
    rw [joinPath, if_pos (by simpa using h), ofPath_rooted hf, hdir]
  · have hs : ¬ OnlySlashes dir := fun hs => h (.inl (dropEndSlashes_eq_empty_iff.mpr (.inr hs)))
    have hjoin : ofPath (joinPath dir file) = (ofPath dir).along (namesOf file.toList) := by
      rw [ofPath_joinPath_along hf, if_neg h]
    -- the path starts with a slash when the directory does
    have hhead : (joinPath dir file).toList.head? = dir.toList.head? := by
      obtain ⟨hne, -⟩ := not_or.mp h
      rw [joinPath, if_neg (by simpa using h), String.append_assoc, String.toList_append,
        List.head?_append_of_ne_nil _ (mt String.toList_eq_nil_iff.mp hne),
        head?_dropEndSlashes hne]
    rw [if_neg hs]
    by_cases habs : dir.toList.head? = some '/'
    · rw [rooted_of_absolute (hhead.trans habs), rooted_of_absolute habs, hjoin]
    · have hnames : namesOf (joinPath dir file).toList =
          namesOf dir.toList ++ namesOf file.toList := congrArg names hjoin
      rw [ofPath_rooted (hhead ▸ habs), ofPath_rooted habs, along_along, hnames]

theorem ofPath_rooted_joinPath_eq_iff (hf : file.toList.head? ≠ some '/') (root dir : String) :
    ofPath (rooted root (joinPath dir file)) = ofPath (rooted (rooted root dir) file) ↔
      (OnlySlashes dir → ofPath root = ⟨true, []⟩) := by
  rw [ofPath_rooted_joinPath hf, ofPath_rooted hf, along_left_inj]
  by_cases hs : OnlySlashes dir
  · rw [if_pos hs, ofPath_rooted_of_onlySlashes hs]
    exact ⟨fun h _ => h, fun h => h hs⟩
  · rw [if_neg hs]
    exact iff_of_true rfl fun h => absurd h hs

theorem joinPath_ne_empty (hf : IsFileName file) (dir : String) : joinPath dir file ≠ "" := by
  intro h
  have hpath := ofPath_joinPath_eq hf dir
  rw [h] at hpath
  exact List.append_ne_nil_of_right_ne_nil _ (List.cons_ne_nil _ _) (congrArg names hpath).symm

end Way

/-! ## Files that were written -/

namespace FileTree

variable {t : FileTree} {p : Place} {root dir file name : String} {paths : List String}

theorem exists_locateFrom_of_concat : ∀ {b : Place} {w : List String}, t.isDirectory b = true →
    t.locateFrom b (w ++ [name]) = .ok p →
      ∃ q, t.locateFrom b w = .ok q ∧ t.isDirectory q = true
  | b, [], hb, _ => ⟨b, rfl, hb⟩
  | b, x :: w, hb, h => by
    rw [List.cons_append, locateFrom] at h
    split_ifs at h with hlong hlast
    · simp at hlast
    · split at h
      · cases h
      · cases h
      · rename_i hdir
        have hstep := isDirectory_iff.mpr hdir
        obtain ⟨q, hq, hqd⟩ := exists_locateFrom_of_concat hstep h
        refine ⟨q, ?_, hqd⟩
        rw [locateFrom, if_neg hlong, hdir, hq]
        cases w with
        | nil => exact hq
        | cons y w => rfl

/-- A way on which a file can stand leads to a directory before the last name. -/
theorem leadsToDirectory_of_locate_along {w : Way} (h : t.locate (w.along [name]) = .ok p) :
    t.leadsToDirectory w = true :=
  leadsToDirectory_iff_exists.mpr (exists_locateFrom_of_concat (isDirectory_start t w) h)

/-- A path leads right into the directory to which another one leads. -/
def LiesIn (t : FileTree) (dir path : String) : Prop :=
  ∃ name, t.DirectlyIn dir name ((Way.ofPath path).place t.here)

/-- **A file that was written lies in its directory**, unless this is slashes alone and the root is
not the root of all files. -/
theorem liesIn_joinPath_iff (hf : Way.IsFileName file)
    (hl : t.locate (.ofPath (rooted root (joinPath dir file))) = .ok p) :
    t.LiesIn (rooted root dir) (rooted root (joinPath dir file)) ↔
      (OnlySlashes dir → (Way.ofPath root).place t.here = []) := by
  unfold LiesIn DirectlyIn
  rw [Way.ofPath_rooted_joinPath hf.head?_ne, hf.namesOf_eq] at hl ⊢
  rw [Way.place_along hf.ne_dots]
  have hdir := leadsToDirectory_of_locate_along hl
  by_cases hs : OnlySlashes dir
  · rw [if_pos hs, Way.ofPath_rooted_of_onlySlashes hs]
    have hroot : t.leadsToDirectory ⟨true, []⟩ = true :=
      leadsToDirectory_iff_exists.mpr ⟨_, rfl, isDirectory_start t ⟨true, []⟩⟩
    constructor
    · rintro ⟨name, -, hplace⟩ -
      exact (List.append_inj' hplace rfl).1
    · intro h
      exact ⟨file, hroot, by rw [h hs]; rfl⟩
  · rw [if_neg hs] at hdir ⊢
    exact iff_of_true ⟨file, hdir, rfl⟩ fun h => absurd h hs

/-- All files of a directory lie in it if one of them does. -/
theorem forall_liesIn_iff (hne : paths ≠ [])
    (hpaths : ∀ path ∈ paths, ∃ file, Way.IsFileName file ∧ path = joinPath dir file)
    (hl : ∀ path ∈ paths, ∃ p, t.locate (.ofPath (rooted root path)) = .ok p) :
    (∀ path ∈ paths, t.LiesIn (rooted root dir) (rooted root path)) ↔
      (OnlySlashes dir → (Way.ofPath root).place t.here = []) := by
  have hiff : ∀ path ∈ paths, (t.LiesIn (rooted root dir) (rooted root path) ↔
      (OnlySlashes dir → (Way.ofPath root).place t.here = [])) := by
    intro path hpath
    obtain ⟨file, hf, rfl⟩ := hpaths path hpath
    obtain ⟨p, hp⟩ := hl _ hpath
    exact liesIn_joinPath_iff hf hp
  obtain ⟨path, hpath⟩ := List.exists_mem_of_ne_nil _ hne
  exact ⟨fun h => (hiff path hpath).mp (h path hpath), fun h q hq => (hiff q hq).mpr h⟩

end FileTree

/-! ## The working directory as the root -/

section WorkingDirectory

variable {path dir : String} {a : RenderedArtifact} {r : Refusals} {t : FileTree}

theorem Way.ofPath_rooted_dot (path : String) : ofPath (rooted "." path) = ofPath path := by
  by_cases h : path.toList.head? = some '/'
  · rw [rooted_of_absolute h]
  · rw [ofPath_rooted h, ofPath_eq path, decide_eq_false h]
    rfl

theorem toList_rooted_dot (h : path.toList.head? ≠ some '/') :
    (rooted "." path).toList = '.' :: '/' :: path.toList := by
  rw [rooted, if_neg h, if_neg (by decide), String.append_assoc, String.toList_append,
    String.toList_append]
  rfl

theorem FileTree.endsInSlash_rooted_dot (h : path ≠ "") :
    endsInSlash (rooted "." path) = endsInSlash path := by
  by_cases hhead : path.toList.head? = some '/'
  · rw [Way.rooted_of_absolute hhead]
  · obtain ⟨c, cs, hcs⟩ := List.exists_cons_of_ne_nil (mt String.toList_eq_nil_iff.mp h)
    rw [endsInSlash, endsInSlash, toList_rooted_dot hhead, hcs, List.getLast?_cons_cons,
      List.getLast?_cons_cons]

theorem FileTree.endsInDirectory_rooted_dot (h : path ≠ "") :
    endsInDirectory (rooted "." path) = endsInDirectory path := by
  rw [endsInDirectory, endsInDirectory, endsInSlash_rooted_dot h]
  by_cases hhead : path.toList.head? = some '/'
  · rw [Way.rooted_of_absolute hhead]
  · have hnames : pathNames (rooted "." path) = ["."] ++ pathNames path := by
      have hsplit : ('.' :: '/' :: path.toList).splitOn '/' = ['.'] :: path.toList.splitOn '/' :=
        List.splitOn_append_cons_self ['.'] path.toList
      rw [pathNames, toList_rooted_dot hhead, hsplit, List.map_cons]
      rfl
    have hne : pathNames path ≠ [] := by
      rw [pathNames, ne_eq, List.map_eq_nil_iff]
      exact List.splitOn_ne_nil '/' path.toList
    rw [hnames, List.getLast?_append_of_ne_nil _ hne]

theorem FileTree.writePath_rooted_dot (h : path ≠ "") (c : Bytes) :
    t.writePath r (rooted "." path) c = t.writePath r path c := by
  simp only [writePath, Way.ofPath_rooted_dot, endsInSlash_rooted_dot h,
    endsInDirectory_rooted_dot h]

namespace Writer

theorem writeAll_rooted_dot {as : List RenderedArtifact} (h : ∀ a ∈ as, a.path ≠ "") :
    writeAll r t (as.map (·.rooted ".")) = writeAll r t as := by
  induction as generalizing t with
  | nil => rfl
  | cons a as ih =>
    obtain ⟨ha, has⟩ := List.forall_mem_cons.mp h
    have hfile : t.writePath r (a.rooted ".").path (.ofText (a.rooted ".").contents) =
        t.writePath r a.path (.ofText a.contents) := FileTree.writePath_rooted_dot ha _
    rw [List.map_cons, writeAll, writeAll, hfile]
    split
    · rfl
    · exact ih has

theorem removeIn_rooted_dot (r : Refusals) (dir : String) (owns : String → Option Bytes → Bool) :
    removeIn r (Rollout.rooted "." dir) owns = removeIn r dir owns := by
  funext t
  unfold removeIn
  rw [Way.ofPath_rooted_dot]

/-- **Seen from the working directory**, a writer is as it is by itself. -/
theorem write_rooted_dot (w : Writer) {as : List RenderedArtifact} (h : ∀ a ∈ as, a.path ≠ "") :
    (w.rooted ".").write r t (as.map (·.rooted ".")) = w.write r t as := by
  have hclean : (w.rooted ".").clean r t = w.clean r t := by
    simp only [clean, Writer.rooted, removeIn_rooted_dot]
    rfl
  simp only [write, hclean, writeAll_rooted_dot h, List.length_map]

end Writer

end WorkingDirectory

/-! ## Files of a compiled service -/

section Files

variable {s : Service} {o : CompileOptions} {set : ArtifactSet} {r : Refusals} {t t' : FileTree}
  {n : Nat} {root : String}

theorem mem_toList_of_mem_manifests {m : String × Application} (hm : m ∈ set.manifests) :
    ⟨m.1, .manifest m.2⟩ ∈ set.toList := by
  obtain ⟨⟨path, content⟩, ha, he⟩ := List.mem_filterMap.mp hm
  cases content <;> cases he
  exact ha

theorem mem_toList_of_mem_workflows {w : String × Workflow} (hw : w ∈ set.workflows) :
    ⟨w.1, .workflow w.2⟩ ∈ set.toList := by
  obtain ⟨⟨path, content⟩, ha, he⟩ := List.mem_filterMap.mp hw
  cases content <;> cases he
  exact ha

theorem paths_manifests (h : s.compile o = .ok set) : set.manifests.map Prod.fst ≠ [] ∧
    ∀ path ∈ set.manifests.map Prod.fst, ∃ file, Way.IsFileName file ∧
      path = joinPath o.manifests.outputDir file := by
  obtain ⟨p, hp, -, hm⟩ := manifests_of_compile h
  rw [hm, List.map_map]
  constructor
  · obtain ⟨m, hm⟩ := hp.exists_mem_manifests o.manifests
    exact List.ne_nil_of_mem (List.mem_map_of_mem hm)
  · refine List.forall_mem_map.mpr fun m hm => ?_
    obtain ⟨raw, hr⟩ := path_of_mem_manifests hm
    exact ⟨_, isFileName_manifest raw, hr⟩

theorem paths_workflows (h : s.compile o = .ok set) (hp : '/' ∉ o.workflows.filePrefix.toList) :
    set.workflows.map Prod.fst ≠ [] ∧ ∀ path ∈ set.workflows.map Prod.fst, ∃ file,
      Way.IsFileName file ∧ path = joinPath o.workflows.outputDir file := by
  obtain ⟨p, -, -, hset⟩ := compile_eq_ok_iff.mp h
  rw [workflows_of_toList hset, List.map_map]
  constructor
  · rw [ne_eq, List.map_eq_nil_iff]
    exact List.append_ne_nil_of_right_ne_nil _ (List.cons_ne_nil _ _)
  · refine List.forall_mem_map.mpr fun w hw => ?_
    exact ⟨_, isFileName_workflow hp _, path_of_mem_workflows hw⟩

theorem path_ne_empty (h : s.compile o = .ok set) (hp : '/' ∉ o.workflows.filePrefix.toList) :
    ∀ a ∈ set.render, a.path ≠ "" := by
  refine List.forall_mem_map.mpr fun a ha => ?_
  have hpath : a.render.path = a.path := rfl
  rcases path_of_mem_compile h ha with ⟨raw, hr⟩ | ⟨name, hr⟩ <;> rw [hpath, hr]
  · exact Way.joinPath_ne_empty (isFileName_manifest raw) _
  · exact Way.joinPath_ne_empty (isFileName_workflow hp name) _

/-- After a run, the path of each document leads to its file. -/
theorem locate_of_write
    (h : (o.writer.rooted root).write r t (set.render.map (·.rooted root)) = (t', .ok n)) :
    ∀ a ∈ set.toList, ∃ p, t'.locate (.ofPath (rooted root a.path)) = .ok p := by
  intro a ha
  obtain ⟨-, hall, -⟩ := Writer.write_eq_ok_iff.mp h
  have hmem : a.render.rooted root ∈ set.render.map (·.rooted root) :=
    List.mem_map_of_mem (List.mem_map_of_mem ha)
  exact ⟨_, (FileTree.locate_writeAll hall _ hmem).2⟩

/-- **Generated files are written where they are cleaned**, however the directories are written,
unless one is slashes alone and the root is another directory. -/
theorem cleaned_where_written (root : String) :
    (∀ dir file, '/' ∉ file.toList →
      (Way.ofPath (rooted root (joinPath dir file)) = Way.ofPath (rooted (rooted root dir) file) ↔
        (OnlySlashes dir → Way.ofPath root = ⟨true, []⟩))) ∧
    ∀ (s : Service) (o : CompileOptions) (set : ArtifactSet) (r : Refusals) (t t' : FileTree)
      (n : Nat), '/' ∉ o.workflows.filePrefix.toList → s.compile o = .ok set →
      (o.writer.rooted root).write r t (set.render.map (·.rooted root)) = (t', .ok n) →
      ((∀ m ∈ set.manifests, t'.LiesIn (o.writer.rooted root).manifestDir (rooted root m.1)) ↔
        (OnlySlashes o.manifests.outputDir → (Way.ofPath root).place t'.here = [])) ∧
      ((∀ w ∈ set.workflows, t'.LiesIn (o.writer.rooted root).workflowDir (rooted root w.1)) ↔
        (OnlySlashes o.workflows.outputDir → (Way.ofPath root).place t'.here = [])) := by
  constructor
  · intro dir file hf
    exact Way.ofPath_rooted_joinPath_eq_iff (fun hs => hf (List.mem_of_mem_head? hs)) root dir
  · intro s o set r t t' n hp hc hw
    have hlocate := locate_of_write hw
    have hm : (o.writer.rooted root).manifestDir = rooted root o.manifests.outputDir := rfl
    have hd : (o.writer.rooted root).workflowDir = rooted root o.workflows.outputDir := rfl
    rw [hm, hd]
    constructor
    · have hl : ∀ m ∈ set.manifests, ∃ p, t'.locate (.ofPath (rooted root m.1)) = .ok p :=
        fun m hm => hlocate ⟨m.1, .manifest m.2⟩ (mem_toList_of_mem_manifests hm)
      obtain ⟨hne, hpaths⟩ := paths_manifests hc
      rw [← FileTree.forall_liesIn_iff hne hpaths (List.forall_mem_map.mpr hl),
        List.forall_mem_map]
    · have hl : ∀ w ∈ set.workflows, ∃ p, t'.locate (.ofPath (rooted root w.1)) = .ok p :=
        fun w hw => hlocate ⟨w.1, .workflow w.2⟩ (mem_toList_of_mem_workflows hw)
      obtain ⟨hne, hpaths⟩ := paths_workflows hc hp
      rw [← FileTree.forall_liesIn_iff hne hpaths (List.forall_mem_map.mpr hl),
        List.forall_mem_map]

end Files

/-- One directory with superfluous slashes and dots, and one that is not below the root. -/
def CompileOptions.spelled : CompileOptions where
  manifests := { repoUrl := ".", outputDir := "./apps//" }
  workflows := { outputDir := "/srv/./ci/" }

theorem cleaned_where_written_spelled : ∃ set t' n,
    (Service.single "a").compile .spelled = .ok set ∧
    (CompileOptions.spelled.writer.rooted ".").write {} .sample (set.render.map (·.rooted ".")) =
      (t', .ok n) ∧
    (∀ m ∈ set.manifests, t'.LiesIn (rooted "." "./apps//") (rooted "." m.1)) ∧
    ∀ w ∈ set.workflows, t'.LiesIn (rooted "." "/srv/./ci/") (rooted "." w.1) := by
  obtain ⟨set, hset, ⟨t', n, hwrite⟩, -⟩ := exists_write_of_writesFreely (s := .single "a")
    (o := .spelled) (t := .sample) (by decide +kernel)
  have hp : '/' ∉ CompileOptions.spelled.workflows.filePrefix.toList := by decide
  rw [← Writer.write_rooted_dot _ (path_ne_empty hset hp)] at hwrite
  obtain ⟨hm, hw⟩ := (cleaned_where_written ".").2 _ _ set {} _ t' n hp hset hwrite
  exact ⟨set, t', n, hset, hwrite, hm.mpr fun h => absurd (h.2 '.' (by decide)) (by decide),
    hw.mpr fun h => absurd (h.2 '.' (by decide)) (by decide)⟩

/-- Manifests in a directory that is written as a slash. -/
def CompileOptions.slash : CompileOptions where
  manifests := { repoUrl := ".", outputDir := "/" }

/-- A manifest of a directory that is written as a slash stands in the working directory, where the
next run does not look for it. -/
theorem slash_not_cleaned :
    (".." ∉ pathNames "/" ∧ '/' ∉ "web-all-a.yaml".toList ∧
      Way.ofPath (rooted "." (joinPath "/" "web-all-a.yaml")) ≠
        Way.ofPath (rooted (rooted "." "/") "web-all-a.yaml")) ∧
    ∃ set t' n c, (Service.single "a").compile .slash = .ok set ∧
      CompileOptions.slash.writer.write {} .sample set.render = (t', .ok n) ∧
      t'.file? ["shop", "web-all-a.yaml"] = some c ∧
      (CompileOptions.slash.writer.clean {} t').1.file? ["shop", "web-all-a.yaml"] = some c := by
  refine ⟨⟨by decide, by decide, by decide +kernel⟩, ?_⟩
  have hrun : ((Service.single "a").compile .slash).toOption.any (fun set =>
      let run := CompileOptions.slash.writer.write {} .sample set.render
      run.2.toOption.isSome &&
        ((CompileOptions.slash.writer.clean {} run.1).1.file? ["shop", "web-all-a.yaml"]).isSome)
          = true := by
    decide +kernel
  obtain ⟨set, hset, hrun⟩ := any_toOption_iff.mp hrun
  obtain ⟨hwrite, hkept⟩ := Bool.and_eq_true_iff.mp hrun
  obtain ⟨n, hn⟩ := isSome_toOption_iff.mp hwrite
  obtain ⟨c, hc⟩ := Option.isSome_iff_exists.mp hkept
  exact ⟨set, _, n, c, hset, Prod.ext rfl hn,
    (Writer.swept_clean CompileOptions.slash.writer {} _).file?_of_some hc, hc⟩

end Rollout
