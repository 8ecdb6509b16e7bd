import Rollout.Proofs.ArtifactPaths
import Rollout.Proofs.Writer

/-!
# Generating again

What the compiler names and what the writer recognises are said in different places. Here they are
brought together: every file of an artifact set is one that the writer owns.

* `Way.ofPath_joinPath`: a file in a directory stands right below the place of the directory.
* **`targets_nodup`**: files of an artifact set share a place only with their path.
* **`owned_render`**: the writer owns every file of a compiled service.
* **`write_after_write`**: files of an earlier run leave no trace in a later one.
-/

namespace Rollout

/-! ## Places of paths -/

namespace Way

/-- The proper names of a path. -/
def namesOf (cs : List Char) : List String :=
  ((cs.splitOn '/').map String.ofList).filter fun name => name != "" && name != "."

theorem ofPath_eq (path : String) :
    ofPath path = ⟨path.toList.head? = some '/', namesOf path.toList⟩ := rfl

theorem ofPath_congr {path path' : String} (hh : path.toList.head? = path'.toList.head?)
    (hn : namesOf path.toList = namesOf path'.toList) : ofPath path = ofPath path' := by
  rw [ofPath_eq, ofPath_eq, hh, hn]

theorem namesOf_append_slash (a b : List Char) :
    namesOf (a ++ '/' :: b) = namesOf a ++ namesOf b := by
  unfold namesOf
  rw [List.splitOn_append_cons_self, List.map_append, List.filter_append]

theorem namesOf_concat_slash (cs : List Char) : namesOf (cs ++ ['/']) = namesOf cs :=
  (namesOf_append_slash cs []).trans (List.append_nil _)

theorem namesOf_dropEndSlashes (dir : String) :
    namesOf (dropEndSlashes dir).toList = namesOf dir.toList := by
  rw [dropEndSlashes, String.toList_ofList]
  induction dir.toList using List.reverseRecOn with
  | nil => rfl
  | append_singleton cs c ih =>
    rw [List.reverse_concat]
    by_cases hc : c = '/'
    · rw [List.dropWhile_cons_of_pos (by simp [hc]), ih, hc, namesOf_concat_slash]
    · rw [List.dropWhile_cons_of_neg (by simp [hc]), List.reverse_cons, List.reverse_reverse]

/-- A name that a file can have in its directory. -/
structure IsFileName (file : String) : Prop where
  no_slash : '/' ∉ file.toList
  ne_empty : file ≠ ""
  ne_dot : file ≠ "."
  ne_dots : file ≠ ".."

theorem IsFileName.namesOf_eq {file : String} (h : IsFileName file) :
    namesOf file.toList = [file] := by
  simp [namesOf, List.splitOn_eq_singleton h.no_slash, h.ne_empty, h.ne_dot]

theorem IsFileName.head?_ne {file : String} (h : IsFileName file) :
    file.toList.head? ≠ some '/' := fun hs => h.no_slash (List.mem_of_mem_head? hs)

/-- A path that neither starts at the root nor leads back. -/
def IsLocal (path : String) : Prop := path.toList.head? ≠ some '/' ∧ ".." ∉ pathNames path

instance (path : String) : Decidable (IsLocal path) := by unfold IsLocal; infer_instance

variable {dir file : String}

theorem plain_of_isLocal (h : IsLocal dir) : (ofPath dir).Plain :=
  fun hn => h.2 (List.mem_filter.mp hn).1

theorem head?_dropEndSlashes (h : dropEndSlashes dir ≠ "") :
    (dropEndSlashes dir).toList.head? = dir.toList.head? := by
  have hp : (dropEndSlashes dir).toList <+: dir.toList := by
    rw [dropEndSlashes, String.toList_ofList, ← List.reverse_suffix, List.reverse_reverse]
    exact List.dropWhile_suffix _
  obtain ⟨r, hr⟩ := hp
  rw [← hr, List.head?_append_of_ne_nil _ (mt String.toList_eq_nil_iff.mp h)]

theorem ofPath_dropEndSlashes (h : dropEndSlashes dir ≠ "") :
    ofPath (dropEndSlashes dir) = ofPath dir :=
  ofPath_congr (head?_dropEndSlashes h) (namesOf_dropEndSlashes dir)

theorem ofPath_slash (h : dir ≠ "") : ofPath (dir ++ "/") = ofPath dir := by
  have hlist : (dir ++ "/").toList = dir.toList ++ ['/'] := String.toList_append
  refine ofPath_congr ?_ ?_
  · rw [hlist, List.head?_append_of_ne_nil _ (mt String.toList_eq_nil_iff.mp h)]
  · rw [hlist, namesOf_concat_slash]

/-- What follows a slash does not start a path, whatever it looks like. -/
theorem ofPath_append_slash (dir rest : String) :
    ofPath (dir ++ "/" ++ rest) = (ofPath (dir ++ "/")).along (namesOf rest.toList) := by
  have hlist : (dir ++ "/").toList = dir.toList ++ ['/'] := String.toList_append
  have hlist' : (dir ++ "/" ++ rest).toList = dir.toList ++ '/' :: rest.toList := by simp
  have hhead : (dir.toList ++ '/' :: rest.toList).head? = (dir.toList ++ ['/']).head? := by
    cases dir.toList <;> rfl
  rw [ofPath_eq, ofPath_eq, hlist, hlist', hhead, namesOf_append_slash, namesOf_concat_slash]
  rfl

/-- The names of a file follow those of its directory, unless that is written as the root or as the
working directory, which are left out of the path. -/
theorem ofPath_joinPath_along (hf : file.toList.head? ≠ some '/') (dir : String) :
    ofPath (joinPath dir file) =
      (if dropEndSlashes dir = "" ∨ dropEndSlashes dir = "." then ⟨false, []⟩
        else ofPath dir).along (namesOf file.toList) := by
  by_cases h : dropEndSlashes dir = "" ∨ dropEndSlashes dir = "."
  · rw [if_pos h, joinPath, if_pos (by simpa using h), ofPath_eq, decide_eq_false hf]
    rfl
  · obtain ⟨hne, -⟩ := not_or.mp h
    rw [if_neg h, joinPath, if_neg (by simpa using h), ofPath_append_slash, ofPath_slash hne,
      ofPath_dropEndSlashes hne]

/-- **A file stands right below the place of its directory**, unless that is written as the root or
as the working directory. -/
theorem ofPath_joinPath_eq (hf : IsFileName file) (dir : String) : ofPath (joinPath dir file) =
    (if dropEndSlashes dir = "" ∨ dropEndSlashes dir = "." then ⟨false, []⟩
      else ofPath dir).along [file] := by
  rw [ofPath_joinPath_along hf.head?_ne, hf.namesOf_eq]

theorem ofPath_joinPath (hl : IsLocal dir) (hf : IsFileName file) :
    ofPath (joinPath dir file) = (ofPath dir).along [file] := by
  rw [ofPath_joinPath_eq hf]
  split
  · rename_i h
    rw [ofPath_eq dir, decide_eq_false hl.1, ← namesOf_dropEndSlashes]
    rcases h with h | h <;> rw [h] <;> rfl
  · rfl

end Way

/-! ## Files of a compiled service -/

namespace CompileOptions

/-- The writer of the generated files. -/
def writer (o : CompileOptions) : Writer :=
  ⟨o.manifests.outputDir, o.workflows.outputDir, o.workflows.filePrefix⟩

/-- Generated files go below the working directory, right into their directories. -/
structure Local (o : CompileOptions) : Prop where
  manifests : Way.IsLocal o.manifests.outputDir
  workflows : Way.IsLocal o.workflows.outputDir
  filePrefix : '/' ∉ o.workflows.filePrefix.toList

end CompileOptions

theorem append_ne {a b c : String} (h : c.length < b.length) : a ++ b ≠ c := by
  rintro rfl
  rw [String.length_append] at h
  omega

section Files

variable {s : Service} {o : CompileOptions} {set : ArtifactSet} {a b : Artifact}

theorem path_of_mem_manifests {p : Plan} {options : ManifestOptions} {m : ManifestRecord}
    (hm : m ∈ p.manifests options) : ∃ raw, m.path = manifestPath options (sanitize raw) := by
  obtain ⟨x, -, rfl⟩ := List.mem_map.mp hm
  exact ⟨String.intercalate "-" (x.2.nameParts p.service.name x.1.name p.service.naming), rfl⟩

theorem path_of_mem_compile (h : s.compile o = .ok set) (ha : a ∈ set.toList) :
    (∃ raw, a.path = manifestPath o.manifests (sanitize raw)) ∨
      ∃ name, a.path = o.workflows.path name := by
  obtain ⟨p, -, -, hset⟩ := compile_eq_ok_iff.mp h
  rw [hset, Plan.artifactList] at ha
  rcases List.mem_append.mp ha with ha | ha
  · obtain ⟨m, hm, rfl⟩ := List.mem_map.mp ha
    exact .inl (path_of_mem_manifests hm)
  · obtain ⟨w, hw, rfl⟩ := List.mem_map.mp ha
    exact .inr ⟨w.workflow.name, path_of_mem_workflows hw⟩

theorem Plan.Valid.exists_mem_manifests {p : Plan} (hp : p.Valid) (options : ManifestOptions) :
    ∃ m, m ∈ p.manifests options := by
  have hw := hp.wellFormed
  obtain ⟨g, hg⟩ := List.exists_mem_of_ne_nil _ hw.groups_ne
  obtain ⟨d, hd⟩ := List.exists_mem_of_ne_nil _ (hw.group g hg).destinations_ne
  exact ⟨_, List.mem_map_of_mem (Plan.Valid.mem_destinations hg hd)⟩

theorem exists_manifest_path (h : s.compile o = .ok set) :
    ∃ a ∈ set.toList, ∃ raw, a.path = manifestPath o.manifests (sanitize raw) := by
  obtain ⟨p, hp, -, hset⟩ := compile_eq_ok_iff.mp h
  obtain ⟨m, hm⟩ := (plan_eq_ok_iff.mp hp).2.exists_mem_manifests o.manifests
  obtain ⟨raw, hr⟩ := path_of_mem_manifests hm
  rw [hset]
  exact ⟨_, List.mem_append_left _ (List.mem_map_of_mem hm), raw, hr⟩

theorem exists_workflow_path (h : s.compile o = .ok set) :
    ∃ a ∈ set.toList, ∃ name, a.path = o.workflows.path name := by
  obtain ⟨p, -, -, hset⟩ := compile_eq_ok_iff.mp h
  have ht : (pipeline p.service (p.tables o.manifests) o.workflows).top ∈
      (pipeline p.service (p.tables o.manifests) o.workflows).workflows :=
    List.mem_append_right _ (List.mem_singleton_self _)
  have hp := path_of_mem_workflows ht
  rw [hset]
  exact ⟨_, List.mem_append_right _ (List.mem_map_of_mem ht), _, hp⟩

/-! ### Names of files -/

theorem isFileName_manifest (raw : String) : Way.IsFileName (sanitize raw ++ ".yaml") where
  no_slash := by simp [slash_notMem_sanitize]
  ne_empty := append_ne (by decide)
  ne_dot := append_ne (by decide)
  ne_dots := append_ne (by decide)

theorem isFileName_workflow {w : WorkflowOptions} (hp : '/' ∉ w.filePrefix.toList)
    (name : String) : Way.IsFileName (w.fileName name) where
  no_slash := by simp [WorkflowOptions.fileName, slash_notMem_sanitize, hp]
  ne_empty := append_ne (by decide)
  ne_dot := append_ne (by decide)
  ne_dots := append_ne (by decide)

/-- Files of a set share a path if these lead to one place, whatever their directories are. -/
theorem path_eq_of_place_eq (hp : '/' ∉ o.workflows.filePrefix.toList) (h : s.compile o = .ok set)
    (ha : a ∈ set.toList) (hb : b ∈ set.toList) {here : Place}
    (hab : (Way.ofPath a.path).place here = (Way.ofPath b.path).place here) : a.path = b.path := by
  have hleads (dir : String) : ∃ d, ∀ file, Way.IsFileName file →
      (Way.ofPath (joinPath dir file)).place here = d ++ [FileName.text file] :=
    ⟨_, fun file hf => by rw [Way.ofPath_joinPath_eq hf, Way.place_along hf.ne_dots]⟩
  obtain ⟨m, hm⟩ := hleads o.manifests.outputDir
  obtain ⟨w, hw⟩ := hleads o.workflows.outputDir
  have hm' (raw : String) := hm _ (isFileName_manifest raw)
  have hw' (name : String) := hw _ (isFileName_workflow hp name)
  rcases path_of_mem_compile h ha with ⟨r, hr⟩ | ⟨r, hr⟩ <;>
    rcases path_of_mem_compile h hb with ⟨q, hq⟩ | ⟨q, hq⟩ <;> rw [hr, hq] at hab ⊢ <;>
      simp only [manifestPath, WorkflowOptions.path] at hab ⊢
  · rw [hm', hm', List.append_cancel_left_eq, List.singleton_inj, FileName.text.injEq,
      String.append_left_inj] at hab
    rw [hab]
  · rw [hm', hw'] at hab
    exact absurd (FileName.text.inj (List.singleton_inj.mp (List.append_inj' hab rfl).2))
      (append_yaml_ne_append_yml _ _)
  · rw [hw', hm'] at hab
    exact absurd (FileName.text.inj (List.singleton_inj.mp (List.append_inj' hab rfl).2)).symm
      (append_yaml_ne_append_yml _ _)
  · rw [hw', hw', List.append_cancel_left_eq, List.singleton_inj, FileName.text.injEq] at hab
    rw [hab]

/-- **The files of an artifact set go to different places**, whatever their directories are. -/
theorem targets_nodup (hp : '/' ∉ o.workflows.filePrefix.toList) (h : s.compile o = .ok set)
    (here : Place) : (set.render.map (·.target here)).Nodup := by
  rw [ArtifactSet.render, List.map_map]
  exact List.Nodup.map_on (fun a ha b hb hab => List.inj_on_of_nodup_map set.nodup ha hb
    (path_eq_of_place_eq hp h ha hb hab)) set.nodup.of_map

variable (ho : o.Local)

include ho

theorem way_manifest {raw : String} (h : a.path = manifestPath o.manifests (sanitize raw)) :
    Way.ofPath a.render.path =
      (Way.ofPath o.manifests.outputDir).along [sanitize raw ++ ".yaml"] := by
  show Way.ofPath a.path = _
  rw [h, manifestPath]
  exact Way.ofPath_joinPath ho.manifests (isFileName_manifest raw)

theorem way_workflow {name : String} (h : a.path = o.workflows.path name) :
    Way.ofPath a.render.path =
      (Way.ofPath o.workflows.outputDir).along [o.workflows.fileName name] := by
  show Way.ofPath a.path = _
  rw [h, WorkflowOptions.path]
  exact Way.ofPath_joinPath ho.workflows (isFileName_workflow ho.filePrefix name)

/-- **The writer owns every file of a compiled service** that it can read. -/
theorem owned_render (h : s.compile o = .ok set) {here : Place}
    (hr : ∀ x ∈ set.render, r.refuses .read (x.target here) = none) :
    o.writer.Owned r here set.render where
  plain := by
    refine List.forall_mem_map.mpr fun a ha => ?_
    rcases path_of_mem_compile h ha with ⟨raw, hr⟩ | ⟨name, hr⟩
    · rw [way_manifest ho hr]
      exact (Way.plain_of_isLocal ho.manifests).along (isFileName_manifest raw).ne_dots
    · rw [way_workflow ho hr]
      exact (Way.plain_of_isLocal ho.workflows).along
        (isFileName_workflow ho.filePrefix name).ne_dots
  owned := by
    refine List.forall_mem_map.mpr fun a ha => ?_
    have hread := hr _ (List.mem_map_of_mem ha)
    rcases path_of_mem_compile h ha with ⟨raw, hpath⟩ | ⟨name, hpath⟩
    · refine .inr ⟨sanitize raw ++ ".yaml", ?_, ?_⟩
      · rw [RenderedArtifact.target, way_manifest ho hpath,
          Way.place_along (isFileName_manifest raw).ne_dots]
        rfl
      · exact Writer.ownsManifest_iff.mpr ⟨⟨_, rfl⟩, hread, _, rfl⟩
    · refine .inl ⟨o.workflows.fileName name, ?_, ?_⟩
      · rw [RenderedArtifact.target, way_workflow ho hpath,
          Way.place_along (isFileName_workflow ho.filePrefix name).ne_dots]
        rfl
      · exact Writer.ownsWorkflow_iff.mpr ⟨⟨_, String.append_assoc ..⟩, _, rfl⟩
  nodup := targets_nodup ho.filePrefix h here
  manifest := by
    obtain ⟨a, ha, raw, hr⟩ := exists_manifest_path h
    exact ⟨a.render, List.mem_map_of_mem ha, _, way_manifest ho hr⟩
  workflow := by
    obtain ⟨a, ha, name, hr⟩ := exists_workflow_path h
    exact ⟨a.render, List.mem_map_of_mem ha, _, way_workflow ho hr⟩

end Files

/-- **No file of an earlier run survives a later one.** Two services are generated with the same
settings, one after the other, and what is generated can be read: the files are those of the second
service alone, unless the first run replaced a file that was not generated. Generating a service twice is
generating it once, and cleaning then removes its files and no others. -/
theorem write_after_write {A B : Service} {o : CompileOptions} {a b : ArtifactSet} (ho : o.Local)
    (ha : A.compile o = .ok a) (hb : B.compile o = .ok b) {r : Refusals}
    {t t₁ t₃ : FileTree} {n m : Nat} (ht : t.Closed)
    (hr : ∀ x ∈ a.render ++ b.render, r.refuses .read (x.target t.here) = none)
    (h₁ : o.writer.write r t a.render = (t₁, .ok n))
    (h₃ : o.writer.write r t b.render = (t₃, .ok m)) :
    o.writer.LeavesNoTrace r t t₁ t₃ a.render b.render :=
  (owned_render ho ha fun x hx => hr x (List.mem_append_left _ hx)).leavesNoTrace
    (owned_render ho hb fun x hx => hr x (List.mem_append_right _ hx)) ht h₁ h₃

/-- Files of an earlier run and files of the author, side by side. -/
def FileTree.sample : FileTree where
  here := ["shop"]
  entries := .ofList [
    (["shop", ".github"], .directory),
    (["shop", ".github", "workflows"], .directory),
    (["shop", ".github", "workflows", "ci.yml"], .file (.ofText "on: push")),
    (["shop", ".github", "workflows", "rollgate-old.yml"], .file (.ofText "on: push")),
    (["shop", ".rollgate"], .directory),
    (["shop", ".rollgate", "applications"], .directory),
    (["shop", ".rollgate", "applications", "own.yaml"], .file (.ofText "kind: Secret")),
    (["shop", ".rollgate", "applications", "old.yaml"], .file (.ofText generatedHeader))]

theorem FileTree.closed_sample : FileTree.sample.Closed :=
  closed_of_entries (by decide +kernel)

/-- A service with one destination. -/
def Service.single (cluster : String) : Service where
  name := "web"
  groups := [{ name := "all", destinations := [.named cluster "n"] }]
  controller := { hostname := some "h" }

/-- Whether a run succeeds and writes where nothing stands. -/
def Service.writesFreely (s : Service) (o : CompileOptions) (t : FileTree) : Bool :=
  (s.compile o).toOption.any fun a => (o.writer.write {} t a.render).2.toOption.isSome &&
    a.toList.all fun x => t.file? (x.render.target t.here) = none

theorem exists_write_of_writesFreely {s : Service} {o : CompileOptions} {t : FileTree}
    (h : s.writesFreely o t = true) : ∃ a, s.compile o = .ok a ∧
      (∃ t₁ n, o.writer.write {} t a.render = (t₁, .ok n)) ∧
      ∀ x ∈ a.render, (o.writer.clean {} t).1.file? (x.target t.here) = none := by
  obtain ⟨a, ha, hrun⟩ := any_toOption_iff.mp h
  obtain ⟨hw, hfree⟩ := Bool.and_eq_true_iff.mp hrun
  obtain ⟨n, hn⟩ := isSome_toOption_iff.mp hw
  refine ⟨a, ha, ⟨_, n, Prod.ext rfl hn⟩, List.forall_mem_map.mpr fun x hx => ?_⟩
  have hnone := of_decide_eq_true (List.all_eq_true.mp hfree x hx)
  refine Option.eq_none_iff_forall_ne_some.mpr fun c hc => ?_
  rw [(Writer.swept_clean o.writer {} t).file?_of_some hc] at hnone
  cases hnone

theorem write_after_write_single : ∃ o a b t₁ t₃ n m, o.Local ∧
    (Service.single "a").compile o = .ok a ∧ (Service.single "b").compile o = .ok b ∧
    FileTree.sample.Closed ∧ o.writer.write {} FileTree.sample a.render = (t₁, .ok n) ∧
    o.writer.write {} FileTree.sample b.render = (t₃, .ok m) ∧
    o.writer.LeavesNoTrace {} FileTree.sample t₁ t₃ a.render b.render ∧
    ∃ t₂, o.writer.write {} t₁ b.render = (t₂, .ok b.render.length) ∧
      ∀ p, t₂.file? p = t₃.file? p := by
  have ho : ({ manifests := { repoUrl := "." } } : CompileOptions).Local :=
    ⟨by decide, by decide, by decide⟩
  obtain ⟨a, ha, ⟨t₁, n, h₁⟩, hfree⟩ := exists_write_of_writesFreely (s := .single "a")
    (o := { manifests := { repoUrl := "." } }) (t := .sample) (by decide +kernel)
  obtain ⟨b, hb, ⟨t₃, m, h₃⟩, -⟩ := exists_write_of_writesFreely (s := .single "b")
    (o := { manifests := { repoUrl := "." } }) (t := .sample) (by decide +kernel)
  have h := write_after_write ho ha hb FileTree.closed_sample (fun _ _ => rfl) h₁ h₃
  obtain ⟨t₂, ht₂⟩ := (h.later hfree).succeeds rfl
  exact ⟨_, a, b, t₁, t₃, n, m, ho, ha, hb, FileTree.closed_sample, h₁, h₃, h, t₂, ht₂,
    (h.later hfree).same t₂ _ ht₂⟩

end Rollout
