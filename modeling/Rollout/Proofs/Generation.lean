import Rollout.Proofs.DryRun
import Rollout.Proofs.Overlay
import Rollout.Proofs.Regeneration

/-!
# Generating is all or nothing

Nothing is removed before everything that is to be written is known. A dry run goes as far and
prints what a real run lays over the tree.

* `Overlaid`, **`overlaid_of_write`**: what a run of the writer does to the files of a tree.
* `CommandLine.Prepared`, `CommandLine.prepare_eq_ok_iff`: what `generate` does before it prints or
  writes.
* `CommandLine.Printed`, `CommandLine.printed_dryRunText`: what a dry run prints.
* **`CommandLine.generate_all_or_nothing`**: what `generate` does.
-/

namespace Rollout

/-! ## A run of the writer -/

/-- The tree `t'` is `t` without the generated files, and with the files `as` over it. -/
structure Overlaid (w : Writer) (r : Refusals) (t t' : FileTree) (as : List RenderedArtifact) :
    Prop where
  paths_nodup : (as.map (·.path)).Nodup
  /-- Different paths lead to different places. -/
  targets_nodup : (as.map (·.target t.here)).Nodup
  /-- A file is one that was written, or an old one at another place that was not generated. -/
  file? : ∀ p c, t'.file? p = some c ↔
    (∃ a ∈ as, a.target t.here = p ∧ .ofText a.contents = c) ∨
      p ∉ as.map (·.target t.here) ∧ t.file? p = some c ∧ ¬ w.Generated r t p c
  locate : ∀ a ∈ as, t'.locate (.ofPath a.path) = .ok (a.target t.here)
  /-- Under its path, each file reads as it was written, if it may be read. -/
  readText : ∀ a ∈ as, r.refuses .read (a.target t.here) = none →
    t'.readText r a.path = .ok a.contents

section Write

open Writer FileTree

variable {w : Writer} {r : Refusals} {t t' : FileTree} {as : List RenderedArtifact} {n : Nat}

/-- A file that stands where its path leads can be read. -/
theorem readText_of_file? {path text : String} {p : Place} (hr : r.refuses .read p = none)
    (hnamed : endsInDirectory path = false) (hl : t.locate (.ofPath path) = .ok p)
    (hf : t.file? p = some (.ofText text)) : t.readText r path = .ok text := by
  have hg := file?_eq_some_iff.mp hf
  have hne : path.isEmpty = false := by
    rw [Bool.eq_false_iff]
    intro he
    rw [String.isEmpty_iff.mp he] at hl
    obtain rfl := place_of_locate hl
    exact not_isDirectory_of_file? hf (isDirectory_start t (.ofPath ""))
  have hread : t.readFile r (.ofPath path) = .ok (.ofText text) := by
    have hcheck : r.check .read p = .ok () := by rw [Refusals.check, hr]
    unfold readFile
    rw [hl, bind_ok, hg]
    simp only [hcheck, bind_ok]
    rfl
  unfold readText
  rw [hne, hnamed, hread, bind_ok]
  simp only [Bool.false_eq_true, if_false, Bytes.toText?_ofText]
  rfl

/-- **What a run of the writer does**, if its files go to different places. -/
theorem overlaid_of_write (hn : (as.map (·.target t.here)).Nodup)
    (h : w.write r t as = (t', .ok n)) : Overlaid w r t t' as := by
  obtain ⟨⟨m, hm⟩, hall, -⟩ := write_eq_ok_iff.mp h
  have hswept := swept_clean w r t
  rw [hm] at hswept
  have hlaid := laid_of_writeAll hall
  have hfile (p : Place) (c : Bytes) : t'.file? p = some c ↔
      (∃ a ∈ as, a.target t.here = p ∧ .ofText a.contents = c) ∨
        p ∉ as.map (·.target t.here) ∧ t.file? p = some c ∧ ¬ w.Generated r t p c := by
    rw [hlaid.file?_eq_some_iff (hswept.here.symm ▸ hn), hswept.here, hswept.file?_eq_some_iff]
  have hloc : ∀ a ∈ as, endsInDirectory a.path = false ∧
      t'.locate (.ofPath a.path) = .ok (a.target t.here) := hswept.here ▸ locate_writeAll hall
  constructor
  case paths_nodup =>
    have hmap : (as.map (·.path)).map (fun path => (Way.ofPath path).place t.here) =
        as.map (·.target t.here) := List.map_map
    exact (hmap ▸ hn).of_map
  case targets_nodup => exact hn
  case file? => exact hfile
  case locate => exact fun a ha => (hloc a ha).2
  case readText =>
    intro a ha hr
    exact readText_of_file? hr (hloc a ha).1 (hloc a ha).2
      ((hfile _ _).mpr (.inl ⟨a, ha, rfl, rfl⟩))

end Write

/-! ## Paths of one line -/

theorem mem_joinPath {dir file : String} {c : Char} (h : c ∈ (joinPath dir file).toList) :
    c ∈ dir.toList ∨ c = '/' ∨ c ∈ file.toList := by
  have hdir : ∀ c ∈ (dropEndSlashes dir).toList, c ∈ dir.toList := by
    intro c hc
    rw [dropEndSlashes, String.toList_ofList, List.mem_reverse] at hc
    exact List.mem_reverse.mp ((List.dropWhile_suffix _).subset hc)
  unfold joinPath at h
  dsimp only at h
  split at h
  · exact .inr (.inr h)
  · rw [String.toList_append, String.toList_append, List.mem_append, List.mem_append, or_assoc] at h
    exact h.imp (hdir c) (Or.imp_left List.mem_singleton.mp)

theorem newline_notMem_sanitize (raw : String) : '\n' ∉ (sanitize raw).toList := by
  intro h
  rcases char_of_mem_sanitize h with h | ⟨h, -⟩ <;> exact absurd h (by decide)

/-- Only a directory can bring a line break into a path. -/
theorem newline_notMem_path {s : Service} {o : CompileOptions} {set : ArtifactSet}
    (h : s.compile o = .ok set) (hm : '\n' ∉ o.manifests.outputDir.toList)
    (hw : '\n' ∉ o.workflows.outputDir.toList) (hp : '\n' ∉ o.workflows.filePrefix.toList) :
    ∀ a ∈ set.toList, '\n' ∉ a.path.toList := by
  intro a ha hmem
  rcases path_of_mem_compile h ha with ⟨raw, hr⟩ | ⟨name, hr⟩ <;> rw [hr] at hmem
  · rcases mem_joinPath hmem with hmem | hmem | hmem
    · exact hm hmem
    · exact absurd hmem (by decide)
    · simp [newline_notMem_sanitize] at hmem
  · rcases mem_joinPath hmem with hmem | hmem | hmem
    · exact hw hmem
    · exact absurd hmem (by decide)
    · simp [WorkflowOptions.fileName, newline_notMem_sanitize, hp] at hmem

/-! ## The command -/

namespace CommandLine

variable {s : Session} {q : Request} {g : GenerateOptions} {c : Config}

/-- Everything before printing or writing succeeds: the settings, the service and its artifacts are
there. -/
structure Prepared (s : Session) (q : Request) (g : GenerateOptions) (o : CompileOptions)
    (service : Service) (set : ArtifactSet) : Prop where
  options : ∃ c, loadConfig s q.configFile = .ok c ∧ compileOptions g c = .ok o
  loaded : loadService s g.serviceFile = .ok service
  compiled : service.compile o = .ok set

theorem prepare_eq_ok_iff {generation : Generation} : prepare s g c = .ok generation ↔
    ∃ o service set, compileOptions g c = .ok o ∧ loadService s g.serviceFile = .ok service ∧
      service.compile o = .ok set ∧ generation = ⟨service.name, set.render, o.writer⟩ := by
  constructor
  · intro h
    obtain ⟨o, ho, h⟩ := bind_eq_ok_iff.mp h
    obtain ⟨service, hs, h⟩ := bind_eq_ok_iff.mp h
    split at h
    · cases h
    · rename_i set hset
      cases h
      exact ⟨o, service, set, ho, hs, hset, rfl⟩
  · rintro ⟨o, service, set, ho, hs, hset, rfl⟩
    unfold prepare
    rw [ho, bind_ok, hs, bind_ok, hset]
    rfl

theorem filePrefix_of_compileOptions {o : CompileOptions} (h : compileOptions g c = .ok o) :
    o.workflows.filePrefix = "rollgate" := by
  unfold compileOptions at h
  split at h
  · cases h
  · cases h
    rfl

theorem perform_generate (h : loadConfig s q.configFile = .ok c) (g : GenerateOptions) :
    perform s { q with command := .generate g } = generate s g c := by
  unfold perform
  rw [h]

theorem generate_of_error {e : Failure} (h : prepare s g c = .error e) :
    generate s g c = e.done s.files := by
  unfold generate
  rw [h]

/-- **A dry run prints the files** and leaves the tree as it was. -/
theorem generate_of_dryRun {generation : Generation} (h : prepare s g c = .ok generation)
    (hd : g.dryRun = true) :
    generate s g c = { stdout := dryRunText generation.rendered, files := s.files } := by
  unfold generate
  rw [h]
  exact if_pos hd

/-- A real run that does not fail has written the files and counted them. -/
theorem generate_of_write {generation : Generation} (h : prepare s g c = .ok generation)
    (hd : g.dryRun = false) (hok : (generate s g c).failed = false) :
    generation.writer.write s.refusals s.files generation.rendered =
        ((generate s g c).files, .ok generation.rendered.length) ∧
      (generate s g c).stdout = "✓ Generated " ++ toString generation.rendered.length ++
        " artifacts for service " ++ generation.service ++ "\n" := by
  unfold generate at hok ⊢
  rw [h] at hok ⊢
  simp only [hd, Bool.false_eq_true, if_false] at hok ⊢
  rcases hw : generation.writer.write s.refusals s.files generation.rendered with ⟨t, e | n⟩
  · rw [hw] at hok
    cases hok
  · obtain ⟨-, -, rfl⟩ := Writer.write_eq_ok_iff.mp hw
    refine ⟨rfl, ?_⟩
    simp only [successLine, ← String.append_assoc]
    rfl

/-- **A command that fails before it prints or writes** leaves the files as they were. -/
theorem generate_of_not_prepared (h : ¬ ∃ o service set, Prepared s q g o service set) :
    ∃ e : Failure, perform s { q with command := .generate g } = e.done s.files := by
  cases hc : loadConfig s q.configFile with
  | error e =>
    refine ⟨e, ?_⟩
    unfold perform
    rw [hc]
  | ok c =>
    rw [perform_generate hc]
    cases hp : prepare s g c with
    | error e => exact ⟨e, generate_of_error hp⟩
    | ok generation =>
      obtain ⟨o, service, set, ho, hs, hset, -⟩ := prepare_eq_ok_iff.mp hp
      exact absurd ⟨o, service, set, ⟨c, hc, ho⟩, hs, hset⟩ h

/-- A text has the files in order, and they are read off it if no directory has a line break. -/
structure Printed (o : CompileOptions) (text : String) (as : List RenderedArtifact) : Prop where
  shows : Shows text as
  readBack : '\n' ∉ o.manifests.outputDir.toList → '\n' ∉ o.workflows.outputDir.toList →
    printedFiles text = as

theorem printed_dryRunText {service : Service} {o : CompileOptions} {set : ArtifactSet}
    (h : service.compile o = .ok set) (hp : '\n' ∉ o.workflows.filePrefix.toList) :
    Printed o (dryRunText set.render) set.render where
  shows := shows_dryRunText set.render
  readBack hm hw := printedFiles_dryRunText (newline_notMem_path h hm hw hp)

/-- **`generate` is all or nothing up to writing, and a dry run shows what a real run writes.** If
something fails before the files are written, or in a dry run, the tree stays as it was. Otherwise
the files that a dry run prints are those that a real run lays over the tree, and their number is
told. -/
theorem generate_all_or_nothing (s : Session) (q : Request) (g : GenerateOptions) :
    ((¬ ∃ o service set, Prepared s q g o service set) →
      (perform s { q with command := .generate g }).failed = true ∧
        (perform s { q with command := .generate g }).files = s.files) ∧
    (g.dryRun = true → (perform s { q with command := .generate g }).files = s.files) ∧
    ∀ o service set, Prepared s q g o service set →
      (∃ text, perform s { q with command := .generate { g with dryRun := true } } =
        { stdout := text, files := s.files } ∧ Printed o text set.render) ∧
      ∀ done, perform s { q with command := .generate { g with dryRun := false } } = done →
        done.failed = false →
        done.stdout = "✓ Generated " ++ toString set.render.length ++ " artifacts for service " ++
          service.name ++ "\n" ∧
        Overlaid o.writer s.refusals s.files done.files set.render := by
  refine ⟨fun hno => ?_, fun hd => ?_, fun o service set h => ?_⟩
  · obtain ⟨e, he⟩ := generate_of_not_prepared hno
    rw [he]
    exact ⟨rfl, rfl⟩
  · by_cases hprepared : ∃ o service set, Prepared s q g o service set
    · obtain ⟨o, service, set, ⟨c, hc, ho⟩, hs, hset⟩ := hprepared
      rw [perform_generate hc,
        generate_of_dryRun (prepare_eq_ok_iff.mpr ⟨o, service, set, ho, hs, hset, rfl⟩) hd]
    · obtain ⟨e, he⟩ := generate_of_not_prepared hprepared
      rw [he]
      rfl
  · obtain ⟨c, hc, ho⟩ := h.options
    have hfile := filePrefix_of_compileOptions ho
    -- what is prepared does not depend on whether it is written
    have hp (dryRun : Bool) : prepare s { g with dryRun } c =
        .ok ⟨service.name, set.render, o.writer⟩ :=
      prepare_eq_ok_iff.mpr ⟨o, service, set, ho, h.loaded, h.compiled, rfl⟩
    constructor
    · refine ⟨dryRunText set.render, ?_, printed_dryRunText h.compiled ?_⟩
      · rw [perform_generate hc, generate_of_dryRun (hp true) rfl]
      · rw [hfile]
        decide
    · rintro done rfl hok
      rw [perform_generate hc] at hok ⊢
      obtain ⟨hw, hout⟩ := generate_of_write (hp false) rfl hok
      refine ⟨hout, overlaid_of_write (targets_nodup ?_ h.compiled _) hw⟩
      rw [hfile]
      decide

/-- A service on standard input, in a tree with files of an earlier run and of the author. -/
def Session.sample : Session where
  args := ["generate", "--repo-url", "."]
  stdin := .bytes (.ofText ("name: web\n" ++ "destinationGroups:\n" ++ "- name: all\n" ++
    "  destinations:\n" ++ "  - name: a\n" ++ "    namespace: n\n" ++ "argoCD:\n" ++
    "  hostname: h\n"))
  files := .sample

/-- What its arguments ask for. -/
def Request.sample : Request := ⟨none, .table, .generate { repoUrl := some "." }⟩

theorem generate_all_or_nothing_sample : ∃ o service set text,
    Prepared .sample .sample { repoUrl := some "." } o service set ∧
      perform .sample ⟨none, .table, .generate { repoUrl := some ".", dryRun := true }⟩ =
        { stdout := text, files := .sample } ∧
      Printed o text set.render ∧
      (perform .sample .sample).failed = false ∧
      Overlaid o.writer {} .sample (perform .sample .sample).files set.render := by
  have hok : (perform .sample .sample).failed = false := by decide +kernel
  have hall := generate_all_or_nothing .sample .sample { repoUrl := some "." }
  by_cases hprepared :
      ∃ o service set, Prepared .sample .sample { repoUrl := some "." } o service set
  · obtain ⟨o, service, set, h⟩ := hprepared
    obtain ⟨⟨text, hdry, hprinted⟩, hreal⟩ := hall.2.2 o service set h
    exact ⟨o, service, set, text, h, hdry, hprinted, hok, (hreal _ rfl hok).2⟩
  · -- a run that does not fail has been prepared
    have hfailed : (perform .sample .sample).failed = true := (hall.1 hprepared).1
    rw [hfailed] at hok
    cases hok

end CommandLine

end Rollout
