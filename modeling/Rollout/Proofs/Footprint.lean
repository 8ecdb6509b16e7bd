import Rollout.Proofs.Overlay
import Rollout.Proofs.Regeneration

/-!
# What cleaning and writing touch

Cleaning deletes files by a pattern, and either may stop halfway, wherever the system refuses
something. What they do to a tree is said here of all files and directories at once, wherever the
directories of the writer lie and whether they exist.

* `Writer.Cleaned`: generated files are gone, each is counted once, and the rest is as before.
* `Writer.Ran`: a first part of the files is laid over what cleaning leaves.
* **`Writer.footprint`**: cleaning and writing touch only what they own.
-/

namespace Rollout.Writer

open FileTree

variable {w : Writer} {r : Refusals} {t : FileTree}

/-- The tree `t'` is what cleaning that ends with a result leaves of `t`. -/
structure Cleaned (w : Writer) (r : Refusals) (t t' : FileTree) (result : Except IoError Nat) :
    Prop where
  /-- Only generated files are gone, and each of them is counted once. -/
  removed : ∃ gone : List Place, gone.Nodup ∧
    (∀ p ∈ gone, ∃ c, t.file? p = some c ∧ w.Generated r t p c) ∧
    (∀ p, t'.file? p = if p ∈ gone then none else t.file? p) ∧
    ∀ n, result = .ok n → n = gone.length
  /-- Cleaning that succeeds leaves the others and none of these. -/
  all : ∀ n, result = .ok n → ∀ p c,
    t'.file? p = some c ↔ t.file? p = some c ∧ ¬ w.Generated r t p c
  isDirectory : ∀ p, t'.isDirectory p = t.isDirectory p
  stopped : ∀ e, result = .error e → w.Stopped r t e

/-- The tree `t'` is what a run that ends with a result leaves of `t`. -/
structure Ran (w : Writer) (r : Refusals) (t : FileTree) (as : List RenderedArtifact)
    (t' : FileTree) (result : Except IoError Nat) : Prop where
  /-- A first part of the files, and perhaps the start of the next one, is laid over what cleaning
  leaves. A run that succeeds has cleaned and written all of them, and counts them. -/
  laid : ∃ done rest begun, as = done ++ rest ∧ Begins t.here rest begun ∧
    Laid (w.clean r t).1 t' (done.map (·.put t.here) ++ begun) ∧
    ∀ n, result = .ok n ↔ (∃ m, (w.clean r t).2 = .ok m) ∧ rest = [] ∧ n = as.length
  /-- Nothing is written when cleaning fails. -/
  stops : ∀ e, (w.clean r t).2 = .error e → result = .error e ∧ t' = (w.clean r t).1
  /-- However the run ends, other files keep their contents. -/
  others : ∀ p c, t.file? p = some c → ¬ w.Generated r t p c → p ∉ as.map (·.target t.here) →
    t'.file? p = some c
  isDirectory : ∀ p, t.isDirectory p = true → t'.isDirectory p = true

/-- **What cleaning does.** -/
theorem cleaned (w : Writer) (r : Refusals) (t : FileTree) :
    w.Cleaned r t (w.clean r t).1 (w.clean r t).2 where
  removed := by
    obtain ⟨gone, hr, howned, hall⟩ := (swept_clean w r t).removed
    exact ⟨gone, hr.nodup, howned, hr.file?, fun n hn => (hall n hn).1⟩
  all n hn p c := by
    have h := swept_clean w r t
    rw [hn] at h
    exact h.file?_eq_some_iff
  isDirectory := (swept_clean w r t).isDirectory
  stopped := (swept_clean w r t).stopped

theorem begins_nil (here : Place) (as : List RenderedArtifact) : Begins here as [] := by
  cases as with
  | nil => rfl
  | cons a as => exact .nothing

/-- The places of a first part of some files, and of the start of the next one. -/
theorem fst_mem_of_begins {here : Place} {done rest : List RenderedArtifact}
    {begun : List (Place × Bytes)} (h : Begins here rest begun) {p : Place}
    (hp : p ∈ (done.map (·.put here) ++ begun).map (·.1)) :
    p ∈ (done ++ rest).map (·.target here) := by
  rw [List.map_append, List.map_map, List.mem_append] at hp
  rw [List.map_append, List.mem_append]
  refine hp.imp_right fun hp => ?_
  cases rest with
  | nil =>
    obtain rfl : begun = [] := h
    exact hp
  | cons a rest =>
    cases h with
    | nothing => cases hp
    | part n =>
      rw [List.map_singleton, List.mem_singleton] at hp
      exact hp ▸ List.mem_cons_self

/-- **How far a run gets.** -/
theorem exists_laid (w : Writer) (r : Refusals) (t : FileTree) (as : List RenderedArtifact) :
    ∃ done rest begun, as = done ++ rest ∧ Begins t.here rest begun ∧
      Laid (w.clean r t).1 (w.write r t as).1 (done.map (·.put t.here) ++ begun) ∧
      ∀ n, (w.write r t as).2 = .ok n ↔
        (∃ m, (w.clean r t).2 = .ok m) ∧ rest = [] ∧ n = as.length := by
  have hhere := (swept_clean w r t).here
  rcases hc : w.clean r t with ⟨s, e | m⟩ <;> rw [hc] at hhere
  · rw [write_of_clean_error hc]
    exact ⟨[], as, [], rfl, begins_nil _ _, .refl s, by simp⟩
  · obtain ⟨done, rest, begun, hsplit, hbegun, hlaid, hok⟩ := laid_writeAll r as s
    rw [hhere] at hbegun hlaid
    rw [write_of_clean_ok hc]
    refine ⟨done, rest, begun, hsplit, hbegun, hlaid, fun n => ?_⟩
    rw [← hok]
    cases (writeAll r s as).2 <;> simp [Except.map, eq_comm]

/-- **What a run does.** -/
theorem ran (w : Writer) (r : Refusals) (t : FileTree) (as : List RenderedArtifact) :
    w.Ran r t as (w.write r t as).1 (w.write r t as).2 := by
  have hswept := swept_clean w r t
  obtain ⟨done, rest, begun, rfl, hbegun, hlaid, hok⟩ := exists_laid w r t as
  constructor
  case laid => exact ⟨done, rest, begun, rfl, hbegun, hlaid, hok⟩
  case stops =>
    intro e he
    rw [write_of_clean_error (Prod.ext rfl he : w.clean r t = ((w.clean r t).1, .error e))]
    exact ⟨rfl, rfl⟩
  case others =>
    intro p c hp hkeep htarget
    rw [hlaid.file?_of_notMem fun hmem => htarget (fst_mem_of_begins hbegun hmem)]
    exact hswept.file?_of_not hp hkeep
  case isDirectory => exact fun p hp => hlaid.isDirectory p ((hswept.isDirectory p).trans hp)

/-- **Cleaning and writing touch only what they own**, whatever is refused on the way. -/
theorem footprint (w : Writer) (r : Refusals) (t : FileTree) (as : List RenderedArtifact) :
    w.Cleaned r t (w.clean r t).1 (w.clean r t).2 ∧
      w.Ran r t as (w.write r t as).1 (w.write r t as).2 :=
  ⟨cleaned w r t, ran w r t as⟩

/-- The writer with the settings by default. -/
def sample : Writer := (CompileOptions.mk { repoUrl := "." } {}).writer

/-- The system keeps one of the generated files. -/
def sampleRefusals : Refusals where
  refuses a p :=
    if a = .remove ∧ p = ["shop", ".rollgate", "applications", "old.yaml"] then
      some "Permission denied (os error 13)"
    else none

/-- The writer whose directories are written as seen from the directory above the working
directory. -/
def sampleAbove : Writer where
  manifestDir := "../shop/.rollgate/applications"
  workflowDir := "/shop/.github/workflows"
  filePrefix := "rollgate"

/-- Two files, of which the second would need a directory where the author has a file. -/
def sampleFiles : List RenderedArtifact :=
  [⟨".rollgate/applications/new.yaml", generatedHeader⟩,
    ⟨".github/workflows/ci.yml/new.yml", generatedHeader⟩]

theorem footprint_sample :
    sampleAbove.Cleaned {} .sample (sampleAbove.clean {} .sample).1 (.ok 2) ∧
    sample.Ran {} .sample sampleFiles (sample.write {} .sample sampleFiles).1
      (.error .alreadyExists) ∧
    sample.Ran sampleRefusals .sample sampleFiles
      (sample.write sampleRefusals .sample sampleFiles).1
      (.error (.refused "Permission denied (os error 13)")) := by
  have hcount : (sampleAbove.clean {} .sample).2 = .ok 2 := by decide +kernel
  have hexists : (sample.write {} .sample sampleFiles).2 = .error .alreadyExists := by
    decide +kernel
  have hdenied : (sample.write sampleRefusals .sample sampleFiles).2 =
      .error (.refused "Permission denied (os error 13)") := by decide +kernel
  have hclean := (footprint sampleAbove {} .sample sampleFiles).1
  have hrun := (footprint sample {} .sample sampleFiles).2
  have hstop := (footprint sample sampleRefusals .sample sampleFiles).2
  rw [hcount] at hclean
  rw [hexists] at hrun
  rw [hdenied] at hstop
  exact ⟨hclean, hrun, hstop⟩

end Rollout.Writer
