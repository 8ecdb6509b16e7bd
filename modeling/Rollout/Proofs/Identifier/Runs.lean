import Mathlib.Data.List.TakeWhile
import Rollout.Identifier

/-!
# Runs of letters and digits

What an identifier keeps of a text are its maximal runs of ASCII letters and digits.

* `runs`: the runs of a text; `runs_append_cons`: a separator splits them.
* **`dashedRuns_eq`**: `dashedRuns` joins the runs by dashes.
* **`runs_intercalate`**: runs that are joined by dashes come back, so two identifiers are equal
  exactly when their runs are (`intercalate_runs_inj`).
-/

namespace Rollout

/-- The maximal runs of letters and digits of a text, in order. -/
def runs (cs : List Char) : List (List Char) :=
  (cs.splitOnP fun c => !c.isAlphanum).filter fun w => !w.isEmpty

/-- A run: letters and digits, at least one. -/
def IsRun (w : List Char) : Prop := w ≠ [] ∧ ∀ c ∈ w, c.isAlphanum = true

/-! ## Splitting -/

@[simp] theorem runs_nil : runs [] = [] := rfl

theorem runs_append_cons (a b : List Char) {c : Char} (hc : c.isAlphanum = false) :
    runs (a ++ c :: b) = runs a ++ runs b := by
  rw [runs, List.splitOnP_append_cons a b (by simp [hc]), List.filter_append]
  rfl

theorem runs_cons_sep {c : Char} (hc : c.isAlphanum = false) (cs : List Char) :
    runs (c :: cs) = runs cs := runs_append_cons [] cs hc

theorem runs_run {w : List Char} (hw : IsRun w) : runs w = [w] := by
  have h : ∀ c ∈ w, (!c.isAlphanum) = false := fun c hc => by rw [hw.2 c hc]; rfl
  unfold runs
  rw [List.splitOnP_eq_singleton h]
  simp [hw.1]

theorem runs_append_of_run {w rest : List Char} (hw : IsRun w)
    (hend : ∀ c ∈ rest.head?, c.isAlphanum = false) : runs (w ++ rest) = w :: runs rest := by
  cases rest with
  | nil => rw [List.append_nil, runs_run hw, runs_nil]
  | cons c rest =>
    have hc : c.isAlphanum = false := hend c rfl
    rw [runs_append_cons _ _ hc, runs_run hw, runs_cons_sep hc, List.singleton_append]

theorem isRun_takeWhile {c : Char} (hc : c.isAlphanum = true) (cs : List Char) :
    IsRun (c :: cs.takeWhile Char.isAlphanum) :=
  ⟨by simp, fun x hx => (List.mem_cons.mp hx).elim (fun h => h ▸ hc) List.mem_takeWhile_imp⟩

theorem head_dropWhile_run (cs : List Char) :
    ∀ c ∈ (cs.dropWhile Char.isAlphanum).head?, c.isAlphanum = false := by
  intro c hc
  have := List.head?_dropWhile_not Char.isAlphanum cs
  rw [Option.mem_def.mp hc] at this
  simpa using this

theorem runs_cons_alphanum {c : Char} (hc : c.isAlphanum = true) (cs : List Char) :
    runs (c :: cs) =
      (c :: cs.takeWhile Char.isAlphanum) :: runs (cs.dropWhile Char.isAlphanum) := by
  rw [← runs_append_of_run (isRun_takeWhile hc cs) (head_dropWhile_run cs), List.cons_append,
    List.takeWhile_append_dropWhile]

theorem runs_append_of_gap {gap : List Char} (hg : ∀ c ∈ gap, c.isAlphanum = false)
    (cs : List Char) : runs (gap ++ cs) = runs cs := by
  induction gap with
  | nil => rfl
  | cons c gap ih =>
    rw [List.cons_append, runs_cons_sep (hg c List.mem_cons_self),
      ih fun x hx => hg x (List.mem_cons_of_mem _ hx)]

theorem isAlphanum_of_mem_gap (cs : List Char) :
    ∀ c ∈ cs.takeWhile (fun c => !c.isAlphanum), c.isAlphanum = false := fun c hc => by
  simpa using List.mem_takeWhile_imp hc

theorem runs_dropWhile (cs : List Char) : runs (cs.dropWhile fun c => !c.isAlphanum) = runs cs := by
  rw [← runs_append_of_gap (isAlphanum_of_mem_gap cs), List.takeWhile_append_dropWhile]

theorem isAlphanum_of_dropWhile {cs rest : List Char} {c : Char}
    (h : (cs.dropWhile fun c => !c.isAlphanum) = c :: rest) : c.isAlphanum = true := by
  have := List.head?_dropWhile_not (fun c => !c.isAlphanum) cs
  rw [h] at this
  simpa using this

theorem flatten_splitOnP (p : Char → Bool) (cs : List Char) :
    (cs.splitOnP p).flatten = cs.filter fun c => !p c := by
  induction cs with
  | nil => rfl
  | cons c cs ih =>
    obtain ⟨v, vs, hv⟩ := List.exists_cons_of_ne_nil (List.splitOnP_ne_nil p cs)
    rw [List.splitOnP_cons_eq_if_modifyHead]
    by_cases hc : p c
    · rw [if_pos hc, List.flatten_cons, List.nil_append, ih, List.filter_cons_of_neg (by simp [hc])]
    · rw [if_neg hc, List.filter_cons_of_pos (by simp [hc]), ← ih, hv]
      rfl

/-- **The runs hold every letter and digit, and nothing else.** -/
theorem flatten_runs (cs : List Char) : (runs cs).flatten = cs.filter Char.isAlphanum := by
  unfold runs
  rw [List.flatten_filter_not_isEmpty, flatten_splitOnP]
  simp

theorem mem_of_mem_runs {cs w : List Char} (hw : w ∈ runs cs) {c : Char} (hc : c ∈ w) :
    c ∈ cs ∧ c.isAlphanum = true := by
  rw [← List.mem_filter, ← flatten_runs]
  exact List.mem_flatten.mpr ⟨w, hw, hc⟩

theorem isRun_of_mem_runs {cs w : List Char} (h : w ∈ runs cs) : IsRun w :=
  ⟨by simpa using (List.mem_filter.mp h).2, fun _ hc => (mem_of_mem_runs h hc).2⟩

/-! ## Joining -/

theorem intercalate_dash_cons (w : List Char) (ws : List (List Char)) :
    ['-'].intercalate (w :: ws) = w ++ ws.flatMap ('-' :: ·) := by
  induction ws generalizing w with
  | nil => simp
  | cons v ws ih => rw [List.intercalate_cons_cons, ih]; simp

theorem mem_intercalate_dash {ws : List (List Char)} {c : Char} (h : c ∈ ['-'].intercalate ws) :
    c = '-' ∨ ∃ w ∈ ws, c ∈ w := by
  cases ws with
  | nil => cases h
  | cons w ws =>
    rw [intercalate_dash_cons, List.mem_append, List.mem_flatMap] at h
    rcases h with h | ⟨v, hv, h⟩
    · exact Or.inr ⟨w, List.mem_cons_self, h⟩
    · rcases List.mem_cons.mp h with h | h
      · exact Or.inl h
      · exact Or.inr ⟨v, List.mem_cons_of_mem _ hv, h⟩

/-- **Joined runs come back.** -/
theorem runs_intercalate {ws : List (List Char)} (h : ∀ w ∈ ws, IsRun w) :
    runs (['-'].intercalate ws) = ws := by
  induction ws with
  | nil => rfl
  | cons w ws ih =>
    have hw : IsRun w := h w List.mem_cons_self
    have hws : ∀ v ∈ ws, IsRun v := fun v hv => h v (List.mem_cons_of_mem _ hv)
    cases ws with
    | nil => rw [List.intercalate_singleton, runs_run hw]
    | cons v ws =>
      rw [List.intercalate_cons_cons, List.append_assoc, List.singleton_append,
        runs_append_cons _ _ rfl, runs_run hw, ih hws, List.singleton_append]

theorem intercalate_runs_inj (a b : List Char) :
    ['-'].intercalate (runs a) = ['-'].intercalate (runs b) ↔ runs a = runs b := by
  constructor
  · intro h
    have := congrArg runs h
    rwa [runs_intercalate fun _ => isRun_of_mem_runs, runs_intercalate fun _ => isRun_of_mem_runs]
      at this
  · intro h
    rw [h]

/-- After a letter or digit, `dashed` finishes its run; after a gap every run gets a dash. -/
theorem dashed_eq (cs : List Char) :
    dashed false cs = cs.takeWhile Char.isAlphanum ++
        (runs (cs.dropWhile Char.isAlphanum)).flatMap ('-' :: ·) ∧
      dashed true cs = (runs cs).flatMap ('-' :: ·) := by
  induction cs with
  | nil => exact ⟨rfl, rfl⟩
  | cons c cs ih =>
    by_cases hc : c.isAlphanum
    · constructor
      · rw [dashed, if_pos hc, if_neg Bool.false_ne_true, ih.1, List.takeWhile_cons_of_pos hc,
          List.dropWhile_cons_of_pos hc]
        rfl
      · rw [dashed, if_pos hc, if_pos rfl, ih.1, runs_cons_alphanum hc, List.flatMap_cons]
        rfl
    · have hc' : c.isAlphanum = false := by simpa using hc
      constructor
      · rw [dashed, if_neg hc, ih.2, List.takeWhile_cons_of_neg hc, List.dropWhile_cons_of_neg hc,
          runs_cons_sep hc', List.nil_append]
      · rw [dashed, if_neg hc, ih.2, runs_cons_sep hc']

/-- **The identifier of a text joins its runs by dashes.** -/
theorem dashedRuns_eq (cs : List Char) : dashedRuns cs = ['-'].intercalate (runs cs) := by
  unfold dashedRuns
  rw [← runs_dropWhile]
  cases hd : cs.dropWhile fun c => !c.isAlphanum with
  | nil => rfl
  | cons c rest =>
    have hc := isAlphanum_of_dropWhile hd
    rw [(dashed_eq _).1, List.takeWhile_cons_of_pos hc, List.dropWhile_cons_of_pos hc,
      runs_cons_alphanum hc, intercalate_dash_cons]

/-! ## Changed separators -/

section Map

variable {f : Char → Char} (hf : ∀ c, c.isAlphanum = true → f c = c)
  (hs : ∀ c, c.isAlphanum = false → (f c).isAlphanum = false)

include hf hs

theorem isAlphanum_map (c : Char) : (f c).isAlphanum = c.isAlphanum := by
  cases hc : c.isAlphanum with
  | true => rw [hf c hc, hc]
  | false => exact hs c hc

theorem dashed_map (cs : List Char) (gap : Bool) : dashed gap (cs.map f) = dashed gap cs := by
  induction cs generalizing gap with
  | nil => rfl
  | cons c cs ih =>
    simp only [List.map_cons, dashed, isAlphanum_map hf hs]
    split
    · rename_i hc
      rw [hf c hc, ih]
    · exact ih true

/-- **Runs do not see a change of separators.** -/
theorem runs_map (cs : List Char) : runs (cs.map f) = runs cs := by
  have hp : (fun c : Char => !c.isAlphanum) ∘ f = fun c => !c.isAlphanum :=
    funext fun c => by rw [Function.comp_apply, isAlphanum_map hf hs]
  simp only [← intercalate_runs_inj, ← dashedRuns_eq, dashedRuns, List.dropWhile_map, hp,
    dashed_map hf hs]

end Map

end Rollout
