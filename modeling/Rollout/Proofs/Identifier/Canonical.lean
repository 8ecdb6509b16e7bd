import Rollout.Proofs.Identifier.Segments

/-!
# The canonical form of a text

What an identifier is, told without the way it is computed: the text in lower case without its web
scheme is cut into its maximal runs of letters and digits, and these are joined by dashes.

* `MaximalRuns`: the cut of a text; `maximalRuns_iff`: there is exactly one.
* `WithoutScheme`, `IdentifierOf`: the scheme taken off and the identifier of a text, as relations.
* `sanitize_eq_self_iff`: the texts that are their own identifiers.
* **`sanitize_canonical`**: identifiers are these texts, each text has one, and the case of ASCII
  letters does not matter for it or for the identity of a cluster.
-/

namespace Rollout

open Text

/-! ## Maximal runs -/

/-- The text is cut into runs of letters and digits, with no letter or digit outside of them and
none right after one. -/
inductive MaximalRuns : List Char → List (List Char) → Prop
  /-- No letter or digit at all. -/
  | gap {cs : List Char} (h : ∀ c ∈ cs, c.isAlphanum = false) : MaximalRuns cs []
  /-- A first run, which ends with the text or before a separator. -/
  | run {gap w rest : List Char} {ws : List (List Char)} (hg : ∀ c ∈ gap, c.isAlphanum = false)
      (hw : IsRun w) (hend : ∀ c ∈ rest.head?, c.isAlphanum = false) (h : MaximalRuns rest ws) :
      MaximalRuns (gap ++ w ++ rest) (w :: ws)

theorem MaximalRuns.eq_runs {cs : List Char} {ws : List (List Char)} (h : MaximalRuns cs ws) :
    ws = runs cs := by
  induction h with
  | @gap cs hg => rw [← List.append_nil cs, runs_append_of_gap hg, runs_nil]
  | run hg hw hend _ ih =>
    rw [List.append_assoc, runs_append_of_gap hg, runs_append_of_run hw hend, ← ih]

/-- A gap, a run up to the next separator, and the rest, which is shorter. -/
theorem maximalRuns_runs (cs : List Char) : MaximalRuns cs (runs cs) := by
  have hcs : (cs.takeWhile fun c => !c.isAlphanum) ++ (cs.dropWhile fun c => !c.isAlphanum) = cs :=
    List.takeWhile_append_dropWhile
  cases hd : cs.dropWhile fun c => !c.isAlphanum with
  | nil =>
    have hg := isAlphanum_of_mem_gap cs
    rw [hd, List.append_nil] at hcs
    rw [hcs] at hg
    rw [← runs_dropWhile, hd]
    exact .gap hg
  | cons c rest =>
    have hc := isAlphanum_of_dropWhile hd
    have hlen : (rest.dropWhile Char.isAlphanum).length < cs.length := by
      have := (List.dropWhile_sublist Char.isAlphanum (l := rest)).length_le
      have := congrArg List.length hcs
      rw [hd, List.length_append, List.length_cons] at this
      omega
    have h := MaximalRuns.run (isAlphanum_of_mem_gap cs) (isRun_takeWhile hc rest)
      (head_dropWhile_run rest) (maximalRuns_runs (rest.dropWhile Char.isAlphanum))
    rwa [← runs_cons_alphanum hc, ← hd, runs_dropWhile, List.append_assoc, List.cons_append,
      List.takeWhile_append_dropWhile, ← hd, hcs] at h
termination_by cs.length

/-- **A text is cut into maximal runs in one way.** -/
theorem maximalRuns_iff {cs : List Char} {ws : List (List Char)} :
    MaximalRuns cs ws ↔ ws = runs cs :=
  ⟨MaximalRuns.eq_runs, fun h => h ▸ maximalRuns_runs cs⟩

/-! ## The web scheme -/

/-- The text with one leading web scheme taken off. -/
inductive WithoutScheme : List Char → List Char → Prop
  | secure (rest : List Char) : WithoutScheme ("https://".toList ++ rest) rest
  | plain (rest : List Char) : WithoutScheme ("http://".toList ++ rest) rest
  | none {cs : List Char} (hs : ¬ "https://".toList <+: cs) (h : ¬ "http://".toList <+: cs) :
      WithoutScheme cs cs

theorem WithoutScheme.eq_dropScheme {cs rest : List Char} (h : WithoutScheme cs rest) :
    rest = dropScheme cs := by
  rw [dropScheme_eq]
  cases h with
  | secure rest => rw [if_pos (by simp), List.drop_left' (by cbv)]
  | plain rest =>
    have hs : "https://".toList.isPrefixOf ("http://".toList ++ rest) = false := by
      rw [toList_https, toList_http]
      rfl
    rw [hs, if_neg Bool.false_ne_true, if_pos (by simp), List.drop_left' (by cbv)]
  | none hs h =>
    rw [if_neg (by simpa using hs), if_neg (by simpa using h)]

theorem withoutScheme_dropScheme (cs : List Char) : WithoutScheme cs (dropScheme cs) := by
  rw [dropScheme_eq]
  split
  · rename_i h
    obtain ⟨rest, rfl⟩ := List.isPrefixOf_iff_prefix.mp h
    rw [List.drop_left' (by cbv)]
    exact .secure rest
  · rename_i hs
    split
    · rename_i h
      obtain ⟨rest, rfl⟩ := List.isPrefixOf_iff_prefix.mp h
      rw [List.drop_left' (by cbv)]
      exact .plain rest
    · rename_i h
      exact .none (by simpa using hs) (by simpa using h)

theorem withoutScheme_iff {cs rest : List Char} : WithoutScheme cs rest ↔ rest = dropScheme cs :=
  ⟨WithoutScheme.eq_dropScheme, fun h => h ▸ withoutScheme_dropScheme cs⟩

/-! ## The identifier of a text -/

/-- The name joins by single dashes the maximal runs of letters and digits of the text in lower
case, without its web scheme. -/
def IdentifierOf (raw name : String) : Prop :=
  ∃ rest ws, WithoutScheme (lower raw.toList) rest ∧ MaximalRuns rest ws ∧
    name = String.intercalate "-" (ws.map String.ofList)

/-- **A text has one identifier.** -/
theorem sanitize_eq_iff {raw name : String} : sanitize raw = name ↔ IdentifierOf raw name := by
  simp only [IdentifierOf, withoutScheme_iff, maximalRuns_iff]
  rw [sanitize_eq_intercalate, eq_comm]
  constructor
  · rintro rfl
    exact ⟨_, _, rfl, rfl, rfl⟩
  · rintro ⟨_, _, rfl, rfl, h⟩
    exact h

/-! ## Texts that are identifiers -/

theorem IsIdentifier.sanitize_eq_self {name : String} (h : IsIdentifier name) :
    sanitize name = name := by
  obtain ⟨ws, -, hws, rfl⟩ := h
  have hname : String.intercalate "-" ws =
      String.ofList (['-'].intercalate (ws.map String.toList)) := by
    rw [String.ext_iff, String.toList_intercalate]
    exact (String.toList_ofList (l := _)).symm
  have hsmall : ∀ w ∈ ws.map String.toList, IsSmallRun w := fun w hw => by
    obtain ⟨v, hv, rfl⟩ := List.mem_map.mp hw
    exact isLowerRun_iff.mp (hws v hv)
  rw [sanitize_eq, hname, identifierWords_intercalate_dash hsmall]

/-- **The texts that are their own identifiers.** -/
theorem sanitize_eq_self_iff {name : String} :
    sanitize name = name ↔ name = "" ∨ IsIdentifier name := by
  constructor
  · intro h
    by_cases hne : name = ""
    · exact .inl hne
    · exact .inr (h ▸ isIdentifier_sanitize (h.symm ▸ hne))
  · rintro (rfl | h)
    · cbv
    · exact h.sanitize_eq_self

/-! ## The case of letters -/

/-- The texts differ in nothing but the case of ASCII letters. -/
def SameButCase (a b : String) : Prop := a.toList.map Char.toLower = b.toList.map Char.toLower

instance (a b : String) : Decidable (SameButCase a b) :=
  inferInstanceAs (Decidable (a.toList.map Char.toLower = b.toList.map Char.toLower))

section Case

variable {a b : String} (h : SameButCase a b)

include h

theorem SameButCase.lower_eq : lower a.toList = lower b.toList := by
  rw [← lower_map_toLower a.toList, ← lower_map_toLower b.toList, h]

theorem SameButCase.eq_empty_iff : a = "" ↔ b = "" := by
  have hlen : a.toList.length = b.toList.length := by
    simpa using congrArg List.length h
  rw [← String.toList_eq_nil_iff, ← String.toList_eq_nil_iff, ← List.length_eq_zero_iff,
    ← List.length_eq_zero_iff, hlen]

theorem SameButCase.sanitize_eq : sanitize a = sanitize b := by
  unfold sanitize
  rw [h.lower_eq]

theorem SameButCase.clusterIdentity_name (server : Option String) :
    clusterIdentity (some a) server = clusterIdentity (some b) server := by
  by_cases hb : b = ""
  · rw [hb, h.eq_empty_iff.mpr hb]
  · rw [clusterIdentity_filled hb, clusterIdentity_filled (mt h.eq_empty_iff.mp hb), h.lower_eq]

theorem SameButCase.clusterIdentity_server (name : Option String) :
    clusterIdentity name (some a) = clusterIdentity name (some b) := by
  unfold clusterIdentity
  simp only [Option.getD_some, h.sanitize_eq]

end Case

/-! ## Canonical identifiers -/

/-- **Identifiers are canonical.** Every text has exactly one, the maximal runs of its letters and
digits in lower case joined by dashes; the texts that are their own identifiers are the empty one
and the runs of digits and small letters between single dashes, and these are all identifiers; the
case of ASCII letters does not matter. -/
theorem sanitize_canonical :
    (∀ raw name, sanitize raw = name ↔ IdentifierOf raw name) ∧
    (∀ name, sanitize name = name ↔ name = "" ∨ IsIdentifier name) ∧
    (∀ raw, sanitize (sanitize raw) = sanitize raw) ∧
    (∀ name, (∃ raw, sanitize raw = name) ↔ name = "" ∨ IsIdentifier name) ∧
    ∀ a b, SameButCase a b → sanitize a = sanitize b ∧
      (∀ server, clusterIdentity (some a) server = clusterIdentity (some b) server) ∧
      ∀ name, clusterIdentity name (some a) = clusterIdentity name (some b) := by
  refine ⟨fun _ _ => sanitize_eq_iff, fun _ => sanitize_eq_self_iff, sanitize_sanitize,
    fun name => ?_, fun a b h => ⟨h.sanitize_eq, h.clusterIdentity_name, h.clusterIdentity_server⟩⟩
  rw [← sanitize_eq_self_iff]
  constructor
  · rintro ⟨raw, rfl⟩
    exact sanitize_sanitize raw
  · intro h
    exact ⟨name, h⟩

theorem sanitize_canonical_sample :
    SameButCase "https://kube.Local:6443" "HTTPS://Kube.LOCAL:6443" ∧
      sanitize "https://kube.Local:6443" = sanitize "HTTPS://Kube.LOCAL:6443" ∧
      sanitize "HTTPS://Kube.LOCAL:6443" = "kube-local-6443" :=
  have h : SameButCase "https://kube.Local:6443" "HTTPS://Kube.LOCAL:6443" := by decide +kernel
  ⟨h, (sanitize_canonical.2.2.2.2 _ _ h).1, by decide +kernel⟩

/-- Only one scheme is taken off, and the Kelvin sign is a letter in lower case. -/
example : sanitize "Http://https://\u212A8s_(é)--İ" = "https-k8s-i" := by decide +kernel

end Rollout
