import Rollout.Proofs.Identifier.Runs
import Rollout.Proofs.Text.LowerCase

/-!
# Words of a text

The identifier of a text is its list of words; a web scheme counts as a word except at the front.

* `words`, `identifierWords`: the words of a text and those of its identifier.
* `webScheme?`: the scheme that an identifier leaves out; `words_eq`: it is the only difference.
* **`sanitize_inj`**: two texts have one identifier exactly when its words are the same.
* **`identifierWords_join`**, `words_join`: a dash between two texts puts their words one after the
  other, the second text keeping its scheme.
* **`identifierWords_intercalate_dash`**: words without capitals come back from their join, so an
  identifier is its own identifier (`sanitize_sanitize`).
* `clusterIdentity_filled`, `clusterIdentity_none`: the identity of a cluster with and without a
  name.
-/

namespace Rollout

open Text

/-- The words of a text: its runs of letters and digits in lower case. -/
def words (raw : String) : List (List Char) := runs (lower raw.toList)

/-- The words of the identifier of a text. -/
def identifierWords (raw : String) : List (List Char) := runs (dropScheme (lower raw.toList))

/-- The web scheme that a text begins with, in any case. -/
def webScheme? (raw : String) : Option String :=
  if "https://".toList.isPrefixOf (lower raw.toList) then some "https"
  else if "http://".toList.isPrefixOf (lower raw.toList) then some "http"
  else none

/-! ## Identifiers and their words -/

theorem sanitize_eq (raw : String) :
    sanitize raw = String.ofList (['-'].intercalate (identifierWords raw)) := by
  unfold sanitize
  rw [dashedRuns_eq, identifierWords]

/-- **Identifiers are equal exactly when their words are.** -/
theorem sanitize_inj {a b : String} :
    sanitize a = sanitize b ↔ identifierWords a = identifierWords b := by
  simp only [sanitize_eq, String.ofList_inj, identifierWords, intercalate_runs_inj]

theorem sanitize_eq_empty_iff {raw : String} : sanitize raw = "" ↔ identifierWords raw = [] := by
  rw [show ("" : String) = sanitize "" by cbv, sanitize_inj]
  rfl

/-! ## The scheme -/

section Scheme

theorem isPrefixOf_map {f : Char → Char} {start : List Char}
    (hf : ∀ c ∈ start, ∀ x, f x = c ↔ x = c) (cs : List Char) :
    start.isPrefixOf (cs.map f) = start.isPrefixOf cs := by
  induction start generalizing cs with
  | nil => simp
  | cons s start ih =>
    cases cs with
    | nil => rfl
    | cons c cs =>
      have hs : (s == f c) = (s == c) := by
        rw [Bool.eq_iff_iff, beq_iff_eq, beq_iff_eq, eq_comm, hf s List.mem_cons_self, eq_comm]
      simp only [List.map_cons, List.isPrefixOf, hs,
        ih fun x hx => hf x (List.mem_cons_of_mem _ hx)]

theorem isPrefixOf_append_cons {start : List Char} {c : Char} (hc : c ∉ start) (a b : List Char) :
    start.isPrefixOf (a ++ c :: b) = start.isPrefixOf a := by
  induction start generalizing a with
  | nil => simp
  | cons s start ih =>
    have hs : s ≠ c := fun h => hc (h ▸ List.mem_cons_self)
    cases a with
    | nil => simp [List.isPrefixOf, hs]
    | cons x a =>
      simp only [List.cons_append, List.isPrefixOf, ih fun h => hc (List.mem_cons_of_mem _ h)]

theorem dropScheme_eq (cs : List Char) : dropScheme cs =
    if "https://".toList.isPrefixOf cs then cs.drop 8
    else if "http://".toList.isPrefixOf cs then cs.drop 7 else cs := by
  unfold dropScheme
  simp only [dropPrefix?]
  split
  · rfl
  · split <;> rfl

theorem medial_eq_iff {c : Char} (hc : c ≠ 'ς' ∧ c ≠ 'σ') (x : Char) : medial x = c ↔ x = c := by
  unfold medial
  split
  · rename_i hx
    subst hx
    simp [Ne.symm hc.1, Ne.symm hc.2]
  · rfl

theorem toList_https : "https://".toList = ['h', 't', 't', 'p', 's', ':', '/', '/'] := by cbv

theorem toList_http : "http://".toList = ['h', 't', 't', 'p', ':', '/', '/'] := by cbv

theorem dropScheme_map_medial (cs : List Char) :
    dropScheme (cs.map medial) = (dropScheme cs).map medial := by
  have hs : ∀ c ∈ "https://".toList, c ≠ 'ς' ∧ c ≠ 'σ' := by rw [toList_https]; simp
  have h : ∀ c ∈ "http://".toList, c ≠ 'ς' ∧ c ≠ 'σ' := by rw [toList_http]; simp
  simp only [dropScheme_eq, isPrefixOf_map fun c hc => medial_eq_iff (hs c hc),
    isPrefixOf_map fun c hc => medial_eq_iff (h c hc)]
  split
  · rw [List.map_drop]
  · split
    · rw [List.map_drop]
    · rfl

theorem dropScheme_append_dash (a b : List Char) :
    dropScheme (a ++ '-' :: b) = dropScheme a ++ '-' :: b := by
  have hs : '-' ∉ "https://".toList := by rw [toList_https]; decide
  have h : '-' ∉ "http://".toList := by rw [toList_http]; decide
  simp only [dropScheme_eq, isPrefixOf_append_cons hs, isPrefixOf_append_cons h]
  split
  · rename_i h
    exact List.drop_append_of_le_length (List.isPrefixOf_iff_prefix.mp h).length_le
  · split
    · rename_i h
      exact List.drop_append_of_le_length (List.isPrefixOf_iff_prefix.mp h).length_le
    · rfl

/-- **A scheme is one word more.** -/
theorem words_eq (raw : String) :
    words raw = (webScheme? raw).toList.map String.toList ++ identifierWords raw := by
  unfold words webScheme? identifierWords
  rw [dropScheme_eq]
  have word (w : String) (hw : IsRun w.toList) (rest : List Char) :
      runs (w.toList ++ ':' :: '/' :: '/' :: rest) = [w.toList] ++ runs rest := by
    rw [runs_append_cons _ _ rfl, runs_run hw, runs_cons_sep rfl, runs_cons_sep rfl]
  split
  · rename_i h
    obtain ⟨rest, hr⟩ := List.isPrefixOf_iff_prefix.mp h
    rw [← hr, List.drop_left' (by cbv)]
    exact word "https" ⟨by simp, by simp⟩ rest
  · split
    · rename_i h
      obtain ⟨rest, hr⟩ := List.isPrefixOf_iff_prefix.mp h
      rw [← hr, List.drop_left' (by cbv)]
      exact word "http" ⟨by simp, by simp⟩ rest
    · rfl

end Scheme

/-! ## Joined texts -/

section Join

theorem isAlphanum_medial (c : Char) (hc : c.isAlphanum = false) :
    (medial c).isAlphanum = false := by
  unfold medial
  split
  · rfl
  · exact hc

theorem medial_of_isAlphanum (c : Char) (hc : c.isAlphanum = true) : medial c = c := by
  unfold medial
  rw [if_neg]
  rintro rfl
  cases hc

theorem words_eq_runs (raw : String) : words raw = runs (lowerEach raw.toList) := by
  unfold words
  rw [← runs_map medial_of_isAlphanum isAlphanum_medial, map_medial_lower,
    runs_map medial_of_isAlphanum isAlphanum_medial]

theorem identifierWords_eq_runs (raw : String) :
    identifierWords raw = runs (dropScheme (lowerEach raw.toList)) := by
  unfold identifierWords
  rw [← runs_map medial_of_isAlphanum isAlphanum_medial, ← dropScheme_map_medial, map_medial_lower,
    dropScheme_map_medial, runs_map medial_of_isAlphanum isAlphanum_medial]

theorem lowerEach_join (a b : String) : lowerEach (a ++ "-" ++ b).toList =
    lowerEach a.toList ++ '-' :: lowerEach b.toList := by
  simp only [String.toList_append, lowerEach_append, List.append_assoc]
  rfl

theorem words_join (a b : String) : words (a ++ "-" ++ b) = words a ++ words b := by
  rw [words_eq_runs, words_eq_runs, words_eq_runs, lowerEach_join, runs_append_cons _ _ rfl]

/-- **Only the first of joined texts loses its scheme.** -/
theorem identifierWords_join (a b : String) :
    identifierWords (a ++ "-" ++ b) = identifierWords a ++ words b := by
  rw [identifierWords_eq_runs, identifierWords_eq_runs, words_eq_runs, lowerEach_join,
    dropScheme_append_dash, runs_append_cons _ _ rfl]

theorem words_intercalate (ts : List String) :
    words (String.intercalate "-" ts) = ts.flatMap words := by
  induction ts with
  | nil => cbv
  | cons t ts ih =>
    cases ts with
    | nil => rw [String.intercalate_singleton, List.flatMap_singleton]
    | cons u ts => rw [String.intercalate_cons_cons, words_join, ih]; rfl

theorem identifierWords_intercalate (t : String) (ts : List String) :
    identifierWords (String.intercalate "-" (t :: ts)) = identifierWords t ++ ts.flatMap words := by
  cases ts with
  | nil => rw [String.intercalate_singleton, List.flatMap_nil, List.append_nil]
  | cons u ts => rw [String.intercalate_cons_cons, identifierWords_join, words_intercalate]

end Join

/-! ## Identifiers of identifiers -/

section Again

theorem toNat_lt_of_isAlphanum {c : Char} (h : c.isAlphanum = true) : c.toNat < 128 := by
  simp only [Char.isAlphanum, Char.isAlpha, Char.isUpper, Char.isLower, Char.isDigit,
    Bool.or_eq_true, Bool.and_eq_true, decide_eq_true_eq, UInt32.le_iff_toNat_le] at h
  change c.val.toNat < 128
  rcases h with (⟨-, h⟩ | ⟨-, h⟩) | ⟨-, h⟩ <;> exact lt_of_le_of_lt h (by decide)

theorem dropScheme_subset {cs : List Char} {c : Char} (h : c ∈ dropScheme cs) : c ∈ cs := by
  rw [dropScheme_eq] at h
  split at h
  · exact List.mem_of_mem_drop h
  · split at h
    · exact List.mem_of_mem_drop h
    · exact h

theorem dropScheme_of_not_mem {cs : List Char} (h : ':' ∉ cs) : dropScheme cs = cs := by
  have hp {start : List Char} (hs : ':' ∈ start) : ¬ start.isPrefixOf cs = true := fun hp =>
    h ((List.isPrefixOf_iff_prefix.mp hp).subset hs)
  rw [dropScheme_eq, if_neg (hp (by rw [toList_https]; simp)),
    if_neg (hp (by rw [toList_http]; simp))]

/-- A word of an identifier: a run without capitals. -/
def IsSmallRun (w : List Char) : Prop := IsRun w ∧ ∀ c ∈ w, c.isUpper = false

theorem isSmallRun_of_mem_identifierWords {raw : String} {w : List Char}
    (hw : w ∈ identifierWords raw) : IsSmallRun w := by
  rw [identifierWords_eq_runs] at hw
  refine ⟨isRun_of_mem_runs hw, fun c hc => ?_⟩
  exact isUpper_of_mem_lowerEach (dropScheme_subset (mem_of_mem_runs hw hc).1)

theorem char_of_mem_intercalate {ws : List (List Char)} (h : ∀ w ∈ ws, IsSmallRun w) {c : Char}
    (hc : c ∈ ['-'].intercalate ws) : c = '-' ∨ c.isAlphanum = true ∧ c.isUpper = false :=
  (mem_intercalate_dash hc).imp_right fun ⟨w, hw, hc⟩ => ⟨(h w hw).1.2 c hc, (h w hw).2 c hc⟩

/-- **Words without capitals are the words of the text that joins them.** -/
theorem identifierWords_intercalate_dash {ws : List (List Char)} (h : ∀ w ∈ ws, IsSmallRun w) :
    identifierWords (String.ofList (['-'].intercalate ws)) = ws := by
  have hlower : lowerEach (['-'].intercalate ws) = ['-'].intercalate ws := by
    refine lowerEach_eq_self fun c hc => ?_
    rcases char_of_mem_intercalate h hc with rfl | ⟨ha, hu⟩
    · exact ⟨by decide, rfl⟩
    · exact ⟨toNat_lt_of_isAlphanum ha, hu⟩
  have hc : ':' ∉ ['-'].intercalate ws := fun hm => by
    rcases char_of_mem_intercalate h hm with hm | ⟨hm, -⟩ <;> exact absurd hm (by decide)
  rw [identifierWords_eq_runs, String.toList_ofList, hlower, dropScheme_of_not_mem hc]
  exact runs_intercalate fun w hw => (h w hw).1

/-- The characters of an identifier: dashes, digits and small letters. -/
theorem char_of_mem_sanitize {raw : String} {c : Char} (h : c ∈ (sanitize raw).toList) :
    c = '-' ∨ c.isAlphanum = true ∧ c.isUpper = false := by
  rw [sanitize_eq, String.toList_ofList] at h
  exact char_of_mem_intercalate (fun _ => isSmallRun_of_mem_identifierWords) h

theorem slash_notMem_sanitize (raw : String) : '/' ∉ (sanitize raw).toList := by
  intro h
  rcases char_of_mem_sanitize h with h | ⟨h, -⟩ <;> exact absurd h (by decide)

/-- **The words of an identifier.** -/
theorem identifierWords_sanitize (raw : String) :
    identifierWords (sanitize raw) = identifierWords raw := by
  rw [sanitize_eq]
  exact identifierWords_intercalate_dash fun _ => isSmallRun_of_mem_identifierWords

/-- **An identifier is its own identifier.** -/
theorem sanitize_sanitize (raw : String) : sanitize (sanitize raw) = sanitize raw :=
  sanitize_inj.mpr (identifierWords_sanitize raw)

end Again

/-! ## The identity of a cluster -/

theorem clusterIdentity_filled {name : String} (h : name ≠ "") (server : Option String) :
    clusterIdentity (some name) server = String.ofList (lower name.toList) := by
  unfold clusterIdentity filled?
  rw [Option.filter_some_pos (by simpa using h)]

theorem clusterIdentity_empty (server : Option String) :
    clusterIdentity (some "") server = sanitize (server.getD "") := rfl

theorem clusterIdentity_none (server : Option String) :
    clusterIdentity none server = sanitize (server.getD "") := rfl

end Rollout
