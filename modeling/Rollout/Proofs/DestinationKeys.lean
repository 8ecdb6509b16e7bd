import Rollout.Resolved.Basic
import Rollout.Proofs.Identifier.Words

/-!
# Keys of destinations

The key of a destination is one text, yet it tells the cluster from the namespace: the identifier of
the cluster holds no slash, so the first slash of the key ends it, whatever the namespace holds.

* `eq_of_append_slash`: texts that are cut at their first slash.
* `DestinationKey.of_inj`: a key gives back the cluster's identifier and the namespace.
* `sanitize_clusterIdentity`: the identity of a cluster has the identifier of the authored text.
* **`key_eq_iff`**: two destinations share a key exactly when they share both.
-/

namespace Rollout

open Text

/-! ## The parts of a key -/

theorem takeWhile_append_slash {a : List Char} (ha : '/' ∉ a) (s : List Char) :
    (a ++ '/' :: s).takeWhile (· ≠ '/') = a := by
  have hne : ∀ c ∈ a, decide (c ≠ '/') = true := fun c hc =>
    decide_eq_true fun h => ha (h ▸ hc)
  rw [List.takeWhile_append_of_pos hne, List.takeWhile_cons_of_neg (by simp), List.append_nil]

/-- **The first slash cuts a text.** -/
theorem eq_of_append_slash {a b s t : List Char} (ha : '/' ∉ a) (hb : '/' ∉ b)
    (h : a ++ '/' :: s = b ++ '/' :: t) : a = b ∧ s = t := by
  have hab : a = b := by
    rw [← takeWhile_append_slash ha s, h, takeWhile_append_slash hb t]
  rw [hab] at h
  exact ⟨hab, (List.cons_inj_right '/').mp (List.append_cancel_left h)⟩

theorem toList_namespace : "/namespace/".toList = '/' :: "namespace/".toList := by cbv

theorem DestinationKey.toList_of (identity space : String) :
    (DestinationKey.of identity space).text.toList =
      (sanitize identity).toList ++ '/' :: ("namespace/".toList ++ space.toList) := by
  simp only [DestinationKey.of, String.toList_append, toList_namespace, List.append_assoc,
    List.cons_append]

/-- **A key gives back its parts.** -/
theorem DestinationKey.of_inj {a b x y : String} :
    DestinationKey.of a x = DestinationKey.of b y ↔ sanitize a = sanitize b ∧ x = y := by
  constructor
  · intro h
    have htext : (DestinationKey.of a x).text.toList = (DestinationKey.of b y).text.toList := by
      rw [h]
    rw [toList_of, toList_of] at htext
    obtain ⟨hid, hrest⟩ := eq_of_append_slash (slash_notMem_sanitize a) (slash_notMem_sanitize b)
      htext
    exact ⟨String.ext hid, String.ext (List.append_cancel_left hrest)⟩
  · rintro ⟨h, rfl⟩
    rw [DestinationKey.of, h, DestinationKey.of]

/-! ## The identity as authored -/

/-- What an author names a cluster by: its name, unless that is missing or empty, or else its
address. -/
def authoredIdentity (name server : Option String) : String :=
  match name with
  | some name => if name = "" then server.getD "" else name
  | none => server.getD ""

/-- What the author names the cluster of a destination by. -/
def ResolvedDestination.authored (d : ResolvedDestination) : String :=
  authoredIdentity d.name d.server

theorem sanitize_lower (raw : String) :
    sanitize (String.ofList (lower raw.toList)) = sanitize raw := by
  unfold sanitize
  rw [String.toList_ofList, lower_lower]

/-- **The identity has the identifier of what is authored.** A name comes in lower case and an
address as its identifier; neither changes the identifier. -/
theorem sanitize_clusterIdentity (name server : Option String) :
    sanitize (clusterIdentity name server) = sanitize (authoredIdentity name server) := by
  unfold authoredIdentity
  cases name with
  | none => rw [clusterIdentity_none, sanitize_sanitize]
  | some name =>
    by_cases hname : name = ""
    · simp only [hname, clusterIdentity_empty, sanitize_sanitize, if_true]
    · simp only [clusterIdentity_filled hname, sanitize_lower, if_neg hname]

/-- **Keys tell destinations apart.** Two destinations share a key exactly when their namespaces are
the same text and what they name their clusters by has one identifier. -/
theorem key_eq_iff (d e : ResolvedDestination) :
    d.key = e.key ↔ d.space.value = e.space.value ∧ sanitize d.authored = sanitize e.authored := by
  unfold ResolvedDestination.key ResolvedDestination.identity ResolvedDestination.authored
  rw [DestinationKey.of_inj, sanitize_clusterIdentity, sanitize_clusterIdentity, and_comm]

/-- A separator in the namespace is no second one. -/
example : DestinationKey.of "a" "b/namespace/c" ≠ DestinationKey.of "a/namespace/b" "c" := by
  decide +kernel

end Rollout
