import Mathlib
import Rollout.Document.Yaml.Writer

/-!
# Lines of a written document

A line that starts with a number sign is a comment, and none is ever written: a text that starts so
stands between quotes, and the later lines of a text are indented.

* `Yaml.Uncommented`: a text has no such line.
* `Yaml.Page.Sound`: what the pen has to know of the page to keep it so; one lemma for each movement
  of the pen.
* `Yaml.sound_putText`, `Yaml.sound_putValue`: texts and trees keep it so.
* **`Yaml.uncommented_write`**: a written document has no comments.
-/

namespace Rollout.Yaml

/-! ## Texts without comments -/

/-- No line of the text starts with a number sign. -/
def Uncommented (cs : List Char) : Prop := ¬ ['\n', '#'] <:+: '\n' :: cs

/-- The characters neither end a line nor start a comment. -/
def Tame (cs : List Char) : Prop := ∀ c ∈ cs, c ≠ '\n' ∧ c ≠ '#'

instance (cs : List Char) : Decidable (Tame cs) :=
  List.decidableBAll (fun c => c ≠ '\n' ∧ c ≠ '#') cs

section Texts

variable {cs ds : List Char} {c : Char}

theorem uncommented_concat (h : Uncommented cs)
    (hc : c = '#' → ('\n' :: cs).getLast? ≠ some '\n') : Uncommented (cs ++ [c]) := by
  intro hi
  rw [← List.cons_append, List.infix_concat_iff] at hi
  rcases hi with ⟨before, hs⟩ | hi
  · rw [List.append_cons before '\n' ['#']] at hs
    obtain ⟨hb, hs⟩ := List.append_inj' hs rfl
    refine hc (List.singleton_inj.mp hs).symm ?_
    rw [← hb, List.getLast?_concat]
  · exact h hi

theorem Uncommented.append_tame (h : Uncommented cs) (hd : Tame ds) : Uncommented (cs ++ ds) := by
  induction ds generalizing cs with
  | nil => rwa [List.append_nil]
  | cons d ds ih =>
    obtain ⟨hd, hds⟩ := List.forall_mem_cons.mp hd
    rw [List.append_cons]
    exact ih (uncommented_concat h fun hs => absurd hs hd.2) hds

theorem cons_infix_intercalate {line : List Char} : ∀ {lines : List (List Char)}, line ∈ lines →
    '\n' :: line <:+: '\n' :: ['\n'].intercalate lines
  | [first], h => by
    rw [List.mem_singleton.mp h, List.intercalate_singleton]
  | first :: second :: rest, h => by
    rw [List.intercalate_cons_cons, List.append_assoc, List.singleton_append]
    rcases List.mem_cons.mp h with rfl | h
    · exact (List.prefix_append ('\n' :: line) _).isInfix
    · exact (cons_infix_intercalate h).trans (List.suffix_append ('\n' :: first) _).isInfix

/-- What follows any line break of a text without comments. -/
theorem Uncommented.head?_ne (h : Uncommented cs) {line : List Char}
    (hl : line ∈ cs.splitOn '\n') : line.head? ≠ some '#' := by
  have hline := cons_infix_intercalate hl
  rw [List.intercalate_splitOn] at hline
  intro hhead
  obtain ⟨rest, rfl⟩ := List.head?_eq_some_iff.mp hhead
  exact h ((List.prefix_append ['\n', '#'] rest).isInfix.trans hline)

theorem Tame.append (hc : Tame cs) (hd : Tame ds) : Tame (cs ++ ds) := fun c h =>
  (List.mem_append.mp h).elim (hc c) (hd c)

theorem Tame.sub (hd : Tame ds) (h : cs ⊆ ds) : Tame cs := fun c hc => hd c (h hc)

theorem tame_replicate {n : Nat} (hc : c ≠ '\n' ∧ c ≠ '#') : Tame (List.replicate n c) :=
  fun _ hd => List.eq_of_mem_replicate hd ▸ hc

end Texts

/-! ## Numbers -/

theorem tame_toString_nat (n : Nat) : Tame (toString n).toList := by
  intro c hc
  rw [Nat.toString_eq_repr, Nat.toList_repr] at hc
  have hd := Nat.isDigit_of_mem_toDigits (by decide) (by decide) hc
  constructor <;> rintro rfl <;> exact absurd hd (by decide)

theorem tame_toString_int (i : Int) : Tame (toString i).toList := by
  cases i with
  | ofNat n => exact tame_toString_nat n
  | negSucc n =>
    have htext : (toString (Int.negSucc n)).toList = ['-'] ++ (toString (n + 1)).toList := by
      show ("-" ++ _).toList = _
      rw [String.toList_append]
      rfl
    rw [htext]
    exact .append (by decide) (tame_toString_nat _)

theorem tame_decimal (x : Double.Decimal) : Tame (x.toText false).toList := by
  have hdigits := tame_toString_nat x.digits
  have htake (n : Nat) := hdigits.sub (List.take_subset n _)
  have hdrop (n : Nat) := hdigits.sub (List.drop_subset n _)
  have hzeros (n : Nat) : Tame (List.replicate n '0') := tame_replicate (by decide)
  rw [Double.Decimal.toText, String.toList_ofList]
  dsimp only
  split
  · exact (hdigits.append (hzeros _)).append (by decide)
  · split
    · rw [List.append_cons]
      exact ((htake _).append (by decide)).append (hdrop _)
    · split
      · exact (Tame.append (by decide) (hzeros _)).append hdigits
      · refine ((((htake 1).append ?_).append (hdrop 1)).append ?_).append (tame_toString_int _)
        · split <;> decide
        · rw [Bool.false_and]
          decide

theorem tame_doubleWord (d : Double) : Tame (doubleWord d).toList := by
  have hsign : Tame (if d.negative then "-" else "").toList := by
    cases d.negative <;> decide
  unfold doubleWord Double.toText
  dsimp only
  split
  · rw [apply_ite String.toList, String.toList_append, String.toList_append]
    split
    · exact hsign.append (by decide)
    · exact hsign.append (tame_decimal _)
  · decide

/-! ## Pages -/

/-- No line starts with a number sign so far, and at a later column than the first the pen does not
stand at the start of a line. -/
structure Page.Sound (p : Page) : Prop where
  uncommented : Uncommented p.text.toList
  getLast? : 0 < p.column → ('\n' :: p.text.toList).getLast? ≠ some '\n'

namespace Page

variable {p : Page} {c : Char} {cs : List Char} {level : Nat}

theorem sound_empty : Sound {} where
  uncommented h := absurd h.length_le (by decide)
  getLast? h := absurd h (Nat.lt_irrefl 0)

theorem Sound.put (h : p.Sound) (hc : c ≠ '\n') (hs : c = '#' → 0 < p.column) :
    (p.put c).Sound := by
  have htext : (p.put c).text.toList = p.text.toList ++ [c] := String.toList_push ..
  constructor
  · rw [htext]
    exact uncommented_concat h.uncommented fun hh => h.getLast? (hs hh)
  · rintro -
    rw [htext, ← List.cons_append, List.getLast?_concat]
    simpa using hc

theorem Sound.putBreak (h : p.Sound) (hc : c ≠ '#') : (p.putBreak c).Sound := by
  have htext : (p.putBreak c).text.toList = p.text.toList ++ [c] := String.toList_push ..
  constructor
  · rw [htext]
    exact uncommented_concat h.uncommented fun hh => absurd hh hc
  · exact fun hp => absurd hp (Nat.lt_irrefl 0)

theorem column_puts (p : Page) (cs : List Char) : (p.puts cs).column = p.column + cs.length := by
  induction cs generalizing p with
  | nil => rfl
  | cons c cs ih =>
    have hstep : (p.puts (c :: cs)).column = ((p.put c).puts cs).column := rfl
    rw [hstep, ih, List.length_cons]
    simp only [Page.put]
    omega

/-- A number sign may stand anywhere but at the start of a line. -/
theorem Sound.puts (h : p.Sound) (hb : '\n' ∉ cs) (hs : cs.head? = some '#' → 0 < p.column) :
    (p.puts cs).Sound := by
  induction cs generalizing p with
  | nil => exact h
  | cons c cs ih =>
    rw [List.mem_cons, not_or] at hb
    refine ih (h.put (Ne.symm hb.1) ?_) hb.2 fun _ => Nat.succ_pos _
    rintro rfl
    exact hs rfl

theorem Sound.puts_tame (h : p.Sound) (hc : Tame cs) : (p.puts cs).Sound :=
  h.puts (fun hb => (hc _ hb).1 rfl) fun hs => absurd rfl (hc _ (List.mem_of_mem_head? hs)).2

theorem Sound.congr {q : Page} (h : p.Sound) (ht : q.text = p.text) (hc : q.column = p.column) :
    q.Sound := ⟨ht ▸ h.uncommented, fun hq => ht ▸ h.getLast? (hc ▸ hq)⟩

theorem Sound.space (h : p.Sound) : (p.put ' ').Sound :=
  h.put (by decide) fun hs => absurd hs (by decide)

theorem Sound.indent (h : p.Sound) (level : Nat) : (p.indent level).Sound := by
  unfold Page.indent
  dsimp only
  refine Sound.congr (Sound.puts_tame ?_ (tame_replicate (by decide))) rfl rfl
  split
  · exact h.putBreak (by decide)
  · exact h

theorem le_column_indent (p : Page) (level : Nat) : level ≤ (p.indent level).column := by
  unfold Page.indent
  dsimp only
  rw [column_puts, List.length_replicate]
  omega

theorem Sound.mark (h : p.Sound) (hm : Tame cs) (spaced blank indenting : Bool) :
    (p.mark cs spaced blank indenting).Sound := by
  unfold Page.mark
  dsimp only
  refine Sound.congr (Sound.puts_tame ?_ hm) rfl rfl
  split
  · exact h.space
  · exact h

theorem column_mark_pos (p : Page) (hm : cs ≠ []) (spaced blank indenting : Bool) :
    0 < (p.mark cs spaced blank indenting).column := by
  unfold Page.mark
  dsimp only
  rw [column_puts]
  have := List.length_pos_iff.mpr hm
  omega

theorem Sound.settle (h : p.Sound) : p.settle.Sound := h.congr rfl rfl

end Page

/-! ## Texts -/

section Marks

variable {p : Page} {level : Nat} {cs : List Char}

/-- Where a new line of a text starts, the pen moves away from the start of the line. -/
theorem sound_newLine {afterBreak : Bool} (h : p.Sound) (hl : 0 < level)
    (hp : afterBreak = false → 0 < p.column) :
    (if afterBreak then p.indent level else p).Sound ∧
      0 < (if afterBreak then p.indent level else p).column := by
  cases afterBreak with
  | false => exact ⟨h, hp rfl⟩
  | true => exact ⟨h.indent level, Nat.lt_of_lt_of_le hl (p.le_column_indent level)⟩

theorem newline_ne {c : Char} (h : ¬ isBreak c = true) : c ≠ '\n' := by
  rintro rfl
  exact h (by decide)

theorem ne_sharp {c : Char} (h : isBreak c = true) : c ≠ '#' := by
  rintro rfl
  exact absurd h (by decide)

/-- After a line end inside quotes, the text goes on at its level. -/
theorem sound_putSingle (hl : 0 < level) : ∀ {cs : List Char} {afterBreak : Bool} {p : Page},
    p.Sound → (afterBreak = false → 0 < p.column) → (putSingle level afterBreak cs p).Sound
  | [], afterBreak, p, h, hp => (sound_newLine h hl hp).1
  | c :: cs, afterBreak, p, h, hp => by
    rw [putSingle]
    split
    · exact sound_putSingle hl h.space fun _ => Nat.succ_pos _
    · split
      · rename_i hb
        exact sound_putSingle hl ((h.putBreak (ne_sharp hb)).congr rfl rfl) nofun
      · rename_i hb
        obtain ⟨hi, hcol⟩ := sound_newLine h hl hp
        have hw : '\n' ∉ (if c = '\'' then [c, c] else [c]) := by
          have := newline_ne hb
          split <;> simp [this.symm]
        refine sound_putSingle hl ((hi.puts hw fun _ => hcol).congr rfl rfl) fun _ => ?_
        show 0 < (Page.puts _ _).column
        rw [Page.column_puts]
        omega

theorem sound_putLiteral (hl : 0 < level) : ∀ {cs : List Char} {afterBreak : Bool} {p : Page},
    p.Sound → (afterBreak = false → 0 < p.column) → (putLiteral level afterBreak cs p).Sound
  | [], afterBreak, p, h, hp => h
  | c :: cs, afterBreak, p, h, hp => by
    rw [putLiteral]
    split
    · rename_i hb
      exact sound_putLiteral hl ((h.putBreak (ne_sharp hb)).congr rfl rfl) nofun
    · rename_i hb
      obtain ⟨hi, hcol⟩ := sound_newLine h hl hp
      exact sound_putLiteral hl ((hi.put (newline_ne hb) fun _ => hcol).congr rfl rfl) fun _ =>
        Nat.succ_pos _

theorem exists_of_mem_toDigits {n : Nat} {c : Char} (h : c ∈ Nat.toDigits 16 n) :
    ∃ d < 16, c = Nat.digitChar d := by
  induction n using Nat.strongRecOn with
  | ind n ih =>
    by_cases hn : n < 16
    · rw [Nat.toDigits_of_lt_base hn] at h
      exact ⟨n, hn, List.mem_singleton.mp h⟩
    · rw [Nat.toDigits_of_base_le (by decide) (Nat.not_lt.mp hn), List.mem_append,
        List.mem_singleton] at h
      rcases h with h | h
      · exact ih (n / 16) (by omega) h
      · exact ⟨n % 16, Nat.mod_lt _ (by decide), h⟩

theorem newline_notMem_hexDigits (width n : Nat) : '\n' ∉ hexDigits width n := by
  have hupper : ∀ d < 16, (Nat.digitChar d).toUpper ≠ '\n' := by decide
  unfold hexDigits
  rw [List.mem_append, not_or]
  constructor
  · exact fun h => absurd (List.eq_of_mem_replicate h) (by decide)
  · intro h
    obtain ⟨c, hc, hn⟩ := List.mem_map.mp h
    obtain ⟨d, hd, rfl⟩ := exists_of_mem_toDigits hc
    exact hupper d hd hn

/-- Between double quotes a line end is written as an escape. -/
theorem newline_notMem_escapeChar (c : Char) : '\n' ∉ escapeChar c := by
  unfold escapeChar
  split
  · rename_i h
    rw [List.mem_singleton]
    rintro rfl
    exact absurd h (by decide)
  · split
    case h_15 =>
      split
      · simp [newline_notMem_hexDigits]
      · split <;> simp [newline_notMem_hexDigits]
    all_goals decide

theorem tame_literalMarks (cs : List Char) : Tame (literalMarks cs) := by
  refine Tame.append ?_ ?_
  · split <;> decide
  · split
    · decide
    · split
      · decide
      · split
        · decide
        · split <;> decide

/-- A bare text is of one line and does not start like a comment. -/
theorem of_choose_eq_bare {simpleKey : Bool} {s : String} (h : Form.choose simpleKey s = .bare) :
    '\n' ∉ s.toList ∧ s.toList.head? ≠ some '#' := by
  have hquotes (b : Bool) : (if b then Form.single else .double) ≠ .bare := by
    cases b <;> decide
  unfold Form.choose at h
  dsimp only at h
  split at h
  · cases h
  · split at h
    · split at h <;> cases h
    · rename_i hn
      split at h
      · exact absurd h (hquotes _)
      · split at h
        · exact absurd h (hquotes _)
        · rename_i hsafe
          refine ⟨by simpa using hn, fun hs => hsafe ?_⟩
          obtain ⟨rest, hrest⟩ := List.head?_eq_some_iff.mp hs
          -- the first character would have a meaning of its own
          simp [Traits.of, hrest, indicatesFirst, leadingIndicators]

theorem sound_putText (hl : 0 < level) (simpleKey : Bool) (s : String) (h : p.Sound) :
    (putText level simpleKey s p).Sound := by
  unfold putText
  dsimp only
  have hspace : (if p.blank then p else p.put ' ').Sound := by
    split
    · exact h
    · exact h.space
  split
  · rename_i hbare
    obtain ⟨hb, hs⟩ := of_choose_eq_bare hbare
    exact (hspace.puts hb fun hh => absurd hh hs).settle
  · refine ((sound_putSingle hl ?_ ?_).mark ?_ _ _ _).settle
    · exact h.mark (by decide) _ _ _
    · exact fun _ => Page.column_mark_pos _ (List.cons_ne_nil _ _) _ _ _
    · decide
  · have hquote : (p.mark ['"'] true false false).Sound := h.mark (by decide) true false false
    have hinside : '\n' ∉ s.toList.flatMap escapeChar := fun hm =>
      have ⟨c, _, hc⟩ := List.mem_flatMap.mp hm
      newline_notMem_escapeChar c hc
    have hcol : 0 < (p.mark ['"'] true false false).column :=
      Page.column_mark_pos _ (List.cons_ne_nil _ _) _ _ _
    exact ((hquote.puts hinside fun _ => hcol).mark (by decide) _ _ _).settle
  · have hbar : (p.mark ['|'] true false false).Sound := h.mark (by decide) true false false
    have hmarks := hbar.mark (tame_literalMarks s.toList) false false false
    exact sound_putLiteral hl ((hmarks.putBreak (by decide)).congr rfl rfl) nofun

theorem sound_putWord {w : String} (h : p.Sound) (hw : Tame w.toList) : (putWord w p).Sound := by
  unfold putWord
  refine (Page.Sound.puts_tame ?_ hw).settle
  split
  · exact h
  · exact h.space

end Marks

/-! ## Trees -/

mutual

/-- **Writing a tree starts no comment.** -/
theorem sound_putValue {level : Option Nat} {inMap : Bool} {p : Page} : ∀ (v : Value), p.Sound →
    (putValue level inMap v p).Sound
  | .null, h => sound_putWord h (by decide)
  | .bool b, h => sound_putWord h (by cases b <;> decide)
  | .int i, h => sound_putWord h (tame_toString_int i)
  | .double d, h => sound_putWord h (tame_doubleWord d)
  | .text s, h => sound_putText (Nat.succ_pos _) false s h
  | .list [], h => (h.mark (by decide) _ _ _).mark (by decide) _ _ _
  | .list (v :: items), h => sound_putItems (v :: items) h
  | .object [], h => (h.mark (by decide) _ _ _).mark (by decide) _ _ _
  | .object (f :: fields), h => sound_putFields (f :: fields) h

theorem sound_putItems {level : Nat} {p : Page} : ∀ (vs : List Value), p.Sound →
    (putItems level vs p).Sound
  | [], h => h
  | v :: rest, h =>
    sound_putItems rest (sound_putValue v ((h.indent level).mark (by decide) _ _ _))

theorem sound_putFields {level : Nat} {p : Page} : ∀ (fs : List (String × Value)), p.Sound →
    (putFields level fs p).Sound
  | [], h => h
  | (k, v) :: rest, h => by
    rw [putFields]
    refine sound_putFields rest (sound_putValue v ?_)
    split
    · exact (sound_putText (Nat.succ_pos _) true k (h.indent level)).mark (by decide) _ _ _
    · have hmark : ((p.indent level).mark ['?'] true false true).Sound :=
        (h.indent level).mark (by decide) true false true
      have hkey := sound_putText (Nat.succ_pos (level + 1)) false k hmark
      exact (hkey.indent level).mark (by decide) _ _ _

end

/-- **A written document has no comments.** -/
theorem uncommented_write (v : Value) : Uncommented (write v).toList :=
  ((sound_putValue v Page.sound_empty).indent 0).uncommented

end Rollout.Yaml
