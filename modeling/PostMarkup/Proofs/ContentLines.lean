import Mathlib.Data.List.Induction
import PostMarkup.Analysis
import PostMarkup.Proofs.Casing
import PostMarkup.Proofs.Text

/-! What is told of a text line by line: it does not change with blank characters at the ends of
lines, and goes together from line to line. Such a reading depends on the lines with content alone.
The lines with content are such a reading themselves, and so are occurrences and numbers of what
has no blank character at its ends and no line break within. -/

namespace PostMarkup.Text

/-! ### Blank characters -/

def blanks : Text :=
  ['\t', '\n', '\x0B', '\x0C', '\r', ' ', '\u0085', '\u00A0', '\u1680', '\u2000', '\u2001',
    '\u2002', '\u2003', '\u2004', '\u2005', '\u2006', '\u2007', '\u2008', '\u2009', '\u200A',
    '\u2028', '\u2029', '\u202F', '\u205F', '\u3000']

theorem mem_blanks {c : Char} (h : isBlank c = true) : c ∈ blanks := by
  have hnumber : c.toNat ∈ blanks.map Char.toNat := by
    simp only [isBlank, Bool.or_eq_true, Bool.and_eq_true, decide_eq_true_iff, beq_iff_eq] at h
    simp only [blanks, List.map_cons, List.map_nil, List.mem_cons, Char.reduceToNat]
    omega
  obtain ⟨d, hd, heq⟩ := List.mem_map.1 hnumber
  rwa [← Char.toNat_inj.1 heq]

theorem isWordChar_of_isBlank {c : Char} (h : isBlank c = true) : isWordChar c = false := by
  have hblanks : ∀ c ∈ blanks, isWordChar c = false := by decide +kernel
  exact hblanks c (mem_blanks h)

/-- No blank character at its ends, and no line break within. -/
structure IsLinePart (t : Text) : Prop where
  ne_nil : t ≠ []
  startsOff : StartsOff isBlank t
  endsOff : StartsOff isBlank t.reverse
  newline_not_mem : '\n' ∉ t

/-! ### Readings that ignore blanks at the ends -/

/-- What `f` tells of a text does not change with blank characters at its ends. -/
structure IgnoresEnds {α : Type} (f : Text → α) : Prop where
  blank_cons : ∀ {c}, isBlank c = true → ∀ t, f (c :: t) = f t
  append_blank : ∀ {c}, isBlank c = true → ∀ t, f (t ++ [c]) = f t

namespace IgnoresEnds

variable {α : Type} {f : Text → α} (h : IgnoresEnds f)
include h

theorem blank_append {front : Text} (hfront : ∀ c ∈ front, isBlank c = true) (t : Text) :
    f (front ++ t) = f t := by
  induction front with
  | nil => rfl
  | cons c front ih =>
    rw [List.forall_mem_cons] at hfront
    rw [List.cons_append, h.blank_cons hfront.1, ih hfront.2]

theorem append_blanks {back : Text} (hback : ∀ c ∈ back, isBlank c = true) (t : Text) :
    f (t ++ back) = f t := by
  induction back using List.reverseRecOn with
  | nil => rw [List.append_nil]
  | append_singleton back c ih =>
    rw [List.forall_mem_append, List.forall_mem_singleton] at hback
    rw [← List.append_assoc, h.append_blank hback.2, ih hback.1]

theorem trim (t : Text) : f t.trim = f t := by
  have hfront : t.takeWhile isBlank ++ t.trimStart = t := List.takeWhile_append_dropWhile
  have hback : t.trim ++ (t.trimStart.reverse.takeWhile isBlank).reverse = t.trimStart := by
    rw [Text.trim, trimEnd, ← List.reverse_append, List.takeWhile_append_dropWhile,
      List.reverse_reverse]
  calc f t.trim
    _ = f (t.trim ++ (t.trimStart.reverse.takeWhile isBlank).reverse) :=
      (h.append_blanks (fun c hc => List.mem_takeWhile_imp (List.mem_reverse.1 hc)) _).symm
    _ = f (t.takeWhile isBlank ++ t.trimStart) := by
      rw [hback, h.blank_append fun c => List.mem_takeWhile_imp]
    _ = f t := by rw [hfront]

end IgnoresEnds

/-! ### Readings line by line -/

/-- Besides, `g` puts together what `f` tells of two texts one below the other. -/
structure LineWise {α : Type} (f : Text → α) (g : α → α → α) : Prop extends IgnoresEnds f where
  append : ∀ s t, f (s ++ '\n' :: t) = g (f s) (f t)

theorem contentLines_of_not_mem {line : Text} (h : '\n' ∉ line) :
    line.contentLines = if line.trim = [] then [] else [line.trim] := by
  rw [contentLines, physicalLines_of_not_mem h, List.map_singleton]
  by_cases hblank : line.trim = [] <;> simp [hblank]

theorem contentLines_append (s t : Text) :
    contentLines (s ++ '\n' :: t) = s.contentLines ++ t.contentLines := by
  rw [contentLines, physicalLines_append, List.map_append, List.filter_append, contentLines,
    contentLines]

theorem contentLines_blank_cons {c : Char} (hc : isBlank c = true) (t : Text) :
    contentLines (c :: t) = t.contentLines := by
  by_cases hbreak : c = '\n'
  · rw [hbreak]
    exact contentLines_append [] t
  · have hmem {line : Text} (hline : '\n' ∉ line) : '\n' ∉ c :: line := by
      simp [Ne.symm hbreak, hline]
    induction t using lines_induction with
    | last line hline =>
      rw [contentLines_of_not_mem (hmem hline), contentLines_of_not_mem hline,
        trim_cons_blank hc]
    | cons line rest hline ih =>
      rw [← List.cons_append, contentLines_append, contentLines_append,
        contentLines_of_not_mem (hmem hline), contentLines_of_not_mem hline, trim_cons_blank hc]

theorem contentLines_append_blank {c : Char} (hc : isBlank c = true) (t : Text) :
    contentLines (t ++ [c]) = t.contentLines := by
  by_cases hbreak : c = '\n'
  · rw [hbreak, contentLines_append, List.append_right_eq_self]
    rfl
  · induction t using lines_induction with
    | last line hline =>
      have hmem : '\n' ∉ line ++ [c] := by simp [Ne.symm hbreak, hline]
      rw [contentLines_of_not_mem hmem, contentLines_of_not_mem hline,
        trim_append_blank (by simpa using hc)]
    | cons line rest hline ih =>
      rw [List.append_assoc, List.cons_append, contentLines_append, ih, contentLines_append]

theorem contentLines_intercalate (texts : List Text) :
    contentLines (['\n'].intercalate texts) = texts.flatMap contentLines := by
  refine apply_intercalate (f := contentLines) (g := (· ++ ·)) List.append_nil contentLines_append
    rfl (fun t rest => List.flatMap_cons) texts

theorem lineWise_contentLines : LineWise contentLines (· ++ ·) where
  blank_cons := contentLines_blank_cons
  append_blank := contentLines_append_blank
  append := contentLines_append

namespace LineWise

variable {α : Type} {f : Text → α} {g : α → α → α} (h : LineWise f g)
include h

/-- What is told of a text is put together of what is told of its lines with content. -/
theorem eq_foldr (t : Text) : f t = (t.contentLines.map f).foldr g (f []) := by
  -- Line breaks at the ends of a text are blank characters, so `g` has a unit there.
  have hleft (t : Text) : g (f []) (f t) = f t := by
    rw [← h.append, List.nil_append, h.blank_cons (by decide)]
  have hright (t : Text) : g (f t) (f []) = f t := by
    rw [← h.append, h.append_blank (by decide)]
  have hline {line : Text} (hmem : '\n' ∉ line) (rest : Text) :
      (line.contentLines.map f).foldr g (f rest) = g (f line) (f rest) := by
    rw [contentLines_of_not_mem hmem, ← h.trim line]
    split
    next hblank => rw [hblank, hleft, List.map_nil, List.foldr_nil]
    next => rfl
  induction t using lines_induction with
  | last line hmem => rw [hline hmem, hright]
  | cons line rest hmem ih =>
    rw [contentLines_append, List.map_append, List.foldr_append, ← ih, hline hmem, h.append]

theorem congr {s t : Text} (hlines : s.contentLines = t.contentLines) : f s = f t := by
  rw [h.eq_foldr, hlines, ← h.eq_foldr]

end LineWise

/-! ### Occurrences and numbers -/

theorem lineWise_occursIn {word : Text} (h : word.IsLinePart) : LineWise (occursIn word) or where
  blank_cons {c} hc t := by
    have hhead : word.head? ≠ some c := fun hword => by
      simp [h.startsOff c hword] at hc
    rw [Bool.eq_iff_iff, occursIn_iff, occursIn_iff, infix_cons_of_head_ne h.ne_nil hhead]
  append_blank {c} hc t := by
    have hsuffix : ¬word <:+ t ++ [c] := by
      rw [← List.reverse_prefix, List.reverse_concat, List.prefix_cons_iff]
      rintro (hnil | ⟨rest, hrest, -⟩)
      · exact h.ne_nil (List.reverse_eq_nil_iff.1 hnil)
      · have hlast := h.endsOff
        rw [hrest, startsOff_cons, hc] at hlast
        cases hlast
    rw [Bool.eq_iff_iff, occursIn_iff, occursIn_iff, List.infix_concat_iff, or_iff_right hsuffix]
  append s t := by
    rw [Bool.eq_iff_iff, Bool.or_eq_true, occursIn_iff, occursIn_iff, occursIn_iff,
      infix_append_cons_iff h.newline_not_mem]

theorem lineWise_any {p : Char → Bool} (h : ∀ c, isBlank c = true → p c = false) :
    LineWise (List.any · p) or where
  blank_cons hc t := by simp [h _ hc]
  append_blank hc t := by simp [h _ hc]
  append s t := by simp [h '\n' (by decide)]

theorem lineWise_count {c : Char} (h : isBlank c = false) :
    LineWise (List.count c) (· + ·) where
  blank_cons {d} hd t := List.count_cons_of_ne fun heq => by simp [heq, h] at hd
  append_blank {d} hd t := by
    have hne : d ≠ c := fun heq => by simp [heq, h] at hd
    rw [List.count_append, List.count_singleton, if_neg (by simpa using hne), Nat.add_zero]
  append s t := by
    rw [List.count_append, List.count_cons_of_ne]
    rintro rfl
    exact absurd h (by decide)

/-- A form of the text that leaves blank characters alone is told of line by line. -/
theorem LineWise.comp_flatMap {α : Type} {f : Text → α} {g : α → α → α} (h : LineWise f g)
    {e : Char → Text} (he : ∀ c, isBlank c = true → e c = [c]) :
    LineWise (fun t => f (t.flatMap e)) g where
  blank_cons hc t := by rw [List.flatMap_cons, he _ hc, List.singleton_append, h.blank_cons hc]
  append_blank hc t := by
    rw [List.flatMap_append, List.flatMap_singleton, he _ hc, h.append_blank hc]
  append s t := by
    rw [List.flatMap_append, List.flatMap_cons, he '\n' (by decide), List.singleton_append,
      h.append]

end PostMarkup.Text
