import Mathlib.Data.List.Forall2
import PostMarkup.Proofs.Lines

/-! The errors of a post: which of its lines are refused, what is reported of each of them, and that
what is wrong with some lines does not show in what the others say. -/

namespace PostMarkup

open Text

/-! ### Refused lines -/

/-- The line starts with a mark that it must fit, and does not fit it. -/
def Text.IsRefused (t : Text) : Prop :=
  (∃ c ∈ ['#', '!', '+', '>', '@'], t.head? = some c) ∧ ¬t.IsDirective

/-- The mark of a line that is refused. -/
def Text.refusedMark? (t : Text) : Option Mark :=
  if t.IsDirective then none
  else (t.head?.bind Mark.ofChar?).filter fun mark => mark.tier = .strict

namespace Mark

theorem tier_eq_strict_iff {mark : Mark} :
    mark.tier = .strict ↔ mark.char ∈ ['#', '!', '+', '>', '@'] := by
  cases mark <;> decide

theorem exists_char_eq : ∀ c ∈ ['#', '!', '+', '>', '@'], ∃ mark ∈ all, mark.char = c := by
  decide

end Mark

namespace Text

theorem refusedMark?_eq_some_iff {t : Text} {mark : Mark} :
    t.refusedMark? = some mark ↔
      mark.tier = .strict ∧ t.head? = some mark.char ∧ ¬t.IsDirective := by
  rw [refusedMark?]
  split
  next h => simp [h]
  next h =>
    rw [Option.filter_eq_some_iff, Option.bind_eq_some_iff]
    constructor
    · rintro ⟨⟨c, hc, hmark⟩, hstrict⟩
      rw [Mark.ofChar?_eq_some_iff.1 hmark] at hc
      exact ⟨of_decide_eq_true hstrict, hc, h⟩
    · rintro ⟨hstrict, hhead, -⟩
      exact ⟨⟨_, hhead, Mark.ofChar?_char mark⟩, decide_eq_true hstrict⟩

theorem isRefused_iff {t : Text} : t.IsRefused ↔ t.refusedMark?.isSome = true := by
  simp only [IsRefused, Option.isSome_iff_exists, refusedMark?_eq_some_iff,
    Mark.tier_eq_strict_iff]
  constructor
  · rintro ⟨⟨c, hstrict, hhead⟩, h⟩
    obtain ⟨mark, -, rfl⟩ := Mark.exists_char_eq c hstrict
    exact ⟨mark, hstrict, hhead, h⟩
  · rintro ⟨mark, hstrict, hhead, h⟩
    exact ⟨⟨mark.char, hstrict, hhead⟩, h⟩

instance (t : Text) : Decidable t.IsRefused := decidable_of_iff _ isRefused_iff.symm

end Text

theorem LineKind.ofText_eq_directive_iff {raw : Text} {mark : Mark} :
    ofText raw = .directive mark ↔ raw.trim.head? = some mark.char := by
  rw [ofText]
  split
  next h => simp [h]
  next h =>
    rw [h, List.head?_cons]
    cases mark <;> simp [Mark.char]
  next c rest hcomment h =>
    rw [h, List.head?_cons, Option.some.injEq, ← Mark.ofChar?_eq_some_iff]
    cases Mark.ofChar? c <;> simp

/-- Whether a line is an error depends on its text alone. -/
theorem syntaxError?_of_ofPhysical? {offset number : Nat} {raw : Text} {line : Line}
    (h : Line.ofPhysical? offset number raw = some line) :
    line.syntaxError? = raw.trim.refusedMark?.map (SyntaxError.mk line) := by
  obtain ⟨htext, hkind⟩ := ofPhysical?_eq_some h
  refine Option.ext fun e => ?_
  rw [Line.syntaxError?, Line.reading, htext, hkind, Option.map_eq_some_iff]
  simp only [refusedMark?_eq_some_iff, not_isDirective_iff, ← LineKind.ofText_eq_directive_iff]
  cases LineKind.ofText raw with
  | directive mark =>
    cases hread : Directive.ofText? raw.trim with
    | some d => simp
    | none => cases htier : mark.tier <;> simp [htier]
  | blank | comment | unrecognized => simp

/-- A line that is left out is no error. -/
theorem refusedMark?_eq_none_of_ofPhysical? {offset number : Nat} {raw : Text}
    (h : Line.ofPhysical? offset number raw = none) : raw.trim.refusedMark? = none := by
  rw [ofPhysical?_eq_none_iff] at h
  refine Option.eq_none_iff_forall_ne_some.2 fun mark hmark => ?_
  obtain ⟨-, hhead, -⟩ := refusedMark?_eq_some_iff.1 hmark
  rw [LineKind.ofText_eq_directive_iff.2 hhead] at h
  cases h

/-- The errors among the lines are the refused lines, with their numbers and marks. -/
theorem map_syntaxError?_linesFrom (offset number : Nat) (raws : List Text) :
    ((linesFrom offset number raws).filterMap Line.syntaxError?).map
        (fun e => (e.line.text, e.line.number, e.mark)) =
      ((raws.map trim).zipIdx (number + 1)).filterMap fun entry =>
        entry.1.refusedMark?.map fun mark => (entry.1, entry.2, mark) := by
  induction raws generalizing offset number with
  | nil => rfl
  | cons raw raws ih =>
    rw [linesFrom, List.filterMap_append, List.map_append, ih, List.map_cons, List.zipIdx_cons,
      List.filterMap_cons]
    cases hline : Line.ofPhysical? offset (number + 1) raw with
    | some line =>
      have herror := syntaxError?_of_ofPhysical? hline
      obtain ⟨-, rfl⟩ := ofPhysical?_eq_some_iff.1 hline
      simp only [Option.toList_some, List.filterMap_cons, List.filterMap_nil, herror]
      cases raw.trim.refusedMark? <;> rfl
    | none => simp [refusedMark?_eq_none_of_ofPhysical? hline]

theorem map_errors_parse (post : Text) :
    (parse post).errors.map (fun e => (e.line.text, e.line.number, e.mark)) =
      ((post.physicalLines.map trim).zipIdx 1).filterMap fun entry =>
        entry.1.refusedMark?.map fun mark => (entry.1, entry.2, mark) :=
  map_syntaxError?_linesFrom 0 0 _

/-- The errors of a post are its refused lines, each with its place among the physical lines. -/
theorem map_text_number_errors_parse (post : Text) :
    (parse post).errors.map (fun e => (e.line.text, e.line.number)) =
      ((post.physicalLines.map trim).zipIdx 1).filter fun entry => entry.1.IsRefused := by
  have h := congrArg (List.map fun entry => (entry.1, entry.2.1)) (map_errors_parse post)
  rw [List.map_map, List.map_filterMap] at h
  refine h.trans ?_
  rw [← List.filterMap_eq_filter]
  refine List.filterMap_congr fun entry _ => ?_
  simp only [Option.guard, isRefused_iff, decide_eq_true_eq]
  cases entry.1.refusedMark? <;> rfl

/-- The errors of a post, wherever they stand, are its refused lines. -/
theorem map_text_mark_errors_parse (post : Text) :
    (parse post).errors.map (fun e => (e.line.text, e.mark)) =
      (post.physicalLines.map trim).filterMap fun t => t.refusedMark?.map (Prod.mk t) := by
  have h := congrArg (List.map fun entry => (entry.1, entry.2.2)) (map_errors_parse post)
  rw [List.map_map, List.map_filterMap] at h
  refine h.trans ?_
  conv_rhs => rw [← List.zipIdx_map_fst 1 (post.physicalLines.map trim), List.filterMap_map]
  refine List.filterMap_congr fun entry _ => ?_
  cases h : entry.1.refusedMark? <;> simp [h]

theorem map_mark_errors_parse (post : Text) :
    (parse post).errors.map SyntaxError.mark =
      (post.physicalLines.map trim).filterMap refusedMark? := by
  have h := congrArg (List.map Prod.snd) (map_text_mark_errors_parse post)
  rw [List.map_map, List.map_filterMap] at h
  refine h.trans (List.filterMap_congr fun t _ => ?_)
  cases t.refusedMark? <;> rfl

theorem errors_parse_eq_nil_iff {post : Text} :
    (parse post).errors = [] ↔ ∀ raw ∈ post.physicalLines, ¬raw.trim.IsRefused := by
  rw [← List.map_eq_nil_iff, map_mark_errors_parse, List.filterMap_eq_nil_iff, List.forall_mem_map]
  simp only [isRefused_iff, Option.not_isSome_iff_eq_none]

/-- What an error says of itself is true of its line. -/
theorem refused_of_mem_errors {post : Text} {e : SyntaxError} (h : e ∈ (parse post).errors) :
    e.line ∈ lines post ∧ e.line.text.refusedMark? = some e.mark := by
  obtain ⟨line, hline, herror⟩ := List.mem_filterMap.1 h
  obtain ⟨raw, -, offset, number, hraw⟩ := mem_linesFrom hline
  rw [syntaxError?_of_ofPhysical? hraw, ← (ofPhysical?_eq_some hraw).1] at herror
  obtain ⟨mark, hmark, rfl⟩ := Option.map_eq_some_iff.1 herror
  exact ⟨hline, hmark⟩

/-! ### Diagnostics -/

/-- What is said of a malformed line after its number. -/
def SyntaxError.complaint (e : SyntaxError) : String :=
  "Invalid " ++ e.mark.word ++ ". Use " ++ e.mark.template

theorem SyntaxError.message_diagnostic (e : SyntaxError) :
    e.diagnostic.message = s!"Line {e.line.number}: " ++ e.complaint := by
  have hsplit : ": Invalid " = ": " ++ "Invalid " := by decide
  simp only [diagnostic, complaint, hsplit, String.append_assoc]
  rfl

/-- `d` reports that the physical line with the given number, whose trimmed text is `text`, is
refused: it points at that very line, and has a hint only if the line has no quotes at all. -/
structure Diagnostic.Refuses (post text : Text) (number : Nat) (d : Diagnostic) : Prop where
  severity : d.severity = .error
  code : (text.head?, d.code) ∈
    [(some '#', some Code.e100), (some '!', some .e101), (some '+', some .e102),
      (some '>', some .e103), (some '@', some .e104)]
  message : ∃ complaint, d.message = s!"Line {number}: " ++ complaint
  label : ∃ label before, d.label = some label ∧ label.span.slice? post = some text ∧
    Text.slice? 0 label.span.start post = some before ∧ number = before.count '\n' + 1
  help : d.help.isSome = true ↔ '"' ∉ text

theorem refuses_of_mem_errors {post : Text} {e : SyntaxError} (h : e ∈ (parse post).errors) :
    e.diagnostic.Refuses post e.line.text e.line.number := by
  obtain ⟨hline, hmark⟩ := refused_of_mem_errors h
  obtain ⟨hstrict, hhead, -⟩ := refusedMark?_eq_some_iff.1 hmark
  have hstands := standsIn_of_mem_lines hline
  obtain ⟨before, hbefore, hnumber⟩ := hstands.number_eq
  constructor
  · rfl
  · rw [hhead]
    change (some e.mark.char, some e.mark.code) ∈ _
    revert hstrict
    cases e.mark <;> decide
  · exact ⟨e.complaint, e.message_diagnostic⟩
  · exact ⟨_, before, rfl, hstands.slice?_span, hbefore, hnumber⟩
  · change (if e.line.text.contains '"' then none else some _).isSome = true ↔ _
    simp

/-! ### Overwriting -/

namespace Text

/-- `raw'` has blank characters, as many bytes, in place of `raw` if `p` holds of the trimmed line,
and is `raw` if not. -/
structure OverwrittenLine (p : Text → Prop) (raw raw' : Text) : Prop where
  utf8Size_eq : raw'.utf8Size = raw.utf8Size
  trim_eq_nil : p raw.trim → raw'.trim = []
  eq_self : ¬p raw.trim → raw' = raw

/-- The second post is the first with the lines overwritten of which `p` holds. -/
def Overwritten (p : Text → Prop) (post post' : Text) : Prop :=
  List.Forall₂ (OverwrittenLine p) post.physicalLines post'.physicalLines

/-- The post with spaces, as many as they have bytes, in place of the lines of which `p` holds. -/
def overwrite (p : Text → Prop) [DecidablePred p] (post : Text) : Text :=
  ['\n'].intercalate <| post.physicalLines.map fun raw : Text =>
    if p raw.trim then List.replicate raw.utf8Size ' ' else raw

theorem isRefused_nil : ¬IsRefused [] := by decide

theorem isDirective_nil : ¬IsDirective [] := by decide

theorem utf8Size_replicate_space (n : Nat) : utf8Size (List.replicate n ' ') = n := by
  induction n with
  | zero => rfl
  | succ n ih =>
    rw [List.replicate_succ, utf8Size_cons, ih, Nat.add_comm]
    rfl

theorem overwrittenLine_replicate_space (p : Text → Prop) [DecidablePred p] (raw : Text) :
    OverwrittenLine p raw (if p raw.trim then List.replicate raw.utf8Size ' ' else raw) := by
  by_cases h : p raw.trim
  · rw [if_pos h]
    have hblank : ∀ c ∈ List.replicate raw.utf8Size ' ', isBlank c = true := by
      intro c hc
      rw [List.eq_of_mem_replicate hc]
      decide
    exact ⟨utf8Size_replicate_space _, fun _ => trim_append_blank (t := []) hblank,
      fun hnot => absurd h hnot⟩
  · rw [if_neg h]
    exact ⟨rfl, fun hp => absurd hp h, fun _ => rfl⟩

theorem overwritten_overwrite (p : Text → Prop) [DecidablePred p] (post : Text) :
    Overwritten p post (post.overwrite p) := by
  have hlines : (post.overwrite p).physicalLines = post.physicalLines.map fun raw : Text =>
      if p raw.trim then List.replicate raw.utf8Size ' ' else raw := by
    refine List.splitOn_intercalate '\n' ?_ ?_
    · intro raw hraw
      obtain ⟨line, hline, rfl⟩ := List.mem_map.1 hraw
      have hnewline := newline_not_mem_of_mem_physicalLines hline
      split
      · intro hmem
        exact absurd (List.eq_of_mem_replicate hmem) (by decide)
      · exact hnewline
    · simpa using physicalLines_ne_nil post
  rw [Overwritten, hlines, List.forall₂_map_right_iff, List.forall₂_same]
  exact fun raw _ => overwrittenLine_replicate_space p raw

end Text

section Overwritten

variable {p : Text → Prop}

theorem filterMap_syntaxError?_of_not_isRefused {raw : Text} (h : ¬raw.trim.IsRefused)
    (offset number : Nat) :
    (Line.ofPhysical? offset number raw).toList.filterMap Line.syntaxError? = [] := by
  have hnone : raw.trim.refusedMark? = none := by
    rwa [isRefused_iff, Option.not_isSome_iff_eq_none] at h
  cases hline : Line.ofPhysical? offset number raw with
  | none => rfl
  | some line => simp [syntaxError?_of_ofPhysical? hline, hnone]

/-- Lines that are no errors may be overwritten, and the errors keep their places. -/
theorem filterMap_syntaxError?_overwritten (hp : ∀ t, p t → ¬t.IsRefused) {raws raws' : List Text}
    (h : List.Forall₂ (OverwrittenLine p) raws raws') (offset number : Nat) :
    (linesFrom offset number raws').filterMap Line.syntaxError? =
      (linesFrom offset number raws).filterMap Line.syntaxError? := by
  induction h generalizing offset number with
  | nil => rfl
  | @cons raw raw' raws raws' hline _ ih =>
    rw [linesFrom, linesFrom, List.filterMap_append, List.filterMap_append, hline.utf8Size_eq, ih]
    by_cases hraw : p raw.trim
    · have hblank : ¬raw'.trim.IsRefused := hline.trim_eq_nil hraw ▸ isRefused_nil
      rw [filterMap_syntaxError?_of_not_isRefused hblank,
        filterMap_syntaxError?_of_not_isRefused (hp _ hraw)]
    · rw [hline.eq_self hraw]

/-- Where all refused lines are overwritten, none is left. -/
theorem not_isRefused_of_mem_overwritten (hp : ∀ t, t.IsRefused → p t) {raws raws' : List Text}
    (h : List.Forall₂ (OverwrittenLine p) raws raws') : ∀ raw' ∈ raws', ¬raw'.trim.IsRefused := by
  induction h with
  | nil => simp
  | @cons raw raw' raws raws' hline _ ih =>
    refine List.forall_mem_cons.2 ⟨?_, ih⟩
    by_cases hraw : p raw.trim
    · rw [hline.trim_eq_nil hraw]
      exact isRefused_nil
    · rw [hline.eq_self hraw]
      exact fun hrefused => hraw (hp _ hrefused)

/-- Lines that say nothing may be overwritten, and the others say the same. -/
theorem filterMap_ofText?_overwritten (hp : ∀ t, p t → ¬t.IsDirective) {raws raws' : List Text}
    (h : List.Forall₂ (OverwrittenLine p) raws raws') :
    raws'.filterMap (fun raw => Directive.ofText? raw.trim) =
      raws.filterMap fun raw => Directive.ofText? raw.trim := by
  induction h with
  | nil => rfl
  | @cons raw raw' raws raws' hline _ ih =>
    rw [List.filterMap_cons, List.filterMap_cons, ih]
    by_cases hraw : p raw.trim
    · have hblank : ¬raw'.trim.IsDirective := hline.trim_eq_nil hraw ▸ isDirective_nil
      rw [not_isDirective_iff.1 hblank, not_isDirective_iff.1 (hp _ hraw)]
    · rw [hline.eq_self hraw]

variable {post post' : Text} (h : Overwritten p post post')
include h

theorem errors_parse_overwritten (hp : ∀ t, p t → ¬t.IsRefused) :
    (parse post').errors = (parse post).errors :=
  filterMap_syntaxError?_overwritten hp h 0 0

theorem document_parse_overwritten (hp : ∀ t, p t → ¬t.IsDirective) :
    (parse post').document = (parse post).document := by
  rw [document_parse, document_parse, filterMap_ofText?_overwritten hp h]

theorem errors_parse_overwritten_eq_nil (hp : ∀ t, t.IsRefused → p t) :
    (parse post').errors = [] :=
  errors_parse_eq_nil_iff.2 (not_isRefused_of_mem_overwritten hp h)

end Overwritten

/-- The line carries something, and is no line of the grammar. -/
def Text.IsVoid (t : Text) : Prop := t ≠ [] ∧ ¬['/', '/'] <+: t ∧ ¬t.IsDirective

instance (t : Text) : Decidable t.IsVoid := inferInstanceAs (Decidable (_ ∧ _))

theorem Text.IsRefused.isVoid {t : Text} (h : t.IsRefused) : t.IsVoid := by
  obtain ⟨⟨c, hc, hhead⟩, hnot⟩ := h
  refine ⟨?_, ?_, hnot⟩
  · rintro rfl
    cases hhead
  · rintro ⟨rest, rfl⟩
    cases hhead
    exact absurd hc (by decide)

/-- Every refused line of a post is reported, once and in order, with its number and its place, and
no other line is. With all lines overwritten that carry something but say nothing, the document is
the same and no error is left; with all lines overwritten that say something, the errors are the
same, in the same places. -/
theorem syntaxErrors_exact (post : Text) :
    List.Forall₂ (fun entry d => Diagnostic.Refuses post entry.1 entry.2 d)
        (((post.physicalLines.map trim).zipIdx 1).filter fun entry => entry.1.IsRefused)
        ((parse post).errors.map SyntaxError.diagnostic) ∧
      (∀ post', Overwritten IsVoid post post' →
        (parse post').document = (parse post).document ∧ (parse post').errors = []) ∧
      ∀ post', Overwritten IsDirective post post' →
        (parse post').errors.map SyntaxError.diagnostic =
          (parse post).errors.map SyntaxError.diagnostic := by
  refine ⟨?_, fun post' h => ⟨?_, ?_⟩, fun post' h => ?_⟩
  · rw [← map_text_number_errors_parse, List.forall₂_map_left_iff, List.forall₂_map_right_iff,
      List.forall₂_same]
    exact fun e he => refuses_of_mem_errors he
  · exact document_parse_overwritten h fun _ ht => ht.2.2
  · exact errors_parse_overwritten_eq_nil h fun _ ht => ht.isVoid
  · rw [errors_parse_overwritten h fun _ ht hrefused => hrefused.2 ht]

/-- A post with lines of every sort, some of which do not fit their marks. -/
def patchy : Text :=
  ['\n'].intercalate <| List.map String.toList
    ["# \"é\"", "# é\r", "\u3000! \"a\" b", "// + 1", "^ total 0", "plain", "", "> \"i\"\t"]

/-- The post with what says nothing overwritten. -/
def mended : Text :=
  ['\n'].intercalate <| List.map String.toList
    ["# \"é\"", "     ", "          ", "// + 1", "         ", "     ", "", "> \"i\"\t"]

/-- The post with what says something overwritten. -/
def stripped : Text :=
  ['\n'].intercalate <| List.map String.toList
    ["      ", "# é\r", "\u3000! \"a\" b", "// + 1", "^ total 0", "plain", "", "      "]

theorem syntaxErrors_exact_patchy :
    Overwritten IsVoid patchy mended ∧ Overwritten IsDirective patchy stripped ∧
      (parse patchy).errors.length = 2 ∧
      (parse mended).document = (parse patchy).document ∧ (parse mended).errors = [] ∧
      (parse stripped).errors.map SyntaxError.diagnostic =
        (parse patchy).errors.map SyntaxError.diagnostic := by
  have hmended : patchy.overwrite IsVoid = mended := by decide +kernel
  have hstripped : patchy.overwrite IsDirective = stripped := by decide +kernel
  have h : Overwritten IsVoid patchy mended := hmended ▸ overwritten_overwrite IsVoid patchy
  have h' : Overwritten IsDirective patchy stripped :=
    hstripped ▸ overwritten_overwrite IsDirective patchy
  obtain ⟨-, hvoid, hdirective⟩ := syntaxErrors_exact patchy
  obtain ⟨hdocument, herrors⟩ := hvoid mended h
  refine ⟨h, h', ?_, hdocument, herrors, hdirective stripped h'⟩
  decide +kernel

end PostMarkup
