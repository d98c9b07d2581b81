import PostMarkup.Proofs.Joining

/-! Posts laid out anew. What a post says and what is wrong with it depends on its lines that start
with a mark, and on nothing else: how these are indented and how they end, and what stands between
them, shows only in the places that are reported. -/

namespace PostMarkup

open Text

/-! ### Marked lines -/

/-- The line starts with a mark. -/
def Text.isMarked (t : Text) : Bool := (t.head?.bind Mark.ofChar?).isSome

/-- The lines of a post that start with a mark. -/
def markedLines (post : Text) : List Text := ((lines post).map Line.text).filter isMarked

theorem isMarked_trim_iff {raw : Text} :
    raw.trim.isMarked = true ↔ ∃ mark, LineKind.ofText raw = .directive mark := by
  simp only [isMarked, Option.isSome_iff_exists, Option.bind_eq_some_iff,
    LineKind.ofText_eq_directive_iff, Mark.ofChar?_eq_some_iff]
  constructor
  · rintro ⟨mark, c, hhead, rfl⟩
    exact ⟨mark, hhead⟩
  · rintro ⟨mark, hhead⟩
    exact ⟨mark, _, hhead, rfl⟩

theorem filter_isMarked_linesFrom (offset number : Nat) (raws : List Text) :
    ((linesFrom offset number raws).map Line.text).filter isMarked =
      (raws.map trim).filter isMarked := by
  induction raws generalizing offset number with
  | nil => rfl
  | cons raw raws ih =>
    rw [linesFrom, List.map_append, List.filter_append, ih, List.map_cons, List.filter_cons]
    cases hline : Line.ofPhysical? offset (number + 1) raw with
    | some line =>
      have htext := (ofPhysical?_eq_some hline).1
      cases hmark : raw.trim.isMarked <;> simp [htext, hmark]
    | none =>
      have hkind := ofPhysical?_eq_none_iff.1 hline
      have hmark : ¬raw.trim.isMarked = true := fun h => by
        obtain ⟨mark, hdirective⟩ := isMarked_trim_iff.1 h
        rw [hdirective] at hkind
        cases hkind
      simp [hmark]

/-- A physical line that starts with a mark is neither blank nor a comment. -/
theorem markedLines_eq (post : Text) :
    markedLines post = (post.physicalLines.map trim).filter isMarked :=
  filter_isMarked_linesFrom 0 0 _

section Unmarked

variable {t : Text} (h : t.isMarked = false)
include h

theorem mark?_eq_none_of_not_isMarked : t.head?.bind Mark.ofChar? = none :=
  Option.isSome_eq_false_iff.1 h |> Option.isNone_iff_eq_none.1

theorem ofText?_eq_none_of_not_isMarked : Directive.ofText? t = none := by
  have hmark := mark?_eq_none_of_not_isMarked h
  cases t with
  | nil => rfl
  | cons c t =>
    rw [List.head?_cons, Option.bind_some] at hmark
    rw [Directive.ofText?, hmark, Option.bind_none]

theorem refusedMark?_eq_none_of_not_isMarked : t.refusedMark? = none := by
  rw [refusedMark?, mark?_eq_none_of_not_isMarked h, Option.filter_none, ite_self]

end Unmarked

theorem document_parse_eq_markedLines (post : Text) :
    (parse post).document = .ofDirectives ((markedLines post).filterMap Directive.ofText?) := by
  rw [document_parse, markedLines_eq, List.filterMap_filter, List.filterMap_map]
  congr 1
  refine List.filterMap_congr fun raw _ => ?_
  cases h : raw.trim.isMarked <;> simp [h, ofText?_eq_none_of_not_isMarked]

theorem map_text_mark_errors_parse_eq_markedLines (post : Text) :
    (parse post).errors.map (fun e => (e.line.text, e.mark)) =
      (markedLines post).filterMap fun t => t.refusedMark?.map (Prod.mk t) := by
  rw [map_text_mark_errors_parse, markedLines_eq, List.filterMap_filter]
  refine List.filterMap_congr fun t _ => ?_
  cases h : t.isMarked <;> simp [h, refusedMark?_eq_none_of_not_isMarked]

/-! ### Other places -/

/-- The two say the same, of lines that may stand in different places. -/
structure Diagnostic.SameBesidePlace (d d' : Diagnostic) : Prop where
  severity : d'.severity = d.severity
  code : d'.code = d.code
  message : ∃ (number other : Nat) (complaint : String),
    d.message = s!"Line {number}: " ++ complaint ∧ d'.message = s!"Line {other}: " ++ complaint
  label : d'.label.map Label.message = d.label.map Label.message
  help : d'.help = d.help

theorem sameBesidePlace_diagnostic {e e' : SyntaxError}
    (h : (e.line.text, e.mark) = (e'.line.text, e'.mark)) :
    e.diagnostic.SameBesidePlace e'.diagnostic := by
  obtain ⟨htext, hmark⟩ := Prod.mk.inj h
  have hcomplaint : e'.complaint = e.complaint := by
    rw [SyntaxError.complaint, SyntaxError.complaint, hmark]
  constructor
  · rfl
  · simp only [SyntaxError.diagnostic, hmark]
  · exact ⟨e.line.number, e'.line.number, e.complaint, e.message_diagnostic,
      hcomplaint ▸ e'.message_diagnostic⟩
  · simp only [SyntaxError.diagnostic, hmark, Option.map_some]
  · simp only [SyntaxError.diagnostic, htext]

theorem forall₂_sameBesidePlace {post post' : Text} (h : markedLines post = markedLines post') :
    List.Forall₂ Diagnostic.SameBesidePlace ((parse post).errors.map SyntaxError.diagnostic)
      ((parse post').errors.map SyntaxError.diagnostic) := by
  have herrors : (parse post).errors.map (fun e => (e.line.text, e.mark)) =
      (parse post').errors.map fun e => (e.line.text, e.mark) := by
    rw [map_text_mark_errors_parse_eq_markedLines, map_text_mark_errors_parse_eq_markedLines, h]
  rw [← List.forall₂_eq_eq_eq, List.forall₂_map_left_iff, List.forall₂_map_right_iff] at herrors
  rw [List.forall₂_map_left_iff, List.forall₂_map_right_iff]
  exact herrors.imp fun _ _ => sameBesidePlace_diagnostic

/-! ### Other lines -/

/-- The line is blank, a comment, or starts with a character that is no mark. -/
def Text.IsIdle (raw : Text) : Prop :=
  LineKind.ofText raw = .blank ∨ LineKind.ofText raw = .comment ∨
    ∃ c, LineKind.ofText raw = .unrecognized c

theorem Text.IsIdle.isMarked_trim {raw : Text} (h : raw.IsIdle) : raw.trim.isMarked = false := by
  rw [Bool.eq_false_iff, ne_eq, isMarked_trim_iff]
  rintro ⟨mark, hmark⟩
  simp [IsIdle, hmark] at h

/-- The second list has the lines of the first laid out anew: between other blank characters, and
among other lines that say nothing. -/
inductive Relaid : List Text → List Text → Prop
  | nil : Relaid [] []
  | respaced (front line back front' back' : Text) {raws raws' : List Text}
      (hblank : ∀ c ∈ front ++ back ++ front' ++ back', isBlank c = true) :
      Relaid raws raws' →
      Relaid ((front ++ line ++ back) :: raws) ((front' ++ line ++ back') :: raws')
  | inserted {raw : Text} {raws raws' : List Text} (hidle : raw.IsIdle) :
      Relaid raws raws' → Relaid raws (raw :: raws')
  | deleted {raw : Text} {raws raws' : List Text} (hidle : raw.IsIdle) :
      Relaid raws raws' → Relaid (raw :: raws) raws'

theorem Relaid.filter_isMarked {raws raws' : List Text} (h : Relaid raws raws') :
    (raws.map trim).filter isMarked = (raws'.map trim).filter isMarked := by
  induction h with
  | nil => rfl
  | respaced front line back front' back' hblank _ ih =>
    simp only [List.forall_mem_append] at hblank
    obtain ⟨⟨⟨hfront, hback⟩, hfront'⟩, hback'⟩ := hblank
    have htrim : trim (front ++ line ++ back) = trim (front' ++ line ++ back') := by
      rw [trim_append_blank hback, trim_append_blank hback', trim_blank_append hfront,
        trim_blank_append hfront']
    rw [List.map_cons, List.map_cons, List.filter_cons, List.filter_cons, htrim, ih]
  | inserted hidle _ ih => simpa [hidle.isMarked_trim] using ih
  | deleted hidle _ ih => simpa [hidle.isMarked_trim] using ih

theorem Relaid.markedLines_eq {post post' : Text}
    (h : Relaid post.physicalLines post'.physicalLines) : markedLines post = markedLines post' := by
  rw [PostMarkup.markedLines_eq, PostMarkup.markedLines_eq, h.filter_isMarked]

/-! ### Other line ends -/

/-- The post with a carriage return in front of every line break. -/
def Text.crlf (t : Text) : Text := t.flatMap fun c => if c = '\n' then ['\r', '\n'] else [c]

theorem Text.crlf_of_not_mem {line : Text} (h : '\n' ∉ line) : line.crlf = line := by
  induction line with
  | nil => rfl
  | cons c line ih =>
    rw [List.mem_cons, not_or] at h
    rw [crlf, List.flatMap_cons, if_neg (Ne.symm h.1)]
    exact congrArg (c :: ·) (ih h.2)

theorem Text.crlf_cons {line : Text} (h : '\n' ∉ line) (rest : Text) :
    crlf (line ++ '\n' :: rest) = (line ++ ['\r']) ++ '\n' :: rest.crlf := by
  rw [crlf, List.flatMap_append, List.flatMap_cons, if_pos rfl, ← crlf, crlf_of_not_mem h, ← crlf]
  simp

/-- Blank characters at the end of a physical line show nowhere in its line. -/
theorem ofPhysical?_append_blank (offset number : Nat) (raw : Text) {w : Text}
    (hw : ∀ c ∈ w, isBlank c = true) :
    Line.ofPhysical? offset number (raw ++ w) = Line.ofPhysical? offset number raw := by
  have hkind : LineKind.ofText (raw ++ w) = LineKind.ofText raw := by
    rw [← LineKind.ofText_trim, trim_append_blank hw, LineKind.ofText_trim]
  refine Option.ext fun line => ?_
  rw [ofPhysical?_eq_some_iff, ofPhysical?_eq_some_iff, trim_append_blank hw, hkind]
  refine and_congr_right fun ⟨hne, _⟩ => ?_
  rw [takeWhile_isBlank_append hne]

theorem ofPhysical?_below (offset number : Nat) (raw : Text) :
    Line.ofPhysical? (offset + number) (number + 1) raw =
      (Line.ofPhysical? offset (number + 1) raw).map fun line =>
        line.shift 0 (line.number - 1) := by
  rw [← Nat.add_zero (number + 1), ofPhysical?_shift]
  refine Option.map_congr fun line hline => ?_
  obtain ⟨-, -, -, hnumber⟩ := bounds_of_ofPhysical? hline
  rw [hnumber]
  rfl

/-- Where every line break takes one byte more, a line is moved by as many bytes as there are lines
above it. -/
theorem linesFrom_crlf (offset number : Nat) (t : Text) :
    linesFrom (offset + number) number t.crlf.physicalLines =
      (linesFrom offset number t.physicalLines).map fun line =>
        line.shift 0 (line.number - 1) := by
  induction t using lines_induction generalizing offset number with
  | last raw hraw =>
    rw [crlf_of_not_mem hraw, physicalLines_of_not_mem hraw, linesFrom, linesFrom,
      ofPhysical?_below, linesFrom, linesFrom]
    cases Line.ofPhysical? offset (number + 1) raw <;> rfl
  | cons raw rest hraw ih =>
    have hoffset : offset + number + utf8Size (raw ++ ['\r']) + 1 =
        offset + raw.utf8Size + 1 + (number + 1) := by
      have hreturn : Char.utf8Size '\r' = 1 := by decide
      rw [utf8Size_append, utf8Size_cons, utf8Size_nil, hreturn]
      omega
    rw [crlf_cons hraw, physicalLines_cons (by simp [hraw]), physicalLines_cons hraw, linesFrom,
      linesFrom, hoffset, ih, ofPhysical?_append_blank _ _ _ (by decide), ofPhysical?_below,
      List.map_append]
    cases Line.ofPhysical? offset (number + 1) raw <;> rfl

theorem lines_crlf (post : Text) :
    lines post.crlf = (lines post).map fun line => line.shift 0 (line.number - 1) :=
  linesFrom_crlf 0 0 post

theorem document_parse_crlf (post : Text) :
    (parse post.crlf).document = (parse post).document := by
  simp only [parse, lines_crlf, List.filterMap_map]
  rfl

theorem line_of_syntaxError? {line : Line} {e : SyntaxError} (h : line.syntaxError? = some e) :
    e.line = line := by
  rw [Line.syntaxError?] at h
  split at h
  next =>
    cases h
    rfl
  next => cases h

theorem errors_parse_crlf (post : Text) :
    (parse post.crlf).errors =
      (parse post).errors.map fun e => e.shift 0 (e.line.number - 1) := by
  simp only [parse, lines_crlf, List.filterMap_map, List.map_filterMap, Function.comp_def,
    syntaxError?_shift]
  refine List.filterMap_congr fun line _ => Option.map_congr fun e he => ?_
  rw [line_of_syntaxError? he]

/-- What a post says depends only on its lines that start with a mark, and so does what is wrong
with it, beside the places of the errors. Lines may therefore be indented and ended differently, and
lines that are blank, comments or without a mark may come and go. With a carriage return in front of
every line break the errors keep their numbers, and their labels move on by a byte for every line
above. -/
theorem parse_relaid (post : Text) :
    (∀ post', markedLines post = markedLines post' →
        (parse post').document = (parse post).document ∧
          List.Forall₂ Diagnostic.SameBesidePlace
            ((parse post).errors.map SyntaxError.diagnostic)
            ((parse post').errors.map SyntaxError.diagnostic)) ∧
      (∀ post', Relaid post.physicalLines post'.physicalLines →
        (parse post').document = (parse post).document) ∧
      (parse post.crlf).document = (parse post).document ∧
      List.Forall₂
        (fun d moved => ∃ (number : Nat) (complaint : String),
          d.message = s!"Line {number}: " ++ complaint ∧
            moved = { d with
              label := d.label.map fun label =>
                { label with span := label.span.shift (number - 1) } })
        ((parse post).errors.map SyntaxError.diagnostic)
        ((parse post.crlf).errors.map SyntaxError.diagnostic) := by
  have hdocument (post' : Text) (h : markedLines post = markedLines post') :
      (parse post').document = (parse post).document := by
    rw [document_parse_eq_markedLines, ← h, document_parse_eq_markedLines]
  refine ⟨fun post' h => ⟨hdocument post' h, forall₂_sameBesidePlace h⟩,
    fun post' h => hdocument post' h.markedLines_eq, document_parse_crlf post, ?_⟩
  rw [errors_parse_crlf, List.map_map, List.forall₂_map_left_iff, List.forall₂_map_right_iff,
    List.forall₂_same]
  exact fun e _ => ⟨e.line.number, e.complaint, e.message_diagnostic, rfl⟩

/-- A post with lines that do not fit their marks, and one without a mark. -/
def dense : Text :=
  ['\n'].intercalate <| List.map String.toList ["# \"T\"", "+ é", "note", "^ total 5", "> i"]

/-- The same post laid out anew. -/
def loose : Text :=
  ['\n'].intercalate <| List.map String.toList
    ["// head", "\u3000# \"T\"\r", "", "\t+ é ", "^ total 5", "plain", "> i", ""]

theorem relaid_loose : Relaid dense.physicalLines loose.physicalLines := by
  have hdense : dense.physicalLines =
      ["# \"T\"", "+ é", "note", "^ total 5", "> i"].map String.toList := by decide +kernel
  have hloose : loose.physicalLines =
      ["// head", "\u3000# \"T\"\r", "", "\t+ é ", "^ total 5", "plain", "> i", ""].map
        String.toList := by decide +kernel
  rw [hdense, hloose]
  refine .inserted (.inr (.inl rfl)) ?_
  refine .respaced [] "# \"T\"".toList [] ['\u3000'] ['\r'] (by decide) ?_
  refine .inserted (.inl rfl) ?_
  refine .respaced [] "+ é".toList [] ['\t'] [' '] (by decide) ?_
  refine .deleted (.inr (.inr ⟨'n', rfl⟩)) ?_
  refine .respaced [] "^ total 5".toList [] [] [] (by decide) ?_
  refine .inserted (.inr (.inr ⟨'p', rfl⟩)) ?_
  refine .respaced [] "> i".toList [] [] [] (by decide) ?_
  exact .inserted (.inl rfl) .nil

theorem parse_relaid_loose :
    markedLines dense = markedLines loose ∧ Relaid dense.physicalLines loose.physicalLines ∧
      (parse loose).document = (parse dense).document ∧
      (parse dense).errors.length = 2 ∧
      List.Forall₂ Diagnostic.SameBesidePlace
        ((parse dense).errors.map SyntaxError.diagnostic)
        ((parse loose).errors.map SyntaxError.diagnostic) ∧
      (parse dense.crlf).document = (parse dense).document := by
  obtain ⟨hmarked, hrelaid, hcrlf, -⟩ := parse_relaid dense
  have hlines : markedLines dense = markedLines loose := by decide +kernel
  refine ⟨hlines, relaid_loose, hrelaid loose relaid_loose, ?_, (hmarked loose hlines).2, hcrlf⟩
  decide +kernel

end PostMarkup
