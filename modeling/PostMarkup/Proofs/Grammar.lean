import PostMarkup.Directive.Grammar
import PostMarkup.Proofs.Overrides
import PostMarkup.Proofs.Text

/-! The reading of directives against their grammar: each reader accepts exactly the texts that its
part of the grammar describes, and no line can be taken apart in two ways. -/

namespace PostMarkup

open Text

/-! ### Spacing -/

theorem skipSpacing_append {w t : Text} (hw : IsSpacing w) (ht : StartsOff isSpacing t) :
    skipSpacing (w ++ t) = t :=
  dropWhile_append_startsOff hw ht

/-- Every text is its spacing and the text after it. -/
theorem exists_spacing_append (t : Text) :
    ∃ w, IsSpacing w ∧ StartsOff isSpacing t.skipSpacing ∧ t = w ++ t.skipSpacing :=
  ⟨t.takeWhile isSpacing, fun _ => List.mem_takeWhile_imp, startsOff_dropWhile _ _,
    List.takeWhile_append_dropWhile.symm⟩

theorem startsOff_isSpacing_quote (s : Text) : StartsOff isSpacing s.quote := by
  simp [quote, isSpacing]

theorem startsOff_isSpacing_quote_append (s t : Text) : StartsOff isSpacing (s.quote ++ t) := by
  simp [quote, isSpacing]

theorem isNameChar_of_isSpacing {c : Char} (h : isSpacing c = true) : isNameChar c = false := by
  simp only [isSpacing, Bool.or_eq_true, beq_iff_eq] at h
  rcases h with rfl | rfl <;> decide

theorem isUrlChar_of_isSpacing {c : Char} (h : isSpacing c = true) : isUrlChar c = false := by
  simp [isUrlChar, isBlank_of_isSpacing h]

theorem isSpacing_of_isNameChar {c : Char} (h : isNameChar c = true) : isSpacing c = false :=
  Bool.eq_false_iff.2 fun hc => by simp [isNameChar_of_isSpacing hc] at h

theorem isSpacing_of_isUrlChar {c : Char} (h : isUrlChar c = true) : isSpacing c = false :=
  Bool.eq_false_iff.2 fun hc => by simp [isUrlChar_of_isSpacing hc] at h

theorem isSpacing_of_isDigit {c : Char} (h : c.isDigit = true) : isSpacing c = false :=
  isSpacing_of_isNameChar (by simp [isNameChar, Char.isAlphanum, h])

namespace Directive

/-! ### The readers of parts -/

theorem quoted?_quote_append {s : Text} (hs : '"' ∉ s) (rest : Text) :
    quoted? (s.quote ++ rest) = some (s, rest) := by
  have hclass : ∀ c ∈ s, (c != '"') = true := by
    intro c hc
    simpa using fun h : c = '"' => hs (h ▸ hc)
  have hrest : StartsOff (· != '"') ('"' :: rest) := by simp
  rw [quote, List.append_assoc, List.cons_append, quoted?, List.singleton_append,
    dropWhile_append_startsOff hclass hrest, takeWhile_append_startsOff hclass hrest]

theorem quoted?_eq_some_iff {t s rest : Text} :
    quoted? t = some (s, rest) ↔ '"' ∉ s ∧ t = s.quote ++ rest := by
  refine ⟨fun h => ?_, fun ⟨hs, ht⟩ => ht ▸ quoted?_quote_append hs rest⟩
  unfold quoted? at h
  split at h
  next t =>
    split at h
    next c tail hdrop =>
      have hc : StartsOff (· != '"') (t.dropWhile (· != '"')) := startsOff_dropWhile _ _
      rw [hdrop, startsOff_cons] at hc
      cases h
      refine ⟨fun h => by simpa using List.mem_takeWhile_imp h, ?_⟩
      have hsplit := List.takeWhile_append_dropWhile (p := (· != '"')) (l := t)
      rw [hdrop, show c = '"' by simpa using hc] at hsplit
      simp [quote, hsplit]
    next => cases h
  next => cases h

theorem quotedToEnd?_eq_some_iff {t s : Text} :
    quotedToEnd? t = some s ↔ '"' ∉ s ∧ t = s.quote := by
  have h : quoted? t = some (s, []) ↔ '"' ∉ s ∧ t = s.quote ++ [] := quoted?_eq_some_iff
  rw [List.append_nil] at h
  rw [← h, quotedToEnd?]
  split
  next hq => simp [hq]
  next hq => simpa using hq s

theorem quotedToEnd?_skipSpacing_eq_some_iff {t s : Text} :
    quotedToEnd? t.skipSpacing = some s ↔
      ∃ gap, IsSpacing gap ∧ '"' ∉ s ∧ t = gap ++ s.quote := by
  rw [quotedToEnd?_eq_some_iff]
  constructor
  · rintro ⟨hs, ht⟩
    obtain ⟨gap, hgap, -, hsplit⟩ := exists_spacing_append t
    exact ⟨gap, hgap, hs, ht ▸ hsplit⟩
  · rintro ⟨gap, hgap, hs, rfl⟩
    exact ⟨hs, skipSpacing_append hgap (startsOff_isSpacing_quote s)⟩

theorem spacing?_eq_some_iff {t rest : Text} :
    spacing? t = some rest ↔
      ∃ gap, IsSpacing gap ∧ gap ≠ [] ∧ StartsOff isSpacing rest ∧ t = gap ++ rest := by
  constructor
  · intro h
    unfold spacing? at h
    split at h
    next c t =>
      split at h
      next hc =>
        cases h
        obtain ⟨gap, hgap, hrest, hsplit⟩ := exists_spacing_append t
        exact ⟨c :: gap, by simpa [IsSpacing, hc] using hgap, by simp, hrest,
          congrArg (c :: ·) hsplit⟩
      next => cases h
    next => cases h
  · rintro ⟨gap, hgap, hne, hrest, rfl⟩
    obtain ⟨c, gap, rfl⟩ := List.exists_cons_of_ne_nil hne
    have hc : isSpacing c = true := hgap c List.mem_cons_self
    rw [List.cons_append, spacing?, if_pos hc,
      skipSpacing_append (fun d hd => hgap d (List.mem_cons_of_mem _ hd)) hrest]

theorem bar?_eq_some_iff {t rest : Text} :
    bar? t = some rest ↔
      ∃ before after, IsSpacing before ∧ IsSpacing after ∧ StartsOff isSpacing rest ∧
        t = before ++ '|' :: (after ++ rest) := by
  constructor
  · intro h
    obtain ⟨before, hbefore, -, hsplit⟩ := exists_spacing_append t
    unfold bar? at h
    split at h
    next tail ht =>
      cases h
      obtain ⟨after, hafter, hrest, htail⟩ := exists_spacing_append tail
      exact ⟨before, after, hbefore, hafter, hrest, by rw [hsplit, ht, ← htail]⟩
    next => cases h
  · rintro ⟨before, after, hbefore, hafter, hrest, rfl⟩
    have hbar : StartsOff isSpacing ('|' :: (after ++ rest)) := by simp [isSpacing]
    rw [bar?, skipSpacing_append hbefore hbar]
    simp only
    rw [skipSpacing_append hafter hrest]

/-! ### The readers of what follows a mark -/

theorem proper_limit_iff {gap name gap' digits : Text} :
    (Layout.limit gap name gap' digits).Proper ↔ Layout.LimitForm gap name gap' digits ∧
      0 < Nat.ofDigitChars 10 digits 0 ∧ Nat.ofDigitChars 10 digits 0 < numberBound := by
  constructor
  · intro h
    cases h with
    | limit hgap hne hname hname' hgap' hne' hall hdigits hpos hbound =>
      exact ⟨⟨hgap, hne, hname, hname', hgap', hne', hall, hdigits⟩, hpos, hbound⟩
  · rintro ⟨h, hpos, hbound⟩
    exact .limit h.isSpacing_gap h.gap_ne_nil h.isNameChar_of_mem h.name_ne_nil h.isSpacing_gap'
      h.gap'_ne_nil h.isDigit_of_mem h.digits_ne_nil hpos hbound

/-- A limit whose parts are in their places is refused for its number alone. -/
theorem limit?_body {gap name gap' digits : Text} (h : Layout.LimitForm gap name gap' digits) :
    limit? (Layout.limit gap name gap' digits).body =
      if 0 < Nat.ofDigitChars 10 digits 0 ∧ Nat.ofDigitChars 10 digits 0 < numberBound then
        some (.limit name (Nat.ofDigitChars 10 digits 0))
      else none := by
  have hname : StartsOff isNameChar (gap' ++ digits) :=
    startsOff_append h.gap'_ne_nil h.isSpacing_gap' (fun _ => isNameChar_of_isSpacing) _
  have hfirst : spacing? (gap ++ (name ++ (gap' ++ digits))) =
      some (name ++ (gap' ++ digits)) :=
    spacing?_eq_some_iff.2 ⟨gap, h.isSpacing_gap, h.gap_ne_nil,
      startsOff_append h.name_ne_nil h.isNameChar_of_mem (fun _ => isSpacing_of_isNameChar) _, rfl⟩
  have hsecond : spacing? (gap' ++ digits) = some digits := by
    refine spacing?_eq_some_iff.2 ⟨gap', h.isSpacing_gap', h.gap'_ne_nil, ?_, rfl⟩
    simpa using
      startsOff_append h.digits_ne_nil h.isDigit_of_mem (fun _ => isSpacing_of_isDigit) []
  have hall : digits.all Char.isDigit = true := List.all_eq_true.2 h.isDigit_of_mem
  simp only [limit?, Layout.body, hfirst, Option.bind_eq_bind, Option.bind_some,
    takeWhile_append_startsOff h.isNameChar_of_mem hname,
    dropWhile_append_startsOff h.isNameChar_of_mem hname, hsecond, ne_eq, h.name_ne_nil,
    h.digits_ne_nil, hall, not_false_eq_true, true_and]

theorem limit?_eq_some_iff {t : Text} {d : Directive} :
    limit? t = some d ↔ ∃ gap name gap' digits,
      Layout.Proper (.limit gap name gap' digits) ∧
        (Layout.limit gap name gap' digits).body = t ∧
        d = .limit name (Nat.ofDigitChars 10 digits 0) := by
  constructor
  · intro h
    simp only [limit?, Option.bind_eq_bind, Option.bind_eq_some_iff] at h
    obtain ⟨t', hgap, digits, hgap', h⟩ := h
    split at h
    next hvalue =>
      obtain ⟨hname, hdigits, hall, hpos, hbound⟩ := hvalue
      obtain ⟨gap, hs, hne, -, rfl⟩ := spacing?_eq_some_iff.1 hgap
      obtain ⟨gap', hs', hne', -, hsplit⟩ := spacing?_eq_some_iff.1 hgap'
      refine ⟨gap, t'.takeWhile isNameChar, gap', digits, ?_, ?_, by simpa using h.symm⟩
      · exact .limit hs hne (fun _ => List.mem_takeWhile_imp) hname hs' hne'
          (List.all_eq_true.1 hall) hdigits hpos hbound
      · rw [Layout.body, ← hsplit, List.takeWhile_append_dropWhile]
    next => cases h
  · rintro ⟨gap, name, gap', digits, hproper, rfl, rfl⟩
    obtain ⟨hform, hnumber⟩ := proper_limit_iff.1 hproper
    rw [limit?_body hform, if_pos hnumber]

theorem evidence?_eq_some_iff {t : Text} {d : Directive} :
    evidence? t = some d ↔ ∃ value gap context,
      Layout.Proper (.evidence value gap context) ∧ (Layout.evidence value gap context).body = t ∧
        d = .evidence ⟨value.trim, context⟩ := by
  have hbarClass : StartsOff (· != '|') (t.dropWhile (· != '|')) := startsOff_dropWhile _ _
  constructor
  · intro h
    simp only [evidence?, Option.bind_eq_bind, Option.bind_eq_some_iff] at h
    obtain ⟨rest, hbar, context, hquoted, h⟩ := h
    obtain ⟨hcontext, rfl⟩ := quotedToEnd?_eq_some_iff.1 hquoted
    obtain ⟨before, gap, hbefore, hgap, -, hsplit⟩ := bar?_eq_some_iff.1 hbar
    split at h
    next hvalue =>
      -- The value ends at the first bar, so no spacing is left in front of it.
      cases before with
      | nil =>
        refine ⟨t.takeWhile (· != '|'), gap, context, ?_, ?_, by simpa using h.symm⟩
        · refine .evidence (fun hmem => ?_) hvalue hgap hcontext
          simpa using List.mem_takeWhile_imp hmem
        · rw [Layout.body, ← List.nil_append ('|' :: _), ← hsplit,
            List.takeWhile_append_dropWhile]
      | cons c before =>
        have hc : isSpacing c = true := hbefore c List.mem_cons_self
        rw [hsplit, List.cons_append, startsOff_cons] at hbarClass
        rw [show c = '|' by simpa using hbarClass] at hc
        exact absurd hc (by decide)
    next => cases h
  · rintro ⟨value, gap, context, hproper, rfl, rfl⟩
    cases hproper with
    | evidence hvalue htrim hgap hcontext =>
      have hclass : ∀ c ∈ value, (c != '|') = true := by
        intro c hc
        simpa using fun h : c = '|' => hvalue (h ▸ hc)
      have hrest : StartsOff (· != '|') ('|' :: (gap ++ context.quote)) := by simp
      have hbar : bar? ('|' :: (gap ++ context.quote)) = some context.quote :=
        bar?_eq_some_iff.2
          ⟨[], gap, by simp [IsSpacing], hgap, startsOff_isSpacing_quote context, rfl⟩
      simp only [evidence?, Layout.body, takeWhile_append_startsOff hclass hrest,
        dropWhile_append_startsOff hclass hrest, hbar, Option.bind_eq_bind, Option.bind_some,
        quotedToEnd?_eq_some_iff.2 ⟨hcontext, rfl⟩]
      exact if_pos htrim

theorem credibility?_eq_some_iff {t : Text} {reason : Option Text} :
    credibility? t = some reason ↔ ∃ parts : Option Reason,
      (∀ r ∈ parts, r.Proper) ∧ (parts.map Reason.body).getD [] = t ∧
        reason = parts.map Reason.text := by
  constructor
  · intro h
    unfold credibility? at h
    split at h
    next => exact ⟨none, by simp, rfl, by simpa using h.symm⟩
    next =>
      simp only [Option.bind_eq_bind, Option.bind_eq_some_iff] at h
      obtain ⟨rest, hbar, text, hquoted, h⟩ := h
      obtain ⟨htext, rfl⟩ := quotedToEnd?_eq_some_iff.1 hquoted
      obtain ⟨before, after, hbefore, hafter, -, hsplit⟩ := bar?_eq_some_iff.1 hbar
      refine ⟨some ⟨before, after, text⟩, ?_, hsplit.symm, by simpa using h.symm⟩
      rintro r ⟨⟩
      exact ⟨hbefore, hafter, htext⟩
  · rintro ⟨parts, hproper, rfl, rfl⟩
    cases parts with
    | none => rfl
    | some r =>
      have hr := hproper r rfl
      have hbar : bar? r.body = some r.text.quote :=
        bar?_eq_some_iff.2
          ⟨r.before, r.after, hr.before, hr.after, startsOff_isSpacing_quote r.text, rfl⟩
      simp only [Option.map_some, Option.getD_some]
      rw [credibility?]
      · simp [hbar, quotedToEnd?_eq_some_iff.2 ⟨hr.text, rfl⟩]
      · simp [Reason.body]

theorem startsOff_isUrlChar_reason {parts : Option Reason} (h : ∀ r ∈ parts, r.Proper) :
    StartsOff isUrlChar ((parts.map Reason.body).getD []) := by
  cases parts with
  | none => simp
  | some r =>
    rcases hbefore : r.before with _ | ⟨c, before⟩
    · simp [Reason.body, hbefore, isUrlChar]
    · have hc : isSpacing c = true := (h r rfl).before c (by simp [hbefore])
      simpa [Reason.body, hbefore] using isUrlChar_of_isSpacing hc

theorem source?_eq_some_iff {t : Text} {d : Directive} :
    source? t = some d ↔ ∃ gap title before after url reason,
      Layout.Proper (.source gap title before after url reason) ∧
        (Layout.source gap title before after url reason).body = t ∧
        d = .source ⟨title, url, reason.map Reason.text⟩ := by
  constructor
  · intro h
    simp only [source?, Option.bind_eq_bind, Option.bind_eq_some_iff] at h
    obtain ⟨⟨title, rest⟩, hquoted, rest', hbar, credibility, hreason, h⟩ := h
    obtain ⟨gap, hgap, -, hgapSplit⟩ := exists_spacing_append t
    obtain ⟨htitle, hquotedSplit⟩ := quoted?_eq_some_iff.1 hquoted
    obtain ⟨before, after, hbefore, hafter, -, hbarSplit⟩ := bar?_eq_some_iff.1 hbar
    obtain ⟨reason, hproper, hreasonSplit, rfl⟩ := credibility?_eq_some_iff.1 hreason
    split at h
    next hurl =>
      refine ⟨gap, title, before, after, rest'.takeWhile isUrlChar, reason, ?_, ?_,
        by simpa using h.symm⟩
      · exact .source hgap htitle hbefore hafter (fun _ => List.mem_takeWhile_imp) hurl hproper
      · rw [Layout.body, hreasonSplit, List.takeWhile_append_dropWhile, ← hbarSplit,
          ← hquotedSplit, ← hgapSplit]
    next => cases h
  · rintro ⟨gap, title, before, after, url, reason, hproper, rfl, rfl⟩
    cases hproper with
    | source hgap htitle hbefore hafter hurl hne hreason =>
      have hrest := startsOff_isUrlChar_reason hreason
      have hbar : bar? (before ++ '|' :: (after ++ (url ++ (reason.map Reason.body).getD []))) =
          some (url ++ (reason.map Reason.body).getD []) :=
        bar?_eq_some_iff.2 ⟨before, after, hbefore, hafter,
          startsOff_append hne hurl (fun _ => isSpacing_of_isUrlChar) _, rfl⟩
      simp only [source?, Layout.body,
        skipSpacing_append hgap (startsOff_isSpacing_quote_append _ _),
        quoted?_quote_append htitle, hbar, Option.bind_eq_bind, Option.bind_some,
        takeWhile_append_startsOff hurl hrest, dropWhile_append_startsOff hurl hrest,
        credibility?_eq_some_iff.2 ⟨reason, hreason, rfl, rfl⟩]
      exact if_pos hne

/-! ### Whole lines -/

theorem ofBody?_quoting_eq_some_iff {mark : Mark} {make : Text → Directive}
    (hmark : mark.quoting? = some make) {t : Text} {d : Directive} :
    ofBody? mark t = some d ↔ ∃ gap text,
      Layout.Proper (.quoting mark gap text) ∧ (Layout.quoting mark gap text).body = t ∧
        d = make text := by
  have hbody : ofBody? mark t = (quotedToEnd? t.skipSpacing).map make := by
    cases mark <;> cases hmark <;> (simp only [ofBody?]; cases quotedToEnd? t.skipSpacing <;> rfl)
  rw [hbody, Option.map_eq_some_iff]
  constructor
  · rintro ⟨text, hquoted, rfl⟩
    obtain ⟨gap, hgap, htext, rfl⟩ := quotedToEnd?_skipSpacing_eq_some_iff.1 hquoted
    exact ⟨gap, text, .quoting (by simp [hmark]) hgap htext, rfl, rfl⟩
  · rintro ⟨gap, text, hproper, rfl, rfl⟩
    cases hproper with
    | quoting _ hgap htext =>
      exact ⟨text, quotedToEnd?_skipSpacing_eq_some_iff.2 ⟨gap, hgap, htext, rfl⟩, rfl⟩

/-- What follows a mark is read as a directive exactly if it can be taken apart as the mark
demands. -/
theorem ofBody?_eq_some_iff {mark : Mark} {t : Text} {d : Directive} :
    ofBody? mark t = some d ↔ ∃ layout : Layout,
      layout.Proper ∧ layout.mark = mark ∧ layout.body = t ∧ layout.directive? = some d := by
  constructor
  · intro h
    cases hmark : mark.quoting? with
    | some make =>
      obtain ⟨gap, text, hproper, hbody, rfl⟩ := (ofBody?_quoting_eq_some_iff hmark).1 h
      exact ⟨.quoting mark gap text, hproper, rfl, hbody, by simp [Layout.directive?, hmark]⟩
    | none =>
      cases mark <;> cases hmark
      case limit.refl =>
        obtain ⟨gap, name, gap', digits, hproper, hbody, rfl⟩ := limit?_eq_some_iff.1 h
        exact ⟨_, hproper, rfl, hbody, rfl⟩
      case evidence.refl =>
        obtain ⟨value, gap, context, hproper, hbody, rfl⟩ := evidence?_eq_some_iff.1 h
        exact ⟨_, hproper, rfl, hbody, rfl⟩
      case source.refl =>
        obtain ⟨gap, title, before, after, url, reason, hproper, hbody, rfl⟩ :=
          source?_eq_some_iff.1 h
        exact ⟨_, hproper, rfl, hbody, rfl⟩
  · rintro ⟨layout, hproper, rfl, hbody, hdirective⟩
    cases layout with
    | quoting mark gap text =>
      obtain ⟨make, hmark, rfl⟩ := Option.map_eq_some_iff.1 hdirective
      exact (ofBody?_quoting_eq_some_iff hmark).2 ⟨gap, text, hproper, hbody, rfl⟩
    | limit gap name gap' digits =>
      exact limit?_eq_some_iff.2 ⟨_, _, _, _, hproper, hbody, (Option.some.inj hdirective).symm⟩
    | evidence value gap context =>
      exact evidence?_eq_some_iff.2 ⟨_, _, _, hproper, hbody, (Option.some.inj hdirective).symm⟩
    | source gap title before after url reason =>
      exact source?_eq_some_iff.2
        ⟨_, _, _, _, _, _, hproper, hbody, (Option.some.inj hdirective).symm⟩

/-- A line is read as a directive exactly if the directive is what its parts say. -/
theorem ofText?_eq_some_iff {line : Text} {d : Directive} :
    ofText? line = some d ↔ ∃ layout : Layout,
      layout.Proper ∧ layout.line = line ∧ layout.directive? = some d := by
  cases line with
  | nil => simp [ofText?, Layout.line]
  | cons c t =>
    simp only [ofText?, Option.bind_eq_some_iff, ofBody?_eq_some_iff, Mark.ofChar?_eq_some_iff]
    constructor
    · rintro ⟨mark, rfl, layout, hproper, rfl, rfl, hdirective⟩
      exact ⟨layout, hproper, rfl, hdirective⟩
    · rintro ⟨layout, hproper, hline, hdirective⟩
      obtain ⟨rfl, rfl⟩ := List.cons.inj hline
      exact ⟨layout.mark, rfl, layout, hproper, rfl, rfl, hdirective⟩

end Directive

namespace Layout

theorem Proper.exists_directive {layout : Layout} (h : layout.Proper) :
    ∃ d, layout.directive? = some d := by
  cases h with
  | quoting hmark _ _ =>
    obtain ⟨make, hmake⟩ := Option.isSome_iff_exists.1 hmark
    exact ⟨_, by rw [directive?, hmake, Option.map_some]⟩
  | limit | evidence | source => exact ⟨_, rfl⟩

/-! ### Taking a line apart -/

theorem quote_append_inj {s s' t t' : Text} (hs : '"' ∉ s) (hs' : '"' ∉ s')
    (h : s.quote ++ t = s'.quote ++ t') : s = s' ∧ t = t' := by
  have hread := Directive.quoted?_quote_append hs t
  rw [h, Directive.quoted?_quote_append hs' t'] at hread
  simp_all

theorem quote_inj {s s' : Text} (hs : '"' ∉ s) (hs' : '"' ∉ s') (h : s.quote = s'.quote) :
    s = s' :=
  (quote_append_inj hs hs' (congrArg (· ++ []) h)).1

theorem spacing_append_inj {w w' t t' : Text} (hw : IsSpacing w) (ht : StartsOff isSpacing t)
    (hw' : IsSpacing w') (ht' : StartsOff isSpacing t') (h : w ++ t = w' ++ t') :
    w = w' ∧ t = t' :=
  append_startsOff_inj hw ht hw' ht' h

theorem spacing_quote_inj {w w' s s' : Text} (hw : IsSpacing w) (hw' : IsSpacing w')
    (hs : '"' ∉ s) (hs' : '"' ∉ s') (h : w ++ s.quote = w' ++ s'.quote) : w = w' ∧ s = s' := by
  obtain ⟨rfl, hquote⟩ := spacing_append_inj hw (startsOff_isSpacing_quote s) hw'
    (startsOff_isSpacing_quote s') h
  exact ⟨rfl, quote_inj hs hs' hquote⟩

theorem bar_append_inj {w w' v v' t t' : Text} (hw : IsSpacing w) (hw' : IsSpacing w')
    (hv : IsSpacing v) (hv' : IsSpacing v') (ht : StartsOff isSpacing t)
    (ht' : StartsOff isSpacing t') (h : w ++ '|' :: (v ++ t) = w' ++ '|' :: (v' ++ t')) :
    w = w' ∧ v = v' ∧ t = t' := by
  have hbar (s : Text) : StartsOff isSpacing ('|' :: s) := by simp [isSpacing]
  obtain ⟨rfl, hrest⟩ := spacing_append_inj hw (hbar _) hw' (hbar _) h
  obtain ⟨rfl, rfl⟩ := spacing_append_inj hv ht hv' ht' (List.cons.inj hrest).2
  exact ⟨rfl, rfl, rfl⟩

theorem reason_body_inj {reason reason' : Option Reason} (h : ∀ r ∈ reason, r.Proper)
    (h' : ∀ r ∈ reason', r.Proper)
    (heq : (reason.map Reason.body).getD [] = (reason'.map Reason.body).getD []) :
    reason = reason' := by
  cases reason with
  | none => cases reason' <;> simp_all [Reason.body]
  | some r =>
    cases reason' with
    | none => simp [Reason.body] at heq
    | some r' =>
      have hr := h r rfl
      have hr' := h' r' rfl
      obtain ⟨hb, ha, hq⟩ := bar_append_inj hr.before hr'.before hr.after hr'.after
        (startsOff_isSpacing_quote _) (startsOff_isSpacing_quote _) heq
      have ht := quote_inj hr.text hr'.text hq
      cases r
      cases r'
      simp_all

theorem limit_body_inj {gap name gap' digits g n g' d : Text}
    (h : Proper (limit gap name gap' digits)) (h' : Proper (limit g n g' d))
    (heq : (limit gap name gap' digits).body = (limit g n g' d).body) :
    limit gap name gap' digits = limit g n g' d := by
  obtain _ | ⟨hgap, -, hname, hname', hgap', hne', hall, hdigits, -, -⟩ := h
  obtain _ | ⟨hg, -, hn, hn', hg', hg'', hall', hd, -, -⟩ := h'
  obtain ⟨rfl, hrest⟩ := spacing_append_inj hgap
    (startsOff_append hname' hname (fun _ => isSpacing_of_isNameChar) _) hg
    (startsOff_append hn' hn (fun _ => isSpacing_of_isNameChar) _) heq
  obtain ⟨rfl, hrest'⟩ := append_startsOff_inj hname
    (startsOff_append hne' hgap' (fun _ => isNameChar_of_isSpacing) _) hn
    (startsOff_append hg'' hg' (fun _ => isNameChar_of_isSpacing) _) hrest
  have hoff {s : Text} (hne : s ≠ []) (hs : ∀ c ∈ s, c.isDigit = true) : StartsOff isSpacing s := by
    simpa using startsOff_append hne hs (fun _ => isSpacing_of_isDigit) []
  obtain ⟨rfl, rfl⟩ := spacing_append_inj hgap' (hoff hdigits hall) hg' (hoff hd hall') hrest'
  rfl

theorem evidence_body_inj {value gap context v g c : Text} (h : Proper (evidence value gap context))
    (h' : Proper (evidence v g c))
    (heq : (evidence value gap context).body = (evidence v g c).body) :
    evidence value gap context = evidence v g c := by
  obtain _ | _ | ⟨hvalue, -, hgap, hcontext⟩ := h
  obtain _ | _ | ⟨hv, -, hg, hc⟩ := h'
  have hclass {s : Text} (hs : '|' ∉ s) : ∀ c ∈ s, (c != '|') = true := by
    intro c hc
    simpa using fun h : c = '|' => hs (h ▸ hc)
  have hbar (s : Text) : StartsOff (· != '|') ('|' :: s) := by simp
  obtain ⟨rfl, hrest⟩ := append_startsOff_inj (hclass hvalue) (hbar _) (hclass hv) (hbar _) heq
  obtain ⟨rfl, rfl⟩ := spacing_quote_inj hgap hg hcontext hc (List.cons.inj hrest).2
  rfl

theorem source_body_inj {gap title before after url g t b a u : Text} {reason r : Option Reason}
    (h : Proper (source gap title before after url reason)) (h' : Proper (source g t b a u r))
    (heq : (source gap title before after url reason).body = (source g t b a u r).body) :
    source gap title before after url reason = source g t b a u r := by
  obtain _ | _ | _ | ⟨hgap, htitle, hbefore, hafter, hurl, hne, hreason⟩ := h
  obtain _ | _ | _ | ⟨hg, ht, hb, ha, hu, hne', hr⟩ := h'
  obtain ⟨rfl, hrest⟩ := spacing_append_inj hgap (startsOff_isSpacing_quote_append _ _) hg
    (startsOff_isSpacing_quote_append _ _) heq
  obtain ⟨rfl, hrest'⟩ := quote_append_inj htitle ht hrest
  obtain ⟨rfl, rfl, hrest''⟩ := bar_append_inj hbefore hb hafter ha
    (startsOff_append hne hurl (fun _ => isSpacing_of_isUrlChar) _)
    (startsOff_append hne' hu (fun _ => isSpacing_of_isUrlChar) _) hrest'
  obtain ⟨rfl, hlast⟩ := append_startsOff_inj hurl (Directive.startsOff_isUrlChar_reason hreason) hu
    (Directive.startsOff_isUrlChar_reason hr) hrest''
  rw [reason_body_inj hreason hr hlast]

/-- A line can be taken apart in one way only. -/
theorem line_injective {layout layout' : Layout} (h : layout.Proper) (h' : layout'.Proper)
    (heq : layout.line = layout'.line) : layout = layout' := by
  obtain ⟨hchar, hbody⟩ := List.cons.inj heq
  have hmark : layout.mark = layout'.mark := Mark.char_injective hchar
  cases layout <;> cases layout'
  case quoting.quoting =>
    obtain ⟨-, hgap, htext⟩ := h
    obtain ⟨-, hgap', htext'⟩ := h'
    obtain ⟨rfl, rfl⟩ := spacing_quote_inj hgap hgap' htext htext' hbody
    cases hmark
    rfl
  case limit.limit => exact limit_body_inj h h' hbody
  case evidence.evidence => exact evidence_body_inj h h' hbody
  case source.source => exact source_body_inj h h' hbody
  case quoting.limit | quoting.evidence | quoting.source =>
    obtain ⟨hquoting, -, -⟩ := h
    cases hmark
    cases hquoting
  case limit.quoting | evidence.quoting | source.quoting =>
    obtain ⟨hquoting, -, -⟩ := h'
    cases hmark
    cases hquoting
  all_goals cases hmark

end Layout

/-! ### What a line is -/

namespace Text

theorem isDirective_iff {t : Text} : t.IsDirective ↔ (Directive.ofText? t).isSome = true := by
  rw [Option.isSome_iff_exists]
  constructor
  · rintro ⟨layout, hproper, hline⟩
    obtain ⟨d, hd⟩ := hproper.exists_directive
    exact ⟨d, Directive.ofText?_eq_some_iff.2 ⟨layout, hproper, hline, hd⟩⟩
  · rintro ⟨d, hd⟩
    obtain ⟨layout, hproper, hline, -⟩ := Directive.ofText?_eq_some_iff.1 hd
    exact ⟨layout, hproper, hline⟩

instance (t : Text) : Decidable t.IsDirective := decidable_of_iff _ isDirective_iff.symm

theorem not_isDirective_iff {t : Text} : ¬t.IsDirective ↔ Directive.ofText? t = none := by
  rw [isDirective_iff, Option.not_isSome_iff_eq_none]

theorem setsLimit_iff {t name : Text} {value : Nat} :
    t.SetsLimit name value ↔ Directive.ofText? t = some (.limit name value) := by
  rw [Directive.ofText?_eq_some_iff]
  constructor
  · rintro ⟨gap, gap', digits, hproper, hline, rfl⟩
    exact ⟨_, hproper, hline, rfl⟩
  · rintro ⟨layout, hproper, hline, hdirective⟩
    cases hproper with
    | @quoting mark =>
      obtain ⟨make, hmake, hd⟩ := Option.map_eq_some_iff.1 hdirective
      cases mark <;> cases hmake <;> cases hd
    | limit hgap hne hname hname' hgap' hne' hall hdigits hpos hbound =>
      cases hdirective
      exact ⟨_, _, _, .limit hgap hne hname hname' hgap' hne' hall hdigits hpos hbound, hline, rfl⟩
    | evidence | source => cases hdirective

instance (t name : Text) (value : Nat) : Decidable (t.SetsLimit name value) :=
  decidable_of_iff _ setsLimit_iff.symm

/-- Of a line whose parts are in their places, the number alone decides whether it sets a limit. -/
theorem setsLimit_line_iff {gap name gap' digits other : Text} {value : Nat}
    (h : Layout.LimitForm gap name gap' digits) :
    (Layout.limit gap name gap' digits).line.SetsLimit other value ↔
      other = name ∧ value = Nat.ofDigitChars 10 digits 0 ∧ 0 < value ∧ value < numberBound := by
  have hread : Directive.ofText? (Layout.limit gap name gap' digits).line =
      Directive.limit? (Layout.limit gap name gap' digits).body := by
    rw [Layout.line, Directive.ofText?, Mark.ofChar?_char]
    rfl
  rw [setsLimit_iff, hread, Directive.limit?_body h, Option.ite_none_right_eq_some,
    Option.some.injEq, Directive.limit.injEq]
  constructor
  · rintro ⟨hnumber, rfl, rfl⟩
    exact ⟨rfl, rfl, hnumber⟩
  · rintro ⟨rfl, rfl, hnumber⟩
    exact ⟨hnumber, rfl, rfl⟩

end Text

/-! ### What a line writes -/

namespace Layout

/-- A directive makes of a post what the line that it is read from says. -/
theorem writes_apply {layout : Layout} {d : Directive} (h : layout.directive? = some d)
    (post : Document) : layout.Writes post (post.apply d) := by
  cases layout with
  | quoting mark gap text =>
    obtain ⟨make, hmake, rfl⟩ := Option.map_eq_some_iff.1 h
    cases mark <;> cases hmake
    · exact .title
    · exact .claim
    · exact .insight
    · exact .context
    · exact .credential
  | limit gap word gap' digits =>
    cases h
    cases hword : LimitName.ofText? word with
    | none =>
      have hunknown (name : LimitName) : word ≠ name.word.toList := by
        rintro rfl
        simp at hword
      simp only [Document.apply, hword]
      exact .unknownLimit hunknown
    | some name =>
      simp only [Document.apply, hword]
      exact .limit (LimitName.ofText?_eq_some_iff.1 hword) (Overrides.sets_record _ _ _)
  | evidence =>
    cases h
    exact .evidence
  | source =>
    cases h
    exact .source

end Layout

/-- A line changes a post exactly if it can be taken apart as the grammar demands. It can be taken
apart in one way only, and what is written, to which field, is what the parts say; all other fields
stay as they are. Any other line leaves the post as it is, and so does one of the grammar that is
about a limit of unknown name. -/
theorem applyText_iff_layout (post : Document) (line : Text) :
    ((post.applyText line).2 = true ↔ ∃ layout : Layout, layout.Proper ∧ layout.line = line) ∧
    (∀ layout : Layout, layout.Proper → layout.line = line →
      layout.Writes post (post.applyText line).1 ∧
      (∀ other : Layout, other.Proper → other.line = line → other = layout)) ∧
    (∀ gap name gap' digits, (Layout.limit gap name gap' digits).Proper →
      (Layout.limit gap name gap' digits).line = line → LimitName.ofText? name = none →
      (post.applyText line).1 = post) ∧
    ((post.applyText line).2 = false → (post.applyText line).1 = post) := by
  have happlied {layout : Layout} (h : layout.Proper) (hline : layout.line = line) :
      ∃ d, layout.directive? = some d ∧ post.applyText line = (post.apply d, true) := by
    obtain ⟨d, hd⟩ := h.exists_directive
    have hread : Directive.ofText? line = some d :=
      Directive.ofText?_eq_some_iff.2 ⟨layout, h, hline, hd⟩
    exact ⟨d, hd, by rw [Document.applyText, hread]⟩
  refine ⟨⟨fun h => ?_, ?_⟩, ?_, ?_, fun h => ?_⟩
  · cases hread : Directive.ofText? line with
    | none => simp [Document.applyText, hread] at h
    | some d =>
      obtain ⟨layout, hproper, hline, -⟩ := Directive.ofText?_eq_some_iff.1 hread
      exact ⟨layout, hproper, hline⟩
  · rintro ⟨layout, hproper, hline⟩
    obtain ⟨d, -, h⟩ := happlied hproper hline
    rw [h]
  · intro layout hproper hline
    refine ⟨?_, fun other hother hline' =>
      Layout.line_injective hother hproper (hline'.trans hline.symm)⟩
    obtain ⟨d, hd, h⟩ := happlied hproper hline
    rw [h]
    exact Layout.writes_apply hd post
  · intro gap name gap' digits hproper hline hname
    obtain ⟨d, hd, h⟩ := happlied hproper hline
    cases hd
    simp [h, Document.apply, hname]
  · cases hread : Directive.ofText? line with
    | none => rw [Document.applyText, hread]
    | some d => simp [Document.applyText, hread] at h

/-- A post that is written in part, with a limit of its own. -/
def begun : Document where
  title := some "T".toList
  evidence := [⟨['1'], ['x']⟩]
  overrides := [(.title, 9), (.total, 300)]

/-- The parts of a line that sets the limit on titles anew. -/
def limitParts : Layout := .limit ['\t'] "title".toList [' '] "007".toList

/-- The parts of a line with an item of evidence. -/
def evidenceParts : Layout := .evidence " 3 × ".toList [] "y|".toList

/-- The parts of a line with a source and a reason to trust it. -/
def sourceParts : Layout := .source [] [] [' '] [] "a.b".toList (some ⟨[], ['\t'], ['r']⟩)

theorem applyText_iff_layout_begun :
    let limited := begun.applyText "^\ttitle 007".toList
    let extended := begun.applyText "+ 3 × |\"y|\"".toList
    let sourced := begun.applyText "@\"\" |a.b|\t\"r\"".toList
    limitParts.Proper ∧ evidenceParts.Proper ∧ sourceParts.Proper ∧ limited.2 = true ∧
      begun.overrides.Sets .title 7 limited.1.overrides ∧
      limited.1 = { begun with overrides := limited.1.overrides } ∧
      extended.1 = { begun with evidence := [⟨['1'], ['x']⟩, ⟨"3 ×".toList, "y|".toList⟩] } ∧
      sourced.1 = { begun with source := some ⟨[], "a.b".toList, some ['r']⟩ } ∧
      (begun.applyText "^ words 5".toList).1 = begun ∧
      (begun.applyText "# \"a\"b\"".toList).1 = begun := by
  intro limited extended sourced
  have hlimit : limitParts.Proper := .limit (by decide) (by decide) (by decide) (by decide)
    (by decide) (by decide) (by decide) (by decide) (by decide) (by decide)
  have hevidence : evidenceParts.Proper := .evidence (by decide) (by decide) (by decide) (by decide)
  have hsource : sourceParts.Proper := by
    refine .source (by decide) (by decide) (by decide) (by decide) (by decide) (by decide) ?_
    rintro _ ⟨⟩
    exact ⟨by decide, by decide, by decide⟩
  obtain ⟨hread, hlimited, -, -⟩ := applyText_iff_layout begun "^\ttitle 007".toList
  obtain ⟨-, hextended, -, -⟩ := applyText_iff_layout begun "+ 3 × |\"y|\"".toList
  obtain ⟨-, hsourced, -, -⟩ := applyText_iff_layout begun "@\"\" |a.b|\t\"r\"".toList
  obtain ⟨-, -, hunknown, -⟩ := applyText_iff_layout begun "^ words 5".toList
  obtain ⟨-, -, -, hrefused⟩ := applyText_iff_layout begun "# \"a\"b\"".toList
  have hwords : (Layout.limit [' '] "words".toList [' '] ['5']).Proper := .limit (by decide)
    (by decide) (by decide) (by decide) (by decide) (by decide) (by decide) (by decide) (by decide)
    (by decide)
  have hset : begun.overrides.Sets .title 7 limited.1.overrides ∧
      limited.1 = { begun with overrides := limited.1.overrides } := by
    have hwrites := (hlimited limitParts hlimit rfl).1
    generalize limited.1 = after at hwrites
    cases hwrites with
    | limit hname hsets =>
      obtain rfl := LimitName.toList_word_injective (a := .title) hname
      exact ⟨hsets, rfl⟩
    | unknownLimit hnone => exact absurd rfl (hnone .title)
  refine ⟨hlimit, hevidence, hsource, hread.2 ⟨limitParts, hlimit, rfl⟩, hset.1, hset.2, ?_, ?_,
    hunknown _ _ _ _ hwords rfl (by decide), hrefused (by decide)⟩
  · have hwrites := (hextended evidenceParts hevidence rfl).1
    generalize extended.1 = after at hwrites
    cases hwrites
    rfl
  · have hwrites := (hsourced sourceParts hsource rfl).1
    generalize sourced.1 = after at hwrites
    cases hwrites
    rfl

end PostMarkup
