import PostMarkup.Proofs.Errors

/-! What is recorded and what is reported of the lines of a post. Each line is accounted for once:
it is applied, dropped or skipped, as a record says, or it is refused, as an error says. -/

namespace PostMarkup

open Text

/-! ### One line -/

/-- What becomes of a line. -/
inductive Fate where
  | applied
  | dropped
  | skipped
  | refused
  deriving DecidableEq

def Line.fate (line : Line) : Fate :=
  match line.reading with
  | .accepted _ => .applied
  | .dropped _ => .dropped
  | .skipped => .skipped
  | .refused _ => .refused

/-- The number of the line of which the record tells that fate. Of refused lines errors tell. -/
def Event.lineWith? : Fate → Event → Option Nat
  | .applied, appliedLine number _ | .dropped, droppedLine number _
  | .skipped, skippedLine number => some number
  | _, _ => none

/-- What is recorded of a line, by its fate. -/
inductive Line.Records (line : Line) : Fate → List Event → Prop
  | applied {directive : Directive} : line.reading = .accepted directive →
      Records line .applied [.appliedLine line.number directive.mark]
  | ignored {name : Text} {value : Nat} : line.reading = .accepted (.limit name value) →
      LimitName.ofText? name = none →
      Records line .applied [.ignoredLimit name value, .appliedLine line.number .limit]
  | dropped {mark : Mark} : line.reading = .dropped mark →
      Records line .dropped [.droppedLine line.number mark]
  | skipped : line.reading = .skipped → Records line .skipped [.skippedLine line.number]
  | refused {mark : Mark} : line.reading = .refused mark → Records line .refused []

namespace Line

theorem records_events (line : Line) : line.Records line.fate line.events := by
  unfold fate events
  cases hreading : line.reading with
  | accepted directive =>
    cases directive with
    | limit name value =>
      dsimp only
      split
      next hname => exact .ignored hreading hname
      next => exact .applied hreading
    | _ => exact .applied hreading
  | dropped mark => exact .dropped hreading
  | skipped => exact .skipped hreading
  | refused mark => exact .refused hreading

/-- The records of a line tell its own fate once, and no other. -/
theorem Records.filterMap_lineWith? {line : Line} {fate asked : Fate} {events : List Event}
    (h : line.Records fate events) (hasked : asked ≠ .refused) :
    events.filterMap (Event.lineWith? asked) = if fate = asked then [line.number] else [] := by
  cases h with
  | refused => rw [if_neg hasked.symm, List.filterMap_nil]
  | applied | ignored | dropped | skipped => cases asked <;> rfl

/-- A line is dropped if it has a lenient mark and does not fit it. -/
theorem malformed_of_reading_eq_dropped {line : Line} {mark : Mark}
    (h : line.reading = .dropped mark) :
    line.kind = .directive mark ∧ mark.tier = .lenient ∧ ¬line.text.IsDirective := by
  unfold reading at h
  split at h
  next own hkind =>
    split at h
    next => cases h
    next => cases h
    next hread htier =>
      cases h
      exact ⟨hkind, htier, not_isDirective_iff.2 hread⟩
  next => cases h

/-- A line is skipped if it has no mark. -/
theorem kind_ne_of_reading_eq_skipped {line : Line} (h : line.reading = .skipped) (mark : Mark) :
    line.kind ≠ .directive mark := by
  intro hkind
  unfold reading at h
  rw [hkind] at h
  dsimp only at h
  split at h <;> cases h

/-- A line that is not applied says nothing. -/
theorem fate_eq_applied_iff (line : Line) :
    line.fate = .applied ↔ line.directive?.isSome = true := by
  unfold fate directive?
  cases line.reading <;> simp

end Line

section Lines

variable {post : Text} {line : Line} (hmem : line ∈ lines post)
include hmem

theorem directive?_of_mem_lines : line.directive? = Directive.ofText? line.text := by
  obtain ⟨raw, -, offset, number, hline⟩ := mem_linesFrom hmem
  rw [directive?_of_ofPhysical? hline, (ofPhysical?_eq_some hline).1]

theorem kind_of_reading_eq_accepted {directive : Directive}
    (h : line.reading = .accepted directive) :
    line.kind = .directive directive.mark ∧ Directive.ofText? line.text = some directive := by
  have hread : Directive.ofText? line.text = some directive := by
    rw [← directive?_of_mem_lines hmem, Line.directive?, h]
  obtain ⟨raw, -, offset, number, hline⟩ := mem_linesFrom hmem
  obtain ⟨htext, hkind⟩ := ofPhysical?_eq_some hline
  rw [htext] at hread
  exact ⟨hkind.trans (kind_of_ofText? hread), htext ▸ hread⟩

theorem exists_kind_eq_unrecognized (h : line.reading = .skipped) :
    ∃ c, line.kind = .unrecognized c := by
  obtain ⟨c, -, -, hkind⟩ := (isExact_of_mem_lines hmem).kind
  cases hmark : Mark.ofChar? c with
  | none => exact ⟨c, by rw [hkind, hmark]; rfl⟩
  | some mark =>
    rw [hmark] at hkind
    exact absurd hkind (Line.kind_ne_of_reading_eq_skipped h mark)

/-- A line that is not applied leaves every document as it is. -/
theorem applyText_of_fate_ne_applied (h : line.fate ≠ .applied) (document : Document) :
    document.applyText line.text = (document, false) := by
  have hnone : line.directive? = none := by
    rwa [ne_eq, Line.fate_eq_applied_iff, Option.not_isSome_iff_eq_none] at h
  rw [Document.applyText, ← directive?_of_mem_lines hmem, hnone]

end Lines

/-! ### All lines -/

/-- The numbers of the lines of that fate, as records and errors tell them. -/
def linesWith (post : Text) : Fate → List Nat
  | .refused => (parse post).errors.map fun e => e.line.number
  | fate => (keptEvents (some .trace) (parseEvents post)).filterMap (Event.lineWith? fate)

/-- A log of the lowest level keeps all records. -/
theorem keptEvents_trace (events : List Event) : keptEvents (some .trace) events = events := by
  refine List.filter_eq_self.2 fun event _ => ?_
  cases event <;> rfl

theorem filterMap_lineWith?_flatMap (ls : List Line) {fate : Fate} (h : fate ≠ .refused) :
    (ls.flatMap Line.events).filterMap (Event.lineWith? fate) =
      (ls.filter fun line => line.fate = fate).map Line.number := by
  induction ls with
  | nil => rfl
  | cons line ls ih =>
    rw [List.flatMap_cons, List.filterMap_append, ih, line.records_events.filterMap_lineWith? h,
      List.filter_cons]
    by_cases hfate : line.fate = fate <;> simp [hfate]

theorem map_number_filterMap_syntaxError? (ls : List Line) :
    (ls.filterMap Line.syntaxError?).map (fun e => e.line.number) =
      (ls.filter fun line => line.fate = .refused).map Line.number := by
  rw [List.map_filterMap, ← List.filterMap_eq_map (f := Line.number), List.filterMap_filter]
  refine List.filterMap_congr fun line _ => ?_
  have herror : line.syntaxError?.map (fun e => e.line.number) =
      if line.fate = .refused then some line.number else none := by
    unfold Line.syntaxError? Line.fate
    cases line.reading <;> rfl
  simpa using herror

/-- Records and errors tell of every line with its fate, and of no other. -/
theorem linesWith_eq (post : Text) (fate : Fate) :
    linesWith post fate = ((lines post).filter fun line => line.fate = fate).map Line.number := by
  have hrecords (h : fate ≠ .refused) :
      (keptEvents (some .trace) (parseEvents post)).filterMap (Event.lineWith? fate) =
        ((lines post).filter fun line => line.fate = fate).map Line.number := by
    have hstart : Event.lineWith? fate (.readingPost post.utf8Size) = none := by cases fate <;> rfl
    have hend : Event.lineWith? fate (.readPost (parse post).errors.length) = none := by
      cases fate <;> rfl
    rw [keptEvents_trace, ← filterMap_lineWith?_flatMap _ h, parseEvents, List.filterMap_append,
      List.filterMap_cons_none hstart, List.filterMap_cons_none hend, List.filterMap_nil,
      List.append_nil]
  cases fate with
  | refused => exact map_number_filterMap_syntaxError? (lines post)
  | applied | dropped | skipped => exact hrecords (by decide)

theorem count_filter_fate (ls : List Line) (fate : Fate) (line : Line) :
    (ls.filter fun line => line.fate = fate).count line =
      if line.fate = fate then ls.count line else 0 := by
  split
  next h => exact List.count_filter (by simpa using h)
  next h => exact List.count_eq_zero.2 fun hmem => h (by simpa using (List.mem_filter.1 hmem).2)

/-- The lines with each of the fates make up all lines. -/
theorem perm_filter_fate (ls : List Line) :
    (ls.filter (fun line => line.fate = .applied) ++ ls.filter (fun line => line.fate = .dropped) ++
      ls.filter (fun line => line.fate = .skipped) ++
      ls.filter fun line => line.fate = .refused).Perm ls := by
  refine List.perm_iff_count.2 fun line => ?_
  simp only [List.count_append, count_filter_fate]
  cases line.fate <;> simp

theorem pairwise_number_lines (post : Text) :
    ((lines post).map Line.number).Pairwise fun number later => number < later :=
  List.pairwise_map.2 ((pairwise_linesFrom 0 0 _).imp fun h => h.2)

/-! ### Records -/

/-- What the record says of a line is so. -/
def Event.IsTrueIn (post : Text) : Event → Prop
  | appliedLine number mark => ∃ line ∈ lines post, line.number = number ∧
      line.kind = .directive mark ∧ line.text.IsDirective
  | droppedLine number mark => mark.tier = .lenient ∧ ∃ line ∈ lines post, line.number = number ∧
      line.kind = .directive mark ∧ ¬line.text.IsDirective
  | skippedLine number => ∃ line ∈ lines post, line.number = number ∧
      ∃ c, line.kind = .unrecognized c
  | ignoredLimit name value => LimitName.ofText? name = none ∧
      ∃ line ∈ lines post, line.kind = .directive .limit ∧ line.text.SetsLimit name value
  | _ => True

section Records

variable {post : Text} {line : Line}

theorem Line.Records.isTrueIn {fate : Fate} {events : List Event} (h : line.Records fate events)
    (hmem : line ∈ lines post) : ∀ event ∈ events, event.IsTrueIn post := by
  cases h with
  | applied hreading =>
    obtain ⟨hkind, hread⟩ := kind_of_reading_eq_accepted hmem hreading
    rw [List.forall_mem_singleton]
    exact ⟨line, hmem, rfl, hkind, isDirective_iff.2 (by rw [hread, Option.isSome_some])⟩
  | ignored hreading hname =>
    obtain ⟨hkind, hread⟩ := kind_of_reading_eq_accepted hmem hreading
    rw [List.forall_mem_cons, List.forall_mem_singleton]
    refine ⟨⟨hname, line, hmem, hkind, setsLimit_iff.2 hread⟩, line, hmem, rfl, hkind, ?_⟩
    exact isDirective_iff.2 (by rw [hread, Option.isSome_some])
  | dropped hreading =>
    obtain ⟨hkind, htier, hvoid⟩ := malformed_of_reading_eq_dropped hreading
    rw [List.forall_mem_singleton]
    exact ⟨htier, line, hmem, rfl, hkind, hvoid⟩
  | skipped hreading =>
    rw [List.forall_mem_singleton]
    exact ⟨line, hmem, rfl, exists_kind_eq_unrecognized hmem hreading⟩
  | refused => exact List.forall_mem_nil _

theorem isTrueIn_of_mem_parseEvents {event : Event} (h : event ∈ parseEvents post) :
    event.IsTrueIn post := by
  unfold parseEvents at h
  rw [List.mem_append, List.mem_cons, List.mem_flatMap, List.mem_singleton] at h
  rcases h with (rfl | ⟨line, hmem, h⟩) | rfl
  · trivial
  · exact line.records_events.isTrueIn hmem event h
  · trivial

/-- A limit is ignored right before its line is applied. -/
theorem exists_of_ignoredLimit {ls : List Line} {front back tail : List Event} {name : Text}
    {value : Nat} (htail : .ignoredLimit name value ∉ tail)
    (h : ls.flatMap Line.events ++ tail = front ++ .ignoredLimit name value :: back) :
    ∃ line ∈ ls, line.reading = .accepted (.limit name value) ∧
      ∃ rest, back = .appliedLine line.number .limit :: rest := by
  induction ls generalizing front with
  | nil =>
    refine absurd ?_ htail
    rw [List.flatMap_nil, List.nil_append] at h
    simp [h]
  | cons line ls ih =>
    have hrest {front : List Event}
        (h : ls.flatMap Line.events ++ tail = front ++ .ignoredLimit name value :: back) :
        ∃ own ∈ line :: ls, own.reading = .accepted (.limit name value) ∧
          ∃ rest, back = .appliedLine own.number .limit :: rest := by
      obtain ⟨own, hmem, hown⟩ := ih h
      exact ⟨own, List.mem_cons_of_mem _ hmem, hown⟩
    have hrecords := line.records_events
    rw [List.flatMap_cons, List.append_assoc] at h
    generalize line.fate = fate, line.events = events at hrecords h
    cases hrecords with
    | ignored hreading =>
      cases front with
      | nil =>
        simp only [List.cons_append, List.nil_append, List.cons.injEq,
          Event.ignoredLimit.injEq] at h
        obtain ⟨⟨rfl, rfl⟩, rfl⟩ := h
        exact ⟨line, List.mem_cons_self, hreading, _, rfl⟩
      | cons first front =>
        cases front with
        | nil => simp at h
        | cons second front => exact hrest (by simpa using (List.cons.inj (List.cons.inj h).2).2)
    | applied | dropped | skipped =>
      cases front with
      | nil => simp at h
      | cons first front => exact hrest (List.cons.inj h).2
    | refused => exact hrest h

end Records

/-- Each line of a post is accounted for once, by a record or by an error, and in each kind of them
the numbers of the lines go up. What the records say of the lines is so, and every line that an
error names has a mark that it must fit. A limit is ignored only where its line is applied right
after. A line of which no record says that it is applied leaves every document as it is. -/
theorem lines_accounted (post : Text) :
    let records := keptEvents (some .trace) (parseEvents post)
    let told := linesWith post
    (told .applied ++ told .dropped ++ told .skipped ++ told .refused).Perm
        ((lines post).map Line.number) ∧
      ((lines post).map Line.number).Nodup ∧
      (∀ fate, (told fate).Pairwise fun number later => number < later) ∧
      (∀ event ∈ records, event.IsTrueIn post) ∧
      (∀ e ∈ (parse post).errors, e.mark.tier = .strict ∧ e.line ∈ lines post ∧
        e.line.kind = .directive e.mark ∧ ¬e.line.text.IsDirective) ∧
      (∀ front name value back, records = front ++ .ignoredLimit name value :: back →
        LimitName.ofText? name = none ∧ ∃ line ∈ lines post, line.kind = .directive .limit ∧
          line.text.SetsLimit name value ∧
          ∃ rest, back = .appliedLine line.number .limit :: rest) ∧
      (parse post).document =
        (lines post).foldl (fun document line => (document.applyText line.text).1) {} ∧
      ∀ line ∈ lines post, line.number ∉ told .applied →
        ∀ document : Document, (document.applyText line.text).1 = document := by
  intro records told
  have hrecords : records = parseEvents post := keptEvents_trace _
  have hnumbers := pairwise_number_lines post
  refine ⟨?_, hnumbers.imp Nat.ne_of_lt, fun fate => ?_, ?_, fun e he => ?_,
    fun front name value back h => ?_, document_parse_eq_foldl post,
    fun line hmem hnot document => ?_⟩
  · have hperm := (perm_filter_fate (lines post)).map Line.number
    rw [List.map_append, List.map_append, List.map_append] at hperm
    simp only [told, linesWith_eq]
    exact hperm
  · simp only [told, linesWith_eq]
    exact hnumbers.sublist (List.filter_sublist.map _)
  · rw [hrecords]
    exact fun event => isTrueIn_of_mem_parseEvents
  · obtain ⟨hmem, hmark⟩ := refused_of_mem_errors he
    obtain ⟨hstrict, hhead, hvoid⟩ := refusedMark?_eq_some_iff.1 hmark
    obtain ⟨c, rest, htext, hkind⟩ := (isExact_of_mem_lines hmem).kind
    rw [htext, List.head?_cons, Option.some.injEq] at hhead
    rw [hhead, Mark.ofChar?_char] at hkind
    exact ⟨hstrict, hmem, hkind, hvoid⟩
  · rw [hrecords] at h
    obtain ⟨hname, -⟩ : Event.IsTrueIn post (.ignoredLimit name value) :=
      isTrueIn_of_mem_parseEvents (h ▸ List.mem_append_right front List.mem_cons_self)
    rw [parseEvents, List.cons_append] at h
    cases front with
    | nil => simp at h
    | cons first front =>
      obtain ⟨line, hmem, hreading, hnext⟩ := exists_of_ignoredLimit (by simp) (List.cons.inj h).2
      obtain ⟨hkind, hread⟩ := kind_of_reading_eq_accepted hmem hreading
      exact ⟨hname, line, hmem, hkind, setsLimit_iff.2 hread, hnext⟩
  · have hfate : line.fate ≠ .applied := by
      intro hfate
      refine hnot ?_
      simp only [told, linesWith_eq]
      exact List.mem_map_of_mem (List.mem_filter.2 ⟨hmem, by simpa using hfate⟩)
    rw [applyText_of_fate_ne_applied hmem hfate]

/-- A post with lines of every fate, and with a limit that no part of a post has. -/
def motley : Text :=
  ['\n'].intercalate <| List.map String.toList
    ["# \"T\"", "? x", "", "^ words 5", "plain", "! bad", "^ total 9", "// note", "* \"c\""]

theorem lines_accounted_motley :
    let records := keptEvents (some .trace) (parseEvents motley)
    let front := [.readingPost motley.utf8Size, .appliedLine 1 .title, .droppedLine 2 .context]
    let back := [.appliedLine 4 .limit, .skippedLine 5, .appliedLine 7 .limit,
      .appliedLine 9 .credential, .readPost 1]
    records = front ++ .ignoredLimit "words".toList 5 :: back ∧
      LimitName.ofText? "words".toList = none ∧
      Event.IsTrueIn motley (.droppedLine 2 .context) ∧
      (∃ e ∈ (parse motley).errors, e.line.number = 6 ∧ e.mark.tier = .strict) ∧
      ∃ line ∈ lines motley, line.number = 5 ∧ line.number ∉ linesWith motley .applied ∧
        (({} : Document).applyText line.text).1 = {} := by
  intro records front back
  obtain ⟨-, -, -, htrue, herrors, hignored, -, hkept⟩ := lines_accounted motley
  have hrecords : records = front ++ .ignoredLimit "words".toList 5 :: back := by decide +kernel
  have hdropped : .droppedLine 2 .context ∈ records := by
    rw [hrecords]
    simp [front]
  refine ⟨hrecords, (hignored _ _ _ _ hrecords).1, htrue _ hdropped, ?_, ?_⟩
  · have herror : ⟨⟨6, "! bad".toList, ⟨27, 32⟩, .directive .claim⟩, .claim⟩ ∈
        (parse motley).errors := by decide +kernel
    exact ⟨_, herror, rfl, (herrors _ herror).1⟩
  · have hline : ⟨5, "plain".toList, ⟨21, 26⟩, .unrecognized 'p'⟩ ∈ lines motley := by
      decide +kernel
    have hnot : 5 ∉ linesWith motley .applied := by decide +kernel
    exact ⟨_, hline, rfl, hnot, hkept _ hline hnot {}⟩

end PostMarkup
