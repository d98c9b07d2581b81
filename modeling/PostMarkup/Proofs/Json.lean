import PostMarkup.Proofs.Summary

/-! The JSON form of an analysis says all that the analysis says. What is printed of a value tells
the value, and where it ends, in front of any text that cannot be taken for more of a number. -/

namespace PostMarkup

open Text

namespace Json

/-! ### Kinds of values -/

/-- The kinds of values. -/
inductive Shape where
  | flag
  | number
  | texts
  | record

def shape : Json → Shape
  | flag _ => .flag
  | number _ => .number
  | texts _ => .texts
  | record _ => .record

/-- The kind of the values that start with the character. -/
def shapeOf (c : Char) : Shape :=
  if c.isDigit then .number
  else if c = '[' then .texts
  else if c = '\x7b' then .record
  else .flag

/-! ### Texts in quotes -/

/-- The characters that do not stand for themselves between quotes. -/
def escaped : List Char := '"' :: '\\' :: (List.range 0x20).map Char.ofNat

theorem mem_escaped_of_lt {c : Char} (h : c.toNat < 0x20) : c ∈ escaped := by
  have hc : Char.ofNat c.toNat = c := Char.ofNat_toNat c
  exact List.mem_cons_of_mem _ (List.mem_cons_of_mem _
    (List.mem_map.2 ⟨c.toNat, List.mem_range.2 h, hc⟩))

theorem escape_of_not_mem {c : Char} (h : c ∉ escaped) : escape c = [c] := by
  unfold escape
  split
  case h_8 => rw [if_neg (mt mem_escaped_of_lt h)]
  all_goals exact absurd (by decide) h

theorem head?_escape : ∀ c ∈ escaped, (escape c).head? = some '\\' := by
  decide +kernel

/-- No escape is the beginning of another. -/
theorem eq_of_escape_isPrefix :
    ∀ c ∈ escaped, ∀ c' ∈ escaped, escape c <+: escape c' → c = c' := by
  decide +kernel

theorem escape_append_inj {c c' : Char} {t t' : Text} (h : escape c ++ t = escape c' ++ t') :
    c = c' ∧ t = t' := by
  have hbackslash {c c' : Char} {t t' : Text} (hc : c ∈ escaped) (hc' : c' ∉ escaped) :
      escape c ++ t ≠ c' :: t' := by
    intro heq
    have hhead := congrArg List.head? heq
    rw [List.head?_append, head?_escape c hc, Option.some_or, List.head?_cons] at hhead
    refine hc' ?_
    rw [← Option.some.inj hhead]
    decide
  by_cases hc : c ∈ escaped <;> by_cases hc' : c' ∈ escaped
  · obtain rfl : c = c' := by
      have hprefix := List.prefix_append (escape c) t
      rw [h] at hprefix
      rcases List.prefix_or_prefix_of_prefix hprefix (List.prefix_append _ _) with hle | hle
      · exact eq_of_escape_isPrefix c hc c' hc' hle
      · exact (eq_of_escape_isPrefix c' hc' c hc hle).symm
    exact ⟨rfl, List.append_cancel_left h⟩
  · rw [escape_of_not_mem hc'] at h
    exact absurd h (hbackslash hc hc')
  · rw [escape_of_not_mem hc] at h
    exact absurd h.symm (hbackslash hc' hc)
  · rw [escape_of_not_mem hc, escape_of_not_mem hc'] at h
    exact List.cons.inj h

/-- Quotes are escaped, so the first one that is not ends the text. -/
theorem escape_append_ne {c : Char} {t t' : Text} : escape c ++ t ≠ '"' :: t' := by
  intro h
  have hhead := congrArg List.head? h
  by_cases hc : c ∈ escaped
  · rw [List.head?_append, head?_escape c hc] at hhead
    simp at hhead
  · rw [escape_of_not_mem hc] at hhead
    obtain rfl : c = '"' := by simpa using hhead
    exact hc List.mem_cons_self

theorem toList_quote (s : String) :
    (quote s).toList = '"' :: (s.toList.flatMap escape ++ ['"']) := by
  simp [quote]

theorem escapes_append_inj {s s' t t' : Text}
    (h : s.flatMap escape ++ '"' :: t = s'.flatMap escape ++ '"' :: t') : s = s' ∧ t = t' := by
  induction s generalizing s' with
  | nil =>
    cases s' with
    | nil => exact ⟨rfl, (List.cons.inj h).2⟩
    | cons c' s' =>
      rw [List.flatMap_cons, List.append_assoc] at h
      exact absurd h.symm escape_append_ne
  | cons c s ih =>
    cases s' with
    | nil =>
      rw [List.flatMap_cons, List.append_assoc] at h
      exact absurd h escape_append_ne
    | cons c' s' =>
      rw [List.flatMap_cons, List.flatMap_cons, List.append_assoc, List.append_assoc] at h
      obtain ⟨rfl, hrest⟩ := escape_append_inj h
      obtain ⟨rfl, ht⟩ := ih hrest
      exact ⟨rfl, ht⟩

theorem quote_append_inj {s s' : String} {t t' : Text}
    (h : (quote s).toList ++ t = (quote s').toList ++ t') : s = s' ∧ t = t' := by
  rw [toList_quote, toList_quote] at h
  obtain ⟨hs, ht⟩ := escapes_append_inj (by simpa using h)
  exact ⟨String.toList_inj.1 hs, ht⟩

/-! ### Lists -/

section Items

variable {α : Type}

/-- What is printed of the item tells it, in front of any text that starts with no digit. -/
def Tells (f : α → String) (a : α) : Prop :=
  ∀ ⦃a' : α⦄ ⦃t t' : Text⦄, StartsOff Char.isDigit t → StartsOff Char.isDigit t' →
    (f a).toList ++ t = (f a').toList ++ t' → a = a' ∧ t = t'

theorem tells_quote (s : String) : Tells quote s := fun _ _ _ _ _ => quote_append_inj

variable {f : α → String}

theorem intercalate_cons (separator t : Text) (texts : List Text) :
    separator.intercalate (t :: texts) = t ++ texts.flatMap fun u => separator ++ u := by
  induction texts generalizing t with
  | nil => simp
  | cons u texts ih => rw [List.intercalate_cons_cons, ih, List.flatMap_cons]; simp

/-- The lines of a list below that of its first item. -/
def further (front : Text) (f : α → String) (items : List α) : Text :=
  items.flatMap fun a => ',' :: '\n' :: (front ++ (f a).toList)

theorem startsOff_further (front : Text) (items : List α) (t : Text) :
    StartsOff Char.isDigit (further front f items ++ '\n' :: t) := by
  cases items <;> simp [further]

theorem further_append_inj {front : Text} {items items' : List α} (hf : ∀ a ∈ items, Tells f a)
    {t t' : Text} (h : further front f items ++ '\n' :: t = further front f items' ++ '\n' :: t') :
    items = items' ∧ t = t' := by
  induction items generalizing items' with
  | nil =>
    cases items' with
    | nil => exact ⟨rfl, (List.cons.inj h).2⟩
    | cons a' items' => simp [further] at h
  | cons a items ih =>
    cases items' with
    | nil => simp [further] at h
    | cons a' items' =>
      rw [List.forall_mem_cons] at hf
      have hitem : (f a).toList ++ (further front f items ++ '\n' :: t) =
          (f a').toList ++ (further front f items' ++ '\n' :: t') := by
        simpa [further] using h
      obtain ⟨rfl, hrest⟩ := hf.1 (startsOff_further _ _ _) (startsOff_further _ _ _) hitem
      obtain ⟨rfl, ht⟩ := ih hf.2 hrest
      exact ⟨rfl, ht⟩

theorem toList_block {depth : Nat} {opening closing : String} (a : α) (items : List α) :
    (block depth opening closing ((a :: items).map f)).toList =
      opening.toList ++ '\n' :: ((indent (depth + 1)).toList ++ ((f a).toList ++
        (further (indent (depth + 1)).toList f items ++
          '\n' :: ((indent depth).toList ++ closing.toList)))) := by
  rw [block, if_neg (by simp), List.map_map, List.map_cons]
  simp [String.toList_intercalate, intercalate_cons, further, List.flatMap_map]

theorem block_append_inj {depth : Nat} {opening closing : String} {c : Char}
    (hclosing : closing.toList = [c]) (hc : c ≠ '\n') {items items' : List α}
    (hf : ∀ a ∈ items, Tells f a) {t t' : Text}
    (h : (block depth opening closing (items.map f)).toList ++ t =
      (block depth opening closing (items'.map f)).toList ++ t') : items = items' ∧ t = t' := by
  have hempty : (block depth opening closing (([] : List α).map f)).toList =
      opening.toList ++ [c] := by
    simp [block, hclosing]
  cases items with
  | nil =>
    cases items' with
    | nil => exact ⟨rfl, List.append_cancel_left h⟩
    | cons a' items' =>
      rw [hempty, toList_block] at h
      simp [hc] at h
  | cons a items =>
    rw [List.forall_mem_cons] at hf
    cases items' with
    | nil =>
      rw [hempty, toList_block] at h
      simp [hc.symm] at h
    | cons a' items' =>
      have hitem : (f a).toList ++ (further (indent (depth + 1)).toList f items ++
            '\n' :: ((indent depth).toList ++ c :: t)) =
          (f a').toList ++ (further (indent (depth + 1)).toList f items' ++
            '\n' :: ((indent depth).toList ++ c :: t')) := by
        rw [toList_block, toList_block] at h
        simpa [hclosing] using h
      obtain ⟨rfl, hrest⟩ := hf.1 (startsOff_further _ _ _) (startsOff_further _ _ _) hitem
      obtain ⟨rfl, ht⟩ := further_append_inj hf.2 hrest
      exact ⟨rfl, (List.cons.inj (List.append_cancel_left ht)).2⟩

end Items

/-! ### Values -/

theorem head?_block (depth : Nat) {opening : String} {c : Char} (hopening : opening.toList = [c])
    (closing : String) (lines : List String) :
    (block depth opening closing lines).toList.head? = some c := by
  unfold block
  split <;> simp [hopening]

/-- The kind of a value shows from the character that it starts with. -/
theorem shapeOf_head?_pretty (depth : Nat) (value : Json) :
    (value.pretty depth).toList.head?.map shapeOf = some value.shape := by
  cases value with
  | flag b =>
    rw [pretty]
    cases b <;> rfl
  | number n =>
    have hdigits : ∀ c ∈ n.repr.toList, c.isDigit = true := by
      rw [Nat.toList_repr]
      exact fun c => Nat.isDigit_of_mem_toDigits (by decide) (by decide)
    obtain ⟨c, t, hrepr⟩ : ∃ c t, n.repr.toList = c :: t :=
      List.exists_cons_of_ne_nil (by rw [Nat.toList_repr]; exact Nat.toDigits_ne_nil)
    have hpretty : ((number n).pretty depth).toList = c :: t := by
      rw [pretty]
      exact hrepr
    rw [hpretty, List.head?_cons, Option.map_some, shapeOf,
      if_pos (hdigits c (hrepr ▸ List.mem_cons_self))]
    rfl
  | texts items =>
    rw [pretty, head?_block depth rfl]
    rfl
  | record fields =>
    rw [pretty, head?_block depth rfl]
    rfl

theorem prettyFields_eq (depth : Nat) (fields : List (String × Json)) :
    prettyFields depth fields =
      fields.map fun field => quote field.1 ++ ": " ++ field.2.pretty depth := by
  induction fields with
  | nil => rfl
  | cons field fields ih => rw [prettyFields, ih, List.map_cons]

theorem tells_field {depth : Nat} {field : String × Json}
    (h : Tells (pretty depth) field.2) :
    Tells (fun field : String × Json => quote field.1 ++ ": " ++ field.2.pretty depth) field := by
  intro field' t t' ht ht' heq
  simp only [String.toList_append, List.append_assoc] at heq
  obtain ⟨hname, hrest⟩ := quote_append_inj heq
  obtain ⟨hvalue, hend⟩ := h ht ht' (List.append_cancel_left hrest)
  exact ⟨Prod.ext hname hvalue, hend⟩

theorem shape_eq_of_pretty_append_eq {depth : Nat} {value value' : Json} {t t' : Text}
    (h : (value.pretty depth).toList ++ t = (value'.pretty depth).toList ++ t') :
    value.shape = value'.shape := by
  have hshape {value : Json} {t : Text} :
      ((value.pretty depth).toList ++ t).head?.map shapeOf = some value.shape := by
    have hhead := shapeOf_head?_pretty depth value
    obtain ⟨c, hc, -⟩ := Option.map_eq_some_iff.1 hhead
    rw [List.head?_append, hc, Option.some_or, ← hc, hhead]
  have heq := congrArg (fun t : Text => t.head?.map shapeOf) h
  simpa only [hshape, Option.some.injEq] using heq

theorem flag_append_inj {b b' : Bool} {t t' : Text}
    (h : (toString b).toList ++ t = (toString b').toList ++ t') : b = b' ∧ t = t' := by
  have hfalse : (toString false).toList = ['f', 'a', 'l', 's', 'e'] := rfl
  have htrue : (toString true).toList = ['t', 'r', 'u', 'e'] := rfl
  cases b <;> cases b'
  · exact ⟨rfl, List.append_cancel_left h⟩
  · simp [hfalse, htrue] at h
  · simp [hfalse, htrue] at h
  · exact ⟨rfl, List.append_cancel_left h⟩

mutual

/-- Every value is told by what is printed of it. -/
theorem tells_pretty (depth : Nat) : (value : Json) → Tells (pretty depth) value
  | flag b => fun value' t t' ht ht' h => by
    have hshape := shape_eq_of_pretty_append_eq h
    cases value' with
    | flag b' =>
      rw [pretty, pretty] at h
      obtain ⟨rfl, hend⟩ := flag_append_inj h
      exact ⟨rfl, hend⟩
    | _ => cases hshape
  | number n => fun value' t t' ht ht' h => by
    have hshape := shape_eq_of_pretty_append_eq h
    cases value' with
    | number n' =>
      rw [pretty, pretty] at h
      obtain ⟨rfl, hend⟩ := repr_append_inj ht ht' h
      exact ⟨rfl, hend⟩
    | _ => cases hshape
  | texts items => fun value' t t' ht ht' h => by
    have hshape := shape_eq_of_pretty_append_eq h
    cases value' with
    | texts items' =>
      rw [pretty, pretty] at h
      obtain ⟨rfl, hend⟩ :=
        block_append_inj rfl (by decide) (fun item _ => tells_quote item) h
      exact ⟨rfl, hend⟩
    | _ => cases hshape
  | record fields => fun value' t t' ht ht' h => by
    have hshape := shape_eq_of_pretty_append_eq h
    cases value' with
    | record fields' =>
      rw [pretty, pretty, prettyFields_eq, prettyFields_eq] at h
      obtain ⟨rfl, hend⟩ := block_append_inj rfl (by decide)
        (fun field hfield => tells_field (tells_fields (depth + 1) fields field hfield)) h
      exact ⟨rfl, hend⟩
    | _ => cases hshape

theorem tells_fields (depth : Nat) : (fields : List (String × Json)) → ∀ field ∈ fields,
    Tells (pretty depth) field.2
  | [] => fun _ h => absurd h List.not_mem_nil
  | (_, value) :: fields => by
    rw [List.forall_mem_cons]
    exact ⟨tells_pretty depth value, tells_fields depth fields⟩

end

theorem pretty_injective (depth : Nat) : Function.Injective (pretty depth) := by
  intro value value' h
  exact (tells_pretty depth value (startsOff_nil _) (startsOff_nil _) (by rw [h])).1

end Json

namespace Analysis

/-- The JSON form of an analysis has all that the analysis has. -/
theorem json_injective : Function.Injective json := by
  intro a b h
  simp only [json, Json.record.injEq, Json.flag.injEq, Json.number.injEq, Json.texts.injEq,
    List.cons.injEq, Prod.mk.injEq, true_and, and_true] at h
  obtain ⟨-, -, ⟨htitle, hclaim, hevidence, hinsight, hsource⟩, hissues, hwarnings, hsuggestions⟩ :=
    h
  have houtline : a.outline = b.outline := by
    cases ha : a.outline
    cases hb : b.outline
    simp_all
  exact eq_of_lists_eq houtline hissues hwarnings hsuggestions

/-- In either form, what is printed of the analysis of a text tells the analysis. -/
theorem analyze_eq_of_printed_eq {thresholds thresholds' : Thresholds} {t t' : Text} {json : Bool}
    (h : (analyze thresholds .standard t).printed json =
      (analyze thresholds' .standard t').printed json) :
    analyze thresholds .standard t = analyze thresholds' .standard t' := by
  cases json with
  | true =>
    exact json_injective
      (Json.pretty_injective 0 (String.toList_inj.1 (List.append_cancel_right h)))
  | false =>
    exact eq_of_summary_eq (fun _ => isOneLine_of_mem_findings)
      (fun _ => isOneLine_of_mem_findings) (String.toList_inj.1 h)

end Analysis

end PostMarkup
