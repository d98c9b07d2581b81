import Mathlib.Data.List.Nodup
import PostMarkup.Proofs.Text
import PostMarkup.Validation

/-! The messages of violations. A message names what the violation is about, and it starts with
words that tell the kind: up to the first digit or quotation mark it is the same for all violations
of one kind, and different for those of another. -/

namespace PostMarkup

open Text

namespace Violation

/-! ### Openings and details -/

/-- A length and the limit that it is over, as they are written. -/
def ratio (length limit : Nat) : Text :=
  length.repr.toList ++ '/' :: (limit.repr.toList ++ " characters".toList)

/-- The message up to the first digit or quotation mark. -/
def opening : Violation → Text
  | missing mark =>
    "Missing ".toList ++ mark.char :: (" (".toList ++ (mark.word.toList ++ [')']))
  | fieldTooLong mark .. => mark.word.capitalize.toList ++ " too long: ".toList
  | evidenceTooLong .. => "Evidence ".toList
  | tooMuchEvidence _ => "Evidence limited to ".toList
  | contextTooLong .. => "Context too long: ".toList
  | bannedPhrase _ => "Banned phrase: ".toList
  | exclamations _ => "Exclamation marks are not allowed (found ".toList
  | postTooLong .. => "Post too long: ".toList
  | v => v.message.toList

/-- The rest of the message. -/
def details : Violation → Text
  | fieldTooLong _ length limit | contextTooLong length limit | postTooLong length limit =>
    ratio length limit
  | evidenceTooLong index length limit =>
    index.repr.toList ++ (" too long: ".toList ++ ratio length limit)
  | tooMuchEvidence count =>
    maxEvidenceItems.repr.toList ++ (" items (found ".toList ++ (count.repr.toList ++ [')']))
  | bannedPhrase phrase => '"' :: (phrase ++ ['"'])
  | exclamations count => count.repr.toList ++ [')']
  | missing _ | emoji | questionTitle | exclaimedTitle => []

theorem toList_message (v : Violation) : v.message.toList = v.opening ++ v.details := by
  have hratio (start : String) (length limit : Nat) :
      (toString start ++ toString length ++ toString "/" ++ toString limit ++
        toString " characters").toList = start.toList ++ ratio length limit := by
    simp only [ratio, String.toList_append, List.append_assoc]
    rfl
  cases v with
  | missing mark =>
    unfold message opening details
    simp only [String.toList_append, Char.toString_eq_singleton, String.toList_singleton,
      List.append_assoc, List.append_nil]
    rfl
  | fieldTooLong mark length limit =>
    unfold message opening details
    simp only [String.toList_append, hratio, List.append_assoc]
  | contextTooLong length limit => exact hratio "Context too long: " length limit
  | postTooLong length limit => exact hratio "Post too long: " length limit
  | evidenceTooLong index length limit =>
    unfold message opening details ratio
    simp only [String.toList_append, List.append_assoc]
    rfl
  | bannedPhrase phrase =>
    unfold message opening details
    simp only [String.toList_append, String.toList_ofList, List.append_assoc]
    rfl
  | tooMuchEvidence count | exclamations count =>
    unfold message opening details
    simp only [String.toList_append, List.append_assoc]
    rfl
  | _ => exact (List.append_nil _).symm

/-! ### What is named -/

/-- What the message is to name: the field, its place, the phrase and the numbers, each as it is
written. -/
def named : Violation → List Text
  | missing mark => [[mark.char], mark.word.toList]
  | fieldTooLong mark length limit =>
    [mark.word.capitalize.toList, length.repr.toList, limit.repr.toList]
  | evidenceTooLong index length limit =>
    [index.repr.toList, length.repr.toList, limit.repr.toList]
  | tooMuchEvidence count => [count.repr.toList]
  | contextTooLong length limit | postTooLong length limit =>
    [length.repr.toList, limit.repr.toList]
  | bannedPhrase phrase => [phrase]
  | exclamations count => [count.repr.toList]
  | emoji | questionTitle | exclaimedTitle => []

theorem infix_ratio {length limit : Nat} {part : Text}
    (h : part ∈ [length.repr.toList, limit.repr.toList]) : part <:+: ratio length limit := by
  rcases List.mem_cons.1 h with rfl | h
  · exact (List.prefix_append _ _).isInfix
  · obtain rfl := List.mem_singleton.1 h
    exact ⟨length.repr.toList ++ ['/'], " characters".toList, by simp [ratio]⟩

/-- The message of a violation names what it is about. -/
theorem infix_message_of_mem_named {v : Violation} {part : Text} (h : part ∈ v.named) :
    part <:+: v.message.toList := by
  rw [toList_message]
  have hopening (hpart : part <:+: v.opening) : part <:+: v.opening ++ v.details :=
    hpart.trans (List.prefix_append _ _).isInfix
  have hdetails (hpart : part <:+: v.details) : part <:+: v.opening ++ v.details :=
    hpart.trans (List.suffix_append _ _).isInfix
  cases v with
  | missing mark =>
    rw [named, List.mem_cons, List.mem_singleton] at h
    have hmark : mark.char :: (" (".toList ++ (mark.word.toList ++ [')'])) <:+
        (missing mark).opening := List.suffix_append _ _
    have hword : mark.word.toList ++ [')'] <:+
        mark.char :: (" (".toList ++ (mark.word.toList ++ [')'])) :=
      (List.suffix_append _ _).trans (List.suffix_cons _ _)
    rcases h with rfl | rfl
    · exact hopening ((List.prefix_append [mark.char] _).isInfix.trans hmark.isInfix)
    · exact hopening ((List.prefix_append _ _).isInfix.trans (hword.trans hmark).isInfix)
  | fieldTooLong mark length limit =>
    rw [named, List.mem_cons] at h
    rcases h with rfl | h
    · exact hopening (List.prefix_append _ _).isInfix
    · exact hdetails (infix_ratio h)
  | contextTooLong length limit | postTooLong length limit => exact hdetails (infix_ratio h)
  | evidenceTooLong index length limit =>
    refine hdetails ?_
    rcases List.mem_cons.1 h with rfl | h
    · exact (List.prefix_append _ _).isInfix
    · rw [details, ← List.append_assoc]
      exact (infix_ratio h).trans (List.suffix_append _ _).isInfix
  | tooMuchEvidence count =>
    obtain rfl := List.mem_singleton.1 h
    exact hdetails ⟨maxEvidenceItems.repr.toList ++ " items (found ".toList, [')'],
      by simp [details]⟩
  | bannedPhrase phrase =>
    obtain rfl := List.mem_singleton.1 h
    exact hdetails ⟨['"'], ['"'], rfl⟩
  | exclamations count =>
    obtain rfl := List.mem_singleton.1 h
    exact hdetails (List.prefix_append _ _).isInfix
  | emoji | questionTitle | exclaimedTitle => cases h

/-! ### Kinds -/

/-- The violation without the numbers and the phrase in it. -/
def kind : Violation → Violation
  | fieldTooLong mark .. => fieldTooLong mark 0 0
  | evidenceTooLong .. => evidenceTooLong 0 0 0
  | tooMuchEvidence _ => tooMuchEvidence 0
  | contextTooLong .. => contextTooLong 0 0
  | bannedPhrase _ => bannedPhrase []
  | exclamations _ => exclamations 0
  | postTooLong .. => postTooLong 0 0
  | v => v

/-- The kinds of violations that the rules can find. The three fields with a limit that is not about
evidence or context are the title, the claim and the insight. -/
def kinds : List Violation :=
  Mark.all.map missing ++ [Mark.title, .claim, .insight].map (fieldTooLong · 0 0) ++
    [evidenceTooLong 0 0 0, tooMuchEvidence 0, contextTooLong 0 0, bannedPhrase [], emoji,
      exclamations 0, questionTitle, exclaimedTitle, postTooLong 0 0]

/-- The character is neither a digit nor a quotation mark. -/
def isWording (c : Char) : Bool := !c.isDigit && c != '"'

theorem opening_kind (v : Violation) : v.kind.opening = v.opening := by
  cases v <;> rfl

theorem kind_mem_kinds {v : Violation}
    (h : ∀ mark length limit, v = fieldTooLong mark length limit →
      mark ∈ [Mark.title, .claim, .insight]) : v.kind ∈ kinds := by
  cases v with
  | missing mark => cases mark <;> decide
  | fieldTooLong mark length limit =>
    have hmark := List.mem_map_of_mem (f := (fieldTooLong · 0 0)) (h mark length limit rfl)
    exact List.mem_append_left _ (List.mem_append_right _ hmark)
  | _ => simp [kind, kinds]

/-- The openings of the kinds are wording, and no two of them are the same. -/
theorem openings_shape : (∀ kind ∈ kinds, ∀ c ∈ kind.opening, isWording c = true) ∧
    (kinds.map opening).Nodup := by
  decide +kernel

theorem startsOff_repr_append (n : Nat) (t : Text) : StartsOff isWording (n.repr.toList ++ t) := by
  rw [Nat.toList_repr]
  refine startsOff_append Nat.toDigits_ne_nil
    (fun c => Nat.isDigit_of_mem_toDigits (by decide) (by decide)) (fun c hc => ?_) t
  simp [isWording, hc]

theorem startsOff_details (v : Violation) : StartsOff isWording v.details := by
  cases v with
  | fieldTooLong | contextTooLong | postTooLong | evidenceTooLong | exclamations =>
    exact startsOff_repr_append _ _
  | tooMuchEvidence count => exact startsOff_repr_append _ _
  | bannedPhrase phrase => exact startsOff_cons.2 (by decide)
  | missing | emoji | questionTitle | exclaimedTitle => exact startsOff_nil _

section Messages

variable {v v' : Violation}

theorem isWording_of_mem_opening (hv : v.kind ∈ kinds) : ∀ c ∈ v.opening, isWording c = true := by
  rw [← opening_kind]
  exact openings_shape.1 _ hv

/-- A message tells the kind of the violation, and the rest of it. -/
theorem kind_details_eq_of_message_eq (hv : v.kind ∈ kinds) (hv' : v'.kind ∈ kinds)
    (h : v.message = v'.message) : v.kind = v'.kind ∧ v.details = v'.details := by
  have htext := congrArg String.toList h
  rw [toList_message, toList_message] at htext
  obtain ⟨hopening, hdetails⟩ := append_startsOff_inj (isWording_of_mem_opening hv)
    v.startsOff_details (isWording_of_mem_opening hv') v'.startsOff_details htext
  rw [← opening_kind v, ← opening_kind v'] at hopening
  exact ⟨List.inj_on_of_nodup_map openings_shape.2 hv hv' hopening, hdetails⟩

theorem ratio_inj {length length' limit limit' : Nat}
    (h : ratio length limit = ratio length' limit') : length = length' ∧ limit = limit' := by
  obtain ⟨hlength, hrest⟩ := repr_append_inj (by simp) (by simp) h
  exact ⟨hlength, (repr_append_inj (by simp) (by simp) (List.cons.inj hrest).2).1⟩

/-- Of the violations that the rules can find, each has a message of its own. -/
theorem eq_of_message_eq (hv : v.kind ∈ kinds) (hv' : v'.kind ∈ kinds)
    (h : v.message = v'.message) : v = v' := by
  obtain ⟨hkind, hdetails⟩ := kind_details_eq_of_message_eq hv hv' h
  cases v with
  | fieldTooLong mark length limit =>
    cases v' with
    | fieldTooLong mark' length' limit' =>
      obtain ⟨rfl, rfl⟩ := ratio_inj hdetails
      obtain rfl : mark = mark' := (fieldTooLong.inj hkind).1
      rfl
    | _ => cases hkind
  | contextTooLong length limit =>
    cases v' with
    | contextTooLong length' limit' =>
      obtain ⟨rfl, rfl⟩ := ratio_inj hdetails
      rfl
    | _ => cases hkind
  | postTooLong length limit =>
    cases v' with
    | postTooLong length' limit' =>
      obtain ⟨rfl, rfl⟩ := ratio_inj hdetails
      rfl
    | _ => cases hkind
  | evidenceTooLong index length limit =>
    cases v' with
    | evidenceTooLong index' length' limit' =>
      obtain ⟨rfl, hrest⟩ := repr_append_inj (by simp) (by simp) hdetails
      obtain ⟨rfl, rfl⟩ := ratio_inj (List.append_cancel_left hrest)
      rfl
    | _ => cases hkind
  | tooMuchEvidence count =>
    cases v' with
    | tooMuchEvidence count' =>
      have hcount := List.append_cancel_left (List.append_cancel_left hdetails)
      rw [(repr_append_inj (by simp) (by simp) hcount).1]
    | _ => cases hkind
  | bannedPhrase phrase =>
    cases v' with
    | bannedPhrase phrase' => rw [List.append_cancel_right (List.cons.inj hdetails).2]
    | _ => cases hkind
  | exclamations count =>
    cases v' with
    | exclamations count' => rw [(repr_append_inj (by simp) (by simp) hdetails).1]
    | _ => cases hkind
  | missing | emoji | questionTitle | exclaimedTitle =>
    cases v' with
    | missing | emoji | questionTitle | exclaimedTitle => exact hkind
    | _ => cases hkind

end Messages

end Violation

end PostMarkup
