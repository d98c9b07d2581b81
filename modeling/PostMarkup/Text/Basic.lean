/-! Texts as lists of characters, and the operations on them that every part of the library shares:
sizes in UTF-8, byte ranges, occurrence, and the physical lines. -/

namespace PostMarkup

/-- A text is the list of its characters, so that statements about it go by induction. -/
abbrev Text := List Char

namespace Text

/-- What holds of all characters of a text is decided by going through the text. -/
instance decidableForallMem (p : Char → Prop) [DecidablePred p] (t : Text) :
    Decidable (∀ c ∈ t, p c) :=
  List.decidableBAll p t

/-- The number of bytes of the UTF-8 form. -/
def utf8Size (t : Text) : Nat := t.foldr (fun c size => c.utf8Size + size) 0

@[simp] theorem utf8Size_nil : utf8Size [] = 0 := rfl

@[simp] theorem utf8Size_cons (c : Char) (t : Text) :
    utf8Size (c :: t) = c.utf8Size + utf8Size t :=
  rfl

@[simp] theorem utf8Size_append (s t : Text) : utf8Size (s ++ t) = utf8Size s + utf8Size t := by
  induction s with
  | nil => simp
  | cons c s ih => simp [ih, Nat.add_assoc]

theorem utf8Size_pos {t : Text} (h : t ≠ []) : 0 < utf8Size t := by
  cases t with
  | nil => exact absurd rfl h
  | cons c t =>
    have hc := c.utf8Size_pos
    rw [utf8Size_cons]
    omega

/-- The text without its first `n` bytes, if they end between two characters. -/
def dropBytes? : Nat → Text → Option Text
  | 0, t => some t
  | _ + 1, [] => none
  | n + 1, c :: t => if c.utf8Size ≤ n + 1 then dropBytes? (n + 1 - c.utf8Size) t else none

/-- The first `n` bytes of the text, if they end between two characters. -/
def takeBytes? : Nat → Text → Option Text
  | 0, _ => some []
  | _ + 1, [] => none
  | n + 1, c :: t =>
    if c.utf8Size ≤ n + 1 then (takeBytes? (n + 1 - c.utf8Size) t).map (c :: ·) else none

/-- The bytes from `start` up to `stop`, if both lie between characters of the text. -/
def slice? (start stop : Nat) (t : Text) : Option Text :=
  if start ≤ stop then (dropBytes? start t).bind (takeBytes? (stop - start)) else none

section Bytes

variable {n : Nat} {c : Char} (h : c.utf8Size ≤ n) (t : Text)
include h

theorem dropBytes?_cons : dropBytes? n (c :: t) = dropBytes? (n - c.utf8Size) t := by
  have hpos := c.utf8Size_pos
  cases n with
  | zero => omega
  | succ n => rw [dropBytes?, if_pos h]

theorem takeBytes?_cons :
    takeBytes? n (c :: t) = (takeBytes? (n - c.utf8Size) t).map (c :: ·) := by
  have hpos := c.utf8Size_pos
  cases n with
  | zero => omega
  | succ n => rw [takeBytes?, if_pos h]

end Bytes

theorem dropBytes?_append (s t : Text) : dropBytes? s.utf8Size (s ++ t) = some t := by
  induction s with
  | nil => simp [dropBytes?]
  | cons c s ih =>
    rw [utf8Size_cons, List.cons_append, dropBytes?_cons (Nat.le_add_right _ _),
      Nat.add_sub_cancel_left, ih]

theorem takeBytes?_append (s t : Text) : takeBytes? s.utf8Size (s ++ t) = some s := by
  induction s with
  | nil => simp [takeBytes?]
  | cons c s ih =>
    rw [utf8Size_cons, List.cons_append, takeBytes?_cons (Nat.le_add_right _ _),
      Nat.add_sub_cancel_left, ih, Option.map_some]

/-- The bytes of a part are that part. -/
theorem slice?_append (s t u : Text) :
    slice? s.utf8Size (s.utf8Size + t.utf8Size) (s ++ (t ++ u)) = some t := by
  rw [slice?, if_pos (Nat.le_add_right _ _), dropBytes?_append, Option.bind_some,
    Nat.add_sub_cancel_left, takeBytes?_append]

/-- `needle` occurs in the text as a run of neighbouring characters. -/
def occursIn (needle : Text) : Text → Bool
  | [] => needle.isEmpty
  | c :: t => needle.isPrefixOf (c :: t) || occursIn needle t

theorem occursIn_iff {needle t : Text} : occursIn needle t = true ↔ needle <:+: t := by
  induction t with
  | nil => simp [occursIn]
  | cons c t ih => simp [occursIn, ih, List.infix_cons_iff]

/-- The lines of a text: what stands between its newlines, before the first and after the last. -/
def physicalLines (t : Text) : List Text := t.splitOn '\n'

end Text

end PostMarkup
