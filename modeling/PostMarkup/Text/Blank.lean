import PostMarkup.Text.Basic

/-! White space, and texts without it at their ends. -/

namespace PostMarkup

/-- The characters with the Unicode property `White_Space`. -/
def isBlank (c : Char) : Bool :=
  let n := c.toNat
  (0x09 ≤ n && n ≤ 0x0D) || n == 0x20 || n == 0x85 || n == 0xA0 || n == 0x1680 ||
    (0x2000 ≤ n && n ≤ 0x200A) || n == 0x2028 || n == 0x2029 || n == 0x202F || n == 0x205F ||
    n == 0x3000

/-- Spaces and tabs, the only characters that may stand between the parts of a directive. -/
def isSpacing (c : Char) : Bool := c == ' ' || c == '\t'

theorem isBlank_of_isSpacing {c : Char} (h : isSpacing c = true) : isBlank c = true := by
  simp only [isSpacing, Bool.or_eq_true, beq_iff_eq] at h
  rcases h with rfl | rfl <;> decide

namespace Text

/-- The text from its first character that is not blank. -/
def trimStart (t : Text) : Text := t.dropWhile isBlank

/-- The text up to its last character that is not blank. -/
def trimEnd (t : Text) : Text := (t.reverse.dropWhile isBlank).reverse

/-- The text without blank characters at its ends. -/
def trim (t : Text) : Text := trimEnd (trimStart t)

/-- The text after the spaces and tabs it starts with. -/
def skipSpacing (t : Text) : Text := t.dropWhile isSpacing

end Text

end PostMarkup
