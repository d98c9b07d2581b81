import PostMarkup.Text.Basic
import PostMarkup.Text.CaseTable

/-! Lowercase forms, which depend on their surroundings for one letter alone: a capital sigma
becomes `ς` at the end of a word and `σ` elsewhere. -/

namespace PostMarkup

namespace CaseRun

def covers (run : CaseRun) (n : Nat) : Bool :=
  run.first ≤ n && n ≤ run.last && (n - run.first) % run.step == 0

/-- The lowercase form of the character with number `n`, which the run holds. -/
def lower (run : CaseRun) (n : Nat) : Char := Char.ofNat (n + run.shift).toNat

end CaseRun

/-- The lowercase form of a character on its own. Only `İ` has a form of two characters. -/
def lowerChar (c : Char) : Text :=
  if c.toNat < 0x80 then [c.toLower]
  else if c = 'İ' then ['i', '\u0307']
  else
    match caseRuns.find? (·.covers c.toNat) with
    | some run => [run.lower c.toNat]
    | none => [c]

/-- The Unicode property `Cased`. -/
def isCased (c : Char) : Bool :=
  casedRanges.any fun range => range.1 ≤ c.toNat && c.toNat ≤ range.2

/-- The Unicode property `Case_Ignorable`. -/
def isCaseIgnorable (c : Char) : Bool :=
  caseIgnorableRanges.any fun range => range.1 ≤ c.toNat && c.toNat ≤ range.2

namespace Text

/-- The first character that casing does not ignore is cased. -/
def startsCased (t : Text) : Bool :=
  match t.dropWhile isCaseIgnorable with
  | [] => false
  | c :: _ => isCased c

/-- The lowercase form of `c` between `before`, which is given backwards, and `after`. -/
def lowerAt (before : Text) (c : Char) (after : Text) : Text :=
  if c = 'Σ' then [if startsCased before && !startsCased after then 'ς' else 'σ']
  else lowerChar c

/-- The lowercase form of a text that follows `before`, which is given backwards. -/
def lowerFrom (before : Text) : Text → Text
  | [] => []
  | c :: after => lowerAt before c after ++ lowerFrom (c :: before) after

def lower (t : Text) : Text := lowerFrom [] t

end Text

/-- `c`, a lowercase ASCII letter, and `d` are one letter when case is ignored. Outside ASCII this
holds of the long s and of the Kelvin sign only. -/
def sameLetter (c d : Char) : Bool :=
  d.toLower == c || (c == 's' && d == 'ſ') || (c == 'k' && d == '\u212A')

end PostMarkup
