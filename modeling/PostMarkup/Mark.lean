import PostMarkup.Text.Basic

/-! The marks: the characters that open the lines of a post and say what each line is. -/

namespace PostMarkup

/-- How a line that does not fit its mark is treated. -/
inductive Tier where
  | strict
  | lenient
  deriving DecidableEq, Repr

/-- What the first character of a line announces. -/
inductive Mark where
  | limit
  | title
  | claim
  | evidence
  | insight
  | context
  | credential
  | source
  deriving DecidableEq, Repr

namespace Mark

def all : List Mark := [limit, title, claim, evidence, insight, context, credential, source]

def char : Mark → Char
  | limit => '^'
  | title => '#'
  | claim => '!'
  | evidence => '+'
  | insight => '>'
  | context => '?'
  | credential => '*'
  | source => '@'

def ofChar? (c : Char) : Option Mark := all.find? fun mark => mark.char = c

def word : Mark → String
  | limit => "limit"
  | title => "title"
  | claim => "claim"
  | evidence => "evidence"
  | insight => "insight"
  | context => "context"
  | credential => "credential"
  | source => "source"

def tier : Mark → Tier
  | title | claim | evidence | insight | source => .strict
  | limit | context | credential => .lenient

/-- A line to follow, shown where such a line is missing or malformed. -/
def template : Mark → String
  | limit => "^ total 500"
  | title => "# \"Your title\""
  | claim => "! \"Your main claim\""
  | evidence => "+ 42% | \"what the number means\""
  | insight => "> \"Your insight\""
  | context => "? \"Background for the reader\""
  | credential => "* \"Why you can speak to this\""
  | source => "@ \"Source title\" | https://example.com | \"optional credibility\""

@[simp] theorem ofChar?_char (mark : Mark) : ofChar? mark.char = some mark := by
  cases mark <;> rfl

theorem char_injective {a b : Mark} (h : a.char = b.char) : a = b := by
  have := congrArg ofChar? h
  simpa using this

theorem char_of_ofChar? {c : Char} {mark : Mark} (h : ofChar? c = some mark) : mark.char = c := by
  simpa using List.find?_some h

theorem ofChar?_eq_some_iff {c : Char} {mark : Mark} : ofChar? c = some mark ↔ c = mark.char :=
  ⟨fun h => (char_of_ofChar? h).symm, fun h => h ▸ ofChar?_char mark⟩

end Mark

end PostMarkup
