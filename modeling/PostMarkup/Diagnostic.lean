import PostMarkup.Text.Basic

/-! Byte ranges, and diagnostics: what is reported about a post, each as one message with the
details that point to its cause and its cure. -/

namespace PostMarkup

/-- A range of the bytes of a text. -/
structure Span where
  start : Nat
  stop : Nat
  deriving DecidableEq, Repr

namespace Span

def length (span : Span) : Nat := span.stop - span.start

def isEmpty (span : Span) : Bool := span.start == span.stop

/-- The part of the text that the span covers, if both of its ends lie between characters. -/
def slice? (span : Span) (t : Text) : Option Text := Text.slice? span.start span.stop t

/-- The span in a text with `n` more bytes in front. -/
def shift (span : Span) (n : Nat) : Span := ⟨span.start + n, span.stop + n⟩

def toString (span : Span) : String := s!"{span.start}..{span.stop}"

end Span

inductive Severity where
  | error
  | warning
  deriving DecidableEq, Repr

def Severity.word : Severity → String
  | error => "error"
  | warning => "warning"

/-- The kinds of diagnostics. The hundreds group them: syntax, structure, length and style. -/
inductive Code where
  | e100 | e101 | e102 | e103 | e104
  | e200 | e201
  | e300 | e301 | e302
  | e400 | e401 | e402 | e403 | e404
  | w300
  deriving DecidableEq, Repr

namespace Code

def all : List Code :=
  [e100, e101, e102, e103, e104, e200, e201, e300, e301, e302, e400, e401, e402, e403, e404, w300]

def word : Code → String
  | e100 => "E100"
  | e101 => "E101"
  | e102 => "E102"
  | e103 => "E103"
  | e104 => "E104"
  | e200 => "E200"
  | e201 => "E201"
  | e300 => "E300"
  | e301 => "E301"
  | e302 => "E302"
  | e400 => "E400"
  | e401 => "E401"
  | e402 => "E402"
  | e403 => "E403"
  | e404 => "E404"
  | w300 => "W300"

def description : Code → String
  | e100 => "invalid title directive"
  | e101 => "invalid claim directive"
  | e102 => "invalid evidence directive"
  | e103 => "invalid insight directive"
  | e104 => "invalid source directive"
  | e200 => "missing required field"
  | e201 => "too many evidence items"
  | e300 => "field too long"
  | e301 => "evidence item too long"
  | e302 => "output too long"
  | e400 => "banned phrase"
  | e401 => "emoji not allowed"
  | e402 => "exclamation marks not allowed"
  | e403 => "question title"
  | e404 => "exclamation mark in title"
  | w300 => "context too long"

def ofWord? (w : String) : Option Code := all.find? fun code => code.word = w

@[simp] theorem ofWord?_word (code : Code) : ofWord? code.word = some code := by
  cases code <;> decide

theorem word_injective {a b : Code} (h : a.word = b.word) : a = b := by
  have hcode := congrArg ofWord? h
  simpa using hcode

end Code

/-- A part of the post and what is to be said about it. -/
structure Label where
  span : Span
  message : String
  deriving DecidableEq, Repr

structure Diagnostic where
  severity : Severity
  code : Option Code := none
  message : String
  label : Option Label := none
  help : Option String := none
  deriving DecidableEq, Repr

namespace Diagnostic

def display (d : Diagnostic) : String :=
  match d.code with
  | some code => d.severity.word ++ "[" ++ code.word ++ "]: " ++ d.message
  | none => d.severity.word ++ ": " ++ d.message

/-- Diagnostics in one line: the first, and how many others there are. -/
def displayAll : List Diagnostic → String
  | [] => ""
  | [d] => d.display
  | d :: rest => d.display ++ s!" (+{rest.length} more)"

end Diagnostic

end PostMarkup
