import PostMarkup.Text.Blank
import PostMarkup.Text.Pattern

/-! The signals by which finished text is judged: numbers that measure something, bullets, and words
that name a source. -/

namespace PostMarkup.Signal

open Pattern

/-- Digits, and perhaps a point and more digits. -/
def number : Pattern :=
  both (many isDecimalDigit) (optional (both (one (· == '.')) (many isDecimalDigit)))

/-- A number with a percent sign. -/
def percentage : Pattern := sequence [number, optional (one isBlank), one (· == '%')]

/-- A number that begins a word, and `x` or `×` at the edge of a word. -/
def multiplier : Pattern :=
  sequence
    [wordEdge, number, optional (one isBlank), one (fun c => c == 'x' || c == '×'), wordEdge]

/-- Digits on both sides of a point. -/
def decimal : Pattern := sequence [many isDecimalDigit, one (· == '.'), many isDecimalDigit]

/-- A measurement: the sign that a line holds evidence. -/
def metric : Pattern := either percentage (either multiplier decimal)

def source : Pattern :=
  either (sequence [word "http", optional (word "s"), word "://"])
    (either (word "arxiv.org") (either (word "github.com") (word "source:")))

def startsBullet (line : Text) : Bool :=
  match line with
  | c :: _ => c == '-' || c == '*' || c == '•'
  | [] => false

theorem startsBullet_eq (line : Text) :
    startsBullet line = line.head?.any fun c => c == '-' || c == '*' || c == '•' := by
  cases line <;> rfl

/-- The signals of evidence in a line, of which it can have two. -/
def evidence (line : Text) : Nat :=
  (if metric.found line then 1 else 0) + (if startsBullet line then 1 else 0)

/-- The line speaks for itself: it is neither a heading nor the name of a source. -/
def isProse (line : Text) : Bool := line.head? != some '#' && !source.found line

end PostMarkup.Signal
