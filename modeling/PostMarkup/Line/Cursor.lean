import PostMarkup.Line

/-! A position in a post from which its lines are read one by one. -/

namespace PostMarkup

/-- How far the reading of a post has come. -/
structure Cursor where
  /-- The bytes read. -/
  offset : Nat
  /-- The physical lines read. -/
  number : Nat
  /-- The text still to be read. -/
  ahead : Text
  deriving DecidableEq, Repr

namespace Cursor

def start (post : Text) : Cursor := ⟨0, 0, post⟩

/-- The next physical line. -/
def raw (cursor : Cursor) : Text := cursor.ahead.takeWhile (· ≠ '\n')

/-- The position after the next physical line. -/
def skipLine (cursor : Cursor) : Cursor :=
  let rest := cursor.ahead.dropWhile (· ≠ '\n')
  ⟨cursor.offset + cursor.raw.utf8Size + Text.utf8Size (rest.take 1), cursor.number + 1,
    rest.drop 1⟩

/-- The next physical line as a line of the post, unless it is blank or a comment. -/
def line? (cursor : Cursor) : Option Line :=
  Line.ofPhysical? cursor.offset (cursor.number + 1) cursor.raw

theorem length_ahead_skipLine {cursor : Cursor} (h : cursor.ahead ≠ []) :
    cursor.skipLine.ahead.length < cursor.ahead.length := by
  have pos : 0 < cursor.ahead.length := List.length_pos_iff.2 h
  have le : (cursor.ahead.dropWhile (· ≠ '\n')).length ≤ cursor.ahead.length :=
    (List.dropWhile_sublist _).length_le
  simp only [skipLine, List.length_drop]
  omega

/-- The next line that is neither blank nor a comment, and the position after it. Where there is
none, the position at the end. -/
def next (cursor : Cursor) : Option Line × Cursor :=
  if cursor.ahead = [] then (none, cursor)
  else
    match cursor.line? with
    | some line => (some line, cursor.skipLine)
    | none => cursor.skipLine.next
termination_by cursor.ahead.length
decreasing_by exact length_ahead_skipLine ‹_›

/-- All lines from the position on, and the position at the end. -/
def drain (cursor : Cursor) : List Line × Cursor :=
  if cursor.ahead = [] then ([], cursor)
  else
    let (rest, final) := cursor.skipLine.drain
    (cursor.line?.toList ++ rest, final)
termination_by cursor.ahead.length
decreasing_by exact length_ahead_skipLine ‹_›

end Cursor

end PostMarkup
