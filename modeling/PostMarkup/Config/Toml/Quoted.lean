import PostMarkup.Text.Blank

/-! The quoted texts of TOML: basic and literal ones, on one line or on several. Every reader takes
what follows the opening quotes and gives the text with what follows the closing ones. -/

namespace PostMarkup.Toml

/-- The characters that may stand on a line: tabs, and all that are no control characters. -/
def isOnLine (c : Char) : Bool := c == '\t' || (' ' ≤ c && c != '\x7F')

def lineBreak? : Text → Option Text
  | '\n' :: t => some t
  | '\r' :: '\n' :: t => some t
  | _ => none

def hexValue? (c : Char) : Option Nat :=
  if c.isDigit then some (c.toNat - '0'.toNat)
  else if 'a' ≤ c ∧ c ≤ 'f' then some (c.toNat - 'a'.toNat + 10)
  else if 'A' ≤ c ∧ c ≤ 'F' then some (c.toNat - 'A'.toNat + 10)
  else none

/-- Reads the number of a character, in `count` hexadecimal digits. -/
def numbered? (count : Nat) (t : Text) : Option (Char × Text) := do
  let digits ← (t.take count).mapM hexValue?
  let n := digits.foldl (fun n digit => 16 * n + digit) 0
  if digits.length = count ∧ n.isValidChar then some (Char.ofNat n, t.drop count) else none

/-- Reads what follows a backslash that stands for a character. -/
def escape? : Text → Option (Char × Text)
  | 'b' :: t => some ('\x08', t)
  | 't' :: t => some ('\t', t)
  | 'n' :: t => some ('\n', t)
  | 'f' :: t => some ('\x0C', t)
  | 'r' :: t => some ('\r', t)
  | 'e' :: t => some ('\x1B', t)
  | '"' :: t => some ('"', t)
  | '\\' :: t => some ('\\', t)
  | 'x' :: t => numbered? 2 t
  | 'u' :: t => numbered? 4 t
  | 'U' :: t => numbered? 8 t
  | _ => none

def push (c : Char) (read : Text × Text) : Text × Text := (c :: read.1, read.2)

/-- Reads a basic text, in at most `fuel` steps. -/
def basic? : (fuel : Nat) → Text → Option (Text × Text)
  | _, '"' :: t => some ([], t)
  | fuel + 1, '\\' :: t => do
    let (c, t) ← escape? t
    return push c (← basic? fuel t)
  | fuel + 1, c :: t => if isOnLine c then (basic? fuel t).map (push c) else none
  | _, _ => none

def literal? : Text → Option (Text × Text)
  | '\'' :: t => some ([], t)
  | c :: t => if isOnLine c then (literal? t).map (push c) else none
  | [] => none

/-- Reads three quotes that close a text, with up to two more in front that belong to it. -/
def closing? (quote : Char) (t : Text) : Option (Text × Text) :=
  let count := min 5 (t.takeWhile (· == quote)).length
  if 3 ≤ count then some (List.replicate (count - 3) quote, t.drop count) else none

/-- Drops the line break, if there is one, that follows the opening of a text on several lines. -/
def dropLineBreak (t : Text) : Text := (lineBreak? t).getD t

def skipBlankLines (t : Text) : Text := t.dropWhile fun c => isSpacing c || c == '\n' || c == '\r'

/-- Every carriage return of a text is part of a line break. -/
def hasWholeBreaks : Text → Bool
  | [] => true
  | '\r' :: t => t.head? == some '\n' && hasWholeBreaks t
  | _ :: t => hasWholeBreaks t

/-- What follows a backslash that joins two lines, with all the blanks between them left out. -/
def joined? (t : Text) : Option Text :=
  let ahead := t.skipSpacing
  let rest := skipBlankLines ahead
  if (lineBreak? ahead).isSome ∧ hasWholeBreaks (ahead.take (ahead.length - rest.length)) then
    some rest
  else none

/-- Reads a basic text on several lines, in at most `fuel` steps. -/
def basicLines? : (fuel : Nat) → Text → Option (Text × Text)
  | 0, _ => none
  | fuel + 1, t =>
    match closing? '"' t with
    | some read => some read
    | none =>
      match t with
      | '\\' :: t =>
        match joined? t with
        | some t => basicLines? fuel t
        | none => do
          let (c, t) ← escape? t
          return push c (← basicLines? fuel t)
      | '\r' :: '\n' :: t => (basicLines? fuel t).map (push '\n')
      | c :: t =>
        if isOnLine c ∨ c = '\n' then (basicLines? fuel t).map (push c) else none
      | [] => none

def literalLines? : (fuel : Nat) → Text → Option (Text × Text)
  | 0, _ => none
  | fuel + 1, t =>
    match closing? '\'' t with
    | some read => some read
    | none =>
      match t with
      | '\r' :: '\n' :: t => (literalLines? fuel t).map (push '\n')
      | c :: t =>
        if isOnLine c ∨ c = '\n' then (literalLines? fuel t).map (push c) else none
      | [] => none

/-- Reads a text with its quotes, if one of any kind is there. -/
def quoted? : Text → Option (Text × Text)
  | '"' :: '"' :: '"' :: t => basicLines? (t.length + 1) (dropLineBreak t)
  | '\'' :: '\'' :: '\'' :: t => literalLines? (t.length + 1) (dropLineBreak t)
  | '"' :: t => basic? t.length t
  | '\'' :: t => literal? t
  | _ => none

end PostMarkup.Toml
