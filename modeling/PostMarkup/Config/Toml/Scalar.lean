import PostMarkup.Config.Setting
import PostMarkup.Config.Toml.Quoted

/-! The unquoted values of TOML: truth values, numbers, dates and times. A reader takes the whole
word and refuses what is not exactly one of these. -/

namespace PostMarkup.Toml

/-- Digits in groups with single underscores between them, without the underscores. -/
def grouped? (isDigit : Char → Bool) (t : Text) : Option Text :=
  let groups := t.splitOn '_'
  if groups.all fun group => group ≠ [] ∧ group.all isDigit then some groups.flatten else none

def digitsValue (base : Nat) (digits : Text) : Nat :=
  digits.foldl (fun n c => base * n + (hexValue? c).getD 0) 0

/-- Decimal digits in groups, with a zero in front only if it is alone. -/
def decimalDigits? (t : Text) : Option Text := do
  let digits ← grouped? Char.isDigit t
  if digits.head? = some '0' ∧ digits.length ≠ 1 then none else some digits

/-- Splits off a sign and tells whether it is a minus. -/
def splitSign : Text → Bool × Text
  | '-' :: t => (true, t)
  | '+' :: t => (false, t)
  | t => (false, t)

/-- The integer of a size, below nought if `negative`. -/
def signed (negative : Bool) (size : Nat) : Int := if negative then -size else size

def integer? : Text → Option Int
  | '0' :: 'x' :: t => (grouped? (fun c => (hexValue? c).isSome) t).map fun t => digitsValue 16 t
  | '0' :: 'o' :: t => (grouped? (fun c => '0' ≤ c && c ≤ '7') t).map fun t => digitsValue 8 t
  | '0' :: 'b' :: t => (grouped? (fun c => c == '0' || c == '1') t).map fun t => digitsValue 2 t
  | t => do
    let (negative, t) := splitSign t
    return signed negative (digitsValue 10 (← decimalDigits? t))

/-- `m * 10 ^ e` is nearer to a double than to the first power of two that is none. -/
def isFiniteDouble (m : Nat) (e : Int) : Bool :=
  let digits : Int := (Nat.toDigits 10 m).length
  if m = 0 ∨ digits + e ≤ 308 then true
  else if 310 ≤ digits + e then false
  else
    let bound := Nat.pow 2 1024 - Nat.pow 2 970
    if 0 ≤ e then m * Nat.pow 10 e.toNat < bound else m < bound * Nat.pow 10 (-e).toNat

def isExponentMark (c : Char) : Bool := c == 'e' || c == 'E'

def decimals? : Text → Option (Text × Text)
  | '.' :: t => do
    let digits ← grouped? Char.isDigit (t.takeWhile fun c => !isExponentMark c)
    return (digits, t.dropWhile fun c => !isExponentMark c)
  | t => some ([], t)

def exponent? : Text → Option Int
  | [] => some 0
  | _ :: t => do
    let (negative, t) := splitSign t
    return signed negative (digitsValue 10 (← grouped? Char.isDigit t))

/-- A number with a fraction or an exponent, and whether a double can hold it. -/
def float? (t : Text) : Option Bool := do
  let (_, t) := splitSign t
  if t = "inf".toList ∨ t = "nan".toList then return true
  let isWhole := fun c => c != '.' && !isExponentMark c
  let whole ← decimalDigits? (t.takeWhile isWhole)
  let afterWhole := t.dropWhile isWhole
  guard (afterWhole ≠ [])
  let (fraction, t) ← decimals? afterWhole
  let exponent ← exponent? t
  return isFiniteDouble (digitsValue 10 (whole ++ fraction)) (exponent - fraction.length)

def fixed? (count : Nat) (t : Text) : Option (Nat × Text) :=
  let digits := t.take count
  if digits.length = count ∧ digits.all Char.isDigit then
    some (digitsValue 10 digits, t.drop count)
  else none

def expect? (c : Char) : Text → Option Text
  | d :: t => if c = d then some t else none
  | [] => none

def daysInMonth (year month : Nat) : Nat :=
  if month = 2 then
    if year % 4 = 0 ∧ (year % 100 ≠ 0 ∨ year % 400 = 0) then 29 else 28
  else if month = 4 ∨ month = 6 ∨ month = 9 ∨ month = 11 then 30
  else 31

/-- Reads a day of the calendar and gives what follows. -/
def date? (t : Text) : Option Text := do
  let (year, t) ← fixed? 4 t
  let (month, t) ← fixed? 2 (← expect? '-' t)
  let (day, t) ← fixed? 2 (← expect? '-' t)
  if 1 ≤ month ∧ month ≤ 12 ∧ 1 ≤ day ∧ day ≤ daysInMonth year month then some t else none

/-- Reads an hour and a minute, and gives what follows. -/
def hourMinute? (t : Text) : Option Text := do
  let (hour, t) ← fixed? 2 t
  let (minute, t) ← fixed? 2 (← expect? ':' t)
  if hour ≤ 23 ∧ minute ≤ 59 then some t else none

/-- Reads the fraction of a second, if there is one, and gives what follows. -/
def fraction? : Text → Option Text
  | '.' :: t => if t.head?.any Char.isDigit then some (t.dropWhile Char.isDigit) else none
  | t => some t

/-- Reads a time of the day, whose seconds may be left out, and gives what follows. -/
def time? (t : Text) : Option Text := do
  match ← hourMinute? t with
  | ':' :: t =>
    let (second, t) ← fixed? 2 t
    if second ≤ 60 then fraction? t else none
  | t => some t

/-- The text is empty or a difference from universal time. -/
def isOffset : Text → Bool
  | [] => true
  | ['Z'] | ['z'] => true
  | '+' :: t | '-' :: t => hourMinute? t = some []
  | _ => false

def isMoment (t : Text) : Bool :=
  match date? t with
  | some [] => true
  | some (c :: t) => (c == 'T' || c == 't' || c == ' ') && (time? t).any isOffset
  | none => time? t = some []

def scalar? (t : Text) : Option Setting :=
  if t = "true".toList ∨ t = "false".toList then some .other
  else if isMoment t then some .moment
  else
    match integer? t, float? t with
    | some n, _ => some (.integer n)
    | none, some isFinite => some (.float isFinite)
    | none, none => none

def isWordPart (c : Char) : Bool := c.isAlphanum || c == '_' || c == '+' || c == '-' ||
  c == '.' || c == ':'

/-- Reads an unquoted value. A date and a time may stand a space apart. -/
def unquoted? (t : Text) : Option (Setting × Text) := do
  let word := t.takeWhile isWordPart
  let rest := t.dropWhile isWordPart
  match date? word, rest with
  | some [], ' ' :: c :: more =>
    if c.isDigit then
      let time := (c :: more).takeWhile isWordPart
      return (← scalar? (word ++ ' ' :: time), (c :: more).dropWhile isWordPart)
    else return (.moment, rest)
  | _, _ => return (← scalar? word, rest)

end PostMarkup.Toml
