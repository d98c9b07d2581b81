import PostMarkup.Text.Basic

/-! Settings: the values of a configuration, of which only integers and what holds them matter. -/

namespace PostMarkup

inductive Setting where
  | integer (n : Int)
  /-- A number that is no integer, and whether it is small enough to be kept. -/
  | float (isFinite : Bool)
  /-- A date or a time. -/
  | moment
  /-- A text or a truth value. -/
  | other
  | list (items : List Setting)
  | table (entries : List (Text × Setting))
  deriving Inhabited

namespace Setting

mutual

/-- Every number in the setting is small enough to be kept. -/
def isReadable : Setting → Bool
  | integer n => -(2 ^ 127) ≤ n && n < 2 ^ 128
  | float isFinite => isFinite
  | moment | other => true
  | list items => areReadable items
  | table entries => haveReadable entries

def areReadable : List Setting → Bool
  | [] => true
  | item :: rest => item.isReadable && areReadable rest

def haveReadable : List (Text × Setting) → Bool
  | [] => true
  | (_, item) :: rest => item.isReadable && haveReadable rest

end

/-- The natural number below `2 ^ 64` that the setting is. -/
def natural? : Setting → Option Nat
  | integer n => if 0 ≤ n ∧ n < UInt64.size then some n.toNat else none
  | _ => none

/-- The number of a field that may be absent, if it is a number. -/
def field? {α : Type} (name : α) : Option Setting → Option (List (α × Nat))
  | none => some []
  | some setting => do return [(name, ← setting.natural?)]

/-- The numbers of a table whose fields have the given names, each with its word. A table names the
fields it has, and may hold other things too; a list gives their numbers in order; a date or a time
is a table of other things. -/
def numbers? {α : Type} (names : List (α × String)) : Setting → Option (List (α × Nat))
  | table entries => do
    let known := names.map fun name => name.2.toList
    guard (haveReadable (entries.filter fun entry => !known.contains entry.1))
    return (← names.mapM fun name => field? name.1 (entries.lookup name.2.toList)).flatten
  | list items => do
    return (← (names.zip items).mapM fun entry => field? entry.1.1 (some entry.2)).flatten
  | moment => some []
  | _ => none

end Setting

end PostMarkup
