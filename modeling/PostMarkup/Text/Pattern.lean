import PostMarkup.Text.Casing
import PostMarkup.Text.Word

/-! Patterns of characters, and whether a text holds a match of one. A pattern may ask for the edge
of a word, so a place in a text is its last character behind and all its characters ahead. -/

namespace PostMarkup

/-- A place between two characters of a text. -/
structure Place where
  behind : Option Char
  ahead : Text

/-- The place lies between a word character and something else. -/
def Place.isWordEdge (place : Place) : Bool :=
  place.behind.any isWordChar != place.ahead.head?.any isWordChar

inductive Pattern where
  | empty
  | one (inClass : Char → Bool)
  | many (inClass : Char → Bool)
  | wordEdge
  | both (first second : Pattern)
  | either (first second : Pattern)

namespace Pattern

def optional (p : Pattern) : Pattern := either p empty

def sequence : List Pattern → Pattern
  | [] => empty
  | p :: ps => both p (sequence ps)

/-- The letters of a lowercase word in either case, and its other characters as they are. -/
def word (w : String) : Pattern := sequence (w.toList.map fun c => one (sameLetter c))

/-- Some first part of `t`, of one or more characters of the class, leads to a place that `goal`
accepts. -/
def reachesAfter (inClass : Char → Bool) (goal : Place → Bool) : Text → Bool
  | [] => false
  | c :: t => inClass c && (goal ⟨some c, t⟩ || reachesAfter inClass goal t)

/-- Some match of the pattern at a place leads to a place that `goal` accepts. -/
def reaches : Pattern → (Place → Bool) → Place → Bool
  | empty, goal, place => goal place
  | one inClass, goal, ⟨_, c :: t⟩ => inClass c && goal ⟨some c, t⟩
  | one _, _, ⟨_, []⟩ => false
  | many inClass, goal, place => reachesAfter inClass goal place.ahead
  | wordEdge, goal, place => place.isWordEdge && goal place
  | both p q, goal, place => p.reaches (q.reaches goal) place
  | either p q, goal, place => p.reaches goal place || q.reaches goal place

/-- The pattern matches somewhere from the place on. -/
def foundFrom (p : Pattern) (behind : Option Char) : Text → Bool
  | [] => p.reaches (fun _ => true) ⟨behind, []⟩
  | c :: t => p.reaches (fun _ => true) ⟨behind, c :: t⟩ || foundFrom p (some c) t

def found (p : Pattern) (t : Text) : Bool := p.foundFrom none t

end Pattern

end PostMarkup
