import PostMarkup.Config
import PostMarkup.Config.Toml.Scalar

/-! TOML documents. Reading keeps, for every table, how it came about, because that decides whether
later lines may add to it; what remains in the end is a setting. -/

namespace PostMarkup

namespace Toml

inductive TableKind where
  /-- By a header of its own. -/
  | header
  /-- By a header for a table inside it. -/
  | implied
  /-- By a dotted key. -/
  | dotted
  /-- As a value. -/
  | closed
  deriving DecidableEq, Repr

inductive Node where
  | value (setting : Setting)
  | list (items : List Node)
  | table (kind : TableKind) (entries : List (Text × Node))
  /-- A list whose tables each have a header of their own. -/
  | tables (items : List Node)

mutual

def Node.setting : Node → Setting
  | .value setting => setting
  | .list items | .tables items => .list (settings items)
  | .table _ entries => .table (entrySettings entries)

def settings : List Node → List Setting
  | [] => []
  | node :: rest => node.setting :: settings rest

def entrySettings : List (Text × Node) → List (Text × Setting)
  | [] => []
  | (key, node) :: rest => (key, node.setting) :: entrySettings rest

end

abbrev Entries := List (Text × Node)

/-- The entries with `key` bound to `node`. A key that is there already keeps its place. -/
def Entries.put (key : Text) (node : Node) : Entries → Entries
  | [] => [(key, node)]
  | (other, old) :: rest =>
    if other = key then (key, node) :: rest else (other, old) :: Entries.put key node rest

/-- Changes the table at the end of a path, and makes those on the way that are not there. A path of
dotted keys must not pass through tables with headers of their own, and the tables it does pass
through are made by dotted keys from then on. No path passes through a table that is a value. -/
def within (isDotted : Bool) (change : TableKind → Entries → Option Node) :
    List Text → TableKind → Entries → Option Node
  | [], kind, entries => change kind entries
  | key :: path, kind, entries =>
    let child? :=
      match entries.lookup key with
      | none => within isDotted change path (if isDotted then .dotted else .implied) []
      | some (.table childKind childEntries) =>
        if childKind = TableKind.closed ∨ (isDotted ∧ childKind = TableKind.header) then none
        else within isDotted change path (if isDotted then .dotted else childKind) childEntries
      | some (.tables items) =>
        match items.getLast? with
        | some (.table lastKind lastEntries) =>
          (within isDotted change path lastKind lastEntries).map fun last =>
            .tables (items.dropLast ++ [last])
        | _ => none
      | some _ => none
    child?.map fun child => .table kind (Entries.put key child entries)

/-- Binds a key of a table to a node. The key must be new, and the last of a dotted key must belong
to a table that dotted keys made. -/
def bind (path : List Text) (node : Node) (kind : TableKind) (entries : Entries) : Option Node :=
  match path.getLast? with
  | none => none
  | some key =>
    let insert := fun (kind : TableKind) (entries : Entries) =>
      if (kind = .dotted) ↔ path.dropLast = [] then none
      else if (entries.lookup key).isSome then none
      else some (.table kind (Entries.put key node entries))
    within true insert path.dropLast kind entries

/-- Opens the table that a header names. -/
def openTable (key : Text) (kind : TableKind) (entries : Entries) : Option Node :=
  match entries.lookup key with
  | none => some (.table kind (Entries.put key (.table .header []) entries))
  | some (.table .implied inner) =>
    some (.table kind (Entries.put key (.table .header inner) entries))
  | some _ => none

/-- Opens a further table of the list that a header in double brackets names. -/
def openItem (key : Text) (kind : TableKind) (entries : Entries) : Option Node :=
  match entries.lookup key with
  | none => some (.table kind (Entries.put key (.tables [.table .header []]) entries))
  | some (.tables items) =>
    some (.table kind (Entries.put key (.tables (items ++ [.table .header []])) entries))
  | some _ => none

/-- Changes the table at the end of a path of headers in a document. -/
def Node.at (path : List Text) (change : TableKind → Entries → Option Node) : Node → Option Node
  | .table kind entries => within false change path kind entries
  | _ => none

/-- The most lists and tables that may be nested, and the most parts of a key. -/
def maxDepth : Nat := 80

def isKeyChar (c : Char) : Bool := c.isAlphanum || c == '_' || c == '-'

def keyPart? (t : Text) : Option (Text × Text) :=
  match t with
  | '"' :: t => basic? t.length t
  | '\'' :: t => literal? t
  | t =>
    let key := t.takeWhile isKeyChar
    if key = [] then none else some (key, t.dropWhile isKeyChar)

/-- Reads a key of at most `fuel` parts, with the spacing after it. -/
def key? : (fuel : Nat) → Text → Option (List Text × Text)
  | 0, _ => none
  | fuel + 1, t => do
    let (part, t) ← keyPart? t
    match t.skipSpacing with
    | '.' :: t =>
      let (parts, t) ← key? fuel (Text.skipSpacing t)
      return (part :: parts, t)
    | t => return ([part], t)

/-- What follows the comment that a text starts with, if it does, up to the end of the line. -/
def skipComment? : Text → Option Text
  | '#' :: t =>
    match t.dropWhile isOnLine with
    | [] => some []
    | rest => if (lineBreak? rest).isSome then some rest else none
  | t => some t

/-- What follows blanks, line breaks and comments, of at most `fuel` lines. -/
def skipLines? : (fuel : Nat) → Text → Option Text
  | 0, _ => none
  | fuel + 1, t => do
    let t ← skipComment? t.skipSpacing
    match lineBreak? t with
    | some t => skipLines? fuel t
    | none => some t

def skipAll? (t : Text) : Option Text := skipLines? (t.length + 1) t

/-- Reads the items of a list up to its end, at most `fuel` of them. -/
def items? (item? : Text → Option (Node × Text)) : (fuel : Nat) → Text → Option (List Node × Text)
  | 0, _ => none
  | fuel + 1, t => do
    match ← skipAll? t with
    | ']' :: t => return ([], t)
    | t =>
      let (item, t) ← item? t
      match ← skipAll? t with
      | ',' :: t =>
        let (rest, t) ← items? item? fuel t
        return (item :: rest, t)
      | ']' :: t => return ([item], t)
      | _ => none

/-- Reads a key, an equals sign and a value, with what `skip?` passes over on both sides of the
sign. -/
def entry? (skip? : Text → Option Text) (item? : Text → Option (Node × Text)) (t : Text) :
    Option ((List Text × Node) × Text) := do
  let (path, t) ← key? maxDepth t
  let (node, t) ← item? (← skip? (← expect? '=' (← skip? t)))
  return ((path, node), t)

/-- Reads the entries of a table that is a value up to its end, at most `fuel` of them. -/
def entries? (item? : Text → Option (Node × Text)) :
    (fuel : Nat) → Node → Text → Option (Node × Text)
  | 0, _, _ => none
  | fuel + 1, node, t => do
    match ← skipAll? t with
    | '}' :: t => return (node, t)
    | t =>
      let ((path, item), t) ← entry? skipAll? item? t
      let node ← node.at [] (bind path item)
      match ← skipAll? t with
      | ',' :: t => entries? item? fuel node t
      | '}' :: t => return (node, t)
      | _ => none

def Node.close : Node → Node
  | .table _ entries => .table .closed entries
  | node => node

/-- Reads a value in which lists and tables are nested at most `depth` deep. -/
def value? : (depth : Nat) → Text → Option (Node × Text)
  | 0, t =>
    match t with
    | '[' :: _ => none
    | '{' :: _ => none
    | t => plain? t
  | depth + 1, t =>
    match t with
    | '[' :: t => do
      let (items, t) ← items? (value? depth) (t.length + 1) t
      return (.list items, t)
    | '{' :: t => do
      let (node, t) ← entries? (value? depth) (t.length + 1) (.table .header []) t
      return (node.close, t)
    | t => plain? t
where
  /-- Reads a value that holds no others. -/
  plain? (t : Text) : Option (Node × Text) :=
    match t with
    | '"' :: _ => (quoted? t).map fun read => (.value .other, read.2)
    | '\'' :: _ => (quoted? t).map fun read => (.value .other, read.2)
    | t => (unquoted? t).map fun read => (.value read.1, read.2)

/-- What follows the end of a line, where only a comment may stand before it. -/
def lineEnd? (t : Text) : Option Text := do
  let t ← skipComment? t.skipSpacing
  if t = [] then some [] else lineBreak? t

/-- Reads a header with its brackets, and tells whether they are double. -/
def header? (t : Text) : Option ((Bool × List Text) × Text) := do
  match t with
  | '[' :: '[' :: t =>
    let (path, t) ← key? maxDepth (Text.skipSpacing t)
    return ((true, path), ← expect? ']' (← expect? ']' t))
  | '[' :: t =>
    let (path, t) ← key? maxDepth (Text.skipSpacing t)
    return ((false, path), ← expect? ']' t)
  | _ => none

/-- Reads the rest of a document of which at most `fuel` lines are left. Keys belong to the table at
the end of `path`. -/
def rest? : (fuel : Nat) → (path : List Text) → Node → Text → Option Node
  | 0, _, _, _ => none
  | fuel + 1, path, node, t => do
    match ← skipAll? t with
    | [] => return node
    | '[' :: t =>
      let ((isItem, path), t) ← header? ('[' :: t)
      let key ← path.getLast?
      let node ← node.at path.dropLast (if isItem then openItem key else openTable key)
      rest? fuel path node (← lineEnd? t)
    | t =>
      let ((keys, item), t) ← entry? (fun t => some t.skipSpacing) (value? maxDepth) t
      let node ← node.at path (bind keys item)
      rest? fuel path node (← lineEnd? t)

def parse? (t : Text) : Option Setting := do
  let t := if t.head? = some '\uFEFF' then t.drop 1 else t
  return (← rest? (t.length + 1) [] (.table .header []) t).setting

end Toml

/-- The reader of configurations in TOML. -/
def Config.ofToml : Config.Reader := fun t =>
  match Toml.parse? t with
  | none => .error "invalid TOML document"
  | some setting =>
    match Config.ofSetting? setting with
    | none => .error "invalid type or value of a setting"
    | some config => .ok config

end PostMarkup
