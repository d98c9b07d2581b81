import PostMarkup.Failure

/-! The disk as a run of the program sees it, and disks made of a tree of files. -/

namespace PostMarkup

structure Disk where
  isThere : Text → Bool
  read : Text → Except IoError ByteArray
  /-- Why a file cannot be written, if it cannot. -/
  refusal? : Text → Option IoError

def decodeUtf8 (bytes : ByteArray) : Except IoError Text :=
  match String.fromUTF8? bytes with
  | some s => .ok s.toList
  | none => .error .notUtf8

def encodeUtf8 (t : Text) : ByteArray := (String.ofList t).toUTF8

theorem decodeUtf8_encodeUtf8 (t : Text) : decodeUtf8 (encodeUtf8 t) = .ok t := by
  have hvalid : (String.ofList t).toUTF8.IsValidUTF8 := (String.ofList t).isValidUTF8
  rw [decodeUtf8, encodeUtf8, String.fromUTF8?, dif_pos hvalid]
  exact congrArg Except.ok String.toList_ofList

theorem decodeUtf8_eq_error_iff {bytes : ByteArray} {error : IoError} :
    decodeUtf8 bytes = .error error ↔ String.fromUTF8? bytes = none ∧ error = .notUtf8 := by
  rw [decodeUtf8]
  cases String.fromUTF8? bytes <;> simp [eq_comm]

inductive Entry where
  | file (bytes : ByteArray)
  | directory

/-- A tree of files, each under the names that lead to it from the root, and the directory from
which paths start. -/
structure Files where
  entries : List (List Text × Entry)
  home : List Text

namespace Files

def maxNameBytes : Nat := 255

def maxPathBytes : Nat := 4095

/-- What is under the names given. The root is always there. -/
def lookup (files : Files) (names : List Text) : Option Entry :=
  if names = [] then some .directory else List.lookup names files.entries

def put (files : Files) (names : List Text) (entry : Entry) : Files :=
  { files with
    entries := (names, entry) :: files.entries.filter fun old => old.1 != names }

/-- The names in a path, without those that are empty. -/
def names (path : Text) : List Text := (path.splitOn '/').filter fun name => !name.isEmpty

/-- Where a name leads from a directory. One dot stands for the directory itself and two for the one
above it, where the root is above itself. -/
def step (place : List Text) (name : Text) : List Text :=
  if name = ['.'] then place
  else if name = ['.', '.'] then place.dropLast
  else place ++ [name]

/-- The tree with an entry where names lead from a place, and with all directories on the way. -/
def addFrom (files : Files) (entry : Entry) : List Text → List Text → Files
  | place, [] => files.put place entry
  | place, name :: rest =>
    let files :=
      if (files.lookup place).isNone then files.put place .directory else files
    files.addFrom entry (step place name) rest

/-- The tree with an entry at the end of a path from home. -/
def add (files : Files) (path : Text) (entry : Entry) : Files :=
  files.addFrom entry files.home (names path)

def empty (home : List Text) : Files := addFrom ⟨[], home⟩ .directory [] home

/-- Follows names from a place of the tree. Every name but the last must be that of a directory. -/
def walk (files : Files) : List Text → List Text → Except IoError (List Text)
  | place, [] => .ok place
  | place, name :: rest =>
    match files.lookup place with
    | none => .error .notFound
    | some (.file _) => .error .notDirectory
    | some .directory =>
      if maxNameBytes < Text.utf8Size name then .error .nameTooLong
      else files.walk (step place name) rest

/-- Where a path starts, unless no path can look like it. -/
def start (files : Files) (path : Text) : Except IoError (List Text) :=
  if path.contains '\x00' then .error .nulInPath
  else if maxPathBytes < path.utf8Size then .error .nameTooLong
  else
    match path with
    | [] => .error .notFound
    | '/' :: _ => .ok []
    | _ => .ok files.home

def find (files : Files) (path : Text) : Except IoError Entry := do
  let place ← files.walk (← files.start path) (names path)
  match files.lookup place with
  | none => .error .notFound
  | some (.file bytes) =>
    if path.getLast? = some '/' then .error .notDirectory else .ok (.file bytes)
  | some .directory => .ok .directory

/-- Where a file is put that is written under a path: in a directory that is there already, in the
place of a file or where nothing is. A path with a slash at its end is one of a directory. -/
def target (files : Files) (path : Text) : Except IoError (List Text) := do
  let start ← files.start path
  let directory ← files.walk start (names path).dropLast
  match files.lookup directory, (names path).getLast? with
  | none, _ => .error .notFound
  | some (.file _), _ => .error .notDirectory
  | some .directory, none => .error .isDirectory
  | some .directory, some name =>
    if path.getLast? = some '/' then .error .isDirectory
    else
      let place ← files.walk directory [name]
      match files.lookup place with
      | some .directory => .error .isDirectory
      | _ => .ok place

def read (files : Files) (path : Text) : Except IoError ByteArray := do
  match ← files.find path with
  | .file bytes => .ok bytes
  | .directory => .error .isDirectory

/-- The tree after a file is written, which replaces all that the path led to. -/
def write (files : Files) (path : Text) (bytes : ByteArray) : Except IoError Files := do
  return files.put (← files.target path) (.file bytes)

def disk (files : Files) : Disk where
  isThere path := (files.find path).isOk
  read := files.read
  refusal? path :=
    match files.target path with
    | .ok _ => none
    | .error error => some error

end Files

end PostMarkup
