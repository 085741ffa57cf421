import IdentityToken.Text.Split
import IdentityToken.Text.Utf8
/-!
# Files

A file system is a tree of directories, files and links with a working directory. Paths are texts:
names between slashes, with `.` and `..` as usual, and links on the way are followed. Each file and
directory says what it lets be done, and a write may break off in the middle. So reading, writing
and creating directories fail for all reasons that `FileError` lists.

What is created can be read, written and entered, and has as much room as its directory. Nobody else
changes the tree while a request runs.
-/

namespace IdentityToken

inductive FileError where
  | notFound
  | permissionDenied
  | exists
  | notDirectory
  | isDirectory
  | noSpace
  | nameTooLong
  | tooManyLinks
  | notUtf8
  | nulInName
  | other (text : String)
deriving DecidableEq

def FileError.message : FileError → String
  | notFound => "No such file or directory (os error 2)"
  | permissionDenied => "Permission denied (os error 13)"
  | .exists => "File exists (os error 17)"
  | notDirectory => "Not a directory (os error 20)"
  | isDirectory => "Is a directory (os error 21)"
  | noSpace => "No space left on device (os error 28)"
  | nameTooLong => "File name too long (os error 36)"
  | tooManyLinks => "Too many levels of symbolic links (os error 40)"
  | notUtf8 => "stream did not contain valid UTF-8"
  | nulInName => "file name contained an unexpected NUL byte"
  | other text => text

/-- A place in the tree: the names from the root to it. -/
abbrev Place := List String

/-- What a file or a directory lets be done, and how many octets can be written to the file, or to a
file that is created in the directory, before a write breaks off for a reason. To create something
in a directory is to write it. -/
structure Access where
  reading : Except FileError Unit := .ok ()
  writing : Except FileError Unit := .ok ()
  entering : Except FileError Unit := .ok ()
  room : Option (Nat × FileError) := none

/-- What a place holds. A link leads on from another place by names, and one without names is a
second name of what is there. -/
inductive Entry where
  | file (content : Bytes) (access : Access := {})
  | directory (access : Access := {})
  | link (start : Place) (names : List String)

/-- A tree seen from its working directory. Of two entries for one place the first counts. -/
structure FileSystem where
  entries : List (Place × Entry)
  here : Place

/-- What there is room for of octets that are written, and how the write ends. -/
def Access.store (access : Access) (content : Bytes) : Bytes × Except FileError Unit :=
  match access.room with
  | none => (content, .ok ())
  | some (room, e) =>
    if room < content.length then (content.take room, .error e) else (content, .ok ())

namespace FileSystem

/-- What a place holds. The root is always a directory. -/
def entry? (fs : FileSystem) : Place → Option Entry
  | [] =>
    match fs.entries.lookup [] with
    | some (.directory access) => some (.directory access)
    | _ => some .directory
  | place => fs.entries.lookup place

def link? (fs : FileSystem) (place : Place) : Option (Place × List String) :=
  match fs.entry? place with
  | some (.link start names) => some (start, names)
  | _ => none

def put (fs : FileSystem) (place : Place) (entry : Entry) : FileSystem :=
  { fs with entries := (place, entry) :: fs.entries }

def maxName : Nat := 255

/-- The length in octets that a path does not reach. -/
def maxPath : Nat := 4096

def maxLinks : Nat := 40

/-- The place of a name in a directory. It may hold a link. -/
def step (fs : FileSystem) (place : Place) (name : String) : Except FileError Place :=
  match fs.entry? place with
  | some (.directory access) => do
    access.entering
    if name = "." then .ok place
    else if name = ".." then .ok place.dropLast
    else if maxName < (Text.utf8 name).length then .error .nameTooLong
    else .ok (place ++ [name])
  | some _ => .error .notDirectory
  | none => .error .notFound

/-- Follows names up to the first link, and gives the names behind it. -/
def advance (fs : FileSystem) : Place → List String → Except FileError (Place × List String)
  | place, [] => .ok (place, [])
  | place, name :: rest => do
    let next ← fs.step place name
    if (fs.link? next).isSome then .ok (next, rest) else fs.advance next rest

/-- Follows names, and from the first link on another way. If `last` is false a link at the end is
left as it is. -/
def walkWith (fs : FileSystem) (last : Bool) (onward : Place → List String → Except FileError Place)
    (place : Place) (names : List String) : Except FileError Place := do
  let (reached, rest) ← fs.advance place names
  match fs.link? reached with
  | none => .ok reached
  | some (start, ahead) =>
    if rest = [] ∧ last = false then .ok reached else onward start (ahead ++ rest)

/-- Follows names and at most so many links. -/
def walk (fs : FileSystem) (last : Bool) : Nat → Place → List String → Except FileError Place
  | 0 => fs.walkWith last fun _ _ => .error .tooManyLinks
  | links + 1 => fs.walkWith last (fs.walk last links)

def names (path : String) : List String := (Text.split '/' path).filter (· ≠ "")

/-- Whether a path ends with a slash, so that only a directory can be meant. -/
def wantsDirectory (path : String) : Bool := path.toList.getLast? == some '/'

/-- The place that a path leads to. Nothing is said of what is there, but if `last` is true it is no
link. -/
def locate (fs : FileSystem) (path : String) (last : Bool := true) : Except FileError Place :=
  if '\x00' ∈ path.toList then .error .nulInName
  else if path = "" then .error .notFound
  else if maxPath ≤ (Text.utf8 path).length then .error .nameTooLong
  else fs.walk last maxLinks (if path.toList.head? = some '/' then [] else fs.here) (names path)

def lookup (fs : FileSystem) (path : String) : Except FileError Entry := do
  match fs.entry? (← fs.locate path) with
  | some (.file content access) =>
    if wantsDirectory path then .error .notDirectory else .ok (.file content access)
  | some (.directory access) => .ok (.directory access)
  | _ => .error .notFound

/-- Whether it is certain that a path leads to something. What cannot be told for any error, such as
a directory on the way that must not be entered, counts as no. -/
def exists? (fs : FileSystem) (path : String) : Bool := (fs.lookup path).isOk

/-- Whether a path leads to a directory; an error counts as no. -/
def isDirectory (fs : FileSystem) (path : String) : Bool :=
  match fs.lookup path with
  | .ok (.directory _) => true
  | _ => false

def readBytes (fs : FileSystem) (path : String) : Except FileError Bytes := do
  match ← fs.lookup path with
  | .file content access => access.reading.map fun _ => content
  | .directory access => access.reading >>= fun _ => .error .isDirectory
  | .link .. => .error .notFound

def readText (fs : FileSystem) (path : String) : Except FileError String := do
  match Text.ofUtf8? (← fs.readBytes path) with
  | some s => .ok s
  | none => .error .notUtf8

/-- The place of a file that is opened to be written, and what it lets be done. A missing file can
be opened if it can be created. -/
def openFile (fs : FileSystem) (path : String) : Except FileError (Place × Access) := do
  let place ← fs.locate path
  if wantsDirectory path then .error .isDirectory
  else
    match fs.entry? place, fs.entry? place.dropLast with
    | some (.file _ access), _ => access.writing.map fun _ => (place, access)
    | some _, _ => .error .isDirectory
    | none, some (.directory above) => above.writing.map fun _ => (place, { room := above.room })
    | none, _ => .error .notFound

/-- Writes octets to a file. What was in it is lost as soon as it is open, and of a write that
breaks off the file keeps the beginning. -/
def write (fs : FileSystem) (path : String) (content : Bytes) :
    FileSystem × Except FileError Unit :=
  match fs.openFile path with
  | .error e => (fs, .error e)
  | .ok (place, access) =>
    let (stored, result) := access.store content
    (fs.put place (.file stored access), result)

def createDirectory (fs : FileSystem) (path : String) : Except FileError FileSystem := do
  let place ← fs.locate path false
  match fs.entry? place, fs.entry? place.dropLast with
  | some _, _ => .error .exists
  | none, some (.directory above) =>
    above.writing.map fun _ => fs.put place (.directory { room := above.room })
  | none, _ => .error .notFound

/-- The path without its last name. A name `.` counts only at the start of a path. -/
def parent? (path : String) : Option String :=
  let pieces := names path
  let own := pieces.take 1 ++ (pieces.drop 1).filter (· ≠ ".")
  if path.toList.head? = some '/' then
    match own.filter (· ≠ ".") with
    | [] => none
    | own => some ("/" ++ Text.join '/' own.dropLast)
  else
    match own with
    | [] => none
    | own => some (Text.join '/' own.dropLast)

/-- Creates a directory unless the path leads to one already. -/
def ensureDirectory (fs : FileSystem) (path : String) : FileSystem × Except FileError Unit :=
  match fs.createDirectory path with
  | .ok fs => (fs, .ok ())
  | .error e => (fs, if fs.isDirectory path then .ok () else .error e)

/-- Creates a directory and first those above it that are missing. The number bounds how many those
are. What was created before a failure stays. -/
def createDirectoriesWithin : Nat → FileSystem → String → FileSystem × Except FileError Unit
  | 0, fs, path => fs.ensureDirectory path
  | bound + 1, fs, path =>
    if path = "" then (fs, .ok ())
    else
      match fs.createDirectory path, parent? path with
      | .error .notFound, some parent =>
        match createDirectoriesWithin bound fs parent with
        | (fs, .ok ()) => fs.ensureDirectory path
        | failed => failed
      | _, _ => fs.ensureDirectory path

def createDirectories (fs : FileSystem) (path : String) : FileSystem × Except FileError Unit :=
  createDirectoriesWithin ((names path).length + 1) fs path

def child (path name : String) : String :=
  if path = "" ∨ wantsDirectory path then path ++ name else path ++ "/" ++ name

end FileSystem

end IdentityToken
