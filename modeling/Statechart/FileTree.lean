/-! Files as a program sees them: a path leads to a text, to something that cannot be read as a text, or
to nothing at all, and in the last two cases there is a reason. The reasons are those of a Unix system,
and a directory can be given as the list of the files in it. -/
namespace Statechart

/-- Why a path does not lead to a text. -/
inductive ReadError where
  /-- There is nothing at the path. -/
  | notFound
  /-- Something on the way is no directory. -/
  | notDirectory
  /-- A directory is at the path. -/
  | isDirectory
  /-- A step of the path is longer than any name can be. -/
  | nameTooLong
  /-- The path holds a character that no name can hold. -/
  | invalidName
  /-- The file holds something else than UTF-8 text. -/
  | notText
  /-- Any other reason. -/
  | other (text : String)
deriving DecidableEq, Repr

/-- The wording of a reason. -/
def ReadError.message : ReadError → String
  | notFound => "No such file or directory (os error 2)"
  | notDirectory => "Not a directory (os error 20)"
  | isDirectory => "Is a directory (os error 21)"
  | nameTooLong => "File name too long (os error 36)"
  | invalidName => "file name contained an unexpected NUL byte"
  | notText => "stream did not contain valid UTF-8"
  | other text => text

/-- What a path leads to. -/
inductive Found where
  /-- A text. -/
  | text (content : String)
  /-- Something that cannot be read as a text: a directory, say, or a file that is for others to read. -/
  | unreadable (reason : ReadError)
  /-- Nothing, or nothing that can be reached. -/
  | absent (reason : ReadError)
deriving DecidableEq, Repr

namespace Found

/-- Whether there is anything. What cannot be read is there all the same. -/
def isPresent : Found → Bool
  | text _ | unreadable _ => true
  | absent _ => false

/-- What comes of reading it. -/
def read : Found → Except ReadError String
  | text content => .ok content
  | unreadable reason | absent reason => .error reason

/-- Something that is there, given what came of reading it. -/
def ofRead : Except ReadError String → Found
  | .ok content => text content
  | .error reason => unreadable reason

end Found

/-- What paths lead to. -/
abbrev Files := String → Found

/-- The text that some bytes encode. -/
def decodeText (bytes : ByteArray) : Except ReadError String :=
  match String.fromUTF8? bytes with
  | some text => .ok text
  | none => .error .notText

/-- A place in a file system. -/
structure Place where
  /-- The names on the way down from the root. -/
  names : List String
deriving DecidableEq, Repr

namespace Place

/-- The place around all others. -/
def root : Place := ⟨[]⟩

/-- The directory around a place. The one around the root is the root itself, so that no path leads out
of the file system. -/
def parent (p : Place) : Place := ⟨p.names.dropLast⟩

/-- The place a step of a path leads to. An empty step and a dot stay where they are. -/
def step (p : Place) (name : String) : Place :=
  if name = "" ∨ name = "." then p
  else if name = ".." then p.parent
  else ⟨p.names ++ [name]⟩

/-- The places that some steps start from, one after the other. -/
def passed (p : Place) : List String → List Place
  | [] => []
  | name :: rest => p :: passed (p.step name) rest

end Place

/-- Files and directories, and the directory from which somebody looks at them. -/
structure FileTree where
  /-- The files and what they hold; of several at one place the first counts. -/
  files : List (Place × ByteArray)
  /-- The directories, apart from the root. -/
  directories : List Place
  /-- Where relative paths start. -/
  here : Place

namespace FileTree

/-- What can be at a place. -/
inductive Entry where
  /-- A file. -/
  | file (bytes : ByteArray)
  /-- A directory. -/
  | directory

/-- The steps of a path. Two slashes in a row, and a slash at either end, have an empty step at their
side. -/
def steps (path : String) : List String :=
  let cut (c : Char) (parts : List (List Char)) : List (List Char) :=
    match c, parts with
    | '/', parts => [] :: parts
    | c, part :: later => (c :: part) :: later
    | c, [] => [[c]]
  (path.toList.foldr cut [[]]).map String.ofList

/-- What every system has, seen from a new directory among the temporary ones. -/
def system : FileTree :=
  let top := ["bin", "boot", "dev", "etc", "home", "lib", "media", "mnt", "opt", "proc", "root", "run",
    "sbin", "srv", "sys", "tmp", "usr", "var"]
  let here : Place := ⟨["tmp", "statechart"]⟩
  { files := [(⟨["dev", "null"]⟩, .empty)]
    directories := here :: top.map fun name => ⟨[name]⟩
    here }

/-- Writes a file at a relative path. The directories that the path leads through are made. -/
def write (tree : FileTree) (path : String) (bytes : ByteArray) : FileTree :=
  { tree with
    files := ((steps path).foldl Place.step tree.here, bytes) :: tree.files
    directories := tree.here.passed (steps path) ++ tree.directories }

/-- A system with some files at relative paths; a later one at the same place replaces an earlier one. -/
def ofList (files : List (String × ByteArray)) : FileTree :=
  files.foldl (fun tree (path, bytes) => tree.write path bytes) system

/-- What is at a place. -/
def entry? (tree : FileTree) (place : Place) : Option Entry :=
  match tree.files.lookup place with
  | some bytes => some (.file bytes)
  | none =>
    if place = .root ∨ place ∈ tree.directories then some .directory else none

/-- What the steps of a path lead to from a place. Every step must start from a directory. -/
def walk (tree : FileTree) : List String → Place → Except ReadError Entry
  | [], place =>
    match tree.entry? place with
    | some entry => .ok entry
    | none => .error .notFound
  | name :: rest, place =>
    match tree.entry? place with
    | none => .error .notFound
    | some (.file _) => .error .notDirectory
    | some .directory =>
      if 255 < name.utf8ByteSize then .error .nameTooLong else walk tree rest (place.step name)

/-- What is at a path. -/
def locate (tree : FileTree) (path : String) : Except ReadError Entry :=
  if '\x00' ∈ path.toList then .error .invalidName
  else if 4096 ≤ path.utf8ByteSize then .error .nameTooLong
  else
    match steps path with
    | [""] => .error .notFound
    | "" :: absolute => tree.walk absolute .root
    | relative => tree.walk relative tree.here

/-- What paths lead to. -/
def read (tree : FileTree) : Files := fun path =>
  match tree.locate path with
  | .ok (.file bytes) => .ofRead (decodeText bytes)
  | .ok .directory => .unreadable .isDirectory
  | .error reason => .absent reason

end FileTree

end Statechart
