import Utterance.FileSystem
import Utterance.Text.Quoted

/-!
# File stores

A small file system: a tree of files and directories with a working directory in it, from which relative paths are
followed. There are no links in it, and nothing in it is forbidden. Names and paths have a greatest length in bytes, and
no path contains the null character.
-/

namespace Utterance
set_option autoImplicit false

/-- Files and directories, each by the names that lead to it from the root. -/
structure FileStore where
  files : List (List String × Text.Bytes) := []
  directories : List (List String) := []
  workingDirectory : List String := []
  deriving DecidableEq, Repr, Inhabited

/-- Why a path cannot be used. -/
inductive AccessFault where
  | notFound
  | isDirectory
  | notDirectory
  | nameTooLong
  deriving DecidableEq, Repr, Inhabited

namespace AccessFault

/-- The kind of failure. -/
def kind : AccessFault → String
  | .notFound => "not found"
  | .isDirectory => "is a directory"
  | .notDirectory => "not a directory"
  | .nameTooLong => "name too long"

/-- What is said about it, apart from the path. -/
def reason : AccessFault → String
  | .notFound => "[Errno 2] No such file or directory: "
  | .isDirectory => "[Errno 21] Is a directory: "
  | .notDirectory => "[Errno 20] Not a directory: "
  | .nameTooLong => "[Errno 36] File name too long: "

/-- The failure that names a path. -/
def naming (fault : AccessFault) (path : String) : SystemFault :=
  .refused fault.kind (fault.reason ++ Text.quoted path)

end AccessFault

/-- A path or a word contains the null character. -/
def nullByte : SystemFault := .other "bad value" "embedded null byte"

/-- What a path leads to. -/
inductive Target where
  | file (names : List String) (bytes : Text.Bytes)
  | directory (names : List String)
  /-- nothing yet, in a directory that exists -/
  | free (names : List String)
  /-- nothing, and nowhere to put it -/
  | missing
  /-- the path goes on below a file -/
  | belowFile
  /-- a name or the whole path is too long -/
  | tooLong
  /-- the path contains the null character -/
  | unnameable
  deriving DecidableEq, Repr, Inhabited

/-- The most bytes of a name. -/
def nameLimit : Nat := 255

/-- The most bytes of a path. -/
def pathLimit : Nat := 4095

/-- Why a target that is no file cannot be opened as one. -/
def Target.openFault (target : Target) (path : Path) : SystemFault :=
  match target with
  | .directory _ => AccessFault.isDirectory.naming path.text
  | .belowFile => AccessFault.notDirectory.naming path.text
  | .tooLong => AccessFault.nameTooLong.naming path.text
  | .unnameable => nullByte
  | _ => AccessFault.notFound.naming path.text

namespace FileStore

/-- What a name in a directory leads to. Above the root there is only the root. -/
def lookUp (store : FileStore) (place : List String) (name : String) : Target :=
  if name = ".." then .directory place.dropLast
  else if nameLimit < name.utf8ByteSize then .tooLong
  else
    let names := place ++ [name]
    match store.files.lookup names with
    | some bytes => .file names bytes
    | none => if store.directories.contains names then .directory names else .free names

/-- What names lead to from a target on. -/
def follow (store : FileStore) : Target → List String → Target
  | target, [] => target
  | .directory place, name :: rest => store.follow (store.lookUp place name) rest
  | .file _ _, _ :: _ => .belowFile
  | .free _, _ :: _ => .missing
  | .missing, _ :: _ => .missing
  | .belowFile, _ :: _ => .belowFile
  | .tooLong, _ :: _ => .tooLong
  | .unnameable, _ :: _ => .unnameable

/-- What a path leads to from a directory. -/
def findFrom (store : FileStore) (place : List String) (path : Path) : Target :=
  if path.text.toList.contains '\x00' then .unnameable
  else if pathLimit < path.text.utf8ByteSize then .tooLong
  else store.follow (.directory (if path.root.isEmpty then place else [])) path.names

/-- What a path leads to. -/
def find (store : FileStore) (path : Path) : Target :=
  store.findFrom store.workingDirectory path

/-- An empty tree with a working directory. -/
def empty (workingDirectory : List String) : FileStore where
  directories := (List.range workingDirectory.length).map fun i => workingDirectory.take (i + 1)
  workingDirectory := workingDirectory

/-- The store with a directory and all that lead to it. -/
def withDirectory (store : FileStore) (names : List String) : FileStore :=
  let leading := (List.range names.length).map fun i => names.take (i + 1)
  { store with directories := store.directories ++ leading.filter fun names => !store.directories.contains names }

/-- The store with a file and the directories that lead to it. -/
def withFile (store : FileStore) (names : List String) (bytes : Text.Bytes) : FileStore :=
  let store := store.withDirectory names.dropLast
  { store with files := store.files.filter (fun file => file.1 != names) ++ [(names, bytes)] }

/-- The files below the working directory, by the names that lead to them from it. -/
def localFiles (store : FileStore) : List (List String × Text.Bytes) :=
  store.files.filterMap fun (names, bytes) =>
    if store.workingDirectory.isPrefixOf names then some (names.drop store.workingDirectory.length, bytes) else none

/-- Whether a path leads to a file. Only of a path that is too long this cannot be said. -/
def isFile (store : FileStore) (path : Path) : Except SystemFault Bool :=
  match store.find path with
  | .file _ _ => .ok true
  | .tooLong => .error (AccessFault.nameTooLong.naming path.text)
  | _ => .ok false

/-- Whether a path leads to a file or directory. Only of a path that is too long this cannot be said. -/
def contains (store : FileStore) (path : Path) : Except SystemFault Bool :=
  match store.find path with
  | .file _ _ => .ok true
  | .directory _ => .ok true
  | .tooLong => .error (AccessFault.nameTooLong.naming path.text)
  | _ => .ok false

/-- Sets the contents of a file. -/
def put (store : FileStore) (names : List String) (bytes : Text.Bytes) : FileStore :=
  if store.files.any fun file => file.1 == names then
    { store with files := store.files.map fun file => if file.1 == names then (names, bytes) else file }
  else { store with files := store.files ++ [(names, bytes)] }

/-- Takes a file away. -/
def erase (store : FileStore) (names : List String) : FileStore :=
  { store with files := store.files.filter fun file => file.1 != names }

/-- The names directly in a directory, in order. -/
def entries (store : FileStore) (place : List String) : List String :=
  let below := store.files.map Prod.fst ++ store.directories
  let names := below.filterMap fun names => if names.dropLast == place then names.getLast? else none
  names.mergeSort fun a b => decide (a ≤ b)

/-- Takes away a directory or file with all that is below it. -/
def eraseTree (store : FileStore) (names : List String) : FileStore :=
  { store with
    files := store.files.filter fun file => !names.isPrefixOf file.1
    directories := store.directories.filter fun directory => !names.isPrefixOf directory }

/-- The files and directories at a place and below it, by the names that lead to them from it. -/
def tree (store : FileStore) (names : List String) : List (List String × Text.Bytes) × List (List String) :=
  let below (path : List String) := if names.isPrefixOf path then some (path.drop names.length) else none
  (store.files.filterMap fun file => (below file.1).map fun path => (path, file.2), store.directories.filterMap below)

/-- Puts files and directories at a place. -/
def graft (store : FileStore) (names : List String) (tree : List (List String × Text.Bytes) × List (List String)) :
    FileStore :=
  let store := tree.2.foldl (fun store path => store.withDirectory (names ++ path)) store
  tree.1.foldl (fun store file => store.put (names ++ file.1) file.2) store

/-- The names of a file to read from. -/
def readable (store : FileStore) (path : Path) : Except SystemFault (List String) :=
  match store.find path with
  | .file names _ => .ok names
  | target => .error (target.openFault path)

/-- The names of a file to write to. -/
def writable (store : FileStore) (path : Path) : Except SystemFault (List String) :=
  match store.find path with
  | .file names _ => .ok names
  | .free names => .ok names
  | target => .error (target.openFault path)

instance : FileSystem FileStore where
  Place := List String
  isFile := isFile
  contains := contains
  openToRead := readable
  read store names :=
    match store.files.lookup names with
    | some bytes => .ok bytes
    | none => .error (AccessFault.notFound.naming (Path.text ⟨"/", names⟩))
  openToWrite store path :=
    match store.writable path with
    | .ok names => (store.put names [], .ok names)
    | .error fault => (store, .error fault)
  write store names bytes := (store.put names bytes, .ok ())
  delete store path :=
    match store.find path with
    | .file names _ => (store.erase names, .ok ())
    | target => (store, .error (target.openFault path))

end FileStore

end Utterance
