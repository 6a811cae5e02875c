import Utterance.Host.Command.Reading

/-!
# Commands on files and directories

Files and directories are listed, made, copied, moved and removed.
-/

namespace Utterance.Host.Command
set_option autoImplicit false

/-! ## Listing -/

/-- The switches of `ls`. -/
def lsSwitches : List Switch :=
  [⟨'a', ["all"], false⟩, ⟨'A', ["almost-all"], false⟩, ⟨'1', [], false⟩, ⟨'d', ["directory"], false⟩,
   ⟨'r', ["reverse"], false⟩, ⟨'R', ["recursive"], false⟩, ⟨'F', ["classify"], false⟩, ⟨'p', [], false⟩,
   ⟨'m', [], false⟩, ⟨'U', [], false⟩, ⟨'S', [], false⟩, ⟨'Q', ["quote-name"], false⟩, ⟨'X', [], false⟩,
   ⟨'B', ["ignore-backups"], false⟩, ⟨'q', [], false⟩, ⟨'N', ["literal"], false⟩]

/-- A name to be listed. -/
structure Listed where
  name : Octets
  isDirectory : Bool
  size : Nat
  deriving Inhabited

/-- Names in the order that is wanted. -/
def inOrder (given : Given) (names : List Listed) : List Listed :=
  let extension (name : Octets) : Octets :=
    if name.contains '.' then (name.reverse.takeWhile (· != '.')).reverse else []
  let byName := names.mergeSort fun a b => decide (toText a.name ≤ toText b.name)
  let sorted := if given.has 'S' then byName.mergeSort fun a b => b.size ≤ a.size
    else if given.has 'X' then
      byName.mergeSort fun a b => decide (toText (extension a.name) ≤ toText (extension b.name))
    else byName
  if given.has 'r' then sorted.reverse else sorted

/-- A name as it is listed. -/
def listedName (given : Given) (listed : Listed) : Octets :=
  let name := if given.has 'Q' then ['"'] ++ listed.name ++ ['"'] else listed.name
  name ++ if listed.isDirectory && (given.has 'F' || given.has 'p') then ['/'] else []

/-- The most columns of a row. -/
def rowWidth : Nat := 80

/-- Names with commas between them, in rows; `used` columns of the row are taken. -/
def inRows : (used : Nat) → List Octets → Octets
  | _, [] => ['\n']
  | used, name :: rest =>
    let width := lineWidth name
    if used = 0 then name ++ inRows width rest
    else if used + width + 2 < rowWidth then [',', ' '] ++ name ++ inRows (used + 2 + width) rest
    else [',', '\n'] ++ name ++ inRows width rest

/-- Names one below the other, or with commas between them. -/
def listing (given : Given) (names : List Listed) : Octets :=
  let shown := (inOrder given names).map (listedName given)
  if given.has 'm' then (if shown.isEmpty then [] else inRows 0 shown) else unlines shown

/-- What is in a directory. The size of a directory is that of a block. -/
def directoryEntries (files : FileStore) (given : Given) (place : List String) : List Listed :=
  let listed (name : String) : Listed :=
    let names := place ++ [name]
    match files.files.lookup names with
    | some bytes => ⟨octets name, false, bytes.length⟩
    | none => ⟨octets name, true, 4096⟩
  let names := (files.entries place).filter fun name =>
    given.has 'a' || given.has 'A' || name.toList.head? != some '.'
  let names := names.filter fun name => !(given.has 'B' && name.toList.getLast? = some '~')
  (if given.has 'a' then [⟨['.'], true, 4096⟩, ⟨['.', '.'], true, 4096⟩] else []) ++ names.map listed

/-- A directory under its name and, if that is wanted, all directories below it; at most `fuel` levels. -/
def listDirectory (files : FileStore) (given : Given) (headed : Bool) : (fuel : Nat) → (label : Octets) →
    (place : List String) → List Octets
  | 0, _, _ => []
  | fuel + 1, label, place =>
    let entries := directoryEntries files given place
    let heading := if headed then label ++ [':', '\n'] else []
    let below := if given.has 'R' then
        (inOrder given entries).filter fun entry => entry.isDirectory && entry.name != ['.'] && entry.name != ['.', '.']
      else []
    let separator := if label.getLast? = some '/' then [] else ['/']
    (heading ++ listing given entries) :: (below.map fun entry =>
      listDirectory files given headed fuel (label ++ separator ++ entry.name) (place ++ [toText entry.name])).flatten

/-- The names that operands lead to: first files, then directories. -/
def ls : Call → Outcome := withSwitches lsSwitches 2 fun call given =>
  let operands := if given.operands.isEmpty then [['.']] else given.operands
  let found := operands.map fun name => (name, call.find name)
  let complaints := found.filterMap fun (name, target) => match target with
    | .file _ _ => none
    | .directory _ => none
    | target =>
      some (Stream.stderr, call.complaint
        (octets "cannot access " ++ quotedName name ++ octets (": " ++ targetMessage target)))
  let files := found.filterMap fun (name, target) => match target with
    | .file _ bytes => some (⟨name, false, bytes.length⟩ : Listed)
    | .directory _ => if given.has 'd' then some ⟨name, true, 4096⟩ else none
    | _ => none
  let directories := if given.has 'd' then [] else
    found.filterMap fun (name, target) => match target with
      | .directory names => some ((⟨name, true, 4096⟩ : Listed), names)
      | _ => none
  let ordered := (inOrder given (directories.map Prod.fst)).filterMap fun listed =>
    directories.find? fun directory => directory.1.name == listed.name
  let headed := 1 < operands.length || given.has 'R'
  let depth := call.files.directories.length + 1
  let blocks := (if files.isEmpty then [] else [listing given files]) ++
    ordered.flatMap fun (listed, names) => listDirectory call.files given headed depth listed.name names
  { ended call (complaints ++ [(.stdout, joinWith ['\n'] blocks)]) with
    status := if complaints.isEmpty then 0 else 2 }

/-! ## Making and removing -/

/-- How far a command on files has come: the files, and what it has written, last first. -/
structure TreeWork where
  files : FileStore
  writes : List (Stream × Octets) := []
  failed : Bool := false
  deriving Inhabited

namespace TreeWork

/-- The work with a complaint. -/
def complain (work : TreeWork) (call : Call) (text : Octets) : TreeWork :=
  { work with writes := (.stderr, call.complaint text) :: work.writes, failed := true }

/-- The work with a line of output. -/
def say (work : TreeWork) (text : Octets) : TreeWork :=
  { work with writes := (.stdout, text ++ ['\n']) :: work.writes }

/-- The end of a command on files. -/
def outcome (work : TreeWork) (call : Call) : Outcome :=
  { status := if work.failed then 1 else 0, writes := work.writes.reverse, files := work.files, input := call.input }

/-- What a name leads to among the files as they are now. -/
def find (work : TreeWork) (call : Call) (name : Octets) : Target :=
  { call with files := work.files }.find name

end TreeWork

/-- The paths that lead to a path, from the first on, and the path itself. -/
def leadingPaths (name : Octets) : List Octets :=
  let parts := splitOn '/' name
  let starts := (List.range parts.length).map fun i => joinWith ['/'] (parts.take (i + 1))
  starts.filter fun start => !start.isEmpty && start.getLast? != some '/'

/-- Makes one directory. With `quiet` one that is there already is no fault. -/
def makeDirectory (call : Call) (quiet loud final : Bool) (work : TreeWork) (name : Octets) : TreeWork :=
  let refused (reason : String) := work.complain call
    (octets "cannot create directory " ++ quotedWord name ++ octets (": " ++ reason))
  match work.find call name with
  | .free names =>
    let work := { work with files := work.files.withDirectory names }
    if loud then work.say (call.name ++ octets ": created directory " ++ quotedName name) else work
  | .directory _ => if quiet then work else refused "File exists"
  | .file _ _ => refused (if final then "File exists" else "Not a directory")
  | target => refused (targetMessage target)

/-- Makes all directories of a path, up to the first that cannot be made. -/
def makeLeading (call : Call) (loud : Bool) : TreeWork → List Octets → TreeWork
  | work, [] => work
  | work, name :: rest =>
    let next := makeDirectory call true loud rest.isEmpty work name
    if work.writes.length < next.writes.length && next.failed then next else makeLeading call loud next rest

/-- Makes directories. -/
def mkdir : Call → Outcome :=
  withSwitches [⟨'p', ["parents"], false⟩, ⟨'v', ["verbose"], false⟩, ⟨'m', ["mode"], true⟩] 1 fun call given =>
    if given.operands.isEmpty then call.misused 1 (octets "missing operand")
    else
      let make (work : TreeWork) (name : Octets) :=
        if given.has 'p' then makeLeading call (given.has 'v') work (leadingPaths name)
        else makeDirectory call false (given.has 'v') true work name
      (given.operands.foldl make { files := call.files }).outcome call

/-- Removes one empty directory; whether it was removed. -/
def removeDirectory (call : Call) (work : TreeWork) (name : Octets) : TreeWork × Bool :=
  let refused (reason : String) :=
    (work.complain call (octets "failed to remove " ++ quotedName name ++ octets (": " ++ reason)), false)
  match work.find call name with
  | .directory names =>
    if name = ['.'] then refused "Invalid argument"
    else if (work.files.entries names).isEmpty then ({ work with files := work.files.eraseTree names }, true)
    else refused "Directory not empty"
  | .file _ _ => refused "Not a directory"
  | target => refused (targetMessage target)

/-- Removes directories in order, up to the first that cannot be removed. -/
def removeEach (call : Call) : TreeWork → List Octets → TreeWork
  | work, [] => work
  | work, name :: rest =>
    match removeDirectory call work name with
    | (work, true) => removeEach call work rest
    | (work, false) => work

/-- Removes empty directories. -/
def rmdir : Call → Outcome := withSwitches [⟨'p', ["parents"], false⟩, ⟨'v', ["verbose"], false⟩] 1 fun call given =>
  if given.operands.isEmpty then call.misused 1 (octets "missing operand")
  else
    let remove (work : TreeWork) (name : Octets) :=
      if given.has 'p' then removeEach call work (leadingPaths name).reverse else (removeDirectory call work name).1
    (given.operands.foldl remove { files := call.files }).outcome call

/-- What is said about everything that is removed with a directory, the deepest first; at most `fuel` levels. -/
def removalLines (files : FileStore) : (fuel : Nat) → (label : Octets) → (names : List String) → List Octets
  | 0, _, _ => []
  | fuel + 1, label, names =>
    if files.directories.contains names then
      ((files.entries names).map fun entry =>
        removalLines files fuel (label ++ '/' :: octets entry) (names ++ [entry])).flatten ++
        [octets "removed directory " ++ quotedName label]
    else [octets "removed " ++ quotedName label]

/-- The switches of `rm`. -/
def rmSwitches : List Switch :=
  [⟨'r', ["recursive"], false⟩, ⟨'R', [], false⟩, ⟨'f', ["force"], false⟩, ⟨'d', ["dir"], false⟩,
   ⟨'v', ["verbose"], false⟩, ⟨'i', [], false⟩]

/-- Removes one file or directory. -/
def removeOne (call : Call) (given : Given) (work : TreeWork) (name : Octets) : TreeWork :=
  let refused (reason : String) :=
    work.complain call (octets "cannot remove " ++ quotedName name ++ octets (": " ++ reason))
  let gone (names : List String) :=
    let lines := if given.has 'v' then removalLines work.files (work.files.directories.length + 1) name names else []
    lines.foldl TreeWork.say { work with files := work.files.eraseTree names }
  let last := ((splitOn '/' name).reverse.find? fun piece => !piece.isEmpty).getD []
  match work.find call name with
  | .file names _ => gone names
  | .directory names =>
    if !(given.has 'r' || given.has 'R' || given.has 'd') then refused "Is a directory"
    else if last = ['.'] || last = ['.', '.'] then
      work.complain call (octets "refusing to remove '.' or '..' directory: skipping " ++ quotedName name)
    else if given.has 'r' || given.has 'R' || (work.files.entries names).isEmpty then gone names
    else refused "Directory not empty"
  | .belowFile => if given.has 'f' then work else refused "Not a directory"
  | target => if given.has 'f' && targetMessage target = "No such file or directory" then work
    else refused (targetMessage target)

/-- Removes files and directories. -/
def rm : Call → Outcome := withSwitches rmSwitches 1 fun call given =>
  if given.operands.isEmpty then
    if given.has 'f' then call.done 0 [] else call.misused 1 (octets "missing operand")
  else (given.operands.foldl (removeOne call given) { files := call.files }).outcome call

/-- Makes files that are not there. -/
def touch : Call → Outcome :=
  withSwitches [⟨'c', ["no-create"], false⟩, ⟨'a', [], false⟩, ⟨'m', [], false⟩, ⟨'d', ["date"], true⟩,
    ⟨'t', [], true⟩, ⟨'r', ["reference"], true⟩] 1 fun call given =>
    if given.operands.isEmpty then call.misused 1 (octets "missing file operand")
    else
      let make (work : TreeWork) (name : Octets) : TreeWork :=
        match work.find call name with
        | .file _ _ => work
        | .directory _ => work
        | .free names => if given.has 'c' then work else { work with files := work.files.put names [] }
        | target =>
          if given.has 'c' && targetMessage target = "No such file or directory" then work
          else work.complain call (octets "cannot touch " ++ quotedName name ++ octets (": " ++ targetMessage target))
      (given.operands.foldl make { files := call.files }).outcome call

/-! ## Copying and moving -/

/-- The switches of `cp` and `mv`. -/
def copySwitches : List Switch :=
  [⟨'r', ["recursive"], false⟩, ⟨'R', [], false⟩, ⟨'a', ["archive"], false⟩, ⟨'f', ["force"], false⟩,
   ⟨'p', [], false⟩, ⟨'n', ["no-clobber"], false⟩, ⟨'v', ["verbose"], false⟩, ⟨'i', [], false⟩, ⟨'T', [], false⟩,
   ⟨'t', ["target-directory"], true⟩]

/-- The last name of a path. -/
def lastName (name : Octets) : Octets :=
  ((splitOn '/' name).reverse.find? fun piece => !piece.isEmpty).getD ['/']

/-- A path with a name below it. -/
def below (directory name : Octets) : Octets :=
  directory ++ (if directory.getLast? = some '/' then [] else ['/']) ++ name

/-- Copies or moves one thing to a path that is not a directory to put it into. -/
def transfer (call : Call) (given : Given) (moving : Bool) (work : TreeWork) (source destination : Octets) : TreeWork :=
  let both := quotedName source ++ octets " and " ++ quotedName destination
  let arrow := quotedName source ++ octets " -> " ++ quotedName destination
  let refused (text : Octets) := work.complain call text
  let put (names origin : List String) : TreeWork :=
    let files := work.files
    let tree := files.tree origin
    let files := if moving then (files.eraseTree origin).eraseTree names else files
    let work := { work with files := files.graft names tree }
    if given.has 'v' then work.say ((if moving then octets "renamed " else []) ++ arrow) else work
  match work.find call source, work.find call destination with
  | .file origin _, .file names _ =>
    if origin == names then refused (both ++ octets " are the same file")
    else if given.has 'n' then work else put names origin
  | .file origin _, .free names =>
    if destination.getLast? = some '/' then
      refused (octets "cannot create regular file " ++ quotedName destination ++ octets ": Not a directory")
    else put names origin
  | .directory origin, .free names =>
    if moving || given.has 'r' || given.has 'R' || given.has 'a' then
      if origin.isPrefixOf names then
        refused (octets (if moving then "cannot move " else "cannot copy a directory, ") ++ quotedName source ++
          octets (if moving then " to a subdirectory of itself, " else ", into itself, ") ++ quotedName destination)
      else put names origin
    else refused (octets "-r not specified; omitting directory " ++ quotedName source)
  | .directory origin, .directory names =>
    if origin == names && !moving then refused (both ++ octets " are the same file")
    else if moving then
      if origin.isPrefixOf names then
        refused (octets "cannot move " ++ quotedName source ++ octets " to a subdirectory of itself, " ++
          quotedName destination)
      else put names origin
    else if given.has 'r' || given.has 'R' || given.has 'a' then put names origin
    else refused (octets "-r not specified; omitting directory " ++ quotedName source)
  | .directory _, .file _ _ =>
    if moving || given.has 'r' || given.has 'R' || given.has 'a' then
      refused (octets "cannot overwrite non-directory " ++ quotedName destination ++ octets " with directory " ++
        quotedName source)
    else refused (octets "-r not specified; omitting directory " ++ quotedName source)
  | .file _ _, .directory _ =>
    refused (octets "cannot overwrite directory " ++ quotedName destination ++ octets " with non-directory")
  | .file _ _, target =>
    if moving then
      refused (octets "cannot move " ++ quotedName source ++ octets " to " ++ quotedName destination ++
        octets (": " ++ targetMessage target))
    else if target = .belowFile then
      refused (octets "cannot stat " ++ quotedName destination ++ octets (": " ++ targetMessage target))
    else
      refused (octets "cannot create regular file " ++ quotedName destination ++ octets (": " ++ targetMessage target))
  | .directory _, target =>
    if moving then
      refused (octets "cannot move " ++ quotedName source ++ octets " to " ++ quotedName destination ++
        octets (": " ++ targetMessage target))
    else if given.has 'r' || given.has 'R' || given.has 'a' then
      refused (octets "cannot create directory " ++ quotedName destination ++ octets (": " ++ targetMessage target))
    else refused (octets "-r not specified; omitting directory " ++ quotedName source)
  | target, _ => refused (octets "cannot stat " ++ quotedName source ++ octets (": " ++ targetMessage target))

/-- Copies or moves things to a path or into a directory. -/
def transferCommand (moving : Bool) : Call → Outcome := withSwitches copySwitches 1 fun call given =>
  let into := given.value? 't'
  match given.operands.reverse with
  | [] => call.misused 1 (octets "missing file operand")
  | last :: before =>
    if before.isEmpty && into.isNone then
      call.misused 1 (octets "missing destination file operand after " ++ quotedName last)
    else
      let (sources, destination) := match into with
        | some directory => (given.operands, directory)
        | none => (before.reverse, last)
      let start : TreeWork := { files := call.files }
      match call.find destination with
      | .directory _ =>
        if given.has 'T' then
          (sources.foldl (fun work source => transfer call given moving work source destination) start).outcome call
        else
          (sources.foldl (fun work source =>
            transfer call given moving work source (below destination (lastName source))) start).outcome call
      | target =>
        if 1 < sources.length || into.isSome then
          let reason := match target with
            | .file _ _ => "Not a directory"
            | target => targetMessage target
          call.fail 1 (octets "target " ++ quotedName destination ++ octets (": " ++ reason))
        else
          (sources.foldl (fun work source => transfer call given moving work source destination) start).outcome call

/-- Copies files and directories. -/
def cp : Call → Outcome := transferCommand false

/-- Moves files and directories. -/
def mv : Call → Outcome := transferCommand true

end Utterance.Host.Command
