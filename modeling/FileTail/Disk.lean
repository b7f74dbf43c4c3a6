import FileTail.Follow.Schedule

/-!
# FileTail.Disk

Files and directories in memory, seen from a working directory. A path is walked part by part, and
every part but the last must be a directory; what lies above the working directory is a directory
of which nothing else is known. Each write gives its file a time of one second more than the write
before it.

* `Disk.locate` — what a path leads to, or why it leads nowhere.
* `Disk.files` — what probes and reads find.
-/

namespace FileTail

/-- Why the system refuses to do something with a path. -/
inductive DiskFault where
  | notFound
  | notDirectory
  | isDirectory
  | nameTooLong
  | badPosition
  | nulInPath
deriving Repr, DecidableEq, Inhabited

inductive Node where
  /-- A file and the second in which it was last written. -/
  | file (content : Bytes) (modified : Nat)
  | directory
deriving Repr, DecidableEq, Inhabited

/-- Where a walk along a path has come to. -/
inductive Place where
  /-- Below the working directory, by these names. -/
  | inside (names : List Bytes)
  | above
  | nowhere
deriving Repr, DecidableEq, Inhabited

structure Disk where
  /-- What is below the working directory. -/
  nodes : Table (List Bytes) Node
  /-- How many writes there were. -/
  writes : Nat

namespace DiskFault

def message : DiskFault → String
  | .notFound => "No such file or directory (os error 2)"
  | .notDirectory => "Not a directory (os error 20)"
  | .isDirectory => "Is a directory (os error 21)"
  | .nameTooLong => "File name too long (os error 36)"
  | .badPosition => "Invalid argument (os error 22)"
  | .nulInPath => "file name contained an unexpected NUL byte"

/-- The fault behind an error number of the system. -/
def ofNumber? : Nat → Option DiskFault
  | 2 => some .notFound
  | 20 => some .notDirectory
  | 21 => some .isDirectory
  | 22 => some .badPosition
  | 36 => some .nameTooLong
  | _ => none

end DiskFault

namespace Place

def parent : Place → Place
  | .inside [] => .above
  | .inside names => .inside names.dropLast
  | place => place

def child (name : Bytes) : Place → Place
  | .inside names => .inside (names ++ [name])
  | _ => .nowhere

end Place

namespace Disk

def empty : Disk := ⟨.empty, 0⟩

/-- The longest name, in bytes. -/
def nameLimit : Nat := 255

/-- Paths are shorter than this many bytes. -/
def pathLimit : Nat := 4096

/-- Positions in a file are smaller than this. -/
def positionLimit : Nat := 0x8000000000000000

def node? (d : Disk) : Place → Option Node
  | .inside [] | .above => some .directory
  | .inside names => d.nodes.get? names
  | .nowhere => none

/-- Follow one part of a path. -/
def enter (d : Disk) (place : Place) (part : Bytes) : Except DiskFault Place :=
  match d.node? place with
  | none => .error .notFound
  | some (.file _ _) => .error .notDirectory
  | some .directory =>
    if part = [] ∨ part = [Path.dot] then .ok place
    else if part = [Path.dot, Path.dot] then .ok place.parent
    else if nameLimit < part.length then .error .nameTooLong
    else .ok (place.child part)

/-- Follow the parts of a path. What the last one leads to need not be there. -/
def walk (d : Disk) (p : Path) : Except DiskFault Place :=
  if 0 ∈ p.bytes then .error .nulInPath
  else if p.bytes = [] then .error .notFound
  else if pathLimit ≤ p.bytes.length then .error .nameTooLong
  else
    let start : Place := if p.bytes.head? = some Path.slash then .above else .inside []
    (Path.parts p.bytes).foldlM d.enter start

def locate (d : Disk) (p : Path) : Except DiskFault Node :=
  match d.walk p with
  | .error e => .error e
  | .ok place =>
    match d.node? place with
    | none => .error .notFound
    | some node => .ok node

/-! ## Looking and reading -/

def look (d : Disk) (p : Path) : Sighting :=
  match d.locate p with
  | .error .notFound => .missing
  | .error e => .metadataFailed e.message
  | .ok .directory => .headFailed DiskFault.isDirectory.message
  | .ok (.file content modified) =>
    .seen ⟨some (modified * 1000000000 : Nat), content.length, .ofBytes content⟩

def fetch (d : Disk) (q : Request) : Except ReadFailure Bytes :=
  match d.locate q.path with
  | .error e => .error (.opening e.message)
  | .ok node =>
    if positionLimit ≤ q.window.position then .error (.reading DiskFault.badPosition.message)
    else
      match node with
      | .directory =>
        if q.window.length = 0 then .ok [] else .error (.reading DiskFault.isDirectory.message)
      | .file content _ => .ok ((content.drop q.window.position).take q.window.length)

/-- Probes and reads that take no time. -/
def files (d : Disk) : Files := ⟨d.look, d.fetch, fun _ => 0, fun _ => 0⟩

/-! ## Changing

What the system would refuse changes nothing. -/

/-- Where a file can be put, and what it holds so far. -/
def target? (d : Disk) (p : Path) : Option (List Bytes × Bytes) :=
  match d.walk p with
  | .ok (.inside names) =>
    match d.node? (.inside names) with
    | none => some (names, [])
    | some (.file content _) => some (names, content)
    | some .directory => none
  | _ => none

/-- Write the content that `f` makes of the one before. -/
def writeWith (d : Disk) (p : Path) (f : Bytes → Bytes) : Disk :=
  let writes := d.writes + 1
  match d.target? p with
  | none => { d with writes := writes }
  | some (names, content) => ⟨d.nodes.put names (.file (f content) writes), writes⟩

def write (d : Disk) (p : Path) (bytes : Bytes) : Disk := d.writeWith p fun _ => bytes

def append (d : Disk) (p : Path) (bytes : Bytes) : Disk := d.writeWith p (· ++ bytes)

/-- Remove a file. -/
def remove (d : Disk) (p : Path) : Disk :=
  match d.walk p, d.locate p with
  | .ok (.inside names), .ok (.file _ _) => { d with nodes := d.nodes.erase names }
  | _, _ => d

/-- A path without slashes at its end, which directories may have. -/
def bare (p : Path) : Path := ⟨(p.bytes.reverse.dropWhile (· == Path.slash)).reverse⟩

def makeDirectory (d : Disk) (p : Path) : Disk :=
  match d.walk (bare p) with
  | .ok (.inside names) =>
    match d.node? (.inside names) with
    | none => { d with nodes := d.nodes.put names .directory }
    | some _ => d
  | _ => d

/-- The name that a name at or below `source` has after `source` has become `target`. -/
def moved (source target names : List Bytes) : List Bytes :=
  if source.isPrefixOf names then target ++ names.drop source.length else names

/-- Give a file or directory another name. What had that name before is gone. -/
def rename (d : Disk) (source target : Path) : Disk :=
  match d.walk (bare source), d.walk (bare target), d.locate source with
  | .ok (.inside old), .ok (.inside new), .ok _ =>
    if old = new then d
    else
      let nodes := (d.nodes.erase new).entries.map fun e => (moved old new e.1, e.2)
      { d with nodes := ⟨nodes⟩ }
  | _, _, _ => d

end Disk
end FileTail
