import Transclude.FileTree.Access

/-!
# File trees

A file tree holds directories and files under the places they stand at, a place being the list of
names that leads there from the top. Paths are followed name by name: what is gone through has to
be a directory, and the name `..` goes back to the directory that holds the one reached so far. A
path without a root starts at the working directory. There may be a limit to the length of paths;
names are limited in any case.

Every entry remembers when it was last modified. The tree has a clock, which moves on with every
change, so that no two changes bear the same time.

## Main definitions

* `FileTree` — entries under their places, a working directory, a clock and a limit
* `FileTree.follow` — where a path leads
* `FileTree.placesOnTheWay` — what has to be known of the tree to tell where a path leads
* `FileTree.read`, `FileTree.modified`, `FileTree.isFile` — what can be asked of a path
* `FileTree.write` — the tree after a file was written
* `FileTree.makeDirectories`, `FileTree.delete`, `FileTree.setModified` — further changes
* `FileTree.changedFiles` — the files that two trees differ in

## Main results

* `FileTree.entryAt?_put_self`, `FileTree.entryAt?_put_of_ne` — a change touches one place only
-/

namespace Transclude

/-- A time, in nanoseconds since the epoch. -/
abbrev Time := Int

/-- The names that lead to an entry from the top. -/
abbrev Place := List String

/-- What can stand at a place. -/
inductive Entry
  | directory (modified : Time)
  | file (content : List UInt8) (modified : Time)
  deriving DecidableEq

/-- When an entry was last modified. -/
def Entry.modified : Entry → Time
  | .directory modified => modified
  | .file _ modified => modified

/-- Whether an entry is a file. -/
def Entry.isFile : Entry → Bool
  | .directory _ => false
  | .file .. => true

/-- The entry with another time. -/
def Entry.withModified (time : Time) : Entry → Entry
  | .directory _ => .directory time
  | .file content _ => .file content time

/-- Directories and files under their places. -/
structure FileTree where
  workingDirectory : Place
  clock : Time
  /-- The number of bytes that a path may have, if it is limited. -/
  pathLimit : Option Nat
  entries : List (Place × Entry)
  deriving DecidableEq

namespace FileTree

/-- A name may have this many bytes. -/
def maxNameBytes : Nat := 255

/-- The entry at a place. -/
def entryAt? (t : FileTree) (place : Place) : Option Entry :=
  t.entries.lookup place

/-- The number of files. -/
def fileCount (t : FileTree) : Nat :=
  t.entries.countP fun (_, entry) => entry.isFile

/-- The place from which a path is followed. -/
def startOf (t : FileTree) (path : Path) : Place :=
  if path.root = .relative then t.workingDirectory else []

/-- Where names lead from the directory at `place`, which is known to be there. -/
def followFrom (t : FileTree) (place : Place) : List String → Except AccessFault Place
  | [] => .ok place
  | name :: rest =>
    if name = ".." then followFrom t place.dropLast rest
    else if maxNameBytes < name.utf8ByteSize then .error .nameTooLong
    else
      match t.entryAt? (place ++ [name]) with
      | none => .error .notFound
      | some (.directory _) => followFrom t (place ++ [name]) rest
      -- A file can only be the end of the way.
      | some (.file ..) => if rest = [] then .ok (place ++ [name]) else .error .notDirectory

/-- Whether a path holds a null character. -/
def hasNul (path : Path) : Bool :=
  path.names.any (·.toList.contains '\x00')

/-- Whether a path has more bytes than the limit allows. -/
def isOverlong (t : FileTree) (path : Path) : Bool :=
  match t.pathLimit with
  | some limit => limit < path.text.utf8ByteSize
  | none => false

/-- Refuses a path that cannot be followed at all, wherever it leads. -/
def checkPath (t : FileTree) (path : Path) : Except AccessFault Unit :=
  if hasNul path then .error .nulInPath
  else if t.isOverlong path then .error .nameTooLong
  else .ok ()

/-- The place that a path leads to. -/
def follow (t : FileTree) (path : Path) : Except AccessFault Place :=
  match t.checkPath path with
  | .error fault => .error fault
  | .ok () => t.followFrom (t.startOf path) path.names

/-- The places that are reached one after the other when names are followed from a place. -/
def placesFrom (place : Place) : List String → List Place
  | [] => []
  | name :: rest =>
    let next := if name = ".." then place.dropLast else place ++ [name]
    next :: placesFrom next rest

/-- The places that a path goes through if nothing is in its way, the one it leads to included. -/
def placesOnTheWay (t : FileTree) (path : Path) : List Place :=
  placesFrom (t.startOf path) path.names

/-- The entry that a path leads to. -/
def find (t : FileTree) (path : Path) : Except AccessFault Entry :=
  match t.follow path with
  | .error fault => .error fault
  | .ok place =>
    match t.entryAt? place with
    | some entry => .ok entry
    | none => .error .notFound

/-- The bytes of the file that a path leads to. -/
def read (t : FileTree) (path : Path) : Except AccessFault (List UInt8) :=
  match t.find path with
  | .error fault => .error fault
  | .ok (.directory _) => .error .isDirectory
  | .ok (.file content _) => .ok content

/-- When the entry that a path leads to was last modified. -/
def modified (t : FileTree) (path : Path) : Except AccessFault Time :=
  (t.find path).map Entry.modified

/-- Whether a path leads to a file. A name that is too long is the one fault that leaves the
question open. -/
def isFile (t : FileTree) (path : Path) : Except AccessFault Bool :=
  match t.find path with
  | .ok (.file ..) => .ok true
  | .error .nameTooLong => .error .nameTooLong
  | _ => .ok false

/-- The entries with the one at `place` put to `entry`; a new entry comes last. -/
def putEntry (place : Place) (entry : Entry) : List (Place × Entry) → List (Place × Entry)
  | [] => [(place, entry)]
  | (other, old) :: rest =>
    if other = place then (place, entry) :: rest else (other, old) :: putEntry place entry rest

/-- The tree with another entry at a place. -/
def put (t : FileTree) (place : Place) (entry : Entry) : FileTree :=
  { t with entries := putEntry place entry t.entries }

theorem lookup_putEntry_self (place : Place) (entry : Entry) (entries : List (Place × Entry)) :
    (putEntry place entry entries).lookup place = some entry := by
  induction entries with
  | nil => simp [putEntry]
  | cons first rest ih =>
    obtain ⟨key, old⟩ := first
    by_cases hkey : key = place
    · simp [putEntry, hkey]
    · have hbeq : (place == key) = false := beq_false_of_ne (Ne.symm hkey)
      rw [putEntry, if_neg hkey, List.lookup_cons, hbeq]
      exact ih

theorem lookup_putEntry_of_ne {place other : Place} (entry : Entry)
    (entries : List (Place × Entry)) (h : other ≠ place) :
    (putEntry place entry entries).lookup other = entries.lookup other := by
  have hbeq : (other == place) = false := beq_false_of_ne h
  induction entries with
  | nil => rw [putEntry, List.lookup_cons, hbeq]
  | cons first rest ih =>
    obtain ⟨key, old⟩ := first
    by_cases hkey : key = place
    · subst hkey
      rw [putEntry, if_pos rfl, List.lookup_cons, List.lookup_cons, hbeq]
    · rw [putEntry, if_neg hkey, List.lookup_cons, List.lookup_cons, ih]

@[simp] theorem entryAt?_put_self (t : FileTree) (place : Place) (entry : Entry) :
    (t.put place entry).entryAt? place = some entry :=
  lookup_putEntry_self place entry t.entries

theorem entryAt?_put_of_ne (t : FileTree) {place other : Place} (entry : Entry)
    (h : other ≠ place) : (t.put place entry).entryAt? other = t.entryAt? other :=
  lookup_putEntry_of_ne entry t.entries h

/-- The tree after the entry at a place was modified. -/
def touch (t : FileTree) (place : Place) : FileTree :=
  match t.entryAt? place with
  | some entry => t.put place (entry.withModified t.clock)
  | none => t

/-- The tree with its clock moved on. -/
def tick (t : FileTree) : FileTree :=
  { t with clock := t.clock + 1 }

/-- The place at which a file of the given path can be written. -/
def writablePlace (t : FileTree) (path : Path) : Except AccessFault Place :=
  match t.checkPath path, path.names.getLast? with
  | .error fault, _ => .error fault
  | .ok (), none => .error .isDirectory
  | .ok (), some name =>
    match t.followFrom (t.startOf path) path.names.dropLast with
    | .error fault => .error fault
    | .ok directory =>
      match t.entryAt? directory with
      | none => .error .notFound
      | some (.file ..) => .error .notDirectory
      | some (.directory _) =>
        -- The directory above is a directory, whatever its name.
        if name = ".." then .error .isDirectory
        else if maxNameBytes < name.utf8ByteSize then .error .nameTooLong
        else
          match t.entryAt? (directory ++ [name]) with
          | some (.directory _) => .error .isDirectory
          | _ => .ok (directory ++ [name])

/-- The tree after a file was put at a place. A directory is modified when an entry is new in it. -/
def writeAt (t : FileTree) (place : Place) (content : List UInt8) : FileTree :=
  let parented := if (t.entryAt? place).isSome then t else t.touch place.dropLast
  (parented.put place (.file content t.clock)).tick

/-- The tree after a file was written: a new one, or one in place of what a file held before. -/
def write (t : FileTree) (path : Path) (content : List UInt8) : Except AccessFault FileTree :=
  (t.writablePlace path).map (t.writeAt · content)

/-- The tree with a directory at a place, unless something stands there already. -/
def makeDirectory (t : FileTree) (place : Place) : FileTree :=
  if (t.entryAt? place).isSome then t
  else ((t.touch place.dropLast).put place (.directory t.clock)).tick

/-- The tree with directories at all places that following a path goes through, the one it leads to
included, so that the path can be followed. -/
def makeDirectories (t : FileTree) (path : Path) : FileTree :=
  (t.placesOnTheWay path).foldl makeDirectory t

/-- The place that a path leads to if nothing is in its way. -/
def placeOf (t : FileTree) (path : Path) : Place :=
  (t.placesOnTheWay path).getLastD (t.startOf path)

/-- The tree with a file at a path, in directories that are made as needed. -/
def writeWithDirectories (t : FileTree) (path : Path) (content : List UInt8) : FileTree :=
  (t.makeDirectories path.parent).writeAt (t.placeOf path) content

/-- The tree without what stands at a path and below it. -/
def delete (t : FileTree) (path : Path) : FileTree :=
  let place := t.placeOf path
  let left := t.entries.filter fun (other, _) => !place.isPrefixOf other
  (({ t with entries := left } : FileTree).touch place.dropLast).tick

/-- The tree in which the entry at a path was last modified at the given time. -/
def setModified (t : FileTree) (path : Path) (time : Time) : FileTree :=
  match t.entryAt? (t.placeOf path) with
  | some entry => t.put (t.placeOf path) (entry.withModified time)
  | none => t

/-- The places on the way to a place, from the top on, and the place itself. -/
def prefixes (place : Place) : List Place :=
  (List.range (place.length + 1)).map place.take

/-- The tree that holds nothing but its working directory. -/
def empty (workingDirectory : Place) (clock : Time) (pathLimit : Option Nat) : FileTree :=
  (prefixes workingDirectory).foldl makeDirectory ⟨workingDirectory, clock, pathLimit, []⟩

/-- The number of bytes that a path may have on a common system. -/
def usualPathLimit : Nat := 4095

/-- Whether a file of the given content stands at a place. -/
def holdsFile (t : FileTree) (place : Place) (content : List UInt8) : Bool :=
  match t.entryAt? place with
  | some (.file old _) => old = content
  | _ => false

/-- The files below the working directory of `later` that are new since `t` or have another
content, under their paths from there. -/
def changedFiles (t later : FileTree) : List (Path × List UInt8) :=
  later.entries.filterMap fun (place, entry) =>
    match entry with
    | .directory _ => none
    | .file content _ =>
      if t.holdsFile place content || !later.workingDirectory.isPrefixOf place then none
      else some (⟨.relative, place.drop later.workingDirectory.length⟩, content)

end FileTree

end Transclude
