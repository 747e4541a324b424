import Transclude.Settings.Setting

/-!
# Keys and tables of TOML

A key is a list of names that leads from a table to a setting. Following a key creates the tables
that are not there yet, and an array of tables is gone through by its last table.

The format allows no table to be declared twice, no value to be overwritten, and nothing to be
added to a value that was written out in full. A `Builder` remembers what a document has declared
and refuses what it does not allow.

## Main definitions

* `Table.modifyAt` — a change to the table behind a key
* `Table.insertNew`, `Table.appendTable` — a new entry, and a new table of an array
* `Builder` — a document that is being put together
* `Builder.openTable`, `Builder.openArray`, `Builder.add` — what the lines of a document do to it
* `InlineTable.add` — one more entry of a table on one line
-/

namespace Transclude

/-- Names that lead from a table to a setting. -/
abbrev Key := List String

namespace Table

/-- The table with another value under a name that is there. -/
def replace (name : String) (value : Setting) (t : Table) : Table :=
  t.map fun (other, old) => if other = name then (other, value) else (other, old)

/-- The table after `change` was made to the table behind a key; arrays of tables are gone through
if `throughArrays` says so. There is none if something else than a table is on the way, or if the
change is refused. -/
def modifyAt (throughArrays : Bool) (change : Table → Option Table) : Key → Table → Option Table
  | [], t => change t
  | name :: rest, t =>
    let into (inner : Table) := modifyAt throughArrays change rest inner
    match t.lookup name with
    | none => do return t ++ [(name, .table (← into []))]
    | some (.table inner) => do return t.replace name (.table (← into inner))
    | some (.list items) =>
      match throughArrays, items.getLast? with
      | true, some (.table inner) => do
        return t.replace name (.list (items.dropLast ++ [.table (← into inner)]))
      | _, _ => none
    | some _ => none

/-- The table with a new entry; a name that is there already is refused. -/
def insertNew (name : String) (value : Setting) (t : Table) : Option Table :=
  match t.lookup name with
  | none => some (t ++ [(name, value)])
  | some _ => none

/-- The table with an empty table added to the array under a name. -/
def appendTable (name : String) (t : Table) : Option Table :=
  match t.lookup name with
  | none => some (t ++ [(name, .list [.table []])])
  | some (.list items) => some (t.replace name (.list (items ++ [.table []])))
  | some _ => none

end Table

/-- Whether a value can be added to: nothing may be added to lists and tables that were written
out in full. -/
def Setting.isCompound : Setting → Bool
  | .list _ | .table _ => true
  | _ => false

/-- A document that is being put together. -/
structure Builder where
  root : Table
  /-- The table that is open. -/
  header : Key
  /-- The tables that cannot be declared any more. -/
  declared : List Key
  /-- The tables that dotted keys went through since the last header. -/
  passed : List Key
  /-- The keys below which nothing can be added. -/
  sealedKeys : List Key

namespace Builder

/-- The document before its first line. -/
def empty : Builder := ⟨[], [], [], [], []⟩

/-- Whether a key is sealed or leads below a sealed one. -/
def isSealed (b : Builder) (key : Key) : Bool :=
  b.sealedKeys.any (·.isPrefixOf key)

/-- A new header makes the tables that dotted keys went through declared. -/
def finishHeader (b : Builder) : Builder :=
  { b with declared := b.declared ++ b.passed, passed := [] }

/-- What a header of a table does. -/
def openTable (b : Builder) (key : Key) : Option Builder := do
  let b := b.finishHeader
  if b.declared.contains key || b.isSealed key then none
  else
    let root ← b.root.modifyAt true some key
    return { b with root := root, header := key, declared := key :: b.declared }

/-- What a header of an array of tables does. What was declared below the array concerns its
earlier tables only. -/
def openArray (b : Builder) (key : Key) : Option Builder := do
  let b := b.finishHeader
  if b.isSealed key then none
  else
    let name ← key.getLast?
    let root ← b.root.modifyAt true (Table.appendTable name) key.dropLast
    let outside := fun other => !key.isPrefixOf other
    return { b with
      root := root
      header := key
      declared := key :: b.declared.filter outside
      sealedKeys := b.sealedKeys.filter outside }

/-- What a line with a key and a value does. -/
def add (b : Builder) (key : Key) (value : Setting) : Option Builder := do
  let name ← key.getLast?
  let passed := (List.range (key.length - 1)).map fun i => b.header ++ key.take (i + 1)
  -- A table that has its own header cannot be reached by a dotted key from another one.
  if passed.any b.declared.contains || b.isSealed (b.header ++ key.dropLast) then none
  else
    let root ← b.root.modifyAt true (Table.insertNew name value) (b.header ++ key.dropLast)
    let newlySealed := if value.isCompound then [b.header ++ key] else []
    return { b with
      root := root
      passed := b.passed ++ passed
      sealedKeys := newlySealed ++ b.sealedKeys }

end Builder

/-- A table on one line that is being put together. -/
structure InlineTable where
  entries : Table
  /-- The keys below which nothing can be added. -/
  sealedKeys : List Key

namespace InlineTable

/-- The table before its first entry. -/
def empty : InlineTable := ⟨[], []⟩

/-- The table with one more entry. -/
def add (t : InlineTable) (key : Key) (value : Setting) : Option InlineTable := do
  if t.sealedKeys.any (·.isPrefixOf key) then none
  else
    let name ← key.getLast?
    let entries ← t.entries.modifyAt false (Table.insertNew name value) key.dropLast
    return ⟨entries, if value.isCompound then key :: t.sealedKeys else t.sealedKeys⟩

end InlineTable

end Transclude
