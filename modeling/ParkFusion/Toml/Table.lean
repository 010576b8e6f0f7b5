import ParkFusion.Document

namespace ParkFusion.Toml

mutual

/-- What stands under a key while a text is read. -/
inductive Node
  | value (value : Document)
  | table (table : Table)
  /-- An array of tables, latest first. -/
  | tables (last : Table) (earlier : List Table)

/-- A table while it is read. Implicit is one that is only mentioned on the way to another, dotted
one that is mentioned in a key with points. -/
inductive Table
  | mk (implicit dotted : Bool) (entries : List (String × Node))

end

namespace Table

def implicit : Table → Bool
  | mk implicit _ _ => implicit

def dotted : Table → Bool
  | mk _ dotted _ => dotted

def entries : Table → List (String × Node)
  | mk _ _ entries => entries

def empty : Table :=
  mk false false []

def set (t : Table) (key : String) (node : Node) : Table :=
  mk t.implicit t.dotted (put t.entries)
where
  put : List (String × Node) → List (String × Node)
    | [] => [(key, node)]
    | entry :: entries =>
      if entry.1 = key then (key, node) :: entries else entry :: put entries

/-- Changes the table to which a path leads, through the latest table of an array. Missing tables
are made on the way. A path with points goes through no table that has a header of its own. -/
def change (dotted : Bool) (f : Table → Option Table) : List String → Table → Option Table
  | [], t => f t
  | key :: path, t =>
    match t.entries.lookup key with
    | none => do
      let child ← change dotted f path (mk true dotted [])
      return t.set key (.table child)
    | some (.table child) =>
      if dotted && !child.implicit then none
      else do
        let child ← change dotted f path child
        return t.set key (.table child)
    | some (.tables last earlier) => do
      let last ← change dotted f path last
      return t.set key (.tables last earlier)
    | some (.value _) => none

/-- Adds a value under a key with points. No key has two values. -/
def insert (path : List String) (key : String) (value : Document) (t : Table) : Option Table :=
  change true (fun child ↦
    if child.dotted = path.isEmpty || (child.entries.lookup key).isSome then none
    else some (child.set key (.value value))) path t

/-- Begins a table under a header. It may have been on the way to another one, but not in a key with
points. -/
def openTable (path : List String) (key : String) (t : Table) : Option Table :=
  change false (fun parent ↦
    match parent.entries.lookup key with
    | none => some (parent.set key (.table empty))
    | some (.table child) =>
      if child.implicit && !child.dotted then
        some (parent.set key (.table (mk false false child.entries)))
      else none
    | some _ => none) path t

/-- Begins the next table of an array. -/
def openNext (path : List String) (key : String) (t : Table) : Option Table :=
  change false (fun parent ↦
    match parent.entries.lookup key with
    | none => some (parent.set key (.tables empty []))
    | some (.tables last earlier) => some (parent.set key (.tables empty (last :: earlier)))
    | some _ => none) path t

end Table

mutual

def Node.toDocument : Node → Document
  | .value value => value
  | .table t => t.toDocument
  | .tables last earlier => .list (tablesToList earlier ++ [last.toDocument])

def tablesToList : List Table → List Document
  | [] => []
  | t :: earlier => tablesToList earlier ++ [t.toDocument]

def Table.toDocument : Table → Document
  | .mk _ _ entries => .table (entriesToList entries)

def entriesToList : List (String × Node) → List (String × Document)
  | [] => []
  | (key, node) :: entries => (key, node.toDocument) :: entriesToList entries

end

end ParkFusion.Toml
