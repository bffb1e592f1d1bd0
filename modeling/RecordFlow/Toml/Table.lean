import RecordFlow.Toml.Basic

/-!
# Building tables

The tables of a document grow statement by statement: a header opens a table or adds
one to an array of tables, and an assignment puts a value under a key, which may name
nested tables.  A table is defined once.  One that only headers of its subtables have
implied may still get its own header; one that dotted keys have made may still be
extended by dotted keys.
-/

namespace RecordFlow.Toml

/-- How a table came to be. -/
inductive Origin where
  /-- By its own header. -/
  | header
  /-- By the header of a table inside it. -/
  | implied
  /-- By a dotted key. -/
  | dotted
  deriving DecidableEq, Repr

/-- A member of a table that is still being built. -/
inductive Node where
  | value (v : Toml)
  | table (origin : Origin) (members : List (String × Node))
  /-- An array of tables, of which only the last one can change. -/
  | tables (done : List Toml) (last : List (String × Node))

/-- A key with the names of the tables that it goes through. -/
structure DottedKey where
  path : List String
  name : String
  deriving DecidableEq, Repr

mutual

def Node.freeze : Node → Toml
  | .value v => v
  | .table _ members => .table (freezeMembers members)
  | .tables done last => .array (done ++ [.table (freezeMembers last)])

def freezeMembers : List (String × Node) → List (String × Toml)
  | [] => []
  | (name, node) :: members => (name, node.freeze) :: freezeMembers members

end

/-- Members under construction, in the order in which they were first written. -/
abbrev Nodes := List (String × Node)

namespace Nodes

/-- Replace the member of this name, or add it at the end; `f` gets the present
member. -/
def alter (f : Option Node → Option Node) (name : String) : Nodes → Option Nodes
  | [] => (f none).map fun node => [(name, node)]
  | (n, node) :: rest =>
    if n = name then (f (some node)).map fun node => (n, node) :: rest
    else (alter f name rest).map fun rest => (n, node) :: rest

/-- Put a value under a key, given the names of the tables between. -/
def assignAt (name : String) (v : Toml) : List String → Nodes → Option Nodes
  | [], nodes =>
    nodes.alter (fun present => if present.isSome then none else some (.value v)) name
  | first :: path, nodes =>
    nodes.alter (fun
      | none => (assignAt name v path []).map (.table .dotted)
      | some (.table .dotted inner) => (assignAt name v path inner).map (.table .dotted)
      | some (.table .implied inner) =>
        if path.isEmpty then none else (assignAt name v path inner).map (.table .implied)
      | some (.tables done last) =>
        if path.isEmpty then none else (assignAt name v path last).map (.tables done)
      | some (.table .header _) | some (.value _) => none) first

/-- Put a value under a key.  No value may be there, and every table between must have
been made by dotted keys. -/
def assign (nodes : Nodes) (key : DottedKey) (v : Toml) : Option Nodes :=
  nodes.assignAt key.name v key.path

/-- Change the members of the table at a path.  Tables between are implied when they do
not exist, and of an array of tables the last one is meant. -/
def descend (f : Nodes → Option Nodes) : List String → Nodes → Option Nodes
  | [], nodes => f nodes
  | name :: path, nodes =>
    nodes.alter (fun
      | none => (descend f path []).map (.table .implied)
      | some (.table origin inner) => (descend f path inner).map (.table origin)
      | some (.tables done last) => (descend f path last).map (.tables done)
      | some (.value _) => none) name

/-- Open a table among its siblings; one that was only implied moves to the end. -/
def openTable (name : String) (nodes : Nodes) : Option Nodes :=
  match nodes.lookup name with
  | none => some (nodes ++ [(name, .table .header [])])
  | some (.table .implied inner) =>
    some (nodes.filter (·.1 != name) ++ [(name, .table .header inner)])
  | some _ => none

/-- Add a table to an array of tables. -/
def openItem (name : String) (nodes : Nodes) : Option Nodes :=
  nodes.alter (fun
    | none => some (.tables [] [])
    | some (.tables done last) => some (.tables (done ++ [.table (freezeMembers last)]) [])
    | some _ => none) name

end Nodes

/-- A line of a document that says something. -/
inductive Statement where
  | assign (key : DottedKey) (v : Toml)
  | table (key : DottedKey)
  | item (key : DottedKey)

/-- A document under construction: all members, and the path of the open table. -/
structure Draft where
  nodes : Nodes := []
  current : List String := []

def Draft.add (draft : Draft) : Statement → Option Draft
  | .assign key v =>
    (draft.nodes.descend (fun nodes => nodes.assign key v) draft.current).map fun nodes =>
      { draft with nodes }
  | .table key =>
    (draft.nodes.descend (Nodes.openTable key.name) key.path).map fun nodes =>
      { nodes, current := key.path ++ [key.name] }
  | .item key =>
    (draft.nodes.descend (Nodes.openItem key.name) key.path).map fun nodes =>
      { nodes, current := key.path ++ [key.name] }

/-- The members that statements make, in order. -/
def membersOf? (statements : List Statement) : Option (List (String × Toml)) :=
  (statements.foldlM Draft.add {}).map fun draft => freezeMembers draft.nodes

end RecordFlow.Toml
