/-
TOML values and the tables of a document.

A document is a list of statements: headers that open a table and entries that
set a key in the open one.  While it is put together, tables are told apart by
how they came about, because that decides which statements may still add to
them; a value written in place is closed for good.
-/
import RoverMission.Text

namespace RoverMission

inductive Toml
  | string (t : Text)
  | scalar (literal : Text)
  | dateTime (literal : Text)
  | array (items : List Toml)
  | table (members : List (Text × Toml))

namespace Toml

/-- How a table came about: by a header of its own, by the headers of tables
inside it, or by keys with dots. -/
inductive Origin
  | header
  | implied
  | dotted
  deriving DecidableEq

/-- A part of a document under construction.  Of several tables under one
header, the latest comes first. -/
inductive Node
  | value (v : Toml)
  | table (origin : Origin) (members : List (Text × Node))
  | tables (latest : List (Text × Node)) (earlier : List (List (Text × Node)))

inductive Statement
  | header (path : List Text)
  | arrayHeader (path : List Text)
  | entry (path : List Text) (v : Toml)

namespace Node

abbrev Members := List (Text × Node)

/-- The members with one of them replaced, or added at the end. -/
def put (name : Text) (node : Node) : Members → Members
  | [] => [(name, node)]
  | (n, old) :: members =>
    if n = name then (name, node) :: members else (n, old) :: put name node members

/-- Set a key in a table.  All but the last part of the key lead into tables,
which must not have a header, and the last of these must have come about by
dots. -/
def setKey (v : Toml) : (path : List Text) → Members → Option Members
  | [], _ => none
  | [name], members =>
    if (members.lookup name).isSome then none else some (put name (value v) members)
  | name :: path, members =>
    match members.lookup name with
    | none => (setKey v path []).map fun inner => put name (table .dotted inner) members
    | some (table .dotted inner) =>
      (setKey v path inner).map fun inner => put name (table .dotted inner) members
    | some (table .implied inner) =>
      if path.length = 1 then none
      else (setKey v path inner).map fun inner => put name (table .implied inner) members
    | some (tables latest earlier) =>
      if path.length = 1 then none
      else (setKey v path latest).map fun latest => put name (tables latest earlier) members
    | some (table .header _) => none
    | some (value _) => none

/-- Change the member at a path.  Tables on the way are created where there are
none, and of several tables under one header the latest is meant. -/
def change (f : Option Node → Option Node) : (path : List Text) → Members → Option Members
  | [], _ => none
  | [name], members => (f (members.lookup name)).map fun node => put name node members
  | name :: path, members =>
    match members.lookup name with
    | none => (change f path []).map fun inner => put name (table .implied inner) members
    | some (table origin inner) =>
      (change f path inner).map fun inner => put name (table origin inner) members
    | some (tables latest earlier) =>
      (change f path latest).map fun latest => put name (tables latest earlier) members
    | some (value _) => none

/-- A header opens a table that is new or only implied so far. -/
def openTable : Option Node → Option Node
  | none => some (table .header [])
  | some (table .implied members) => some (table .header members)
  | _ => none

/-- A double header opens one more table under its name. -/
def openNext : Option Node → Option Node
  | none => some (tables [] [])
  | some (tables latest earlier) => some (tables [] (latest :: earlier))
  | _ => none

/-- Set a key in the table at a path. -/
def setIn (path : List Text) (v : Toml) : Option Node → Option Node
  | some (table origin members) => (setKey v path members).map (table origin)
  | some (tables latest earlier) => (setKey v path latest).map fun latest => tables latest earlier
  | _ => none

mutual

def toToml : Node → Toml
  | value v => v
  | table _ members => .table (toMembers members)
  | tables latest earlier => .array (toTables earlier [.table (toMembers latest)])

def toMembers : List (Text × Node) → List (Text × Toml)
  | [] => []
  | (name, node) :: members => (name, node.toToml) :: toMembers members

/-- Tables in the order of the document, from the latest first. -/
def toTables : List (List (Text × Node)) → List Toml → List Toml
  | [], later => later
  | members :: earlier, later => toTables earlier (.table (toMembers members) :: later)

end

end Node

/-- A document under construction: its members and the path of the open
table. -/
structure Document where
  members : Node.Members := []
  path : List Text := []

namespace Document

def add (d : Document) : Statement → Option Document
  | .header path => (Node.change Node.openTable path d.members).map ({ members := ·, path })
  | .arrayHeader path => (Node.change Node.openNext path d.members).map ({ members := ·, path })
  | .entry key v =>
    match d.path with
    | [] => (Node.setKey v key d.members).map ({ d with members := · })
    | path => (Node.change (Node.setIn key v) path d.members).map ({ d with members := · })

/-- The members of the document that statements make. -/
def ofStatements (statements : List Statement) : Option (List (Text × Toml)) :=
  (statements.foldlM add {}).map fun d => Node.toMembers d.members

end Document

/-- The table between braces that entries make. -/
def inline (entries : List (List Text × Toml)) : Option Toml :=
  (entries.foldlM (fun members e => Node.setKey e.2 e.1 members) []).map fun members =>
    .table (Node.toMembers members)

end Toml
end RoverMission
