import FeedDesk.Toml.Basic

namespace FeedDesk
namespace Toml

/-!
Tables while they are being put together. A table may be named by a header, implied by the header
of a table inside it, or made by a dotted key. Only an implied table can still be named, only a
table made by dotted keys takes further ones, and no name is given a value twice.
-/

inductive Origin
  | named
  | implied
  | dotted
  deriving DecidableEq

inductive Node
  | leaf (value : Toml)
  | table (origin : Origin) (nodes : List (Text × Node))
  /-- A list of tables; headers and keys go to the last one. -/
  | elements (tables : List (List (Text × Node)))

abbrev Nodes := List (Text × Node)

mutual

def Node.value : Node → Toml
  | .leaf value => value
  | .table _ nodes => .table (membersOf nodes)
  | .elements tables => .array (tablesOf tables)

def membersOf : List (Text × Node) → List (Text × Toml)
  | [] => []
  | (name, node) :: nodes => (name, node.value) :: membersOf nodes

def tablesOf : List (List (Text × Node)) → List Toml
  | [] => []
  | nodes :: tables => .table (membersOf nodes) :: tablesOf tables

end

/-- Gives a value to a dotted key. -/
def assign? (value : Toml) : List Text → Nodes → Option Nodes
  | [], _ => none
  | [name], nodes =>
    match nodes.lookup name with
    | some _ => none
    | none => some (nodes ++ [(name, .leaf value)])
  | name :: next :: path, nodes =>
    match nodes.lookup name with
    | none =>
      (assign? value (next :: path) []).map fun inner => nodes ++ [(name, .table .dotted inner)]
    | some (.table origin inner) =>
      if origin = .dotted ∨ origin = .implied ∧ path ≠ [] then
        (assign? value (next :: path) inner).map fun inner =>
          putMember name (.table origin inner) nodes
      else none
    | some _ => none

/-- Changes the last of several tables. -/
def changeLast? (change : Nodes → Option Nodes) (tables : List Nodes) : Option (List Nodes) :=
  match tables.reverse with
  | [] => none
  | last :: before => (change last).map fun last => before.reverse ++ [last]

/-- Changes what stands at the end of a path of names. Tables that are missing on the way are
implied. -/
def changeAt? (change : Option Node → Option Node) : List Text → Nodes → Option Nodes
  | [], _ => none
  | [name], nodes => (change (nodes.lookup name)).map fun node => putMember name node nodes
  | name :: next :: path, nodes =>
    let inside : Option Node := match nodes.lookup name with
      | none => (changeAt? change (next :: path) []).map (.table .implied)
      | some (.table origin inner) =>
        (changeAt? change (next :: path) inner).map (.table origin)
      | some (.elements tables) =>
        (changeLast? (changeAt? change (next :: path)) tables).map .elements
      | some (.leaf _) => none
    inside.map fun node => putMember name node nodes

def nameTable? : Option Node → Option Node
  | none => some (.table .named [])
  | some (.table .implied nodes) => some (.table .named nodes)
  | _ => none

def addElement? : Option Node → Option Node
  | none => some (.elements [[]])
  | some (.elements tables) => some (.elements (tables ++ [[]]))
  | _ => none

def assignIn? (path : List Text) (value : Toml) : Option Node → Option Node
  | some (.table origin nodes) => (assign? value path nodes).map (.table origin)
  | some (.elements tables) => (changeLast? (assign? value path) tables).map .elements
  | _ => none

/-- A line of a configuration. -/
inductive Line
  /-- Gives a value to a dotted key of the current table. -/
  | assignment (path : List Text) (value : Toml)
  /-- Names a table, which becomes the current one. -/
  | header (path : List Text)
  /-- Adds a table to a list of them; it becomes the current one. -/
  | element (path : List Text)

/-- The tables after a line and the path of the current one. -/
def addLine? (current : List Text) (nodes : Nodes) : Line → Option (List Text × Nodes)
  | .assignment path value =>
    let changed :=
      if current = [] then assign? value path nodes
      else changeAt? (assignIn? path value) current nodes
    changed.map fun nodes => (current, nodes)
  | .header path => (changeAt? nameTable? path nodes).map fun nodes => (path, nodes)
  | .element path => (changeAt? addElement? path nodes).map fun nodes => (path, nodes)

def addLines? (current : List Text) (nodes : Nodes) : List Line → Option Nodes
  | [] => some nodes
  | line :: lines => do
    let (current, nodes) ← addLine? current nodes line
    addLines? current nodes lines

/-- The table that all lines together make. -/
def ofLines? (lines : List Line) : Option Toml :=
  (addLines? [] [] lines).map fun nodes => table (membersOf nodes)

end Toml
end FeedDesk
