import LayeredSettings.Toml.Document

/-!
# Tables under construction

While a document is read, each table remembers how it came about: by its own header, by standing on
the way to another table, or by a dotted key. A key is given once; a table made by a header is not
reopened, neither by a second header nor by a dotted key; a table that only stood on the way to
another may get its own header later, and then moves behind the tables before it.
-/

namespace LayeredSettings.Toml

/-- A member of a table under construction. -/
inductive Node where
  | leaf (value : Value)
  | table (implicit dotted : Bool) (members : List (String × Node))
  | tables (items : List (List (String × Node)))

/-- A table under construction. -/
structure Draft where
  implicit : Bool
  dotted : Bool
  members : List (String × Node)

namespace Draft

/-- A table of its own that has no members yet. -/
def new : Draft := ⟨false, false, []⟩

/-- The node of a table. -/
def toNode (t : Draft) : Node := .table t.implicit t.dotted t.members

/-- The table with a new member at the end. -/
def append (t : Draft) (key : String) (node : Node) : Draft :=
  { t with members := t.members ++ [(key, node)] }

/-- The table with another node under a key that it has. -/
def replace (t : Draft) (key : String) (node : Node) : Draft :=
  { t with members := t.members.map fun (k, n) => if k = key then (k, node) else (k, n) }

/-- The table with the one at the end of a path changed. Tables missing on the way are made;
`dotted` tells that a dotted key leads there, which must not enter a table of its own. A list of
tables is entered at its last. -/
def modifyAt (t : Draft) (dotted : Bool) (change : Draft → Option Draft) :
    List String → Option Draft
  | [] => change t
  | key :: path =>
    match t.members.lookup key with
    | none => (modifyAt ⟨true, dotted, []⟩ dotted change path).map fun child =>
        t.append key child.toNode
    | some (.leaf _) => none
    | some (.table implicit wasDotted members) =>
      if dotted && !implicit then none
      else (modifyAt ⟨implicit, wasDotted, members⟩ dotted change path).map fun child =>
        t.replace key child.toNode
    | some (.tables items) =>
      match items.getLast? with
      | none => none
      | some last => (modifyAt ⟨false, false, last⟩ dotted change path).map fun child =>
          t.replace key (.tables (items.dropLast ++ [child.members]))

/-- The table with a value under a key that is new to it. A dotted key ends in a table made by
dotted keys, and a plain one in any other. -/
def give (plain : Bool) (key : String) (value : Value) (t : Draft) : Option Draft :=
  if t.dotted == plain || (t.members.lookup key).isSome then none
  else some (t.append key (.leaf value))

/-- The table with the value of a key line. -/
def putLine (t : Draft) (path : List String) (value : Value) : Option Draft :=
  match path.getLast? with
  | none => none
  | some key => t.modifyAt true (give (path.length == 1) key value) path.dropLast

/-- The table with the values of some key lines. -/
def putLines (t : Draft) (lines : List (List String × Value)) : Option Draft :=
  lines.foldlM (fun t (path, value) => t.putLine path value) t

/-- The table with a table of its own under a key, to which the lines give the members. -/
def openTable (key : String) (lines : List (List String × Value)) (t : Draft) : Option Draft :=
  match t.members.lookup key with
  | none => (new.putLines lines).map fun child => t.append key child.toNode
  | some (.table true false members) =>
    (Draft.putLines ⟨false, false, members⟩ lines).map fun child =>
      { t with members := t.members.filter (·.1 ≠ key) }.append key child.toNode
  | some _ => none

/-- The table with one table more in the list of tables under a key. -/
def openItem (key : String) (lines : List (List String × Value)) (t : Draft) : Option Draft := do
  let child ← new.putLines lines
  match t.members.lookup key with
  | none => return t.append key (.tables [child.members])
  | some (.tables items) => return t.replace key (.tables (items ++ [child.members]))
  | some _ => none

end Draft

mutual

/-- The value that a node stands for. -/
def Node.toValue : Node → Value
  | .leaf value => value
  | .table _ _ members => .table (Node.membersOf members)
  | .tables items => .array (Node.itemsOf items)

/-- The members of a table. -/
def Node.membersOf : List (String × Node) → List (String × Value)
  | [] => []
  | (key, node) :: rest => (key, node.toValue) :: Node.membersOf rest

/-- The tables of a list. -/
def Node.itemsOf : List (List (String × Node)) → List Value
  | [] => []
  | members :: rest => .table (Node.membersOf members) :: Node.itemsOf rest

end

end LayeredSettings.Toml
