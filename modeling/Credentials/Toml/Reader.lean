import Credentials.Toml.Scalar

/-!
Reading TOML documents. Tables are built up while they are read: what a header or a dotted key may
still add to a table depends on how the table came about.
-/

namespace Credentials.Toml

inductive Origin where
  /-- Written between braces; nothing can be added. -/
  | braces
  | header
  /-- On the way to a table named by a header. -/
  | implied
  | dotted
  deriving DecidableEq, Repr

inductive Item where
  | scalar (value : Tree)
  | array (items : List Item)
  | table (origin : Origin) (members : List (String × Item))
  | tables (rows : List (List (String × Item)))

abbrev Items := List (String × Item)

namespace Items

def find? (items : Items) (key : String) : Option Item := items.lookup key

def set (key : String) (item : Item) : Items → Items
  | [] => [(key, item)]
  | (k, old) :: rest => if k = key then (k, item) :: rest else (k, old) :: set key item rest

def add (items : Items) (key : String) (item : Item) : Option Items :=
  if (items.find? key).isSome then none else some (items ++ [(key, item)])

/-- Goes down a path of keys and changes the table there; `change` is told whether the table came
about by a dotted key. Missing tables are made. A dotted key does not go through a table that a
header named. -/
def within (origin : Origin) (change : Bool → Items → Option Items) :
    List String → Bool → Items → Option Items
  | [], isDotted, items => change isDotted items
  | key :: path, _, items =>
    match items.find? key with
    | none => do
      let members ← within origin change path (origin == .dotted) []
      some (set key (.table origin members) items)
    | some (.table found members) =>
      if found = .braces ∨ (origin = .dotted ∧ found = .header) then none
      else do
        let members ← within origin change path (found == .dotted) members
        some (set key (.table found members) items)
    -- of tables between double brackets the last one is meant
    | some (.tables rows) => do
      let row ← rows.getLast?
      let row ← within origin change path false row
      some (set key (.tables (rows.dropLast ++ [row])) items)
    | some _ => none

/-- Sets a dotted key. A table that it reaches through other keys must itself be dotted. -/
def assign (path : List String) (value : Item) (items : Items) : Option Items :=
  match path.getLast? with
  | none => none
  | some key =>
    let above := path.dropLast
    within .dotted (fun isDotted members =>
      if !above.isEmpty && !isDotted then none else members.add key value) above false items

def openTable (path : List String) (items : Items) : Option Items :=
  match path.getLast? with
  | none => none
  | some key =>
    within .implied (fun _ members =>
      match members.find? key with
      | none => some (members ++ [(key, .table .header [])])
      -- a table below it has been opened before
      | some (.table .implied inner) => some (set key (.table .header inner) members)
      | some _ => none) path.dropLast false items

def openRow (path : List String) (items : Items) : Option Items :=
  match path.getLast? with
  | none => none
  | some key =>
    within .implied (fun _ members =>
      match members.find? key with
      | none => some (members ++ [(key, .tables [[]])])
      | some (.tables rows) => some (set key (.tables (rows ++ [[]])) members)
      | some _ => none) path.dropLast false items

def assignIn (header path : List String) (value : Item) (items : Items) : Option Items :=
  within .implied (fun _ members => assign path value members) header false items

end Items

mutual

/-- Reads a value that stands so many brackets and braces deep. -/
def value : Nat → Nat → List Char → Option (Item × List Char)
  | 0, _, _ => none
  | fuel + 1, depth, s =>
    match s with
    | '"' :: _ => (string s).map fun (t, rest) => (.scalar (.text t), rest)
    | '\'' :: _ => (string s).map fun (t, rest) => (.scalar (.text t), rest)
    | '[' :: t =>
      if depth + 1 < depthLimit then arrayItems fuel (depth + 1) [] t else none
    | '\x7b' :: t =>
      if depth + 1 < depthLimit then
        match skipBlanks t with
        | '\x7d' :: rest => some (.table .braces [], rest)
        | t => inlineMembers fuel (depth + 1) [] t
      else none
    | 't' :: 'r' :: 'u' :: 'e' :: rest => some (.scalar (.boolean true), rest)
    | 'f' :: 'a' :: 'l' :: 's' :: 'e' :: rest => some (.scalar (.boolean false), rest)
    | _ => (numberOrTime s).map fun (v, rest) => (.scalar v, rest)

def arrayItems : Nat → Nat → List Item → List Char → Option (Item × List Char)
  | 0, _, _, _ => none
  | fuel + 1, depth, done, s => do
    match ← skipLines (s.length + 1) s with
    | ']' :: rest => some (.array done.reverse, rest)
    | t =>
      let (v, t) ← value fuel depth t
      match ← skipLines (t.length + 1) t with
      | ']' :: rest => some (.array (v :: done).reverse, rest)
      | ',' :: rest => arrayItems fuel depth (v :: done) rest
      | _ => none

def inlineMembers : Nat → Nat → Items → List Char → Option (Item × List Char)
  | 0, _, _, _ => none
  | fuel + 1, depth, items, s => do
    let (path, t) ← key s
    let t ← Time.literal '=' t
    let (v, t) ← value fuel depth (skipBlanks t)
    let items ← items.assign path v
    match skipBlanks t with
    | '\x7d' :: rest => some (.table .braces items, rest)
    | ',' :: rest => inlineMembers fuel depth items rest
    | _ => none

end

def keyValue (s : List Char) : Option (List String × Item × List Char) := do
  let (path, t) ← key s
  let t ← Time.literal '=' t
  let (v, t) ← value (t.length + 1) 0 (skipBlanks t)
  let rest ← lineEnd t
  some (path, v, rest)

/-- Reads the lines of a document into the tables that were read so far; `header` leads to the table
that is open. -/
def lines : Nat → List String → Items → List Char → Option Items
  | 0, _, _, _ => none
  | fuel + 1, header, items, s =>
    match skipBlanks s with
    | [] => some items
    | '#' :: t => do
      let rest ← lineEnd ('#' :: t)
      lines fuel header items rest
    | '\n' :: rest => lines fuel header items rest
    | '\r' :: t => do
      let rest ← newline ('\r' :: t)
      lines fuel header items rest
    | '[' :: '[' :: t => do
      let (path, t) ← key t
      let t ← Time.literal ']' t
      let t ← Time.literal ']' t
      let rest ← lineEnd t
      let items ← items.openRow path
      lines fuel path items rest
    | '[' :: t => do
      let (path, t) ← key t
      let t ← Time.literal ']' t
      let rest ← lineEnd t
      let items ← items.openTable path
      lines fuel path items rest
    | t => do
      let (path, v, rest) ← keyValue t
      let items ← items.assignIn header path v
      lines fuel header items rest

mutual

def Item.toTree : Item → Tree
  | .scalar v => v
  | .array items => .array (toTrees items)
  | .table _ members => .table (toMembers members)
  | .tables rows => .array (rowTrees rows)

def toTrees : List Item → List Tree
  | [] => []
  | v :: vs => v.toTree :: toTrees vs

def toMembers : List (String × Item) → Members
  | [] => []
  | (k, v) :: ms => Members.insert k v.toTree (toMembers ms)

def rowTrees : List (List (String × Item)) → List Tree
  | [] => []
  | row :: rows => .table (toMembers row) :: rowTrees rows

end

/-- The tree of a document; a byte-order mark in front of it is passed over. -/
def read? (text : String) : Option Tree :=
  let s := text.toList
  let s := if s.head? = some (Char.ofNat 0xfeff) then s.tail else s
  (lines (s.length + 1) [] [] s).map fun items => .table (toMembers items)

end Credentials.Toml
