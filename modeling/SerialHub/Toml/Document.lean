import SerialHub.Toml.Value

/-!
# Building a document from its lines

A configuration file is read line by line into a tree of tables, each remembering how it came to
be (named by a header, created on the way to one, or created by a dotted key), since that decides
how it may still be extended. A `[[header]]` appends a table to an array of tables, values written
on a line are closed, and a key may be given once in each table.
-/

namespace SerialHub.Toml

/-- How a table of the tree came to be. -/
inductive Origin where
  | header
  | implicit
  | dotted
  deriving Repr, DecidableEq, Inhabited

/-- A node of the tree being built: a closed value, an open table, or an array of tables. -/
inductive Item where
  | value (v : Value)
  | table (origin : Origin) (entries : List (String × Item))
  | tables (elements : List (List (String × Item)))
  deriving Inhabited

/-- The keys of a table being built, with their items. -/
abbrev Entries := List (String × Item)

/-- The entries with the item of a key replaced. -/
def setEntry (k : String) (i : Item) : Entries → Entries
  | [] => []
  | (k', i') :: rest => if k' == k then (k, i) :: rest else (k', i') :: setEntry k i rest

/-- The item of a key. -/
def lookupEntry (k : String) : Entries → Option Item
  | [] => none
  | (k', i) :: rest => if k' == k then some i else lookupEntry k rest

/-- Changes the table at a path below a table of a given origin. Missing tables on the way are
created, as dotted tables when the path is a dotted key and as implicit ones when it is a
header. A path may not pass through a closed value, and a dotted key may not pass through a
table named by a header; through an array of tables it goes into the last table. `f` changes
the table reached, given its origin. -/
def atPath (dotted : Bool) (f : Origin → Entries → Option (Origin × Entries)) :
    List String → Origin → Entries → Option (Origin × Entries)
  | [], o, es => f o es
  | k :: rest, o, es =>
    match lookupEntry k es with
    | none => do
      let (o', sub) ← atPath dotted f rest (if dotted then .dotted else .implicit) []
      pure (o, es ++ [(k, .table o' sub)])
    | some (.value _) => none
    | some (.tables ts) =>
      match ts.getLast? with
      | none => none
      | some last => do
        let (_, sub) ← atPath dotted f rest .header last
        pure (o, setEntry k (.tables (ts.dropLast ++ [sub])) es)
    | some (.table o' sub) =>
      if dotted && o' == .header then none
      else do
        let (o'', sub') ← atPath dotted f rest o' sub
        pure (o, setEntry k (.table o'' sub') es)

/-- Adds `prefix.key = v` to a table: the dotted prefix must lead to a dotted table, or be
empty, and the key must be new there. -/
def addKeyval (pre : List String) (key : String) (v : Value) (o : Origin) (es : Entries) :
    Option (Origin × Entries) :=
  atPath true (fun o' es' =>
      if (o' == .dotted) == pre.isEmpty then none
      else if (lookupEntry key es').isSome then none
      else some (o', es' ++ [(key, .value v)])) pre o es

/-- Names the table at `pre.key` with a header: it must be new, or implicit so far. -/
def openTable (pre : List String) (key : String) (root : Entries) : Option Entries :=
  (atPath false (fun o es =>
      match lookupEntry key es with
      | none => some (o, es ++ [(key, .table .header [])])
      | some (.table .implicit sub) => some (o, setEntry key (.table .header sub) es)
      | some _ => none) pre .header root).map (·.2)

/-- Appends a fresh table to the array of tables at `pre.key`, creating the array if needed. -/
def openArrayTable (pre : List String) (key : String) (root : Entries) : Option Entries :=
  (atPath false (fun o es =>
      match lookupEntry key es with
      | none => some (o, es ++ [(key, .tables [[]])])
      | some (.tables ts) => some (o, setEntry key (.tables (ts ++ [[]])) es)
      | some _ => none) pre .header root).map (·.2)

mutual

/-- The value an item of the tree stands for. -/
def Item.toValue : Item → Value
  | .value v => v
  | .table _ es => .table (entriesToValue es)
  | .tables ts => .array (tablesToValue ts)

/-- The table entries stand for. -/
def entriesToValue : Entries → List (String × Value)
  | [] => []
  | (k, i) :: rest => (k, i.toValue) :: entriesToValue rest

/-- The tables an array of tables stands for. -/
def tablesToValue : List Entries → List Value
  | [] => []
  | es :: rest => .table (entriesToValue es) :: tablesToValue rest

end

end SerialHub.Toml
