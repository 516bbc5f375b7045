import StagedLaunch.Document.Value

/-!
# Adding to tables

A key may have dots: all but its last part name tables, which are made if they are missing. What was defined once cannot be
defined again: a dotted key only extends tables that dotted keys have made, and a header only names a table that no header,
key or value has defined before.
-/

namespace StagedLaunch.Document

/-- What leads to a place in a table: the names of tables to pass and whether the way is a dotted key or a header. -/
inductive Way where
  /-- The names before the last dot of a key, in a table with a header or between braces. -/
  | key
  /-- The names before the last one of a header. -/
  | header
deriving DecidableEq, Repr

/-- How a table that is missing on the way comes about. -/
def Way.origin : Way → Origin
  | .key => .dotted
  | .header => .implied

/-- A table may be passed on the way. -/
def Way.mayPass (way : Way) (origin : Origin) : Bool :=
  match way, origin with
  | _, .braces => false
  | .key, .header => false
  | _, _ => true

/-- Replaces the value of a name, or adds the name at the end. -/
def put (entries : Entries) (name : String) (v : Value) : Entries :=
  if (entries.lookup name).isSome then entries.map fun e => if e.1 == name then (name, v) else e
  else entries ++ [(name, v)]

/-- Changes the table at the end of a way, which learns how that table came about. -/
def atTable (way : Way) (path : List String) (change : Origin → Entries → Option Entries) (origin : Origin)
    (entries : Entries) : Option Entries :=
  match path with
  | [] => change origin entries
  | name :: path =>
    match entries.lookup name with
    | none => (atTable way path change way.origin []).map fun t => put entries name (.table way.origin t)
    | some (.table o t) =>
      if way.mayPass o then (atTable way path change o t).map fun t => put entries name (.table o t) else none
    | some (.tables items) =>
      match items.reverse with
      | [] => none
      | last :: before =>
        (atTable way path change .header last).map fun t => put entries name (.tables ((t :: before).reverse))
    | some _ => none

/-- Adds a value under a dotted key. The table that receives it must have been made by dotted keys if the key has dots. -/
def addKey (path : List String) (name : String) (v : Value) (entries : Entries) : Option Entries :=
  let change (origin : Origin) (t : Entries) : Option Entries :=
    if (origin == .dotted) == path.isEmpty || (t.lookup name).isSome then none else some (t ++ [(name, v)])
  atTable .key path change .header entries

/-- Takes out what stands at the place of a header, which may be a table that other headers imply. -/
def openHeader (path : List String) (name : String) (entries : Entries) : Option (Entries × Entries) := do
  let found ← lookupPath path entries
  let opened ←
    match found.bind (·.lookup name) with
    | none => some []
    | some (.table .implied t) => some t
    | some _ => none
  let rest ← atTable .header path (fun _ t => some (t.filter fun e => e.1 != name)) .header entries
  return (opened, rest)
where
  /-- The table at the end of the way of a header, absent if the way leads out of the document. -/
  lookupPath : List String → Entries → Option (Option Entries)
    | [], entries => some (some entries)
    | name :: path, entries =>
      match entries.lookup name with
      | none => some none
      | some (.table o t) => if Way.mayPass .header o then lookupPath path t else none
      | some (.tables items) =>
        match items.getLast? with
        | some t => lookupPath path t
        | none => none
      | some _ => none

/-- Makes room for a table under a header between double brackets. -/
def openTables (path : List String) (name : String) (entries : Entries) : Option Entries :=
  let change (_ : Origin) (t : Entries) : Option Entries :=
    match t.lookup name with
    | none => some (t ++ [(name, .tables [])])
    | some (.tables _) => some t
    | some _ => none
  atTable .header path change .header entries

/-- Puts a finished table at the place of its header. -/
def closeHeader (path : List String) (name : String) (body : Entries) (entries : Entries) : Option Entries :=
  atTable .header path (fun _ t => some (put t name (.table .header body))) .header entries

/-- Adds a finished table to those under its header between double brackets. -/
def closeTables (path : List String) (name : String) (body : Entries) (entries : Entries) : Option Entries :=
  let change (_ : Origin) (t : Entries) : Option Entries :=
    match t.lookup name with
    | some (.tables items) => some (put t name (.tables (items ++ [body])))
    | _ => none
  atTable .header path change .header entries

end StagedLaunch.Document
