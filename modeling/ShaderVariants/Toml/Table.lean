import ShaderVariants.Datum
import ShaderVariants.OrderedMap
import ShaderVariants.Toml.Fault

/-!
# Tables of a document

A key leads through tables to a table, which is made where it is missing. Through a list of
tables it leads to the last one of them.
-/

namespace ShaderVariants.Toml

/-- Entries in the order in which they were made. -/
abbrev Table := List (String × Datum)

/-- A table behind a value, and the value with another table in the place of it. -/
structure Inner where
  table : Table
  replace : Table → Datum

/-- The last of some items, if it is a table. -/
def lastTable? (items : List Datum) : Option Inner :=
  match items.getLast? with
  | some (.table entries) =>
    some ⟨entries, fun changed => .list (items.dropLast ++ [.table changed])⟩
  | _ => none

/-- The table that a value leads to. -/
def innerTable? (throughLists : Bool) : Datum → Option Inner
  | .table entries => some ⟨entries, .table⟩
  | .list items => if throughLists then lastTable? items else none
  | _ => none

namespace Table

def set (table : Table) (part : String) (value : Datum) : Table :=
  OrderedMap.setIn part value table

def change (throughLists : Bool) (alter : Table → Except Problem Table) :
    Key → Table → Except Problem Table
  | [], table => alter table
  | part :: key, table => do
    match table.lookup part with
    | none => return Table.set table part (.table (← change throughLists alter key []))
    | some value =>
      match innerTable? throughLists value with
      | none => throw .overwritten
      | some inner =>
        return Table.set table part (inner.replace (← change throughLists alter key inner.table))

/-- Makes an entry that must not be there already; `repeated` says what is wrong if it is. -/
def insertNew (repeated : Problem) (part : String) (value : Datum) (table : Table) :
    Except Problem Table :=
  match table.lookup part with
  | some _ => .error repeated
  | none => .ok (Table.set table part value)

/-- Adds an empty table to a list of tables, which is made where it is missing. -/
def appendTo (part : String) (table : Table) : Except Problem Table :=
  match table.lookup part with
  | none => .ok (Table.set table part (.list [.table []]))
  | some (.list items) => .ok (Table.set table part (.list (items ++ [.table []])))
  | some _ => .error .overwritten

end Table

/-- A key without its last part, and that part. -/
def splitKey (key : Key) : Key × String := (key.dropLast, key.getLast?.getD "")

end ShaderVariants.Toml
