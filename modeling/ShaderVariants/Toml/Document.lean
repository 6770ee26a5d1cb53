import ShaderVariants.Toml.Value

/-!
# TOML documents

A document is a sequence of lines: entries, and headers that say which table the entries after
them belong to. `Toml.ofText` reads a document as the table of all of them. Line ends have to be
newlines already.
-/

namespace ShaderVariants.Toml

/-- What has been read of a document: the table so far, what its keys may still be used for, and
the key of the table that entries belong to. -/
structure Document where
  table : Table
  namespaces : Namespaces
  header : Key

namespace Document

/-- Nothing has been read. -/
def empty : Document := ⟨[], .empty, []⟩

/-- Declares a table by name. -/
def declare (document : Document) (key : Key) : Except Problem Document := do
  let namespaces := document.namespaces
  if namespaces.isClosed key || namespaces.isImmutable key then throw (.declaredTwice key)
  let table ← document.table.change true .ok key
  return ⟨table, namespaces.close key, key⟩

/-- Declares one more table of a list of tables. -/
def declareItem (document : Document) (key : Key) : Except Problem Document := do
  let namespaces := document.namespaces
  if namespaces.isImmutable key then throw (.immutable key)
  let (parents, part) := splitKey key
  let table ← document.table.change true (Table.appendTo part) parents
  return ⟨table, (namespaces.release key).close key, key⟩

/-- Notes the tables on the way to a dotted key, shorter keys first. -/
def passThrough (namespaces : Namespaces) (keys : List Key) : Except Problem Namespaces :=
  keys.foldlM (fun namespaces key =>
    if namespaces.isClosed key then .error (.reopened key) else .ok (namespaces.closeLater key))
    namespaces

/-- Sets an entry of the table that the last header named. -/
def setEntry (document : Document) (key : Key) (value : Datum) : Except Problem Document := do
  let (inside, part) := splitKey key
  let parents := document.header ++ inside
  let passed := (List.range inside.length).map fun count =>
    document.header ++ key.take (count + 1)
  let namespaces ← passThrough document.namespaces passed
  if namespaces.isImmutable parents then throw (.immutable parents)
  let table ← document.table.change true (Table.insertNew .overwritten part value) parents
  let namespaces :=
    if value.isContainer then namespaces.freeze (document.header ++ key) else namespaces
  return ⟨table, namespaces, document.header⟩

end Document

namespace Reader

/-- The rest of a header, behind its brackets. -/
def header (opening closing : String) (problem : Problem)
    (declare : Key → Except Problem Document) : Reader Document := do
  skip opening.length
  skipSpaces
  let document ← check (declare (← key))
  if !(← skipText closing) then fail problem
  return document

def anyHeader (document : Document) : Reader Document := do
  let document := { document with namespaces := document.namespaces.beginSection }
  if ← isAt "[[" then header "[[" "]]" .tableListNotClosed document.declareItem
  else header "[" "]" .tableNotClosed document.declare

/-- An entry or a header. -/
def statement (document : Document) : Reader Document := do
  match ← peek? with
  | none => return document
  | some c =>
    if beginsKey c then
      let (key, value) ← entry value
      check (document.setEntry key value)
    else if c = '[' then anyHeader document
    else if c = '#' then return document
    else fail .noStatement

/-- A line, with a statement or without one; nothing at the end of the document. -/
def line (document : Document) : Reader (Option Document) := do
  skipSpaces
  match ← peek? with
  | none => return none
  | some '\n' =>
    skip 1
    return some document
  | some _ =>
    let document ← statement document
    skipSpaces
    skipComment
    match ← peek? with
    | none => return some document
    | some '\n' =>
      skip 1
      return some document
    | some _ => fail .statementGoesOn

end Reader

/-- Reads a document. -/
def ofText (text : List Char) : Except Fault Table :=
  match (Reader.iterate Reader.line Document.empty).run text with
  | .ok (document, _) => .ok document.table
  | .error fault => .error fault

end ShaderVariants.Toml
