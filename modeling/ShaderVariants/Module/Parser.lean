import ShaderVariants.Module.Basic
import ShaderVariants.Scalar.Parser
import ShaderVariants.Token.Lexer

/-!
# Reading declarations

Value enums and variants declarations stand one after the other in a declaration text, each
after an optional mark of visibility:

* `value_enum NAME as ALIAS: kind { CASE = literal, … }`
* `variants NAME from "template" { VARIANT { KEY: kind = literal, … }, VARIANT(ENUM, …), … }`

A variant named `shared` is not a variant: its definitions are what the others start from.
-/

namespace ShaderVariants

def Token.location (token : Token) (file : String) : Location := ⟨file, token.line, token.column⟩

namespace Parser

def enumCase (file : String) (kind : Scalar.Kind) (owner : String) : Parser ValueEnum.Case := do
  let name ← expectName "case name"
  let _ ← expect (.mark .equals)
  let value ← literal kind owner name.text
  return ⟨name.text, value, some (name.location file)⟩

/-- Reads an alias, if there is one. -/
def enumAlias : Parser (Option String) := do
  if ← isAt [.keyword .asWord] then
    let _ ← advance
    return some (← expectName "value enum alias").text
  else return none

/-- Reads a value enum behind its mark of visibility. -/
def valueEnum (file : String) (isPublic : Bool) : Parser ValueEnum := do
  let keyword ← expect (.keyword .valueEnumWord)
  let name := (← expectName "value enum name").text
  let alias? ← enumAlias
  let _ ← expect (.mark .colon)
  let kind ← scalarKind
  let _ ← expect (.mark .leftBrace)
  let cases ← commaList (.mark .rightBrace) (enumCase file kind s!"value_enum '{name}'")
  return ⟨name, alias?, kind, cases, isPublic, some (keyword.location file)⟩

/-- Reads a definition of a hardcoded variant. -/
def definition (file owner : String) : Parser Definition := do
  let key ← expectName "definition name"
  let _ ← expect (.mark .colon)
  let kind ← scalarKind
  let _ ← expect (.mark .equals)
  let value ← literal kind owner key.text
  return ⟨key.text, value, some (key.location file)⟩

/-- Reads a variant of a declaration: definitions in braces or references in parentheses. -/
def variant (file declaration : String) : Parser Variant := do
  let name ← expectName "variant name"
  let next ← current
  if next.kind = .mark .leftBrace then
    let _ ← advance
    let owner := s!"variant '{declaration}::{name.text}'"
    let definitions ← commaList (.mark .rightBrace) (definition file owner)
    return ⟨name.text, .hardcoded definitions, some (name.location file)⟩
  else if next.kind = .mark .leftParen then
    let _ ← advance
    let references ← commaList (.mark .rightParen)
      (return (← expectName "value enum name").text)
    return ⟨name.text, .crossProduct references, some (name.location file)⟩
  else fail next (.noVariantBody name.text next.text)

/-- The entries of a variants declaration as far as they have been read, the latest first. -/
structure Entries where
  shared : Option (List Definition)
  variants : List Variant

/-- Name of the entry that holds the shared definitions. -/
def sharedName : String := "shared"

/-- Reads one more entry of a variants declaration. -/
def entry (file declaration : String) (entries : Entries) : Parser Entries := do
  let first ← current
  let variant ← variant file declaration
  if variant.name ≠ sharedName then
    return { entries with variants := variant :: entries.variants }
  else
    match variant.body, entries.shared with
    | .crossProduct _, _ => fail first (.sharedCrossProduct declaration)
    | .hardcoded _, some _ => fail first (.repeatedShared declaration)
    | .hardcoded definitions, none => return { entries with shared := some definitions }

/-- Reads a variants declaration behind its mark of visibility. -/
def variants (file : String) (isPublic : Bool) : Parser VariantsDeclaration := do
  let keyword ← expect (.keyword .variantsWord)
  let name := (← expectName "variants name").text
  let _ ← expect (.keyword .fromWord)
  let template ← expect .string "template path string"
  let _ ← expect (.mark .leftBrace)
  let entries ← commaFold (.mark .rightBrace) (entry file name) ⟨none, []⟩
  return ⟨name, template.text, entries.shared, entries.variants.reverse, isPublic,
    some (keyword.location file)⟩

/-- The declarations of a module as far as they have been read, the latest first. -/
structure Declarations where
  valueEnums : List ValueEnum
  variants : List VariantsDeclaration

/-- Reads one more declaration. -/
def declaration (file : String) (declarations : Declarations) : Parser Declarations := do
  let isPublic ← visibility
  let token ← current
  if token.kind = .keyword .valueEnumWord then
    let valueEnum ← valueEnum file isPublic
    return { declarations with valueEnums := valueEnum :: declarations.valueEnums }
  else if token.kind = .keyword .variantsWord then
    let variants ← variants file isPublic
    return { declarations with variants := variants :: declarations.variants }
  else fail token (.noDeclaration token.text)

theorem consuming_declaration (file : String) (declarations : Declarations) :
    Consuming (declaration file declarations) := by
  refine Consuming.bind_right fun isPublic => Consuming.bind_right fun token => ?_
  split
  · exact Consuming.bind_left (Consuming.bind_left (Consuming.expect (by simp) _))
  · split
    · exact Consuming.bind_left (Consuming.bind_left (Consuming.expect (by simp) _))
    · exact Consuming.fail _ _

/-- Reads all declarations of a file. -/
def module (file : String) : Parser Module := do
  let declarations ← untilEnd (declaration file) (consuming_declaration file) ⟨[], []⟩
  return ⟨file, declarations.valueEnums.reverse, declarations.variants.reverse⟩

end Parser

namespace Module

/-- The module that a text declares, or why there is none. -/
def ofText (file : Path) (text : String) : Except Refusal Module := do
  let tokens ← (Token.ofText text).mapError .fault
  (Parser.module file.toString (TokenStream.ofTokens tokens)).result

end Module

end ShaderVariants
