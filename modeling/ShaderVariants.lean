import ShaderVariants.Binary.Exact
import ShaderVariants.Binary.Nearest
import ShaderVariants.Combination
import ShaderVariants.CommandLine.Arguments
import ShaderVariants.CommandLine.Command
import ShaderVariants.CommandLine.Console
import ShaderVariants.CommandLine.InMemory
import ShaderVariants.CommandLine.Session
import ShaderVariants.CommandLine.Terminal
import ShaderVariants.Compilation
import ShaderVariants.Complex
import ShaderVariants.Datum
import ShaderVariants.Decimal.Fixed
import ShaderVariants.Decimal.Limit
import ShaderVariants.Decimal.Reading
import ShaderVariants.Decimal.Shortest
import ShaderVariants.Decimal.Written
import ShaderVariants.FileTree
import ShaderVariants.Generated.Emission
import ShaderVariants.Generated.Module
import ShaderVariants.Iteration
import ShaderVariants.Location
import ShaderVariants.Main
import ShaderVariants.Manifest
import ShaderVariants.Module.Basic
import ShaderVariants.Module.Listing
import ShaderVariants.Module.Parser
import ShaderVariants.Name.Snake
import ShaderVariants.Name.Usable
import ShaderVariants.Odometer
import ShaderVariants.OrderedMap
import ShaderVariants.ParseError
import ShaderVariants.Path
import ShaderVariants.Position
import ShaderVariants.Preprocessor
import ShaderVariants.Preprocessor.Bridge
import ShaderVariants.Progression
import ShaderVariants.Proofs.Acceptance
import ShaderVariants.Proofs.BridgeRuns
import ShaderVariants.Proofs.CaseKeys
import ShaderVariants.Proofs.CaseProduct
import ShaderVariants.Proofs.CaseSources
import ShaderVariants.Proofs.CaseTables
import ShaderVariants.Proofs.CharacterClasses
import ShaderVariants.Proofs.ClassNames
import ShaderVariants.Proofs.CompilerResult
import ShaderVariants.Proofs.Grammar
import ShaderVariants.Proofs.IntegerNumerals
import ShaderVariants.Proofs.LexicalGrammar
import ShaderVariants.Proofs.Literals
import ShaderVariants.Proofs.ModuleRules
import ShaderVariants.Proofs.Odometer
import ShaderVariants.Proofs.OrderedMap
import ShaderVariants.Proofs.ParsedModules
import ShaderVariants.Proofs.ParserExactness
import ShaderVariants.Proofs.ParserSteps
import ShaderVariants.Proofs.Repetition
import ShaderVariants.Proofs.TokenReading
import ShaderVariants.Proofs.UsableName
import ShaderVariants.Proofs.ValidationResult
import ShaderVariants.Proofs.VariantCases
import ShaderVariants.Proofs.WrittenTokens
import ShaderVariants.Resource
import ShaderVariants.Rounding
import ShaderVariants.Scalar.Basic
import ShaderVariants.Scalar.Numeral
import ShaderVariants.Scalar.Parser
import ShaderVariants.Template.Engine
import ShaderVariants.Template.Evaluation
import ShaderVariants.Template.Expansion
import ShaderVariants.Template.Expression
import ShaderVariants.Template.Fault
import ShaderVariants.Template.Folding
import ShaderVariants.Template.Interpreter
import ShaderVariants.Template.Layout
import ShaderVariants.Template.Lexer
import ShaderVariants.Template.Literal
import ShaderVariants.Template.Number
import ShaderVariants.Template.Operation
import ShaderVariants.Template.Parser.Basic
import ShaderVariants.Template.Parser.Expression
import ShaderVariants.Template.Parser.Statement
import ShaderVariants.Template.Pattern
import ShaderVariants.Template.Preparation
import ShaderVariants.Template.Scope
import ShaderVariants.Template.Token
import ShaderVariants.Template.Value
import ShaderVariants.Text.Alphanumeric
import ShaderVariants.Text.Blank
import ShaderVariants.Text.CellWidth
import ShaderVariants.Text.CharacterName
import ShaderVariants.Text.CharacterName.Aliases
import ShaderVariants.Text.CharacterName.Alphabets
import ShaderVariants.Text.CharacterName.Ancient
import ShaderVariants.Text.CharacterName.EastAsia
import ShaderVariants.Text.CharacterName.Notation
import ShaderVariants.Text.CharacterName.Pictures
import ShaderVariants.Text.CharacterName.Run
import ShaderVariants.Text.CharacterName.Scripts
import ShaderVariants.Text.CharacterName.Signs
import ShaderVariants.Text.CharacterName.Symbols
import ShaderVariants.Text.Cluster
import ShaderVariants.Text.CodePointSet
import ShaderVariants.Text.DecimalDigit
import ShaderVariants.Text.Drawing
import ShaderVariants.Text.Emoji
import ShaderVariants.Text.Emoji.Names
import ShaderVariants.Text.Escape
import ShaderVariants.Text.Hexadecimal
import ShaderVariants.Text.Identifier
import ShaderVariants.Text.Lines
import ShaderVariants.Text.Lowercase
import ShaderVariants.Text.Markup
import ShaderVariants.Text.NormalForm
import ShaderVariants.Text.NormalForm.Data
import ShaderVariants.Text.NormalForm.Mappings
import ShaderVariants.Text.Parts
import ShaderVariants.Text.Printable
import ShaderVariants.Text.Quoted
import ShaderVariants.Text.Style
import ShaderVariants.Text.Table
import ShaderVariants.Text.Utf8
import ShaderVariants.Text.Wrapped
import ShaderVariants.Token.Basic
import ShaderVariants.Token.Lexer
import ShaderVariants.Token.Stream
import ShaderVariants.Toml.Document
import ShaderVariants.Toml.Fault
import ShaderVariants.Toml.Moment
import ShaderVariants.Toml.Namespace
import ShaderVariants.Toml.Numeral
import ShaderVariants.Toml.Pattern
import ShaderVariants.Toml.Reader
import ShaderVariants.Toml.Table
import ShaderVariants.Toml.Text
import ShaderVariants.Toml.Value
import ShaderVariants.Validation.Issue
import ShaderVariants.Validation.Passes
import ShaderVariants.Validation.Repetition
import ShaderVariants.Proofs.CaseDefinitions
import ShaderVariants.Proofs.CompilationSteps
import ShaderVariants.Proofs.CaseListing
import ShaderVariants.Proofs.CompilationErrors
import ShaderVariants.Proofs.StringLiterals
import ShaderVariants.Proofs.QuotedText
import ShaderVariants.Proofs.GeneratedLines
import ShaderVariants.Proofs.GeneratedTables
import ShaderVariants.Proofs.BoundNames
import ShaderVariants.Proofs.Docstrings
import ShaderVariants.Proofs.CodeReading
import ShaderVariants.Proofs.ClassLines
import ShaderVariants.Proofs.MembersByValue
import ShaderVariants.Proofs.Statements
import ShaderVariants.Proofs.TopLevel
import ShaderVariants.Proofs.ModuleStatements
import ShaderVariants.Proofs.KeyExpressions
import ShaderVariants.Proofs.DeclarationOrder
import ShaderVariants.Proofs.DirectoryIndependence
import ShaderVariants.Proofs.Build
import ShaderVariants.Proofs.CaseTotality
import ShaderVariants.Proofs.FaultPlaces
import ShaderVariants.Proofs.SourceLiterals
import ShaderVariants.Proofs.ClassBodies
import ShaderVariants.Proofs.SteppedReading
import ShaderVariants.Proofs.SteppedParsing
import ShaderVariants.Proofs.RepetitionPlaces
import ShaderVariants.Proofs.PrintedNames
import ShaderVariants.Proofs.VisibleDefinitions
import ShaderVariants.Proofs.ManifestLoading
