import BindingNames.Arguments
import BindingNames.Binary64
import BindingNames.Calendar
import BindingNames.Configuration.Places
import BindingNames.Configuration.Reading
import BindingNames.Configuration.Saving
import BindingNames.Configuration.Setting
import BindingNames.Declaration
import BindingNames.Disambiguation
import BindingNames.Disk
import BindingNames.Document.Conversion
import BindingNames.Document.Handles
import BindingNames.Document.Merging
import BindingNames.Document.Moments
import BindingNames.Document.Node
import BindingNames.Document.Plain
import BindingNames.Document.Reading
import BindingNames.Document.Scalars
import BindingNames.Document.Spot
import BindingNames.Document.Tag
import BindingNames.Document.Token
import BindingNames.Document.Writing
import BindingNames.Failure
import BindingNames.Fields
import BindingNames.Header.Analyzer
import BindingNames.Header.Cursor
import BindingNames.Header.Dump
import BindingNames.Header.Extraction
import BindingNames.Header.Parser
import BindingNames.Identifier
import BindingNames.Library.Exports
import BindingNames.Library.Flags
import BindingNames.Library.Reader
import BindingNames.Log
import BindingNames.LogFormat
import BindingNames.LogOutput
import BindingNames.Main
import BindingNames.Mapper
import BindingNames.NameStyle
import BindingNames.Path
import BindingNames.Program
import BindingNames.Progress
import BindingNames.Proofs.AcceptedRules
import BindingNames.Proofs.Appending
import BindingNames.Proofs.BindingTable
import BindingNames.Proofs.CellText
import BindingNames.Proofs.CompilerFlags
import BindingNames.Proofs.ConfigurationCheck
import BindingNames.Proofs.DefaultRule
import BindingNames.Proofs.DerivedNames
import BindingNames.Proofs.DistinctNames
import BindingNames.Proofs.ExactRules
import BindingNames.Proofs.ExportedEntries
import BindingNames.Proofs.FatalFailures
import BindingNames.Proofs.GivenSettings
import BindingNames.Proofs.GreedyNaming
import BindingNames.Proofs.KeptUnits
import BindingNames.Proofs.LibrarySearch
import BindingNames.Proofs.LikeValues
import BindingNames.Proofs.MappedFunctions
import BindingNames.Proofs.MapperHistory
import BindingNames.Proofs.Mapping
import BindingNames.Proofs.MentionedTypes
import BindingNames.Proofs.MissingRules
import BindingNames.Proofs.MovedConfiguration
import BindingNames.Proofs.NameForm
import BindingNames.Proofs.NameOrigin
import BindingNames.Proofs.Numbering
import BindingNames.Proofs.Occurrences
import BindingNames.Proofs.Outcomes
import BindingNames.Proofs.OwnerInference
import BindingNames.Proofs.PathText
import BindingNames.Proofs.Placement
import BindingNames.Proofs.ProgramCodes
import BindingNames.Proofs.ProgramStages
import BindingNames.Proofs.ReceiverCheck
import BindingNames.Proofs.Redeclarations
import BindingNames.Proofs.Renaming
import BindingNames.Proofs.RepeatedHeaders
import BindingNames.Proofs.ReportedStatistics
import BindingNames.Proofs.ResolvedRoles
import BindingNames.Proofs.ResolverHistory
import BindingNames.Proofs.RuleAddressing
import BindingNames.Proofs.RuleOrder
import BindingNames.Proofs.RulePriority
import BindingNames.Proofs.RuleValidation
import BindingNames.Proofs.SavedSettings
import BindingNames.Proofs.ScopeSeparation
import BindingNames.Proofs.SeparatedLines
import BindingNames.Proofs.StyledNames
import BindingNames.Proofs.SymbolListing
import BindingNames.Proofs.SymbolMap
import BindingNames.Proofs.TableRows
import BindingNames.Proofs.TabledEntries
import BindingNames.Proofs.TextOrder
import BindingNames.Proofs.TextPieces
import BindingNames.Proofs.ValidatedInputs
import BindingNames.Proofs.WordText
import BindingNames.Proofs.WrittenFiles
import BindingNames.Recording
import BindingNames.Report
import BindingNames.Resolver
import BindingNames.Rule
import BindingNames.RuleTable
import BindingNames.Rules.Entry
import BindingNames.Rules.Frame
import BindingNames.Rules.RuleSet
import BindingNames.Rules.Separated
import BindingNames.Rules.Source
import BindingNames.Run
import BindingNames.SetOrder
import BindingNames.Symbol
import BindingNames.SymbolTable
import BindingNames.Text.Base64
import BindingNames.Text.Blank
import BindingNames.Text.Case
import BindingNames.Text.Code
import BindingNames.Text.Digit
import BindingNames.Text.Encoding
import BindingNames.Text.Numeral
import BindingNames.Text.Piece
import BindingNames.Text.Printable
import BindingNames.Text.Quoted
import BindingNames.Text.Ranges
import BindingNames.Text.ShellWords
import BindingNames.Text.Word
import BindingNames.Trimming
import BindingNames.Value
import BindingNames.Workbook
