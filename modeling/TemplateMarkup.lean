import TemplateMarkup.Assembly.Action
import TemplateMarkup.Assembly.Component
import TemplateMarkup.Assembly.Element
import TemplateMarkup.Assembly.State
import TemplateMarkup.Assembly.Step
import TemplateMarkup.Catalog
import TemplateMarkup.Catalog.Bundled
import TemplateMarkup.CommandLine.Arguments
import TemplateMarkup.CommandLine.Run
import TemplateMarkup.Directive
import TemplateMarkup.Dtd.Declaration
import TemplateMarkup.Dtd.Doctype
import TemplateMarkup.Dtd.Lexeme
import TemplateMarkup.Entities
import TemplateMarkup.Event
import TemplateMarkup.EventStream
import TemplateMarkup.Fault
import TemplateMarkup.Files.FileSystem
import TemplateMarkup.Files.FileTree
import TemplateMarkup.Files.ReadFailure
import TemplateMarkup.IdTable
import TemplateMarkup.Json
import TemplateMarkup.Location
import TemplateMarkup.Main
import TemplateMarkup.Markup.Binding
import TemplateMarkup.Markup.Chunk
import TemplateMarkup.Markup.Document
import TemplateMarkup.Markup.LineCursor
import TemplateMarkup.Markup.Malformation
import TemplateMarkup.Markup.Reference
import TemplateMarkup.Markup.Tag
import TemplateMarkup.Naming
import TemplateMarkup.Profile
import TemplateMarkup.Proofs.Assembly.Abreast
import TemplateMarkup.Proofs.Assembly.Accounts
import TemplateMarkup.Proofs.Assembly.Attachment
import TemplateMarkup.Proofs.Assembly.AttributeOrder
import TemplateMarkup.Proofs.Assembly.Attributes
import TemplateMarkup.Proofs.Assembly.Balance
import TemplateMarkup.Proofs.Assembly.Bond
import TemplateMarkup.Proofs.Assembly.CharacterData
import TemplateMarkup.Proofs.Assembly.Comments
import TemplateMarkup.Proofs.Assembly.Dead
import TemplateMarkup.Proofs.Assembly.Element
import TemplateMarkup.Proofs.Assembly.Extend
import TemplateMarkup.Proofs.Assembly.Extending
import TemplateMarkup.Proofs.Assembly.Identities
import TemplateMarkup.Proofs.Assembly.Isolation
import TemplateMarkup.Proofs.Assembly.Move
import TemplateMarkup.Proofs.Assembly.OpenElements
import TemplateMarkup.Proofs.Assembly.Order
import TemplateMarkup.Proofs.Assembly.Outcome
import TemplateMarkup.Proofs.Assembly.Parameters
import TemplateMarkup.Proofs.Assembly.Refusal
import TemplateMarkup.Proofs.Assembly.Respelling
import TemplateMarkup.Proofs.Assembly.Segment
import TemplateMarkup.Proofs.Assembly.Shape
import TemplateMarkup.Proofs.Assembly.SpaceSetting
import TemplateMarkup.Proofs.Assembly.Spacing
import TemplateMarkup.Proofs.Assembly.Upgrade
import TemplateMarkup.Proofs.Catalog
import TemplateMarkup.Proofs.CommandLine.Check
import TemplateMarkup.Proofs.Dtd.Doctype
import TemplateMarkup.Proofs.Dtd.Lexing
import TemplateMarkup.Proofs.Dtd.Reading
import TemplateMarkup.Proofs.Dtd.Slices
import TemplateMarkup.Proofs.Dtd.Written
import TemplateMarkup.Proofs.Entities.Answers
import TemplateMarkup.Proofs.Entities.Intake
import TemplateMarkup.Proofs.Entities.Life
import TemplateMarkup.Proofs.Entities.Names
import TemplateMarkup.Proofs.Entities.Permanence
import TemplateMarkup.Proofs.Entities.Permutation
import TemplateMarkup.Proofs.Entities.Slices
import TemplateMarkup.Proofs.Entities.Walk
import TemplateMarkup.Proofs.IdTable
import TemplateMarkup.Proofs.IdTable.Stored
import TemplateMarkup.Proofs.Json.Recovery
import TemplateMarkup.Proofs.Json.Template
import TemplateMarkup.Proofs.Markup.Cut
import TemplateMarkup.Proofs.Markup.Diagnosis
import TemplateMarkup.Proofs.Markup.Escape
import TemplateMarkup.Proofs.Markup.Lines
import TemplateMarkup.Proofs.Markup.Nesting
import TemplateMarkup.Proofs.Markup.Replacement
import TemplateMarkup.Proofs.Markup.ReportedValues
import TemplateMarkup.Proofs.Markup.Slices
import TemplateMarkup.Proofs.Markup.Stretch
import TemplateMarkup.Proofs.Markup.WrittenTag
import TemplateMarkup.Proofs.Region.History
import TemplateMarkup.Proofs.Region.Ledger
import TemplateMarkup.Proofs.Region.Overrides
import TemplateMarkup.Proofs.Region.Recording
import TemplateMarkup.Proofs.Text.Compression
import TemplateMarkup.Proofs.Text.NormalForm
import TemplateMarkup.Proofs.Text.Passes
import TemplateMarkup.Proofs.Text.Placeholder
import TemplateMarkup.Proofs.Text.Showing
import TemplateMarkup.Proofs.Text.Slice
import TemplateMarkup.Proofs.Token.Balance
import TemplateMarkup.Proofs.Token.Unclosed
import TemplateMarkup.Proofs.Tree.Agreement
import TemplateMarkup.Proofs.Tree.Delivery
import TemplateMarkup.Proofs.Tree.Forest
import TemplateMarkup.Proofs.Tree.Head
import TemplateMarkup.Proofs.Tree.Reading
import TemplateMarkup.Proofs.Tree.Written
import TemplateMarkup.Settings
import TemplateMarkup.Template
import TemplateMarkup.Text.Blank
import TemplateMarkup.Text.CaseData
import TemplateMarkup.Text.CodePoints
import TemplateMarkup.Text.Lowercase
import TemplateMarkup.Text.Placeholder
import TemplateMarkup.Text.Quoted
import TemplateMarkup.Text.VisibleData
import TemplateMarkup.Text.Whitespace
import TemplateMarkup.Token
import TemplateMarkup.Toml.Datetime
import TemplateMarkup.Toml.Document
import TemplateMarkup.Toml.Scalar
import TemplateMarkup.Toml.Text
import TemplateMarkup.Toml.Value
