import XmlScribe.Charset.Basic
import XmlScribe.Charset.Chinese
import XmlScribe.Charset.Codec
import XmlScribe.Charset.Hanzi
import XmlScribe.Charset.Japanese
import XmlScribe.Charset.Korean
import XmlScribe.Charset.MultiByte
import XmlScribe.Charset.Position
import XmlScribe.Charset.SingleByte
import XmlScribe.Charset.Utf16
import XmlScribe.Command.Arguments
import XmlScribe.Command.Run
import XmlScribe.Doctype.Basic
import XmlScribe.Doctype.Entities
import XmlScribe.Doctype.Scan
import XmlScribe.Document.Attribute
import XmlScribe.Document.Basic
import XmlScribe.Document.Read
import XmlScribe.Document.Rules
import XmlScribe.Entity.Basic
import XmlScribe.Entity.Escape
import XmlScribe.Entity.Reference
import XmlScribe.Files.Place
import XmlScribe.Files.World
import XmlScribe.Forest.Adopt
import XmlScribe.Forest.Attributes
import XmlScribe.Forest.Basic
import XmlScribe.Forest.Edit
import XmlScribe.Forest.Query
import XmlScribe.Layout.AttributeOrder
import XmlScribe.Layout.Content
import XmlScribe.Layout.Profile
import XmlScribe.Layout.Xhtml
import XmlScribe.Main
import XmlScribe.Markup.Builder
import XmlScribe.Markup.Event
import XmlScribe.Markup.Fault
import XmlScribe.Markup.Tag
import XmlScribe.Name.Basic
import XmlScribe.Name.Qualified
import XmlScribe.Namespace.Completion
import XmlScribe.Namespace.Scope
import XmlScribe.Output.Buffer
import XmlScribe.Proofs.Charset.Fallback
import XmlScribe.Proofs.Charset.Label
import XmlScribe.Proofs.Charset.Reading
import XmlScribe.Proofs.Command.Arguments
import XmlScribe.Proofs.Command.Output
import XmlScribe.Proofs.Doctype.Brackets
import XmlScribe.Proofs.Doctype.CharacterReferences
import XmlScribe.Proofs.Doctype.Composed
import XmlScribe.Proofs.Doctype.Parts
import XmlScribe.Proofs.Doctype.Written
import XmlScribe.Proofs.Document.Bytes
import XmlScribe.Proofs.Document.Bytewise
import XmlScribe.Proofs.Document.Declared
import XmlScribe.Proofs.Document.Enclosed
import XmlScribe.Proofs.Document.Encodable
import XmlScribe.Proofs.Document.Encoded
import XmlScribe.Proofs.Document.Faults
import XmlScribe.Proofs.Document.Joined
import XmlScribe.Proofs.Document.Marks
import XmlScribe.Proofs.Document.Named
import XmlScribe.Proofs.Document.Outline
import XmlScribe.Proofs.Document.Parsed
import XmlScribe.Proofs.Document.Plain
import XmlScribe.Proofs.Document.References
import XmlScribe.Proofs.Document.Reread
import XmlScribe.Proofs.Document.Resolver
import XmlScribe.Proofs.Document.Rewritten
import XmlScribe.Proofs.Document.RoundTrip
import XmlScribe.Proofs.Document.Separators
import XmlScribe.Proofs.Document.Shape
import XmlScribe.Proofs.Document.Sound
import XmlScribe.Proofs.Document.Steps
import XmlScribe.Proofs.Document.Tags
import XmlScribe.Proofs.Entity.Characters
import XmlScribe.Proofs.Entity.Escaping
import XmlScribe.Proofs.Entity.Referring
import XmlScribe.Proofs.Entity.Spelling
import XmlScribe.Proofs.Entity.Table
import XmlScribe.Proofs.Files.Following
import XmlScribe.Proofs.Forest.Accepted
import XmlScribe.Proofs.Forest.Agreement
import XmlScribe.Proofs.Forest.Below
import XmlScribe.Proofs.Forest.Border
import XmlScribe.Proofs.Forest.Built
import XmlScribe.Proofs.Forest.Carried
import XmlScribe.Proofs.Forest.Change
import XmlScribe.Proofs.Forest.Counterparts
import XmlScribe.Proofs.Forest.Distinct
import XmlScribe.Proofs.Forest.Effect
import XmlScribe.Proofs.Forest.InPlace
import XmlScribe.Proofs.Forest.Items
import XmlScribe.Proofs.Forest.Lineage
import XmlScribe.Proofs.Forest.Linked
import XmlScribe.Proofs.Forest.Links
import XmlScribe.Proofs.Forest.Planted
import XmlScribe.Proofs.Forest.Planting
import XmlScribe.Proofs.Forest.Proper
import XmlScribe.Proofs.Forest.Redeclared
import XmlScribe.Proofs.Forest.Sown
import XmlScribe.Proofs.Forest.Spared
import XmlScribe.Proofs.Forest.Vanished
import XmlScribe.Proofs.Forest.WellLinked
import XmlScribe.Proofs.Layout.AttributeClasses
import XmlScribe.Proofs.Layout.AttributeOrder
import XmlScribe.Proofs.Layout.Merged
import XmlScribe.Proofs.Markup.Accepted
import XmlScribe.Proofs.Markup.Attributes
import XmlScribe.Proofs.Markup.Declaration
import XmlScribe.Proofs.Markup.Fragment
import XmlScribe.Proofs.Markup.Outside
import XmlScribe.Proofs.Markup.Reading
import XmlScribe.Proofs.Markup.Resolve
import XmlScribe.Proofs.Markup.Scan
import XmlScribe.Proofs.Markup.Scanned
import XmlScribe.Proofs.Markup.StartTag
import XmlScribe.Proofs.Markup.Unescaped
import XmlScribe.Proofs.Markup.Unified
import XmlScribe.Proofs.Name.Split
import XmlScribe.Proofs.Name.Valid
import XmlScribe.Proofs.Namespace.Added
import XmlScribe.Proofs.Namespace.Captured
import XmlScribe.Proofs.Namespace.Clashing
import XmlScribe.Proofs.Namespace.Completeness
import XmlScribe.Proofs.Namespace.Completing
import XmlScribe.Proofs.Namespace.Declarable
import XmlScribe.Proofs.Namespace.Declare
import XmlScribe.Proofs.Namespace.Hoisted
import XmlScribe.Proofs.Namespace.Lookup
import XmlScribe.Proofs.Namespace.Mirrored
import XmlScribe.Proofs.Namespace.Part
import XmlScribe.Proofs.Namespace.Planted
import XmlScribe.Proofs.Namespace.Refused
import XmlScribe.Proofs.Namespace.Tidy
import XmlScribe.Proofs.Outcome
import XmlScribe.Proofs.Output.Buffer
import XmlScribe.Proofs.Output.Conserved
import XmlScribe.Proofs.Text.LineEnding
import XmlScribe.Proofs.Text.Numeral
import XmlScribe.Proofs.Text.Occurrence
import XmlScribe.Proofs.Text.Parting
import XmlScribe.Proofs.Text.Runs
import XmlScribe.Proofs.Text.Stretches
import XmlScribe.Proofs.Writer.Accepted
import XmlScribe.Proofs.Writer.Again
import XmlScribe.Proofs.Writer.Anywhere
import XmlScribe.Proofs.Writer.Asking
import XmlScribe.Proofs.Writer.Bytes
import XmlScribe.Proofs.Writer.CData
import XmlScribe.Proofs.Writer.Calls
import XmlScribe.Proofs.Writer.Completed
import XmlScribe.Proofs.Writer.Content
import XmlScribe.Proofs.Writer.Cuts
import XmlScribe.Proofs.Writer.Document
import XmlScribe.Proofs.Writer.Early
import XmlScribe.Proofs.Writer.Emitted
import XmlScribe.Proofs.Writer.Entities
import XmlScribe.Proofs.Writer.Faithful
import XmlScribe.Proofs.Writer.Frozen
import XmlScribe.Proofs.Writer.Growing
import XmlScribe.Proofs.Writer.Kept
import XmlScribe.Proofs.Writer.Layout
import XmlScribe.Proofs.Writer.Lines
import XmlScribe.Proofs.Writer.Living
import XmlScribe.Proofs.Writer.Mute
import XmlScribe.Proofs.Writer.Outside
import XmlScribe.Proofs.Writer.Parallel
import XmlScribe.Proofs.Writer.Plain
import XmlScribe.Proofs.Writer.Questions
import XmlScribe.Proofs.Writer.Quiet
import XmlScribe.Proofs.Writer.Relaid
import XmlScribe.Proofs.Writer.Repeated
import XmlScribe.Proofs.Writer.Resolved
import XmlScribe.Proofs.Writer.Scanned
import XmlScribe.Proofs.Writer.Sections
import XmlScribe.Proofs.Writer.Separator
import XmlScribe.Proofs.Writer.StartTags
import XmlScribe.Proofs.Writer.Throughout
import XmlScribe.Proofs.Writer.Unchanged
import XmlScribe.Proofs.Writer.Untouched
import XmlScribe.Text.Basic
import XmlScribe.Text.LineEnding
import XmlScribe.Text.Lowercase
import XmlScribe.Text.Numeral
import XmlScribe.Text.Runs
import XmlScribe.Text.Shown
import XmlScribe.Tree.Fault
import XmlScribe.Writer.CData
import XmlScribe.Writer.Element
import XmlScribe.Writer.Fault
import XmlScribe.Writer.Markup
import XmlScribe.Writer.Save
import XmlScribe.Writer.Settings
import XmlScribe.Writer.Walk
