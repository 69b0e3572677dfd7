import GeoCatalogue.Box.Basic
import GeoCatalogue.Box.Element
import GeoCatalogue.Box.Search
import GeoCatalogue.Client
import GeoCatalogue.Command.Activity
import GeoCatalogue.Command.Arguments
import GeoCatalogue.Command.Report
import GeoCatalogue.Command.Tasks
import GeoCatalogue.Crs.Operations
import GeoCatalogue.Crs.Reference
import GeoCatalogue.Crs.System
import GeoCatalogue.Dataset
import GeoCatalogue.Description
import GeoCatalogue.Envelope.Basic
import GeoCatalogue.Envelope.Bounds
import GeoCatalogue.Envelope.Reading
import GeoCatalogue.Envelope.Surveyor
import GeoCatalogue.Envelope.Transformation
import GeoCatalogue.Extent
import GeoCatalogue.Failure
import GeoCatalogue.Fault
import GeoCatalogue.Files
import GeoCatalogue.Geodesy.Ellipsoid
import GeoCatalogue.Geodesy.Projection
import GeoCatalogue.Geodesy.Ring
import GeoCatalogue.Geodesy.Standard
import GeoCatalogue.Http
import GeoCatalogue.Journal.Record
import GeoCatalogue.Journal.Setup
import GeoCatalogue.Json
import GeoCatalogue.Main
import GeoCatalogue.Name.Bindings
import GeoCatalogue.Name.Qualified
import GeoCatalogue.Name.Token
import GeoCatalogue.Number.Binary64
import GeoCatalogue.Number.Decimal
import GeoCatalogue.Number.Extended
import GeoCatalogue.Number.Native
import GeoCatalogue.Number.Quantity
import GeoCatalogue.Number.Quotient
import GeoCatalogue.Number.Reading
import GeoCatalogue.Proofs.Box.AxisOrder
import GeoCatalogue.Proofs.Box.Completeness
import GeoCatalogue.Proofs.Box.Refusals
import GeoCatalogue.Proofs.Box.Tuples
import GeoCatalogue.Proofs.Box.Upgrading
import GeoCatalogue.Proofs.Client.Calls
import GeoCatalogue.Proofs.Command.Endings
import GeoCatalogue.Proofs.Command.Failures
import GeoCatalogue.Proofs.Command.Outcome
import GeoCatalogue.Proofs.Command.Requests
import GeoCatalogue.Proofs.Crs.Cache
import GeoCatalogue.Proofs.Crs.Forms
import GeoCatalogue.Proofs.Crs.Identifier
import GeoCatalogue.Proofs.Crs.Limits
import GeoCatalogue.Proofs.Crs.Queue
import GeoCatalogue.Proofs.Crs.Sameness
import GeoCatalogue.Proofs.Crs.Spelling
import GeoCatalogue.Proofs.Dataset.Accesses
import GeoCatalogue.Proofs.Dataset.Extent
import GeoCatalogue.Proofs.Dataset.Records
import GeoCatalogue.Proofs.Description.Queries
import GeoCatalogue.Proofs.Description.Urls
import GeoCatalogue.Proofs.Envelope.AxisOrder
import GeoCatalogue.Proofs.Envelope.BoxParameter
import GeoCatalogue.Proofs.Envelope.Cover
import GeoCatalogue.Proofs.Envelope.Identity
import GeoCatalogue.Proofs.Envelope.Settling
import GeoCatalogue.Proofs.Envelope.Shape
import GeoCatalogue.Proofs.Envelope.Surveying
import GeoCatalogue.Proofs.Extent.Calls
import GeoCatalogue.Proofs.Extent.Coalescing
import GeoCatalogue.Proofs.Extent.Intersections
import GeoCatalogue.Proofs.Extent.Merging
import GeoCatalogue.Proofs.Extent.Overlap
import GeoCatalogue.Proofs.Geodesy.AxisOrder
import GeoCatalogue.Proofs.Journal.Failing
import GeoCatalogue.Proofs.Journal.Setups
import GeoCatalogue.Proofs.Json.Grammar
import GeoCatalogue.Proofs.Name.Markers
import GeoCatalogue.Proofs.Name.Tables
import GeoCatalogue.Proofs.Number.Integers
import GeoCatalogue.Proofs.Number.Magnitude
import GeoCatalogue.Proofs.Number.Nearest
import GeoCatalogue.Proofs.Number.Places
import GeoCatalogue.Proofs.Number.Plain
import GeoCatalogue.Proofs.Number.Quotient
import GeoCatalogue.Proofs.Number.Reading
import GeoCatalogue.Proofs.Number.Shortest
import GeoCatalogue.Proofs.Outcome
import GeoCatalogue.Proofs.Settings.Changes
import GeoCatalogue.Proofs.Settings.Files
import GeoCatalogue.Proofs.Settings.Loading
import GeoCatalogue.Proofs.Settings.Overrides
import GeoCatalogue.Proofs.Template.Building
import GeoCatalogue.Proofs.Template.Cut
import GeoCatalogue.Proofs.Template.Division
import GeoCatalogue.Proofs.Template.Encoded
import GeoCatalogue.Proofs.Template.Offsets
import GeoCatalogue.Proofs.Template.Recovery
import GeoCatalogue.Proofs.Template.Registration
import GeoCatalogue.Proofs.Template.Relevance
import GeoCatalogue.Proofs.Template.Spelling
import GeoCatalogue.Proofs.Template.Substitution
import GeoCatalogue.Proofs.Template.Weaving
import GeoCatalogue.Proofs.Template.Workbench
import GeoCatalogue.Proofs.Text.LetterCase
import GeoCatalogue.Proofs.Text.Parts
import GeoCatalogue.Proofs.Text.Trim
import GeoCatalogue.Proofs.Text.Upper
import GeoCatalogue.Proofs.Text.Words
import GeoCatalogue.Proofs.Uri.Acceptance
import GeoCatalogue.Proofs.Uri.Address
import GeoCatalogue.Proofs.Uri.Characters
import GeoCatalogue.Proofs.Uri.Decoding
import GeoCatalogue.Proofs.Uri.Escapes
import GeoCatalogue.Proofs.Uri.Grammar
import GeoCatalogue.Proofs.Uri.Head
import GeoCatalogue.Proofs.Uri.Hosts
import GeoCatalogue.Proofs.XPath.Levels
import GeoCatalogue.Proofs.XPath.Order
import GeoCatalogue.Proofs.XPath.Paths
import GeoCatalogue.Proofs.Xml.Plain
import GeoCatalogue.Proofs.Xml.Scopes
import GeoCatalogue.Settings.Basic
import GeoCatalogue.Settings.Display
import GeoCatalogue.Settings.Session
import GeoCatalogue.Template.Expansion
import GeoCatalogue.Template.Parameter
import GeoCatalogue.Template.Registry
import GeoCatalogue.Template.Segments
import GeoCatalogue.Template.UrlTemplate
import GeoCatalogue.Text.Blank
import GeoCatalogue.Text.DecimalDigit
import GeoCatalogue.Text.Hexadecimal
import GeoCatalogue.Text.Path
import GeoCatalogue.Text.Printable
import GeoCatalogue.Text.Quoted
import GeoCatalogue.Text.Upper
import GeoCatalogue.Uri.Address
import GeoCatalogue.Uri.Authority
import GeoCatalogue.Uri.Character
import GeoCatalogue.Uri.Defect
import GeoCatalogue.Uri.Percent
import GeoCatalogue.Uri.Request
import GeoCatalogue.Version
import GeoCatalogue.Vocabulary
import GeoCatalogue.XPath.Evaluation
import GeoCatalogue.XPath.Expr
import GeoCatalogue.XPath.Node
import GeoCatalogue.XPath.Reading
import GeoCatalogue.XPath.Selection
import GeoCatalogue.Xml.Character
import GeoCatalogue.Xml.Defect
import GeoCatalogue.Xml.Document
import GeoCatalogue.Xml.Nodes
import GeoCatalogue.Xml.Source
import GeoCatalogue.Xml.Token
