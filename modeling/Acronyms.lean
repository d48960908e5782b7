import Acronyms.Acronym
import Acronyms.Choice
import Acronyms.CommandLine.Arguments
import Acronyms.CommandLine.Run
import Acronyms.Configuration
import Acronyms.Decimal
import Acronyms.Decimal.Reading
import Acronyms.Decimal.Shortest
import Acronyms.Definitions
import Acronyms.Document
import Acronyms.ExpandedText
import Acronyms.Expansion
import Acronyms.Expansion.Draft
import Acronyms.Files
import Acronyms.FrontMatter
import Acronyms.FrontMatter.Offsets
import Acronyms.Glossary
import Acronyms.Json
import Acronyms.Json.Printing
import Acronyms.Json.Reading
import Acronyms.Listing
import Acronyms.LoadError
import Acronyms.Main
import Acronyms.Marker
import Acronyms.Marker.Reading
import Acronyms.PackageOptions
import Acronyms.Pandoc.Document
import Acronyms.Pandoc.Editing
import Acronyms.Pandoc.Filter
import Acronyms.Pandoc.Listing
import Acronyms.Pandoc.Metadata
import Acronyms.Pandoc.Node
import Acronyms.Pandoc.Preamble
import Acronyms.Path
import Acronyms.Proofs.Expansion.Failure
import Acronyms.Proofs.Expansion.History
import Acronyms.Proofs.Expansion.Reference
import Acronyms.Proofs.Marker.Grammar
import Acronyms.Proofs.Usage.Classification
import Acronyms.Render
import Acronyms.Session
import Acronyms.Settings
import Acronyms.Settings.Written
import Acronyms.SortedMap
import Acronyms.Text.Alphanumeric
import Acronyms.Text.Blank
import Acronyms.Text.Uppercase
import Acronyms.TextDocument
import Acronyms.TextDocument.InPlace
import Acronyms.Toml.Document
import Acronyms.Toml.Quoted
import Acronyms.Toml.Scalar
import Acronyms.Toml.Value
import Acronyms.Usage
import Acronyms.Yaml.Cursor
import Acronyms.Yaml.Document
import Acronyms.Yaml.Node
import Acronyms.Yaml.Scalar
import Acronyms.Yaml.Token
import Acronyms.Yaml.Token.Reading
import Acronyms.Yaml.Token.Scalars
import Acronyms.Yaml.Value
import Acronyms.Proofs.Marker.Reading
import Acronyms.Proofs.Json.Path
import Acronyms.Proofs.Pandoc.Numbering
import Acronyms.Proofs.Pandoc.Replacement
import Acronyms.Proofs.Pandoc.Document
import Acronyms.Proofs.Usage.History
import Acronyms.Proofs.Usage.Order
import Acronyms.Proofs.Expansion.Success
import Acronyms.Proofs.Expansion.Listing
import Acronyms.Proofs.Session.Atomicity
import Acronyms.Proofs.TextDocument.Concatenation
import Acronyms.Proofs.Expansion.Concatenation
import Acronyms.Proofs.Expansion.Independence
import Acronyms.Proofs.Expansion.Introduction
import Acronyms.Proofs.Marker.Canonical
import Acronyms.Proofs.ExpandedText.Agreement
import Acronyms.Proofs.Glossary.Assignment
import Acronyms.Proofs.Acronym.Fields
import Acronyms.Proofs.Glossary.Loading
import Acronyms.Proofs.Pandoc.Editing
import Acronyms.Proofs.Pandoc.ListingReplacement
import Acronyms.Proofs.Pandoc.Filter
import Acronyms.Proofs.Glossary.Agreement
import Acronyms.Proofs.Listing.Iteration
import Acronyms.Proofs.Definitions.Trimming
import Acronyms.Proofs.FrontMatter.Splitting
import Acronyms.Proofs.TextDocument.Layout
import Acronyms.Proofs.Expansion.MacroCalls
import Acronyms.Proofs.Expansion.Locality
import Acronyms.Proofs.Acronym.Declaration
import Acronyms.Proofs.Configuration.Resolution
import Acronyms.Proofs.PackageOptions.History
import Acronyms.Proofs.PackageOptions.Single
import Acronyms.Proofs.Pandoc.Preamble
import Acronyms.Proofs.Pandoc.InlineText
import Acronyms.Proofs.Path.Ancestors
