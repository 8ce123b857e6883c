import SvgIcon.Api.App
import SvgIcon.Api.Endpoint
import SvgIcon.Api.Message
import SvgIcon.Api.Payload
import SvgIcon.Batch.Files
import SvgIcon.Batch.Report
import SvgIcon.Batch.Run
import SvgIcon.Client.Address
import SvgIcon.Client.Http
import SvgIcon.Client.Url
import SvgIcon.Command.Line
import SvgIcon.Command.Run
import SvgIcon.Config.Basic
import SvgIcon.Config.Dump
import SvgIcon.Config.File
import SvgIcon.Config.Load
import SvgIcon.Console.Basic
import SvgIcon.Console.Cells
import SvgIcon.Console.Emoji
import SvgIcon.Console.Emoji.Names
import SvgIcon.Console.Literal
import SvgIcon.Console.Literal.Lexeme
import SvgIcon.Console.Style
import SvgIcon.Console.Tagged
import SvgIcon.Failure
import SvgIcon.File.Disk
import SvgIcon.File.Encoding
import SvgIcon.File.Path
import SvgIcon.Icon.Barrel
import SvgIcon.Icon.Create
import SvgIcon.Icon.Name
import SvgIcon.Json.Bytes
import SvgIcon.Json.Reader
import SvgIcon.Json.Writer
import SvgIcon.Log.Digest
import SvgIcon.Log.Entry
import SvgIcon.Log.RunId
import SvgIcon.Main
import SvgIcon.Markup.Component
import SvgIcon.Markup.Declaration
import SvgIcon.Markup.Jsx
import SvgIcon.Markup.Layout
import SvgIcon.Markup.Style
import SvgIcon.Markup.Tag
import SvgIcon.Number.Decimal
import SvgIcon.Number.Digits
import SvgIcon.Number.Double
import SvgIcon.Number.Numeral
import SvgIcon.Optimizer.Options
import SvgIcon.Optimizer.Passes
import SvgIcon.Part
import SvgIcon.Proofs.Markup.Element
import SvgIcon.Proofs.Text.Classes
import SvgIcon.Proofs.Text.Passes
import SvgIcon.Rules.Catalogue
import SvgIcon.Rules.Resolve
import SvgIcon.Server.Basic
import SvgIcon.Server.Machine
import SvgIcon.Server.Simulation
import SvgIcon.Service.Basic
import SvgIcon.Service.Outcome
import SvgIcon.Service.Size
import SvgIcon.Settings.Basic
import SvgIcon.Settings.EnvFile
import SvgIcon.Text.Blank
import SvgIcon.Text.Case
import SvgIcon.Text.CharacterName
import SvgIcon.Text.Quoted
import SvgIcon.Text.Ranges
import SvgIcon.Text.Scan
import SvgIcon.Text.Word
import SvgIcon.Toml.Document
import SvgIcon.Toml.Lexeme
import SvgIcon.Toml.Reader
import SvgIcon.Value.Assoc
import SvgIcon.Value.Basic
import SvgIcon.Value.Display
import SvgIcon.Value.Moment
import SvgIcon.Proofs.Markup.Renaming
import SvgIcon.Proofs.Markup.Styling
import SvgIcon.Proofs.Markup.Closing
import SvgIcon.Proofs.Markup.Forward
import SvgIcon.Proofs.Markup.Blanks
import SvgIcon.Proofs.Markup.Restoring
import SvgIcon.Proofs.Markup.Lines
import SvgIcon.Proofs.Markup.RoundTrip
import SvgIcon.Proofs.Batch.Accounting
import SvgIcon.Proofs.Batch.Cancelling
import SvgIcon.Proofs.Batch.Replacement
import SvgIcon.Proofs.Batch.Sparing
import SvgIcon.Proofs.Api.Serving
import SvgIcon.Proofs.Api.Entries
import SvgIcon.Proofs.Client.Agreement
import SvgIcon.Proofs.Markup.Names
import SvgIcon.Proofs.Markup.Outline
import SvgIcon.Proofs.Markup.Stretches
import SvgIcon.Proofs.Markup.Unwrapping
import SvgIcon.Proofs.Markup.Wrapping
import SvgIcon.Proofs.Markup.Dressing
import SvgIcon.Proofs.Markup.Settling
import SvgIcon.Proofs.File.Writing
import SvgIcon.Proofs.Batch.Rerun
import SvgIcon.Proofs.Batch.Submission
import SvgIcon.Proofs.Batch.Independence
import SvgIcon.Proofs.Server.Lifecycle
import SvgIcon.Proofs.Server.Sharing
import SvgIcon.Proofs.Number.Rounding
import SvgIcon.Proofs.Number.Digits
import SvgIcon.Proofs.Value.Keyed
import SvgIcon.Proofs.Json.Numbers
import SvgIcon.Proofs.Json.Texts
import SvgIcon.Proofs.Json.RoundTrip
import SvgIcon.Proofs.File.Spelling
import SvgIcon.Proofs.Config.Reload
import SvgIcon.Proofs.Log.Lines
import SvgIcon.Proofs.Batch.Logging
import SvgIcon.Proofs.File.Trees
import SvgIcon.Proofs.Icon.Barrel
import SvgIcon.Proofs.Icon.Exporting
import SvgIcon.Proofs.Markup.Rescanning
import SvgIcon.Proofs.Markup.Branches
import SvgIcon.Proofs.Markup.Pairing
import SvgIcon.Proofs.Markup.Nesting
import SvgIcon.Proofs.Markup.Expressions
import SvgIcon.Proofs.Markup.Literals
import SvgIcon.Proofs.Markup.Laying
import SvgIcon.Proofs.Markup.Indenting
import SvgIcon.Proofs.Optimizer.Passing
import SvgIcon.Proofs.Value.Updates
import SvgIcon.Proofs.Value.Texts
import SvgIcon.Proofs.Rules.Resolution
import SvgIcon.Proofs.Rules.Merging
import SvgIcon.Proofs.Optimizer.Options
import SvgIcon.Proofs.Optimizer.Lengths
import SvgIcon.Proofs.Client.Replies
import SvgIcon.Proofs.Markup.Prolog
import SvgIcon.Proofs.File.Standing
import SvgIcon.Proofs.Icon.Amending
import SvgIcon.Proofs.Icon.Creating
import SvgIcon.Proofs.Icon.Failing
import SvgIcon.Proofs.Icon.Naming
import SvgIcon.Proofs.File.Appending
import SvgIcon.Proofs.Log.Appending
import SvgIcon.Proofs.Server.Ports
import SvgIcon.Proofs.Markup.Segments
import SvgIcon.Proofs.Markup.Collapsing
import SvgIcon.Proofs.File.Listing
import SvgIcon.Proofs.File.Replacing
