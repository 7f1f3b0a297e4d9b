import Courier.Archive.Name
import Courier.Archive.Staging
import Courier.Archive.Target
import Courier.Binary
import Courier.Bytes.Percent
import Courier.Bytes.Utf16
import Courier.Bytes.Utf8
import Courier.Command
import Courier.Command.Arguments
import Courier.Command.Logging
import Courier.Command.Manual
import Courier.Command.Plan
import Courier.Command.Reach
import Courier.Command.Switch
import Courier.Console.Colour
import Courier.Console.Drawing
import Courier.Console.Emoji
import Courier.Console.EmojiNames
import Courier.Console.Literal
import Courier.Console.Literal.Fault
import Courier.Console.Literal.Grammar
import Courier.Console.Literal.Peg
import Courier.Console.Literal.Strings
import Courier.Console.Literal.Token
import Courier.Console.Markup
import Courier.Console.Screen
import Courier.Console.Style
import Courier.Console.Summary
import Courier.Console.Window
import Courier.Console.Wrap
import Courier.Cycle
import Courier.Decimal.Count
import Courier.Decimal.Digit
import Courier.Decimal.General
import Courier.Decimal.Reader
import Courier.Deflate.Blocks
import Courier.Deflate.Code
import Courier.Deflate.Wrapped
import Courier.Fault
import Courier.Form
import Courier.Form.Chosen
import Courier.Form.MediaType
import Courier.Http.Charset
import Courier.Http.Client
import Courier.Http.Coding
import Courier.Http.Disposition
import Courier.Http.Headers
import Courier.Http.HostName
import Courier.Http.HostNumber
import Courier.Http.Label
import Courier.Http.Label.Direction
import Courier.Http.Label.Joining
import Courier.Http.Label.Letters
import Courier.Http.Message
import Courier.Http.Multipart
import Courier.Http.Parameter
import Courier.Http.Phrase
import Courier.Http.Punycode
import Courier.Http.Recording
import Courier.Http.Url
import Courier.Http.Url.Reference
import Courier.Http.Wire
import Courier.Journal
import Courier.Main
import Courier.Path
import Courier.Path.Home
import Courier.Power
import Courier.Proofs.Archive.Candidates
import Courier.Proofs.Archive.Delivery
import Courier.Proofs.Archive.Staging
import Courier.Proofs.Archive.Tokens
import Courier.Proofs.Bytes.Percent
import Courier.Proofs.Bytes.Utf8
import Courier.Proofs.Command.Arguments
import Courier.Proofs.Command.Course
import Courier.Proofs.Command.Escapes
import Courier.Proofs.Command.ExitCode
import Courier.Proofs.Command.Remembering
import Courier.Proofs.Console.Markup
import Courier.Proofs.Cycle.Course
import Courier.Proofs.Cycle.Keeping
import Courier.Proofs.Cycle.Simulation
import Courier.Proofs.Cycle.Traces
import Courier.Proofs.Fault
import Courier.Proofs.Form
import Courier.Proofs.Http.Extended
import Courier.Proofs.Http.Fields
import Courier.Proofs.Http.Naming
import Courier.Proofs.Http.Reading
import Courier.Proofs.Http.Redirects
import Courier.Proofs.Path.Proper
import Courier.Proofs.Path.Spelling
import Courier.Proofs.Session.Confinement
import Courier.Proofs.Session.Cycles
import Courier.Proofs.Session.Runs
import Courier.Proofs.Session.Told
import Courier.Proofs.Settings.EnvFile
import Courier.Proofs.Status
import Courier.Proofs.Text.Caseless
import Courier.Proofs.Text.Lines
import Courier.Proofs.Text.Pieces
import Courier.Proofs.Text.Trim
import Courier.Proofs.Tree.Folders
import Courier.Proofs.Tree.Growth
import Courier.Proofs.Tree.Operations
import Courier.Session
import Courier.Settings
import Courier.Settings.EnvFile
import Courier.Status
import Courier.Status.Board
import Courier.Text.Blank
import Courier.Text.Caseless
import Courier.Text.Cluster
import Courier.Text.Composed
import Courier.Text.Lines
import Courier.Text.Lower
import Courier.Text.Paragraph
import Courier.Text.Printable
import Courier.Text.Quoted
import Courier.Text.Range
import Courier.Text.Split
import Courier.Text.Table
import Courier.Text.Width
import Courier.Text.Word
import Courier.Tree
import Courier.Tree.Folders
import Courier.Proofs.Session.Opening
import Courier.Proofs.Settings.Precedence
import Courier.Proofs.Status.Watch
import Courier.Proofs.Status.Listeners
import Courier.Proofs.Http.Quoted
import Courier.Proofs.Bytes.Boundaries
import Courier.Proofs.Bytes.Runs
import Courier.Proofs.Http.Decoding
import Courier.Proofs.Http.Plain
import Courier.Proofs.Tree.Names
import Courier.Proofs.Archive.Claim
import Courier.Proofs.Tree.Standing
import Courier.Proofs.Archive.Release
import Courier.Proofs.Settings.Covered
import Courier.Proofs.Archive.SafeNames
import Courier.Proofs.Cycle.Sending
import Courier.Proofs.Archive.Numbering
