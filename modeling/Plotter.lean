import Plotter.Main
import Plotter.Proofs.Text.Pieces
import Plotter.Proofs.Text.Words
import Plotter.Proofs.Text.Trimming
import Plotter.Proofs.Color.Names
import Plotter.Proofs.Number.Notation
import Plotter.Proofs.Command.Signature
import Plotter.Proofs.Command.Grammar
import Plotter.Proofs.Command.Characters
import Plotter.Proofs.Program.Execution
import Plotter.Proofs.Files.Storage
import Plotter.Proofs.Session.History
import Plotter.Proofs.Session.Requests
import Plotter.Proofs.Session.Replay
import Plotter.Proofs.Session.Reload
import Plotter.Proofs.Number.Rounding
import Plotter.Proofs.Number.Decimal
import Plotter.Proofs.Number.Printing
import Plotter.Proofs.Command.Canonical
import Plotter.Proofs.Drawing.LastWriter
import Plotter.Proofs.Drawing.Record
import Plotter.Proofs.Program.Log
import Plotter.Proofs.Number.Shortest
import Plotter.Proofs.Drawing.Drawn
import Plotter.Proofs.Program.Composition
import Plotter.Proofs.Program.Shortening
import Plotter.Proofs.Session.Typing
import Plotter.Proofs.Drawing.Document
import Plotter.Proofs.Session.Geometry
import Plotter.Proofs.Session.Effects
import Plotter.Proofs.Session.Listings
import Plotter.Proofs.CommandLine.Verdicts
import Plotter.Proofs.Number.Letters
import Plotter.Proofs.Command.Letters
import Plotter.Proofs.Program.Layout
import Plotter.Proofs.Program.SurfaceForm
import Plotter.Proofs.Session.Checks
import Plotter.Proofs.Color.Channels
import Plotter.Proofs.Drawing.Tags
import Plotter.Proofs.Drawing.Recovery
import Plotter.Proofs.Session.Resizing
import Plotter.Proofs.CommandLine.Presentation
import Plotter.Proofs.Number.Nearest
import Plotter.Proofs.Number.Literal
import Plotter.Proofs.Command.NumberArguments
import Plotter.Proofs.Color.Naming
import Plotter.Proofs.Drawing.Rows
import Plotter.Proofs.Files.Persistence
import Plotter.Proofs.Program.CleanLines
