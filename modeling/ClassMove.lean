import ClassMove.ClassName
import ClassMove.Command.Arguments
import ClassMove.Command.Console
import ClassMove.Command.Footprint
import ClassMove.Command.Output
import ClassMove.Command.Run
import ClassMove.Dialect
import ClassMove.Event
import ClassMove.Failure
import ClassMove.Files.Basic
import ClassMove.Files.Change
import ClassMove.Files.Cursor
import ClassMove.Files.Difference
import ClassMove.Files.Node
import ClassMove.Files.OsError
import ClassMove.Files.Walk
import ClassMove.Identity.Basic
import ClassMove.Identity.Resolver
import ClassMove.Inspect
import ClassMove.Json.Document
import ClassMove.Json.Value
import ClassMove.Line.Basic
import ClassMove.Line.Import
import ClassMove.Line.Package
import ClassMove.Line.TypeDeclaration
import ClassMove.Line.Word
import ClassMove.Listener
import ClassMove.Main
import ClassMove.Move.Base
import ClassMove.Move.Execute
import ClassMove.Move.Plan
import ClassMove.Move.Propagate
import ClassMove.Move.Run
import ClassMove.Path.Basic
import ClassMove.Path.FileName
import ClassMove.Path.Location
import ClassMove.Proofs.ClassName
import ClassMove.Proofs.Command.Arguments
import ClassMove.Proofs.Command.Console
import ClassMove.Proofs.Command.Switches
import ClassMove.Proofs.Decoding
import ClassMove.Proofs.Files.Collect
import ClassMove.Proofs.Files.Entry
import ClassMove.Proofs.Files.Follow
import ClassMove.Proofs.Files.Place
import ClassMove.Proofs.Files.Relocate
import ClassMove.Proofs.Files.Walk
import ClassMove.Proofs.Identity.History
import ClassMove.Proofs.Identity.Location
import ClassMove.Proofs.Identity.Resolver
import ClassMove.Proofs.Line.Basic
import ClassMove.Proofs.Line.Grammar
import ClassMove.Proofs.Line.Import
import ClassMove.Proofs.Line.Package
import ClassMove.Proofs.Line.Pattern
import ClassMove.Proofs.Line.Qualified
import ClassMove.Proofs.Line.Render
import ClassMove.Proofs.Line.TypeDeclaration
import ClassMove.Proofs.Line.Word
import ClassMove.Proofs.Move.Agreement
import ClassMove.Proofs.Move.Base
import ClassMove.Proofs.Move.Consistent
import ClassMove.Proofs.Move.Execute
import ClassMove.Proofs.Move.Failure
import ClassMove.Proofs.Move.Imports
import ClassMove.Proofs.Move.Listener
import ClassMove.Proofs.Move.Plan
import ClassMove.Proofs.Move.Preview
import ClassMove.Proofs.Move.Propagate
import ClassMove.Proofs.Move.Target
import ClassMove.Proofs.Move.Tree
import ClassMove.Proofs.Move.Visit
import ClassMove.Proofs.Path.Location
import ClassMove.Proofs.Path.Normal
import ClassMove.Proofs.Path.Order
import ClassMove.Proofs.Path.Relative
import ClassMove.Proofs.Path.Spelling
import ClassMove.Proofs.Source.Changes
import ClassMove.Proofs.Source.Composition
import ClassMove.Proofs.Source.Declaration
import ClassMove.Proofs.Source.Edit
import ClassMove.Proofs.Source.Header
import ClassMove.Proofs.Source.LineByLine
import ClassMove.Proofs.Source.Renaming
import ClassMove.Proofs.Source.Retarget
import ClassMove.Proofs.Source.Splice
import ClassMove.Proofs.Text
import ClassMove.Proofs.Utf8
import ClassMove.Settings.Basic
import ClassMove.Settings.Config
import ClassMove.Source.Edit
import ClassMove.Source.Header
import ClassMove.Source.Retarget
import ClassMove.Text.Basic
import ClassMove.Text.Blank
import ClassMove.Text.Utf8
import ClassMove.Text.Word
