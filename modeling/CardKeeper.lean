import CardKeeper.Text.Blank
import CardKeeper.Text.Quoted
import CardKeeper.Path
import CardKeeper.Card
import CardKeeper.Rules
import CardKeeper.Decimal.Shortest
import CardKeeper.Json.Fault
import CardKeeper.Json.Text
import CardKeeper.Json.Number
import CardKeeper.Json.Skip
import CardKeeper.Launcher
import CardKeeper.Volume.Basic
import CardKeeper.Volume.Fault
import CardKeeper.Volume.Change
import CardKeeper.Activity
import CardKeeper.Volume.Spare
import CardKeeper.Publish
import CardKeeper.Thumbnail
import CardKeeper.Audit
import CardKeeper.Playlist
import CardKeeper.Toml.Lexeme
import CardKeeper.Toml.Value
import CardKeeper.Toml.Scalar
import CardKeeper.Toml.Document
import CardKeeper.Settings
import CardKeeper.Command.Basic
import CardKeeper.Command.Reader
import CardKeeper.Log
import CardKeeper.Program
import CardKeeper.Main
import CardKeeper.Text.WordData
import CardKeeper.Pattern.Fault
import CardKeeper.Pattern.Charset
import CardKeeper.Pattern.Tree
import CardKeeper.Pattern.Bracket
import CardKeeper.Pattern.Reader
import CardKeeper.Pattern.Basic
import CardKeeper.Pattern.Meaning
import CardKeeper.Proofs.Utf8
import CardKeeper.Proofs.Path.Entry
import CardKeeper.Proofs.Path.Segments
import CardKeeper.Proofs.Path.Extension
import CardKeeper.Proofs.Path.Relative
import CardKeeper.Proofs.Volume.Walk
import CardKeeper.Proofs.Volume.Lookup
import CardKeeper.Proofs.Volume.Overlay
import CardKeeper.Proofs.Volume.Replaceable
import CardKeeper.Proofs.Publish
import CardKeeper.Proofs.Publish.Room
import CardKeeper.Proofs.Publish.Writer
import CardKeeper.Proofs.Publish.Sound
import CardKeeper.Proofs.Publish.Concurrent
import CardKeeper.Proofs.Thumbnail
import CardKeeper.Proofs.Json.Spelling
import CardKeeper.Proofs.Json.Text
import CardKeeper.Proofs.Json.Number
import CardKeeper.Proofs.Json.Skip
import CardKeeper.Proofs.Gather
import CardKeeper.Proofs.Playlist.Plan
import CardKeeper.Proofs.Playlist.Write
import CardKeeper.Proofs.Playlist.Generate
import CardKeeper.Proofs.Volume.Sorted
import CardKeeper.Proofs.Playlist.DryRun
import CardKeeper.Proofs.Playlist.Exact
import CardKeeper.Proofs.Playlist.Rerun
import CardKeeper.Proofs.Playlist.Runs
import CardKeeper.Proofs.Audit
import CardKeeper.Proofs.Launcher
import CardKeeper.Proofs.Text.Lowercase
import CardKeeper.Proofs.Text.Blank
import CardKeeper.Proofs.Launcher.Extensions
import CardKeeper.Proofs.Toml.Document
import CardKeeper.Proofs.Toml.Table
import CardKeeper.Proofs.Settings
import CardKeeper.Proofs.Toml.Distinct
import CardKeeper.Proofs.Settings.Fields
import CardKeeper.Proofs.Settings.Loading
import CardKeeper.Proofs.Audit.Streamed
import CardKeeper.Proofs.Audit.Supplied
import CardKeeper.Proofs.Audit.Unconfigured
import CardKeeper.Proofs.Audit.Playlists
import CardKeeper.Proofs.Audit.Skipped
import CardKeeper.Proofs.Volume.Rename
import CardKeeper.Proofs.Audit.Hidden
import CardKeeper.Proofs.Playlist.Hidden
import CardKeeper.Proofs.Hidden
import CardKeeper.Proofs.Thumbnail.Alone
import CardKeeper.Proofs.Thumbnail.Batch
import CardKeeper.Proofs.Thumbnail.Shared
import CardKeeper.Proofs.Results
import CardKeeper.Proofs.Command.Reader
import CardKeeper.Proofs.Program.Exit
import CardKeeper.Proofs.Program.Output
import CardKeeper.Proofs.Text.Ascii
import CardKeeper.Proofs.Playlist.Discs
import CardKeeper.Proofs.Path.Filler
import CardKeeper.Proofs.Thumbnail.Destination
import CardKeeper.Proofs.Command.Writer
import CardKeeper.Proofs.Command.Levels
import CardKeeper.Proofs.Card
import CardKeeper.Proofs.Tools
