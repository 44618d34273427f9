import ContentChecksum.Checksum.Basic
import ContentChecksum.Checksum.Compute
import ContentChecksum.Checksum.File
import ContentChecksum.Checksum.Json
import ContentChecksum.Checksum.Set
import ContentChecksum.Command.Basic
import ContentChecksum.Command.Content
import ContentChecksum.Command.Help
import ContentChecksum.Command.Perform
import ContentChecksum.Command.Report
import ContentChecksum.Command.Request
import ContentChecksum.Command.Words
import ContentChecksum.Digest.Function
import ContentChecksum.Digest.MD5
import ContentChecksum.Digest.SHA256
import ContentChecksum.Digest.Stream
import ContentChecksum.Files.Fault
import ContentChecksum.Files.Path
import ContentChecksum.Files.Tree
import ContentChecksum.Hex
import ContentChecksum.Host.Basic
import ContentChecksum.Host.Simulation
import ContentChecksum.Json.Head
import ContentChecksum.Json.Object
import ContentChecksum.Json.Quoted
import ContentChecksum.Log.Directive
import ContentChecksum.Log.Event
import ContentChecksum.Log.Filter
import ContentChecksum.Log.Journal
import ContentChecksum.Log.Level
import ContentChecksum.Log.Stamp
import ContentChecksum.Main
import ContentChecksum.Newline.Bytes
import ContentChecksum.Newline.Reader
import ContentChecksum.Newline.Text
import ContentChecksum.Number.Binary64
import ContentChecksum.Number.Numeral
import ContentChecksum.Number.Shortest
import ContentChecksum.Number.Text
import ContentChecksum.Pattern.Atom
import ContentChecksum.Pattern.Class
import ContentChecksum.Pattern.Group
import ContentChecksum.Pattern.Mode
import ContentChecksum.Program
import ContentChecksum.Proofs.AlikeTrees
import ContentChecksum.Proofs.Answers
import ContentChecksum.Proofs.Barriers
import ContentChecksum.Proofs.CanonicalEquivalence
import ContentChecksum.Proofs.CanonicalTexts
import ContentChecksum.Proofs.ChecksumSets
import ContentChecksum.Proofs.Consumption
import ContentChecksum.Proofs.ContentOrigins
import ContentChecksum.Proofs.Decompositions
import ContentChecksum.Proofs.Directories
import ContentChecksum.Proofs.Draining
import ContentChecksum.Proofs.Effects
import ContentChecksum.Proofs.EquivalentTexts
import ContentChecksum.Proofs.ExitStatus
import ContentChecksum.Proofs.GrowingTrees
import ContentChecksum.Proofs.InPlaceCompaction
import ContentChecksum.Proofs.InnerReads
import ContentChecksum.Proofs.LineBreaks
import ContentChecksum.Proofs.LineTerminators
import ContentChecksum.Proofs.LogIndependence
import ContentChecksum.Proofs.MixedDraining
import ContentChecksum.Proofs.MixedReading
import ContentChecksum.Proofs.NormalForms
import ContentChecksum.Proofs.OrderedMarks
import ContentChecksum.Proofs.PiecewiseDigest
import ContentChecksum.Proofs.Places
import ContentChecksum.Proofs.ReadPosition
import ContentChecksum.Proofs.Reloading
import ContentChecksum.Proofs.RepeatedReloading
import ContentChecksum.Proofs.ReplacementCharacters
import ContentChecksum.Proofs.Sessions
import ContentChecksum.Proofs.SettledSettings
import ContentChecksum.Proofs.SimulatedHost
import ContentChecksum.Proofs.StableSettings
import ContentChecksum.Proofs.StoredForms
import ContentChecksum.Proofs.StreamChecksum
import ContentChecksum.Proofs.StringsInJson
import ContentChecksum.Proofs.TextAndStream
import ContentChecksum.Proofs.UnifiedOutput
import ContentChecksum.Proofs.VerdictLines
import ContentChecksum.Proofs.Verification
import ContentChecksum.Proofs.VersionedForms
import ContentChecksum.Reader.Basic
import ContentChecksum.Reader.Source
import ContentChecksum.Settings.Basic
import ContentChecksum.Settings.Store
import ContentChecksum.Settings.Toml
import ContentChecksum.Text.Canonical
import ContentChecksum.Text.Plain
import ContentChecksum.Text.Quoted
import ContentChecksum.Text.Utf8
import ContentChecksum.Toml.Document
import ContentChecksum.Toml.Moment
import ContentChecksum.Toml.Node
import ContentChecksum.Toml.Number
import ContentChecksum.Toml.Text
import ContentChecksum.Toml.Value
import ContentChecksum.Unicode.Alphanumeric
import ContentChecksum.Unicode.CombiningClass
import ContentChecksum.Unicode.Composites
import ContentChecksum.Unicode.Hangul
import ContentChecksum.Unicode.MarkOrder
import ContentChecksum.Unicode.NormalForm
import ContentChecksum.Unicode.RangeTree
import ContentChecksum.Unicode.Singletons
import ContentChecksum.Unicode.Visible
