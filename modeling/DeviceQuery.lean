import DeviceQuery.Item.Typed
import DeviceQuery.Main
import DeviceQuery.Proofs.Chain.Meaning
import DeviceQuery.Proofs.Request.Strict
import DeviceQuery.Proofs.Feed.Moves
import DeviceQuery.Proofs.Session.Feeds
import DeviceQuery.Proofs.Session.Conservation
import DeviceQuery.Proofs.Session.Control
import DeviceQuery.Proofs.Session.Isolation
import DeviceQuery.Proofs.Request.Purge
import DeviceQuery.Proofs.Request.Reading
import DeviceQuery.Proofs.Chain.Spelling
import DeviceQuery.Proofs.Sentence.Reading
import DeviceQuery.Proofs.Link.Ledger
import DeviceQuery.Proofs.Session.Ledger
import DeviceQuery.Proofs.CommandLine.Grammar
import DeviceQuery.Proofs.CommandLine.Run
import DeviceQuery.Proofs.Session.Restyling
import DeviceQuery.Proofs.Session.Trail
import DeviceQuery.Proofs.Chain.Batches
import DeviceQuery.Proofs.Chain.Balance
import DeviceQuery.Proofs.Session.Opening
import DeviceQuery.Proofs.Item.Json
import DeviceQuery.Proofs.Menu.Path
import DeviceQuery.Proofs.Chain.Command
import DeviceQuery.Proofs.Item.Renaming
import DeviceQuery.Proofs.Item.Integers
import DeviceQuery.Proofs.Text.Lines
import DeviceQuery.Proofs.Text.Quoted
import DeviceQuery.Proofs.Session.Messages
import DeviceQuery.Proofs.Settings.Spelling
import DeviceQuery.Proofs.Settings.Overlay
import DeviceQuery.Proofs.Settings.Document
import DeviceQuery.Proofs.CommandLine.Formats
import DeviceQuery.Proofs.Chain.Projection
import DeviceQuery.Proofs.Files.Growth
import DeviceQuery.Proofs.Files.Paths
import DeviceQuery.Proofs.Log.SetUp
import DeviceQuery.Proofs.Log.Partition
