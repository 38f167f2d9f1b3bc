import ConsoleFeed.Channel.Broadcast
import ConsoleFeed.Document.Reader
import ConsoleFeed.Http.Service
import ConsoleFeed.Main
import ConsoleFeed.Provider.Builtin
import ConsoleFeed.Provider.Scripted
import ConsoleFeed.Registry.Snapshots
import ConsoleFeed.Session
import ConsoleFeed.Settings.Reading
import ConsoleFeed.Settings.Strict
import ConsoleFeed.Subscription.TickLoop
import ConsoleFeed.Subscription.Worker
import ConsoleFeed.Text.Identifier
import ConsoleFeed.Proofs.Registry.Entries
import ConsoleFeed.Proofs.Registry.Interleaving
import ConsoleFeed.Proofs.Registry.OneLiveEntry
import ConsoleFeed.Proofs.Channel.FanOut
import ConsoleFeed.Proofs.Provider.Asking
import ConsoleFeed.Proofs.Subscription.LoopSteps
import ConsoleFeed.Proofs.Subscription.NothingAfterCancel
import ConsoleFeed.Proofs.Registry.Operations
import ConsoleFeed.Proofs.Registry.OptionsInForce
import ConsoleFeed.Proofs.Registry.LiveEntries
import ConsoleFeed.Proofs.Registry.FailedCreation
import ConsoleFeed.Proofs.Subscription.SharedFeed
import ConsoleFeed.Proofs.Subscription.OptionVersions
import ConsoleFeed.Proofs.Text.Utf8
import ConsoleFeed.Proofs.Text.Preview
import ConsoleFeed.Proofs.Http.Percent
import ConsoleFeed.Proofs.Http.Addresses
import ConsoleFeed.Proofs.Http.Inquiries
import ConsoleFeed.Proofs.Http.ConsoleMap
import ConsoleFeed.Proofs.KeyMap
import ConsoleFeed.Proofs.Registry.Departures
import ConsoleFeed.Proofs.Registry.EntryAccounts
import ConsoleFeed.Proofs.Channel.Ends
import ConsoleFeed.Proofs.Registry.Uses
import ConsoleFeed.Proofs.Registry.EntryTurns
import ConsoleFeed.Proofs.Registry.EntryChannels
import ConsoleFeed.Proofs.Registry.EntryIdentity
import ConsoleFeed.Proofs.Registry.EntryReadings
import ConsoleFeed.Proofs.Provider.OneKeyDirectory
import ConsoleFeed.Proofs.Registry.OneKey
import ConsoleFeed.Proofs.Registry.ProviderCalls
import ConsoleFeed.Proofs.Registry.KeysApart
import ConsoleFeed.Proofs.Registry.Custody
import ConsoleFeed.Proofs.Session.Custody
import ConsoleFeed.Proofs.Channel.Remaining
import ConsoleFeed.Proofs.Registry.Retirement
import ConsoleFeed.Proofs.Session.StreamEnds
import ConsoleFeed.Proofs.Document.Texts
import ConsoleFeed.Proofs.Document.Printing
import ConsoleFeed.Proofs.Http.Refusals
import ConsoleFeed.Proofs.Http.EventFrames
import ConsoleFeed.Proofs.Session.EventPayloads
import ConsoleFeed.Proofs.Http.Spellings
import ConsoleFeed.Proofs.Http.Transport
import ConsoleFeed.Proofs.Session.Serving
import ConsoleFeed.Proofs.Server.Steps
import ConsoleFeed.Proofs.Server.Stopping
import ConsoleFeed.Proofs.Channel.StreamItems
import ConsoleFeed.Proofs.Registry.Peeking
import ConsoleFeed.Proofs.Provider.Absorbing
import ConsoleFeed.Proofs.Registry.TickCourse
import ConsoleFeed.Proofs.Provider.WithoutValues
import ConsoleFeed.Proofs.Subscription.WithoutValues
import ConsoleFeed.Proofs.Registry.WithoutValues
import ConsoleFeed.Proofs.Registry.UnloggedValues
import ConsoleFeed.Proofs.Document.Canonical
import ConsoleFeed.Proofs.Registry.SnapshotTexts
import ConsoleFeed.Proofs.Subscription.Cancelling
import ConsoleFeed.Proofs.Subscription.StopSignal
import ConsoleFeed.Proofs.Registry.Strokes
import ConsoleFeed.Proofs.Registry.Deeds
import ConsoleFeed.Proofs.Registry.CancelledOnce
import ConsoleFeed.Proofs.Registry.Observers
import ConsoleFeed.Proofs.Registry.FormerEntries
import ConsoleFeed.Proofs.Registry.Sweeping
import ConsoleFeed.Proofs.Settings.ByField
import ConsoleFeed.Proofs.Settings.Intervals
import ConsoleFeed.Proofs.Json5.Compact
import ConsoleFeed.Proofs.Number.Rounding
import ConsoleFeed.Proofs.Subscription.TickTimes
import ConsoleFeed.Proofs.Settings.Writing
