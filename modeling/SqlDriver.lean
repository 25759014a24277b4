import SqlDriver.Client.Prepared
import SqlDriver.Connection.Request
import SqlDriver.Json.Reader
import SqlDriver.Stream.Rehearsal
import SqlDriver.Proofs.Query.Classification
import SqlDriver.Proofs.Query.Names
import SqlDriver.Proofs.Journal.Custody
import SqlDriver.Proofs.Journal.Endings
import SqlDriver.Proofs.Backend.Background
import SqlDriver.Proofs.Backend.Account
import SqlDriver.Proofs.Connection.Custody
import SqlDriver.Proofs.Connection.Agreement
import SqlDriver.Proofs.Connection.Endings
import SqlDriver.Proofs.Connection.Failures
import SqlDriver.Proofs.World.Sessions
import SqlDriver.Proofs.World.Agreement
import SqlDriver.Proofs.World.Endings
import SqlDriver.Proofs.World.Failures
import SqlDriver.Proofs.Connection.Batches
import SqlDriver.Proofs.Stream.Playing
import SqlDriver.Proofs.Stream.Rehearsals
import SqlDriver.Proofs.Backend.Alike
import SqlDriver.Proofs.Backend.Prospect
import SqlDriver.Proofs.Connection.Alike
import SqlDriver.Proofs.Connection.Cancellation
import SqlDriver.Proofs.World.Cancellation
import SqlDriver.Proofs.Query.Canonical
import SqlDriver.Proofs.Query.Caching
import SqlDriver.Proofs.Query.References
import SqlDriver.Proofs.Query.Modes
import SqlDriver.Proofs.Query.Joined
import SqlDriver.Proofs.Query.Enclosures
import SqlDriver.Proofs.Connection.Texts
import SqlDriver.Proofs.Client.Rows
import SqlDriver.Proofs.Client.Runs
import SqlDriver.Proofs.Client.History
import SqlDriver.Proofs.Client.Texts
import SqlDriver.Proofs.Client.Groups
import SqlDriver.Proofs.Client.Sharing
import SqlDriver.Proofs.Client.Causes
import SqlDriver.Proofs.Connection.Control
import SqlDriver.Proofs.Connection.Settings
import SqlDriver.Proofs.World.Settings
import SqlDriver.Proofs.Client.Refusals
import SqlDriver.Proofs.Connection.Closing
import SqlDriver.Proofs.World.Closing
import SqlDriver.Proofs.Connection.Watching
import SqlDriver.Proofs.Connection.Echoes
import SqlDriver.Proofs.Client.Echoes
import SqlDriver.Proofs.Backend.Refusing
import SqlDriver.Proofs.Backend.Ownership
import SqlDriver.Proofs.Query.Positions
import SqlDriver.Proofs.Connection.Asking
import SqlDriver.Proofs.Connection.Deadlines
import SqlDriver.Proofs.World.Deadlines
