import MessagingRelayer.Auth.Acceptance
import MessagingRelayer.Auth.Membership
import MessagingRelayer.Auth.Middleware
import MessagingRelayer.Auth.Scheme
import MessagingRelayer.Auth.Signature
import MessagingRelayer.Auth.Timestamp
import MessagingRelayer.Enclave
import MessagingRelayer.Externals
import MessagingRelayer.Foundation.Encoding
import MessagingRelayer.Foundation.Failures
import MessagingRelayer.Foundation.Fields
import MessagingRelayer.Foundation.Follower
import MessagingRelayer.Foundation.HashMap
import MessagingRelayer.Foundation.Hex
import MessagingRelayer.Foundation.Infix
import MessagingRelayer.Foundation.Json
import MessagingRelayer.Foundation.LastEvent
import MessagingRelayer.Foundation.Linearization
import MessagingRelayer.Foundation.Numerals
import MessagingRelayer.Foundation.Paging
import MessagingRelayer.Foundation.PartialRun
import MessagingRelayer.Foundation.Purge
import MessagingRelayer.Foundation.Redelivery
import MessagingRelayer.Foundation.Text
import MessagingRelayer.Handlers.Acceptance
import MessagingRelayer.Handlers.Clients
import MessagingRelayer.Handlers.Messages
import MessagingRelayer.Handlers.Paging
import MessagingRelayer.Handlers.Request
import MessagingRelayer.Handlers.Response
import MessagingRelayer.Handlers.Statuses
import MessagingRelayer.Http.Numbers
import MessagingRelayer.Http.Request
import MessagingRelayer.Models.Message
import MessagingRelayer.Services.ArchiveFormat
import MessagingRelayer.Services.Classification
import MessagingRelayer.Services.EventParser
import MessagingRelayer.Services.MembershipSync
import MessagingRelayer.Services.MoveTypes
import MessagingRelayer.Services.PackageFilter
import MessagingRelayer.Services.Redelivery
import MessagingRelayer.Services.Subscription
import MessagingRelayer.Services.SyncPass
import MessagingRelayer.Services.WalrusSync
import MessagingRelayer.Storage.Calls
import MessagingRelayer.Storage.Concurrent
import MessagingRelayer.Storage.Invariants
import MessagingRelayer.Storage.Linearization
import MessagingRelayer.Storage.Memory
import MessagingRelayer.Storage.Orders
import MessagingRelayer.Storage.Paging
import MessagingRelayer.Storage.Restriction
import MessagingRelayer.Storage.Status
import MessagingRelayer.System.AccessControl
import MessagingRelayer.System.Accesses
import MessagingRelayer.System.Archive
import MessagingRelayer.System.ArchiveProvenance
import MessagingRelayer.System.ArchiveReadable
import MessagingRelayer.System.Backlog
import MessagingRelayer.System.ChainAccess
import MessagingRelayer.System.Deletion
import MessagingRelayer.System.Drain
import MessagingRelayer.System.EditedFlag
import MessagingRelayer.System.Effects
import MessagingRelayer.System.Grants
import MessagingRelayer.System.HonestClients
import MessagingRelayer.System.Isolation
import MessagingRelayer.System.Linearization
import MessagingRelayer.System.Operations
import MessagingRelayer.System.Outcomes
import MessagingRelayer.System.Provenance
import MessagingRelayer.System.ReadYourWrites
import MessagingRelayer.System.Receipts
import MessagingRelayer.System.Replay
import MessagingRelayer.System.SenderVerification
import MessagingRelayer.System.Serving
import MessagingRelayer.System.SignedBytes
import MessagingRelayer.System.Step
import MessagingRelayer.System.StoredContent
import MessagingRelayer.System.SyncPass
import MessagingRelayer.System.Traceless
import MessagingRelayer.System.WellFormed
import MessagingRelayer.System.Writes
