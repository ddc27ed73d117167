import MagicShare.Base.Records
import MagicShare.Base.Transition
import MagicShare.Base.Documents
import MagicShare.Base.Transaction
import MagicShare.Base.SlidingWindow
import MagicShare.Cloud.Models
import MagicShare.Cloud.Firestore
import MagicShare.Cloud.Accounts
import MagicShare.Cloud.Devices
import MagicShare.Cloud.RateLimit
import MagicShare.Cloud.TransferNotify
import MagicShare.Cloud.Pairing
import MagicShare.Cloud.Scheduled
import MagicShare.Cloud.Calls
import MagicShare.Cloud.Count
import MagicShare.Cloud.Fields
import MagicShare.Cloud.JoinOutcome
import MagicShare.Cloud.Quota
import MagicShare.Cloud.Tx
import MagicShare.Cloud.TokenUse
import MagicShare.Cloud.Sweeps
import MagicShare.Cloud.Collection
import MagicShare.Cloud.Membership
import MagicShare.Base.Fallible
import MagicShare.Base.Parsing
import MagicShare.Pairing.Payload
import MagicShare.Pairing.Address
import MagicShare.Pairing.RoundTrip
import MagicShare.Cloud.Callable
import MagicShare.Pairing.Services
import MagicShare.Pairing.JoinService
import MagicShare.Pairing.HalfPaired
import MagicShare.Base.Bits
import MagicShare.Base.Crc
import MagicShare.Pairing.ManualCode
import MagicShare.Pairing.Typo
import MagicShare.Pairing.LanServer
import MagicShare.Pairing.Reachability
import MagicShare.Ws.Server
import MagicShare.Ws.Handlers
import MagicShare.Ws.Tracking
import MagicShare.Ws.Progress
import MagicShare.Ws.Views
import MagicShare.Ws.Agreement
import MagicShare.Ws.Rooms
import MagicShare.Ws.Relay
import MagicShare.Base.Allotment
import MagicShare.Nearby.Device
import MagicShare.Nearby.Merge
import MagicShare.Nearby.Bindings
import MagicShare.Base.Dict
import MagicShare.Base.Grouping
import MagicShare.Nearby.AllDevices
import MagicShare.Nearby.Collapse
import MagicShare.Nearby.Signaling
import MagicShare.Nearby.Presence
import MagicShare.Nearby.Connections
import MagicShare.Nearby.Probes
import MagicShare.Base.Settling
import MagicShare.Base.Network
import MagicShare.WebRtc.Messages
import MagicShare.WebRtc.Transfer
import MagicShare.WebRtc.Delivery
import MagicShare.WebRtc.FileResults
import MagicShare.WebRtc.Pin
import MagicShare.WebRtc.Challenge
import MagicShare.WebRtc.PinAgreement
import MagicShare.WebRtc.Signaling
import MagicShare.WebRtc.SignalingFlow
import MagicShare.WebRtc.Answers
import MagicShare.WebRtc.Survival
import MagicShare.Account.GroupKey
import MagicShare.Account.Repository
import MagicShare.Account.Provenance
import MagicShare.Account.Vanish
import MagicShare.Account.Bootstrap
import MagicShare.Receive.FileSaver
import MagicShare.Receive.Destination
import MagicShare.Receive.Counter
import MagicShare.Store.SettingsFile
import MagicShare.Base.Snapshots
import MagicShare.Store.SavedLists
import MagicShare.Receive.Session
import MagicShare.Receive.OneSession
import MagicShare.Receive.Lifecycle
import MagicShare.Receive.Uploads
import MagicShare.Receive.Drain
import MagicShare.Send.Session
import MagicShare.Send.Cancel
import MagicShare.Account.Joining
import MagicShare.Account.Places
import MagicShare.Account.Survival
import MagicShare.Base.Json
import MagicShare.Base.Keyed
import MagicShare.Lan.Dto
import MagicShare.Lan.Register
import MagicShare.Lan.Nonce
import MagicShare.Send.Notifier
import MagicShare.Send.Completion
import MagicShare.Account.Identity
import MagicShare.Account.FreshId
import MagicShare.Account.AliasSync
import MagicShare.Account.PushToken
import MagicShare.Account.Serial
import MagicShare.Account.Removal
import MagicShare.Send.WebSend
import MagicShare.Send.PinLockout
import MagicShare.Lan.Cancel
import MagicShare.Lan.TaskRunner
import MagicShare.Lan.Shutdown
import MagicShare.Send.UploadIsolate
import MagicShare.Base.Base64
import MagicShare.Crypto.Token
import MagicShare.WebRtc.Chunks
import MagicShare.WebRtc.PinGuesses
import MagicShare.Crypto.TokenChecks
import MagicShare.Base.Mailbox
import MagicShare.WebRtc.NonceExchange
import MagicShare.Base.Query
import MagicShare.Lan.TargetUrl
import MagicShare.Cloud.Validation
import MagicShare.Base.Cursor
import MagicShare.Pairing.UriForm
import MagicShare.Pairing.Grammar
import MagicShare.Pairing.Transcription
import MagicShare.Pairing.LanClient
import MagicShare.Base.Percent
import MagicShare.Native.ContentUri
import MagicShare.Base.Purge
import MagicShare.Cloud.Backend
import MagicShare.Cloud.Sides
import MagicShare.Cloud.Isolation
import MagicShare.Cloud.Access
import MagicShare.Send.Saved
import MagicShare.Nearby.Multicast
import MagicShare.Nearby.Discovered
import MagicShare.Nearby.Mutual
import MagicShare.Nearby.Isolates
import MagicShare.Nearby.Restart
import MagicShare.Base.Duos
import MagicShare.Base.Parts
import MagicShare.WebRtc.Session
import MagicShare.WebRtc.Opening
import MagicShare.WebRtc.Complete
