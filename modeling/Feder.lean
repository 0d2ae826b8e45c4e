import Feder.Lib.Serde
import Feder.Vocab.Codec
import Feder.Core.Follow
import Feder.Core.Key
import Feder.Core.Note
import Feder.Server.Http
import Feder.Lib.Table
import Feder.Server.Storage
import Feder.Lib.Machine
import Feder.Lib.OneWay
import Feder.Server.OutboundFollows
import Feder.Server.Actor
import Feder.Server.Send
import Feder.Server.Signature
import Feder.Server.Verification
import Feder.Lib.Prog
import Feder.Server.Inbox
import Feder.Server.Handlers
import Feder.Server.AcceptEvidence
import Feder.Server.FollowerHistory
import Feder.Server.Requests
import Feder.Server.Noninterference
import Feder.Server.Routes
import Feder.Server.AcceptRace
import Feder.Lib.Base64
import Feder.Lib.JsonSyntax
import Feder.Server.Handshake
import Feder.Server.Negotiation
import Feder.Server.Object
import Feder.Server.Receive
import Feder.Server.Libraries
import Feder.Server.Identity
import Feder.Server.DraftCavage
import Feder.Lib.Slice
import Feder.Server.SignatureGrammar
import Feder.Server.Interop
import Feder.Server.Confinement
import Feder.Server.Provisioning
import Feder.Server.Runs
import Feder.Server.Completion
import Feder.Server.Audience
import Feder.Server.OnRecord
import Feder.Lib.Agree
import Feder.Server.Responses
import Feder.Server.Retries
import Feder.Lib.Percent
import Feder.Server.AcceptIds
import Feder.Server.Embedding
import Feder.Server.Preferences
import Feder.Server.NoteIds
import Feder.Lib.Part
import Feder.Server.WebFinger
import Feder.Server.Documents
import Feder.Server.NoteLoops
import Feder.Server.WholeServer
import Feder.Server.FollowersPage
import Feder.Server.NoteHistory
import Feder.Server.NoteDelivery
import Feder.Server.Discovery
import Feder.Server.Federation
import Feder.Lib.Settle
import Feder.Server.Duplicates
import Feder.Server.Replay
import Feder.Server.Deliveries
import Feder.Lib.Refine
import Feder.Server.StorageSpec
import Feder.Lib.Lift
import Feder.Server.SingleUser
import Feder.Server.Router
