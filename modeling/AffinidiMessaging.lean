import AffinidiMessaging.Library.Fallible
import AffinidiMessaging.Library.CutOff
import AffinidiMessaging.Library.Metered
import AffinidiMessaging.Library.Text
import AffinidiMessaging.Library.Leb128
import AffinidiMessaging.Library.Serde
import AffinidiMessaging.Library.Transition
import AffinidiMessaging.Library.Paging
import AffinidiMessaging.Library.Redis
import AffinidiMessaging.Library.RedisCommands
import AffinidiMessaging.Library.Base64
import AffinidiMessaging.Library.HeadOfLine
import AffinidiMessaging.Library.JsonText
import AffinidiMessaging.Library.JsonValue
import AffinidiMessaging.Library.Wire
import AffinidiMessaging.Library.Coupling
import AffinidiMessaging.Library.Machine
import AffinidiMessaging.Library.KeyedQueue
import AffinidiMessaging.Didcomm.Error
import AffinidiMessaging.Didcomm.Crates
import AffinidiMessaging.Didcomm.Document
import AffinidiMessaging.Didcomm.Message
import AffinidiMessaging.Didcomm.Jwe
import AffinidiMessaging.Didcomm.Jws
import AffinidiMessaging.Didcomm.Envelope
import AffinidiMessaging.Didcomm.Unpack
import AffinidiMessaging.Didcomm.Layers
import AffinidiMessaging.Didcomm.Refinement
import AffinidiMessaging.Didcomm.IdealCrates
import AffinidiMessaging.Didcomm.Lawful
import AffinidiMessaging.Didcomm.Records
import AffinidiMessaging.Didcomm.Pack
import AffinidiMessaging.Didcomm.RoundTrip
import AffinidiMessaging.Didcomm.Plaintext
import AffinidiMessaging.Didcomm.IdealKeys
import AffinidiMessaging.Didcomm.JweLayer
import AffinidiMessaging.Didcomm.JwsLayer
import AffinidiMessaging.Didcomm.Metadata
import AffinidiMessaging.Didcomm.Sender
import AffinidiMessaging.Didcomm.FromPriorPack
import AffinidiMessaging.Didcomm.Rotation
import AffinidiMessaging.Didcomm.ReWrapping
import AffinidiMessaging.Didcomm.LimitCutOff
import AffinidiMessaging.Didcomm.Routing
import AffinidiMessaging.Didcomm.Onion
import AffinidiMessaging.Didcomm.Forwarding
import AffinidiMessaging.Didcomm.CryptoOperations
import AffinidiMessaging.Didcomm.CryptoLimit
import AffinidiMessaging.Didcomm.Services
import AffinidiMessaging.Didcomm.Route
import AffinidiMessaging.Didcomm.Encrypting
import AffinidiMessaging.Didcomm.Negotiation
import AffinidiMessaging.Didcomm.PackUnpack
import AffinidiMessaging.Didcomm.RoutedUnpack
import AffinidiMessaging.Didcomm.Panics
import AffinidiMessaging.Didcomm.SecretDecoding
import AffinidiMessaging.Didcomm.SafeCalls
import AffinidiMessaging.Didcomm.UnpackPanics
import AffinidiMessaging.Mediator.Functions
import AffinidiMessaging.Mediator.DatabaseHandler
import AffinidiMessaging.Mediator.Effects
import AffinidiMessaging.Mediator.StoreFailure
import AffinidiMessaging.Mediator.Timestamps
import AffinidiMessaging.Mediator.Conservation
import AffinidiMessaging.Mediator.Soundness
import AffinidiMessaging.Mediator.Availability
import AffinidiMessaging.Mediator.DeleteFailure
import AffinidiMessaging.Mediator.SocketReplies
import AffinidiMessaging.Mediator.InboxFetch
import AffinidiMessaging.Mediator.Streaming
import AffinidiMessaging.Mediator.StreamingUuid
import AffinidiMessaging.Mediator.SharedRegistry
import AffinidiMessaging.Mediator.StreamingTask
import AffinidiMessaging.Mediator.WebSockets
import AffinidiMessaging.Mediator.Reconnect
import AffinidiMessaging.Mediator.LiveOrder
import AffinidiMessaging.Mediator.ClientCount
import AffinidiMessaging.Mediator.Deadlock
import AffinidiMessaging.Mediator.Session
import AffinidiMessaging.Mediator.Authenticate
import AffinidiMessaging.Mediator.ConsumedOnce
import AffinidiMessaging.Mediator.MessagePickup
import AffinidiMessaging.Mediator.Acknowledgement
import AffinidiMessaging.Mediator.Inbound
import AffinidiMessaging.Mediator.TrustPing
import AffinidiMessaging.Mediator.JwtAuth
import AffinidiMessaging.Mediator.Statistics
import AffinidiMessaging.Mediator.ReadPaths
import AffinidiMessaging.Mediator.OptimisticFetch
import AffinidiMessaging.Mediator.StatusReply
import AffinidiMessaging.Mediator.StatusAgreement
import AffinidiMessaging.Mediator.ReadIsolation
import AffinidiMessaging.Mediator.Batches
import AffinidiMessaging.Mediator.HandleInbound
import AffinidiMessaging.Mediator.ForwardedInbox
import AffinidiMessaging.Mediator.EndToEnd
import AffinidiMessaging.Mediator.Impersonation
import AffinidiMessaging.Mediator.LiveDelivery
import AffinidiMessaging.Mediator.PickupHandlers
import AffinidiMessaging.Sdk.Authentication
import AffinidiMessaging.Sdk.TrustPing
import AffinidiMessaging.Sdk.MessagePickup
import AffinidiMessaging.Sdk.StatusRequest
import AffinidiMessaging.Sdk.RestSend
import AffinidiMessaging.Sdk.Rest
import AffinidiMessaging.Sdk.RestCalls
import AffinidiMessaging.Sdk.InboxPolling
import AffinidiMessaging.Sdk.AtmSession
import AffinidiMessaging.Sdk.PickupRounds
import AffinidiMessaging.Sdk.MessageCache
import AffinidiMessaging.Sdk.CacheInvariant
import AffinidiMessaging.Sdk.CacheQueue
import AffinidiMessaging.Sdk.WsHandler
import AffinidiMessaging.Sdk.LiveStream
import AffinidiMessaging.Sdk.StreamOrder
