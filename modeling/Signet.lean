import Signet.Lib.Machine
import Signet.Lib.OrdMap
import Signet.Schemas.ResourceId
import Signet.Schemas.PermissionScope
import Signet.Schemas.Seal
import Signet.Policy.Materiality
import Signet.Seals.Build
import Signet.Seals.Manager
import Signet.Seals.Machine
import Signet.Seals.Invariants
import Signet.Seals.Revocation
import Signet.Seals.Chain
import Signet.Schemas.Credential
import Signet.Policy.RevealState
import Signet.Sessions.Materiality
import Signet.Sessions.CredentialManager
import Signet.Sessions.RecordFrame
import Signet.Sessions.Service
import Signet.Sessions.ServiceMachine
import Signet.Sessions.Authority
import Signet.Sessions.RecordIdentity
import Signet.Sessions.RecordWrites
import Signet.Sessions.ManagerOps
import Signet.Sessions.RevocationFinal
import Signet.Sessions.ExpiredCredentials
import Signet.Sessions.RevealActions
import Signet.Sessions.OperatorManager
import Signet.Sessions.OperatorRemoval
import Signet.Policy.Permissions
import Signet.Cli.SealInputResolver
import Signet.Cli.SealLifecycle
import Signet.Cli.ActiveSeals
import Signet.Cli.WsRequestHandler
import Signet.Cli.SendGate
import Signet.Cli.SendAuthority
import Signet.Schemas.Event
import Signet.Policy.Projection
import Signet.Policy.RevealSoundness
import Signet.Cli.EventProjector
import Signet.Ws.Server
import Signet.Ws.ServerStep
import Signet.Ws.ProjectedSends
import Signet.Ws.RevealCleanup
import Signet.Lib.Logged
import Signet.Core.IdMappings
import Signet.Core.Client
import Signet.Core.MessageActions
import Signet.Core.SearchActions
import Signet.Cli.ChatScopes
import Signet.Schemas.Json
import Signet.Core.JoinConversation
import Signet.Core.ConversationActions
import Signet.Core.Actions
import Signet.Mcp.CallHandler
import Signet.Admin.DisclosureStore
import Signet.Admin.ReadElevation
import Signet.Admin.DisclosureCoupling
import Signet.Admin.AdminServer
import Signet.Lib.Except
import Signet.Core.ConvosInvite
import Signet.Core.ProcessJoinRequest
import Signet.Seals.ChainValidator
import Signet.Seals.History
import Signet.Seals.Sequential
import Signet.Verifier.SealChecks
import Signet.Verifier.ChainCoverage
import Signet.Schemas.ZodSchema
import Signet.Schemas.SealJson
import Signet.Seals.ContentType
import Signet.Seals.Stamper
import Signet.Seals.PublishedSeals
import Signet.Cli.SealSources
import Signet.Admin.ReadRuntime
import Signet.Admin.ReadDisclosure
import Signet.Seals.DeltaAgreement
import Signet.Sessions.CredentialCap
import Signet.Lib.SelfDelimiting
import Signet.Sessions.PolicyHash
import Signet.Sessions.IssuedAuthority
import Signet.Keys.OperationalKeys
import Signet.Keys.StampedKeys
import Signet.Lib.Register
import Signet.Keys.SecretStore
import Signet.Keys.CompatSecrets
import Signet.Keys.IdentityKeys
import Signet.Keys.Derivation
import Signet.Keys.DeriveAccount
import Signet.Keys.DerivedAccounts
import Signet.Keys.VaultSecretProvider
import Signet.Keys.VaultSecret
import Signet.Lib.FileTree
import Signet.Keys.Vault
import Signet.Keys.ApiKeys
import Signet.Keys.KeyBackend
import Signet.Keys.RestartTransparency
import Signet.Lib.Emits
import Signet.Ws.ReplayBuffer
import Signet.Ws.Transport
import Signet.Ws.TransportOps
import Signet.Ws.TransportSteps
import Signet.Ws.TransportCalls
import Signet.Ws.InvalidationProtocol
import Signet.Ws.StaleSnapshots
import Signet.Ws.ConnectionRegistry
import Signet.Ws.ReplayHistory
import Signet.Ws.ReplayExact
import Signet.Ws.BroadcastHistory
import Signet.Ws.InvalidationDelivery
import Signet.Ws.FrameOrder
import Signet.Ws.EventLoss
import Signet.Verifier.X509Key
import Signet.Seals.FreshDisclosure
import Signet.Sessions.IssuedLifetime
import Signet.Ws.RequestReplies
import Signet.Cli.ConfirmedActions
import Signet.Cli.InviteRecovery
import Signet.Cli.InviteDedup
import Signet.Admin.SocketFraming
import Signet.Core.ReadIsolation
import Signet.Verifier.Dsse
import Signet.Core.InviteCompression
import Signet.Seals.DeltaComparison
import Signet.Admin.DisclosureHistory
import Signet.Keys.AdminKey
import Signet.Core.ProfileMessages
import Signet.Core.ProfileState
import Signet.Keys.Jwt
import Signet.Verifier.CertificateKey
import Signet.Sdk.HandlerLifecycle
import Signet.Sdk.Protocol
import Signet.Core.ProfileSnapshot
import Signet.Sdk.EventStream
import Signet.Seals.AutoRepublish
import Signet.Schemas.ShortId
import Signet.Keys.Mnemonic
import Signet.Verifier.RateLimiter
import Signet.Contracts.ActionRegistry
import Signet.Keys.CanonicalBytes
import Signet.Core.InviteGenerator
import Signet.Core.InviteRoundTrip
import Signet.Core.JoinCleanup
import Signet.Core.JoinProtocol
import Signet.Core.CoreStreams
