import VpnService.Framework.Store
import VpnService.Framework.Text
import VpnService.Framework.PercentEncoding
import VpnService.Framework.Effect
import VpnService.Framework.Query
import VpnService.Framework.Runs
import VpnService.Framework.Transactions
import VpnService.Agent.Stores
import VpnService.Agent.Auth
import VpnService.Agent.UserReconciler
import VpnService.Agent.UserHealing
import VpnService.Agent.Rotation
import VpnService.Agent.WireGuard
import VpnService.Agent.PeerReconciler
import VpnService.Agent.PeerHealing
import VpnService.Agent.PeerRefinement
import VpnService.Backend.Models
import VpnService.Backend.Session
import VpnService.Backend.Repositories
import VpnService.Backend.SubscriptionService
import VpnService.Backend.PaymentService
import VpnService.Backend.RoutingService
import VpnService.Backend.IpAllocator
import VpnService.Backend.VpnServerService
import VpnService.Backend.SubscriptionLinkService
import VpnService.Backend.DeviceService
import VpnService.Backend.SubscriptionDeliveryService
import VpnService.Backend.SubscriptionExpiryWorker
import VpnService.Backend.UserService
import VpnService.Backend.Api
import VpnService.Backend.Frames
import VpnService.Backend.Isolation
import VpnService.Backend.Footprint
import VpnService.Backend.DeviceFootprint
import VpnService.Backend.Sparing
import VpnService.Backend.Recolored
import VpnService.Backend.Contracts
import VpnService.Backend.Dimming
import VpnService.Backend.Reachable
import VpnService.Backend.Consistency
import VpnService.Backend.Administration
import VpnService.Backend.Provisioning
import VpnService.Backend.Soundness
import VpnService.Backend.Tokens
import VpnService.Backend.Revocation
import VpnService.Backend.Ledger
import VpnService.Backend.Books
import VpnService.Backend.Renewal
import VpnService.Backend.Plans
import VpnService.Backend.Mirrors
import VpnService.Backend.Homing
import VpnService.Backend.Retirement
import VpnService.Backend.Webhooks
import VpnService.Backend.Sweeps
import VpnService.Backend.Reaching
import VpnService.Backend.Faults
import VpnService.Backend.Access
import VpnService.Backend.AgentProviders
import VpnService.Backend.Wire
import VpnService.Backend.Paperwork
import VpnService.Backend.Profiles
import VpnService.Backend.Delivery
import VpnService.Backend.Disabling
import VpnService.Backend.Expiry
import VpnService.Backend.Aborts
import VpnService.Backend.Limits
import VpnService.Backend.Restoration
import VpnService.Backend.Statements
import VpnService.Backend.LimitRace
import VpnService.Backend.SweepRace
import VpnService.Backend.WebhookRace
import VpnService.Backend.AddressRace
import VpnService.Backend.XrayRetries
import VpnService.Backend.Placement
import VpnService.Backend.Loads
import VpnService.Backend.PromoLimits
import VpnService.Backend.ProfileRace
import VpnService.Agent.HandlerClient
import VpnService.Agent.Redundancy
import VpnService.Agent.UserRace
import VpnService.Backend.IpNetworks
import VpnService.Backend.RoutingEngine
import VpnService.Backend.Outages
import VpnService.Backend.Errors
import VpnService.Backend.Pools
import VpnService.Framework.Counters
import VpnService.Backend.CounterRace
import VpnService.Backend.SupportService
import VpnService.Backend.BotApi
import VpnService.Backend.Issuing
import VpnService.Backend.Ownership
import VpnService.Backend.Answers
import VpnService.Backend.Privacy
import VpnService.Backend.Blocking
import VpnService.Backend.Allocation
import VpnService.Backend.IpParsing
import VpnService.Backend.Aggregation
import VpnService.Backend.DomainNames
import VpnService.Backend.DirectRoutes
import VpnService.Backend.VlessFormatter
import VpnService.Backend.Charges
import VpnService.Agent.WgDump
import VpnService.Bot.Handlers
import VpnService.Bot.Prompts
import VpnService.Backend.BootstrapRace
import VpnService.Backend.Accord
import VpnService.Backend.Transports
import VpnService.Backend.Agreement
import VpnService.Backend.Concord
import VpnService.Backend.DomainResolver
import VpnService.Backend.StatusAgreement
import VpnService.Backend.AccessEnd
import VpnService.Backend.ConfigText
import VpnService.Backend.Switched
import VpnService.Backend.DrawnProfiles
import VpnService.Backend.ConfigDelivery
import VpnService.Backend.Reversal
import VpnService.Backend.AdminAuthService
import VpnService.Backend.HttpApi
import VpnService.Framework.Journal
import VpnService.Backend.Governance
import VpnService.Backend.AuditTrail
import VpnService.Backend.Roles
import VpnService.Backend.AdminSessions
import VpnService.Backend.LogReplay
import VpnService.Framework.NaturalKey
import VpnService.Backend.Choices
import VpnService.Backend.Tunnels
import VpnService.Backend.Standing
import VpnService.Bot.BackendClient
import VpnService.Bot.Buttons
import VpnService.Bot.Offers
import VpnService.Bot.Presses
import VpnService.Bot.SmartVpn
import VpnService.Bot.Following
import VpnService.Framework.Lasting
import VpnService.Bot.Menus
import VpnService.Bot.Conversation
