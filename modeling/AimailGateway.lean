import AimailGateway.Library.Action
import AimailGateway.Library.Text
import AimailGateway.Library.Table
import AimailGateway.Errors
import AimailGateway.Scope
import AimailGateway.Storage.Records
import AimailGateway.Storage.ApiKeys
import AimailGateway.Api.KeyPrivilege
import AimailGateway.Api.WhitelistOwnership
import AimailGateway.Storage.Whitelists
import AimailGateway.Library.Regex
import AimailGateway.WhitelistPatterns
import AimailGateway.Storage.Domains
import AimailGateway.Factory
import AimailGateway.DomainUpdates
import AimailGateway.Api.Whitelists
import AimailGateway.Api.WhitelistOutcomes
import AimailGateway.Library.Sql
import AimailGateway.Storage.Rename
import AimailGateway.Api.Activation
import AimailGateway.Api.Domains
import AimailGateway.Library.SqlTokens
import AimailGateway.Api.RenameTexts
import AimailGateway.Api.PullBatches
import AimailGateway.Api.PullFilters
import AimailGateway.Storage.Emails
import AimailGateway.Email.Utils
import AimailGateway.Email.Recipients
import AimailGateway.Smtp.Message
import AimailGateway.Smtp.Receiver
import AimailGateway.Library.Calendar
import AimailGateway.Library.Coupling
import AimailGateway.Smtp.Commands
import AimailGateway.Smtp.Outcomes
import AimailGateway.Smtp.Isolation
import AimailGateway.Smtp.Filing
import AimailGateway.Smtp.Gate
import AimailGateway.Smtp.Transactions
import AimailGateway.Smtp.Coverage
import AimailGateway.Library.Delimiters
import AimailGateway.Library.HeaderBlock
import AimailGateway.Smtp.Learning
import AimailGateway.Smtp.Bounces
import AimailGateway.Smtp.Transport
import AimailGateway.Smtp.EngineCommands
import AimailGateway.Smtp.Attached
import AimailGateway.Library.Program
import AimailGateway.Scheduler.Requests
import AimailGateway.Scheduler.Exhaustion
import AimailGateway.Scheduler.Flows
import AimailGateway.Scheduler.Server
import AimailGateway.Scheduler.Effects
import AimailGateway.Scheduler.Recovery
import AimailGateway.Scheduler.Attempts
import AimailGateway.Scheduler.Tally
import AimailGateway.Scheduler.Bounds
import AimailGateway.Scheduler.SingleDelivery
import AimailGateway.Notifier.Protocol
import AimailGateway.Notifier.Waiters
import AimailGateway.Notifier.Deadlines
import AimailGateway.Notifier.Stream
import AimailGateway.Mailbox.Connections
import AimailGateway.Mailbox.Exclusion
import AimailGateway.Api.Replay
import AimailGateway.Library.IpAddr
import AimailGateway.Webhook.Target
import AimailGateway.Webhook.Reach
import AimailGateway.Webhook.ContactBodies
import AimailGateway.Webhook.PersonaApproval
import AimailGateway.Webhook.ManagerCommands
import AimailGateway.Board.Models
import AimailGateway.Library.Fallible
import AimailGateway.Board.Tables
import AimailGateway.Board.Awareness
import AimailGateway.Board.Commands
import AimailGateway.Board.Outcomes
import AimailGateway.Board.Effects
import AimailGateway.Board.HandlerEffects
import AimailGateway.Api.Redemption
import AimailGateway.Api.RedemptionRace
import AimailGateway.Api.Seal
import AimailGateway.Api.Resealing
import AimailGateway.Api.SealedAtRest
import AimailGateway.Scheduler.Expiry
import AimailGateway.Scheduler.Readying
import AimailGateway.Storage.DomainCache
import AimailGateway.Api.ManagerReach
import AimailGateway.Board.CommandEffects
import AimailGateway.Board.Gateway
import AimailGateway.Board.Handlers
import AimailGateway.Board.Interceptor
import AimailGateway.Board.ConfirmSubjects
import AimailGateway.Board.Runs
import AimailGateway.Board.AddressForms
import AimailGateway.Board.TaskStorage
import AimailGateway.Api.RefusedRegistrations
import AimailGateway.Board.CommandBodies
import AimailGateway.Board.SessionFlow
import AimailGateway.Board.Creation
import AimailGateway.Board.Rename
import AimailGateway.Board.Tokens
import AimailGateway.Board.TaskSteps
import AimailGateway.Board.Connections
import AimailGateway.Board.ReviewGate
import AimailGateway.Board.TaskLifecycle
import AimailGateway.Board.Completion
import AimailGateway.Board.Duties
import AimailGateway.Board.Permissions
import AimailGateway.Board.Repetition
import AimailGateway.Api.SendHeaders
import AimailGateway.Api.SendRecords
import AimailGateway.Api.AddressResolution
import AimailGateway.Api.DeliverySets
import AimailGateway.Api.ReplayMemory
import AimailGateway.Api.Dedupe
import AimailGateway.Api.SendRace
import AimailGateway.Api.Timestamps
import AimailGateway.Storage.AgentState
import AimailGateway.Api.Contacts
import AimailGateway.Api.ContactIndex
import AimailGateway.Api.ContactLookup
import AimailGateway.Smtp.MxDelivery
import AimailGateway.Smtp.AddressForms
import AimailGateway.Storage.PendingDeliveries
import AimailGateway.Attachments.Store
import AimailGateway.Attachments.Flows
import AimailGateway.Attachments.OneTime
import AimailGateway.Attachments.Collection
import AimailGateway.Attachments.References
import AimailGateway.Api.RenamePreconditions
import AimailGateway.Webhook.ContactCommands
import AimailGateway.Webhook.ManagerChange
import AimailGateway.Api.RegisteredReach
import AimailGateway.Library.Utf8
import AimailGateway.Board.CommandReplies
import AimailGateway.Library.Replacement
import AimailGateway.Email.Entities
import AimailGateway.Library.JsonPath
import AimailGateway.Email.Endpoints
import AimailGateway.Board.SweeperClock
import AimailGateway.Webhook.Retries
import AimailGateway.Api.OwnedHeaders
import AimailGateway.Email.MarkdownBlocks
import AimailGateway.Board.Persistence
import AimailGateway.Smtp.CallOrder
import AimailGateway.Api.ThreadHeaders
