import AgentFirstMail.Data.Text
import AgentFirstMail.Error
import AgentFirstMail.Config.Mailbox
import AgentFirstMail.Config.Actions
import AgentFirstMail.Config.Defaults
import AgentFirstMail.Types.Remote
import AgentFirstMail.Imap.Resolve
import AgentFirstMail.Imap.Identity
import AgentFirstMail.Effect.Program
import AgentFirstMail.Effect.Execution
import AgentFirstMail.Effect.Safety
import AgentFirstMail.Effect.Conformance
import AgentFirstMail.Types.Push
import AgentFirstMail.Types.Workspace
import AgentFirstMail.Store.Overlay
import AgentFirstMail.Store.RemoteSync
import AgentFirstMail.Store.Audit
import AgentFirstMail.Store.AuditTearing
import AgentFirstMail.Store.Process
import AgentFirstMail.Store.Relocation
import AgentFirstMail.PushQueue.StepState
import AgentFirstMail.PushQueue.Draft
import AgentFirstMail.PushQueue.Queue
import AgentFirstMail.PushQueue.Execute
import AgentFirstMail.PushQueue.Tracked
import AgentFirstMail.PushQueue.Plan
import AgentFirstMail.PushQueue.PlanId
import AgentFirstMail.PushQueue.Finalize
import AgentFirstMail.PushQueue.Push
import AgentFirstMail.PushQueue.Recovery
import AgentFirstMail.PushQueue.Lifecycle
import AgentFirstMail.PushQueue.Progress
import AgentFirstMail.PushQueue.Consistency
import AgentFirstMail.PushQueue.PlannedQueue
import AgentFirstMail.PushQueue.StepChange
import AgentFirstMail.PushQueue.Serving
import AgentFirstMail.PushQueue.LifecycleInvariant
import AgentFirstMail.PushQueue.LocalErrors
import AgentFirstMail.PushQueue.StepConformance
import AgentFirstMail.PushQueue.ExecuteConformance
import AgentFirstMail.PushQueue.TrackedConformance
import AgentFirstMail.PushQueue.FinalizeConformance
import AgentFirstMail.PushQueue.PushConformance
import AgentFirstMail.PushQueue.RecoveryConformance
import AgentFirstMail.PushQueue.Sessions
import AgentFirstMail.PushQueue.Accounting
import AgentFirstMail.PushQueue.Archiving
import AgentFirstMail.PushQueue.Continuity
import AgentFirstMail.PushQueue.Requeue
import AgentFirstMail.PushQueue.Snapshot
import AgentFirstMail.Requests.IdempotencyRules
import AgentFirstMail.Ingest.Deduplication
import AgentFirstMail.Requests.InputReplay
import AgentFirstMail.Store.RemoteMissingRules
import AgentFirstMail.Imap.ReconcileInterval
import AgentFirstMail.Effect.Unless
import AgentFirstMail.Pull.Evidence
import AgentFirstMail.Pull.Unstored
import AgentFirstMail.Pull.Budget
import AgentFirstMail.Cloudflare.Consumer
import AgentFirstMail.Cloudflare.Dispatch
import AgentFirstMail.Cloudflare.PullConformance
import AgentFirstMail.Cloudflare.Rounds
import AgentFirstMail.Cloudflare.SpoolRuns
import AgentFirstMail.Cloudflare.Notifications
import AgentFirstMail.Cloudflare.ConsumerConformance
import AgentFirstMail.Cloudflare.Acknowledgement
import AgentFirstMail.Pull.Knowledge
import AgentFirstMail.Effect.Confined
import AgentFirstMail.PushQueue.StepKinds
import AgentFirstMail.Data.Lists
import AgentFirstMail.Data.Trimming
import AgentFirstMail.Types.Contact
import AgentFirstMail.Store.Keeping
import AgentFirstMail.Store.Contacts
import AgentFirstMail.Store.ContactRules
import AgentFirstMail.Store.ContactEdits
import AgentFirstMail.Store.ContactSessions
import AgentFirstMail.Data.Lines
import AgentFirstMail.Transport.Diagnostics
import AgentFirstMail.Transport.Wire
import AgentFirstMail.Transport.Imap
import AgentFirstMail.Transport.Senders
import AgentFirstMail.Transport.Tags
import AgentFirstMail.Transport.TagRules
import AgentFirstMail.Types.Suggestion
import AgentFirstMail.Store.Suggestions
import AgentFirstMail.Store.Metadata
import AgentFirstMail.Projection.Message
import AgentFirstMail.Projection.Read
import AgentFirstMail.Projection.Relations
import AgentFirstMail.Review.Documents
import AgentFirstMail.Review.Commands
import AgentFirstMail.Review.Validity
import AgentFirstMail.Review.Sessions
import AgentFirstMail.PushQueue.DependencyOrder
import AgentFirstMail.Data.Search
import AgentFirstMail.Store.ManagedBlock
import AgentFirstMail.PushQueue.AppendAttempts
import AgentFirstMail.Cases.Commands
import AgentFirstMail.Cases.Unarchive
import AgentFirstMail.Cases.Rules
import AgentFirstMail.Cases.Merge
import AgentFirstMail.Cases.Archive
import AgentFirstMail.Cases.Eligibility
import AgentFirstMail.Cases.ArchiveProgress
import AgentFirstMail.Cases.ArchiveRecovery
import AgentFirstMail.Cases.Transactions
import AgentFirstMail.Cases.DoctorRepair
import AgentFirstMail.Cases.ArchiveConvergence
import AgentFirstMail.Review.Pages
import AgentFirstMail.Review.PageItems
import AgentFirstMail.Review.PageSettling
import AgentFirstMail.Review.PageFrames
import AgentFirstMail.Review.PageSessions
import AgentFirstMail.Review.PageSaves
import AgentFirstMail.Review.PageFreshness
import AgentFirstMail.Review.PageStaleness
import AgentFirstMail.Review.PageRuns
import AgentFirstMail.Store.ArchiveActions
import AgentFirstMail.Store.RemoteFlags
import AgentFirstMail.Store.FlagRuns
import AgentFirstMail.Data.Unions
import AgentFirstMail.Review.Deliveries
import AgentFirstMail.Projection.RelationIndex
import AgentFirstMail.Projection.Blocks
import AgentFirstMail.Data.Segments
import AgentFirstMail.Drafts.AttachmentRules
import AgentFirstMail.Drafts.BodyEdits
import AgentFirstMail.Drafts.Commands
import AgentFirstMail.Drafts.EditRules
import AgentFirstMail.Drafts.ReplyRecipients
import AgentFirstMail.Drafts.Attachments
import AgentFirstMail.Mime.Fields
import AgentFirstMail.Outbound.BccRules
import AgentFirstMail.Outbound.BccPrivacy
import AgentFirstMail.Imap.PartialFetch
import AgentFirstMail.Outbound.Threading
import AgentFirstMail.Store.BodyText
import AgentFirstMail.Templates.FilterRules
import AgentFirstMail.Config.Sparse
import AgentFirstMail.Data.Chrono
import AgentFirstMail.Effect.Environment
import AgentFirstMail.Store.Purge
import AgentFirstMail.Store.PurgeRules
import AgentFirstMail.Transport.MailServer
import AgentFirstMail.Transport.MoveTargets
import AgentFirstMail.Channels.Publish
import AgentFirstMail.Channels.PublishOnce
import AgentFirstMail.Drafts.Queueing
import AgentFirstMail.Drafts.QueueingRules
import AgentFirstMail.Channels.Ingest
import AgentFirstMail.Channels.IngestOnce
