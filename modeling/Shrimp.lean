import Shrimp.Orchestrator.Approval
import Shrimp.Orchestrator.Signals
import Shrimp.Orchestrator.Artifacts
import Shrimp.Orchestrator.Audit
import Shrimp.Orchestrator.Budget
import Shrimp.Orchestrator.Ledger
import Shrimp.Orchestrator.Length
import Shrimp.Orchestrator.Freshness
import Shrimp.Orchestrator.ClaimedHashes
import Shrimp.Server.Lifecycle
import Shrimp.Server.Fencing
import Shrimp.Server.Cancel
import Shrimp.Server.Restart
import Shrimp.Server.Events
import Shrimp.Server.Truth
import Shrimp.Server.Scheduler
import Shrimp.Server.Runner
import Shrimp.Docs.Template
import Shrimp.Docs.FeishuPublisher
import Shrimp.Docs.Accounting
import Shrimp.Docs.ParallelFetch
import Shrimp.Docs.Annotate
import Shrimp.Docs.Insertions
import Shrimp.Docs.Authors
import Shrimp.Docs.Slots
import Shrimp.Lib.Count
import Shrimp.Docs.Unfilled
import Shrimp.Docs.Diagrams
import Shrimp.Docs.Filling
import Shrimp.Docs.Extract
import Shrimp.Docs.TemplatesMd
import Shrimp.Docs.Shipped
import Shrimp.Docs.LarkJson
import Shrimp.Orchestrator.Isolation
import Shrimp.Server.Delivery
import Shrimp.Docs.Interleaving
import Shrimp.Docs.Anchors
import Shrimp.Orchestrator.Finish
import Shrimp.Server.Registrations
import Shrimp.Server.Draining
import Shrimp.Server.Timeline
import Shrimp.Server.LastWord
import Shrimp.Server.Occupancy
import Shrimp.Server.Backlog
import Shrimp.Server.Overtaking
