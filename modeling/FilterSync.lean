import FilterSync.Http.Fetch
import FilterSync.Main
import FilterSync.Proofs.Service.Moves
import FilterSync.Session.Run
import FilterSync.Proofs.State.Mutation
import FilterSync.Proofs.Service.System
import FilterSync.Proofs.Service.LiveRules
import FilterSync.Proofs.Service.Settled
import FilterSync.Proofs.Service.Updates
import FilterSync.Proofs.Service.Handling
import FilterSync.Proofs.Service.HandedRules
import FilterSync.Proofs.Pass.Ahead
import FilterSync.Proofs.Store.RuleMap
import FilterSync.Proofs.Pass.Choices
import FilterSync.Proofs.Service.Noted
import FilterSync.Proofs.Service.Independence
import FilterSync.Proofs.Service.Serialized
import FilterSync.Proofs.State.Documents
import FilterSync.Proofs.Service.Messages
import FilterSync.Proofs.Pass.Accounting
import FilterSync.Proofs.Pass.Isolation
import FilterSync.Proofs.Service.Refreshes
import FilterSync.Proofs.Rule.ClosedForm
import FilterSync.Proofs.Service.Requests
import FilterSync.Proofs.Service.Coherence
import FilterSync.Proofs.Service.Growth
import FilterSync.Proofs.Filter.Options
import FilterSync.Proofs.Filter.Canonical
import FilterSync.Proofs.Filter.Reordering
import FilterSync.Proofs.Pass.OwnFilters
import FilterSync.Proofs.Service.Exceptions
import FilterSync.Proofs.Http.Bodies
import FilterSync.Proofs.Store.Declarative
import FilterSync.Proofs.Service.Periods
import FilterSync.Proofs.Config.Problems
import FilterSync.Proofs.Rule.Numbering
import FilterSync.Proofs.Filter.OptionSearch
