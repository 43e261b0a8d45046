import Inquiry.Main
import Inquiry.Proofs.Time.Written
import Inquiry.Json.Reader
import Inquiry.Proofs.Table
import Inquiry.Proofs.Questionnaire.Position
import Inquiry.Proofs.Session.Snapshot
import Inquiry.Proofs.Session.Canonical
import Inquiry.Proofs.Session.Operation
import Inquiry.Proofs.Session.Atomic
import Inquiry.Proofs.Session.Invariant
import Inquiry.Proofs.Session.Terms
import Inquiry.Proofs.Session.Durable
import Inquiry.Proofs.Session.Alike
import Inquiry.Proofs.Session.Exchange
import Inquiry.Proofs.Session.Sharing
import Inquiry.Proofs.Decision
import Inquiry.Proofs.Questionnaire.OnePass
import Inquiry.Proofs.Session.Serving
import Inquiry.Proofs.Walk
import Inquiry.Proofs.Dependency.Graph
import Inquiry.Proofs.Dependency.Search
import Inquiry.Proofs.Dependency.Cycles
import Inquiry.Proofs.Session.Arrival
import Inquiry.Proofs.Session.Exposure
import Inquiry.Proofs.Questionnaire.Dependencies
import Inquiry.Proofs.Validation
import Inquiry.Proofs.Influence
import Inquiry.Proofs.Session.Outcome
import Inquiry.Proofs.Session.Trail
import Inquiry.Proofs.Session.Ledger
import Inquiry.Proofs.Session.WriteAhead
import Inquiry.Proofs.Session.Resuming
import Inquiry.Proofs.Session.Completion
import Inquiry.Proofs.Session.Isolation
import Inquiry.Proofs.Json.Decode
import Inquiry.Proofs.Questionnaire.Written
import Inquiry.Proofs.Session.Onward
import Inquiry.Proofs.Session.Forward
import Inquiry.Proofs.Session.Excursion
import Inquiry.Proofs.Dependency.Paths
import Inquiry.Proofs.Dependency.Insertion
import Inquiry.Proofs.Questionnaire.Readers
import Inquiry.Proofs.Json.Agreement
import Inquiry.Proofs.Decision.Agreement
import Inquiry.Proofs.Decision.Operators
import Inquiry.Proofs.Decision.Guards
import Inquiry.Proofs.Validation.Warnings
import Inquiry.Proofs.Session.Deletion
import Inquiry.Proofs.Session.Skipped
import Inquiry.Proofs.Formula
import Inquiry.Proofs.Questionnaire.Ids
import Inquiry.Proofs.Session.Latest
