import RecordFilter.Expression.Document
import RecordFilter.Scan
import RecordFilter.Proofs.Formula
import RecordFilter.Proofs.Acceptance
import RecordFilter.Proofs.Scans
import RecordFilter.Proofs.Safety
import RecordFilter.Proofs.Calls
import RecordFilter.Proofs.Locality
import RecordFilter.Proofs.Fusion
import RecordFilter.Proofs.KeyOrder
import RecordFilter.Proofs.Encoding
import RecordFilter.Proofs.Reordering
import RecordFilter.Proofs.Canonical
import RecordFilter.Proofs.DepthLimits
import RecordFilter.Proofs.Violations
import RecordFilter.Proofs.LiteralDepths
import RecordFilter.Proofs.Respelling
import RecordFilter.Proofs.EvaluationDepth
import RecordFilter.Proofs.InForce
import RecordFilter.Proofs.SingleOperators
import RecordFilter.Proofs.Negation
import RecordFilter.Proofs.Alternatives
import RecordFilter.Proofs.ExactValues
import RecordFilter.Proofs.StrictEquality
import RecordFilter.Proofs.SingleConditions
import RecordFilter.Proofs.IgnoringCase
import RecordFilter.Proofs.Polarity
import RecordFilter.Proofs.Complements
import RecordFilter.Proofs.Equalities
import RecordFilter.Proofs.Inclusions
import RecordFilter.Proofs.BuilderCalls
import RecordFilter.Proofs.Chronology
import RecordFilter.Proofs.Logs
