import Enrolment.Connection
import Enrolment.Registration.Wire
import Enrolment.Report
import Enrolment.Store.Wire
import Enrolment.Time.Clock
import Enrolment.Proofs.Course
import Enrolment.Proofs.Decision
import Enrolment.Proofs.Identity
import Enrolment.Proofs.Consistency
import Enrolment.Proofs.History
import Enrolment.Proofs.Verification
import Enrolment.Proofs.Attempts
import Enrolment.Proofs.Guesses
import Enrolment.Proofs.Completion
import Enrolment.Proofs.Credential
import Enrolment.Proofs.Receipt
import Enrolment.Proofs.Independence
import Enrolment.Proofs.Renaming
import Enrolment.Proofs.Batch
import Enrolment.Proofs.Errand
import Enrolment.Proofs.Mirror
import Enrolment.Proofs.Outage
import Enrolment.Proofs.Renewal
import Enrolment.Proofs.Numerals
import Enrolment.Proofs.Calendar
import Enrolment.Proofs.Timestamp
import Enrolment.Proofs.Lexing
import Enrolment.Proofs.Reading
import Enrolment.Proofs.RoundTrip
import Enrolment.Proofs.Chronology
import Enrolment.Proofs.Cooldown
import Enrolment.Proofs.Lifecycle
import Enrolment.Proofs.Soundness
import Enrolment.Proofs.Stamps
import Enrolment.Proofs.Timers
import Enrolment.Proofs.Waiting
import Enrolment.Proofs.Address
import Enrolment.Proofs.Spelling
import Enrolment.Proofs.Causation
import Enrolment.Proofs.Announcement
import Enrolment.Proofs.Layout
import Enrolment.Proofs.Arrangement
import Enrolment.Proofs.Decoding
import Enrolment.Proofs.Settings
import Enrolment.Proofs.Routing
import Enrolment.Proofs.Hashing
import Enrolment.Proofs.Fairness
import Enrolment.Proofs.Servers
