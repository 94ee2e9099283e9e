import AnsibleTooling.Main
import AnsibleTooling.Rehearsal
import AnsibleTooling.Proofs.Consent
import AnsibleTooling.Proofs.DecisionOrder
import AnsibleTooling.Proofs.Lifecycle
import AnsibleTooling.Proofs.ReportConsistency
import AnsibleTooling.Proofs.Talking
import AnsibleTooling.Proofs.Decoding
import AnsibleTooling.Proofs.Conversation
import AnsibleTooling.Proofs.Directories
import AnsibleTooling.Proofs.Exchange
import AnsibleTooling.Proofs.Idempotence
import AnsibleTooling.Proofs.Reinstallation
import AnsibleTooling.Proofs.Serving
import AnsibleTooling.Proofs.Outcomes
import AnsibleTooling.Proofs.OnDemand
import AnsibleTooling.Proofs.Renewal
import AnsibleTooling.Proofs.Asking
import AnsibleTooling.Proofs.Gating
import AnsibleTooling.Proofs.Answers
import AnsibleTooling.Proofs.Indifference
import AnsibleTooling.Proofs.Replies
import AnsibleTooling.Proofs.FirstInstallation
import AnsibleTooling.Proofs.Teardown
import AnsibleTooling.Proofs.Attendance
import AnsibleTooling.Proofs.FailedInstallation
import AnsibleTooling.Proofs.EnvironmentMaking
import AnsibleTooling.Proofs.Consultation
import AnsibleTooling.Proofs.Footprint
import AnsibleTooling.Proofs.Ticking
import AnsibleTooling.Proofs.Undermining
import AnsibleTooling.Proofs.Linting
import AnsibleTooling.Proofs.Requirements
import AnsibleTooling.Proofs.DocumentUris
import AnsibleTooling.Proofs.Listing
import AnsibleTooling.Proofs.ServerSearch
import AnsibleTooling.Proofs.HandedInterpreter
import AnsibleTooling.Proofs.ExitStatus
import AnsibleTooling.Proofs.Documentation
import AnsibleTooling.Proofs.Framing

