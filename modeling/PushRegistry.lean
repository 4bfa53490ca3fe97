import PushRegistry.Configuration
import PushRegistry.LogLevel
import PushRegistry.Migration.Database
import PushRegistry.Migration.Script
import PushRegistry.Web.Server
import PushRegistry.Proofs.Store.Calls
import PushRegistry.Proofs.Enrolment.Choice
import PushRegistry.Proofs.Enrolment.Enrolled
import PushRegistry.Proofs.Enrolment.OneRow
import PushRegistry.Proofs.Enrolment.Attempts
import PushRegistry.Proofs.Enrolment.Upkeep
import PushRegistry.Proofs.Requests
import PushRegistry.Proofs.Orders
import PushRegistry.Proofs.Runs
import PushRegistry.Proofs.TokenSharing
import PushRegistry.Proofs.Enrolment.BatchRun
import PushRegistry.Proofs.Enrolment.Stranding
import PushRegistry.Proofs.Enrolment.BatchForm
import PushRegistry.Proofs.Enrolment.Turns
import PushRegistry.Proofs.Enrolment.Independence
import PushRegistry.Proofs.Enrolment.Unregistered
import PushRegistry.Proofs.Enrolment.Convergence
import PushRegistry.Proofs.Enrolment.Questions
import PushRegistry.Proofs.Enrolment.Accounting
import PushRegistry.Proofs.Enrolment.Agreement
import PushRegistry.Proofs.Enrolment.Withdrawal
import PushRegistry.Proofs.Provenance
import PushRegistry.Proofs.Store.Silence
import PushRegistry.Proofs.Enrolment.Atomicity
import PushRegistry.Proofs.Enrolment.Idempotence
import PushRegistry.Proofs.Enrolment.Race
import PushRegistry.Proofs.Enrolment.Bystanders
import PushRegistry.Proofs.Enrolment.Refreshed
import PushRegistry.Proofs.Enrolment.SingleRun
import PushRegistry.Proofs.Service.Contract
import PushRegistry.Proofs.Web.Refusals
import PushRegistry.Proofs.PlatformNames
import PushRegistry.Proofs.ActivationLists
import PushRegistry.Proofs.Service.StateNames
import PushRegistry.Proofs.Store.Saving
import PushRegistry.Proofs.Web.Spellings
