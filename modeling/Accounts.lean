import Accounts.Database.ScriptFormat
import Accounts.Directory.Stored
import Accounts.Main
import Accounts.Operation.Enrolment
import Accounts.Operation.Login
import Accounts.Operation.Memory
import Accounts.Operation.Passwords
import Accounts.Operation.Registration
import Accounts.Outbox.Scripted
import Accounts.Outbox.Timeline
import Accounts.Server.Scripted
import Accounts.Settings.Json
import Accounts.Text.Alias
import Accounts.Proofs.Outbox.Delivery
import Accounts.Proofs.Outbox.LifeCycle
import Accounts.Proofs.Service.Alone
import Accounts.Proofs.Service.Announcements
import Accounts.Proofs.Service.Provenance
import Accounts.Proofs.Service.Race
import Accounts.Proofs.Service.Redemption
import Accounts.Proofs.Service.SecondFactor
import Accounts.Proofs.Service.Confirmation
import Accounts.Proofs.Otp.RecoveryCode
import Accounts.Proofs.Service.Passwords
import Accounts.Proofs.Service.Records
import Accounts.Proofs.Unicode.Composition
import Accounts.Proofs.Domain.Ascii
import Accounts.Proofs.Email.Address
import Accounts.Proofs.Password.Verify
import Accounts.Proofs.Service.LastPassword
import Accounts.Proofs.Outbox.Deeds
import Accounts.Proofs.Outbox.Fleet
import Accounts.Proofs.Outbox.Stopping
import Accounts.Proofs.Outbox.Pace
import Accounts.Proofs.Outbox.Shutdown
import Accounts.Proofs.Service.Mediation
import Accounts.Proofs.Service.Enumeration
import Accounts.Proofs.Directory.Outward
import Accounts.Proofs.Service.Secrecy
import Accounts.Proofs.Database.Commit
import Accounts.Proofs.Database.Transaction
import Accounts.Proofs.Service.Isolation
import Accounts.Proofs.Settings.Acceptance
import Accounts.Proofs.Account.Wire
import Accounts.Proofs.Token.Signed
import Accounts.Proofs.Otp.Window
import Accounts.Proofs.Otp.Checked
import Accounts.Proofs.Otp.Draws
import Accounts.Proofs.Otp.Setup
import Accounts.Proofs.Service.Attempts
import Accounts.Proofs.Directory.Agreement
import Accounts.Proofs.Outbox.Drained
import Accounts.Proofs.Outbox.Abandoned
import Accounts.Proofs.Token.Lifetime
import Accounts.Proofs.Outbox.Figures
import Accounts.Proofs.Tool.Purge
import Accounts.Proofs.Settings.Brokers
