import NominalCheck.Interface
import NominalCheck.Number.Complex
import NominalCheck.Proofs.Accounting
import NominalCheck.Proofs.Agreement
import NominalCheck.Proofs.Checking
import NominalCheck.Session
import NominalCheck.Proofs.Isolation
import NominalCheck.Proofs.Atomicity
import NominalCheck.Proofs.Configuration
import NominalCheck.Proofs.Doors
import NominalCheck.Proofs.MismatchText
import NominalCheck.Proofs.Silence
import NominalCheck.Proofs.Nesting
import NominalCheck.Proofs.DescriptorReading
import NominalCheck.Proofs.Nominality
import NominalCheck.Proofs.MatcherTrace
import NominalCheck.Proofs.JsonTrace
import NominalCheck.Proofs.EntryRoundTrip
import NominalCheck.Proofs.SettingsResolution
