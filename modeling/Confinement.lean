import Confinement.CommandLine
import Confinement.File.Standard
import Confinement.Harness.Verdict
import Confinement.Kernel.CapabilityMode
import Confinement.Kernel.Clone
import Confinement.Kernel.Setting
import Confinement.Main
import Confinement.Rights.Bits
import Confinement.Socket
import Confinement.Text.Utf8.RoundTrip
import Confinement.Proofs.History
import Confinement.Proofs.Rights.Mark
import Confinement.Proofs.Rights.Run
import Confinement.Proofs.Rights.Validity
import Confinement.Proofs.Rights.Containment
import Confinement.Proofs.Rights.Members
import Confinement.Proofs.Rights.Narrowing
import Confinement.Proofs.Rights.Refinement
import Confinement.Proofs.Rights.Naming
import Confinement.Proofs.CommandLine.RoundTrip
import Confinement.Proofs.Kernel.Calls
import Confinement.Proofs.Kernel.Widths
import Confinement.Proofs.Kernel.Texts
import Confinement.Proofs.Process.Variables
import Confinement.Proofs.Rights.Interior
import Confinement.Proofs.Harness.Handover
import Confinement.Proofs.Harness.Arrival
import Confinement.Proofs.Harness.Polling
import Confinement.Proofs.Harness.Soundness
import Confinement.Proofs.Process.LastValue
import Confinement.Proofs.Rights.Batch
import Confinement.Proofs.SharedMemory.Calls
import Confinement.Proofs.SharedMemory.Run
import Confinement.Proofs.SharedMemory.Ownership
import Confinement.Proofs.SharedMemory.Segments
import Confinement.Proofs.SharedMemory.Views
import Confinement.Proofs.SharedMemory.LifeCycle
import Confinement.Proofs.SharedMemory.Coherence
import Confinement.Proofs.Rights.Presence
import Confinement.Proofs.Rights.Inclusion
import Confinement.Proofs.Rights.Needs
import Confinement.Proofs.Rights.Leftover
import Confinement.Proofs.Text.Folding
import Confinement.Proofs.Text.Decimal
import Confinement.Proofs.Text.Padding
import Confinement.Proofs.Rights.Spelling
import Confinement.Proofs.Rights.Numeral
import Confinement.Proofs.Rights.Encoding
import Confinement.Proofs.CommandLine.Decoding
import Confinement.Proofs.Harness.LastRegistration
import Confinement.Proofs.System.Components
import Confinement.Proofs.Harness.Waiting
