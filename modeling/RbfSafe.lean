import RbfSafe.Ledger.Proofs.Calls
import RbfSafe.Transparency.Proofs.Inclusion
import RbfSafe.Lect.Proofs.RoundTrip
import RbfSafe.Core.Proofs.Conformance
import RbfSafe.Memory.Proofs.Reachable
import RbfSafe.Witness.Proofs.OneLog
import RbfSafe.Fleet.Proofs.Coincidence
import RbfSafe.Calibration.Proofs.Regeneration
import RbfSafe.Occupancy.Proofs.Acceptance
import RbfSafe.Coordination.Proofs.Succession
import RbfSafe.Provenance.Proofs.RoundTrip
import RbfSafe.Atlas.Proofs.Graph
import RbfSafe.Scene.Proofs.Delta
import RbfSafe.Atlas.Proofs.RegionIndex
import RbfSafe.Atlas.Proofs.Builder
import RbfSafe.Execution.Proofs.Windows
import RbfSafe.Core.Proofs.Orientation
import RbfSafe.Core.Proofs.Digests
import RbfSafe.Corridor.Proofs.Growth
import RbfSafe.HigherOrder.Proofs.Zonotope
import RbfSafe.Shield.Proofs.Feedback
import RbfSafe.Shield.Proofs.Monitor
