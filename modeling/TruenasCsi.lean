import TruenasCsi.Fencing.Exclusive
import TruenasCsi.Podmon.Soundness
import TruenasCsi.PodFencing.Order
import TruenasCsi.Luns.Unique
import TruenasCsi.Subsystems.Admission
import TruenasCsi.Replicas.Races
import TruenasCsi.Exports.Refinement
import TruenasCsi.Estate.Listing
import TruenasCsi.Snapshots.Reuse
import TruenasCsi.Targets.Protection
import TruenasCsi.Replication.Names
import TruenasCsi.Replication.Coverage
import TruenasCsi.Replication.Cleanup
import TruenasCsi.Replication.Teardown
import TruenasCsi.Replication.Finality
import TruenasCsi.Migration.History
import TruenasCsi.Truenas.Breaker
import TruenasCsi.Podmon.Activity
import TruenasCsi.Operator.Reconcile
import TruenasCsi.Provisioning.Attributes
import TruenasCsi.Exports.Removal
import TruenasCsi.Node.Stale
import TruenasCsi.Provisioning.Advertised
import TruenasCsi.Obs.Redact
import TruenasCsi.Truenas.Types
import TruenasCsi.Node.IOLimit
import TruenasCsi.Csi.Frames
import TruenasCsi.Retention.Stamps
import TruenasCsi.Volume.Codec
