import ControlPlane.Acceptance.Repeats
import ControlPlane.Backlog.Bound
import ControlPlane.Backlog.Standing
import ControlPlane.Cloud.Archive
import ControlPlane.Cloud.Arming
import ControlPlane.Cloud.Authority
import ControlPlane.Cloud.Bootstrap
import ControlPlane.Cloud.Clearance
import ControlPlane.Cloud.Deletion
import ControlPlane.Cloud.Deployment
import ControlPlane.Cloud.Dumps
import ControlPlane.Cloud.Finalize
import ControlPlane.Cloud.Isolation
import ControlPlane.Cloud.Redaction
import ControlPlane.Cloud.Refinement
import ControlPlane.Cloud.Registry
import ControlPlane.Cloud.Resume
import ControlPlane.Cloud.Retained
import ControlPlane.Cloud.Teardown
import ControlPlane.Dispatch.Admission
import ControlPlane.Dispatch.Authorization
import ControlPlane.Dispatch.Budget
import ControlPlane.Dispatch.Drain
import ControlPlane.Dispatch.Requeue
import ControlPlane.Dispatch.Settling
import ControlPlane.Dispatch.Uncertain
import ControlPlane.Governance.Accountability
import ControlPlane.Governance.Audit
import ControlPlane.Governance.Cursor
import ControlPlane.Governance.Delivery
import ControlPlane.Governance.Identity
import ControlPlane.Governance.Provenance
import ControlPlane.Governance.Redelivery
import ControlPlane.Governance.Submission
import ControlPlane.Locking.Closure
import ControlPlane.Locking.Order
import ControlPlane.Permits.Contention
import ControlPlane.Permits.Overlap
import ControlPlane.Permits.Schedule
import ControlPlane.Permits.Window
import ControlPlane.Recovery.Freshness
import ControlPlane.Recovery.Lanes
import ControlPlane.Recovery.Refusal
import ControlPlane.Recovery.Restore
