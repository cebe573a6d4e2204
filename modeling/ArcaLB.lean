import ArcaLB.Routing.Drain
import ArcaLB.Routing.Termination
import ArcaLB.Routing.Tracking
import ArcaLB.Manager.LatestObject
import ArcaLB.DataPlane.Encapsulation
import ArcaLB.DataPlane.Reapply
import ArcaLB.Rollout.Deadlock
import ArcaLB.Rollout.Exclusion
import ArcaLB.Rollout.LocalLocks
import ArcaLB.Agent.Deletion
import ArcaLB.Agent.Drains
import ArcaLB.Agent.Journal
import ArcaLB.Agent.Serving
import ArcaLB.Agent.Startup
import ArcaLB.Status.Bitmaps
import ArcaLB.Status.Observations
import ArcaLB.Status.Symmetry
import ArcaLB.Watcher.Handed
import ArcaLB.Datastore.BackendIPs
import ArcaLB.Datastore.Families
import ArcaLB.Datastore.Handles
import ArcaLB.Datastore.Snapshots
import ArcaLB.HealthCheck.Deletion
import ArcaLB.HealthCheck.Returns
import ArcaLB.Octavia.PoolMoves
import ArcaLB.Octavia.Statuses
