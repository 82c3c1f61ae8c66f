import Mempal.Aaak.RoundTrip
import Mempal.Admission.Limits
import Mempal.ClaimShutdown.Custody
import Mempal.Clusters.Components
import Mempal.Cowork.ExactlyOnce
import Mempal.Cowork.Handoff
import Mempal.Cowork.Isolation
import Mempal.Cowork.RegistryUpdates
import Mempal.Drawers.DrawerIds
import Mempal.Drawers.HardDelete
import Mempal.Drawers.Novelty
import Mempal.Drawers.Rollback
import Mempal.Drawers.Survivors
import Mempal.Facts
import Mempal.Ingest.ChatExport
import Mempal.Ingest.ChunkLimit
import Mempal.Leases
import Mempal.Queue.ClaimProbe
import Mempal.Queue.Heartbeat
import Mempal.Queue.LostLease
import Mempal.Queue.Ownership
import Mempal.Queue.Receipts
import Mempal.Queue.Requeue
import Mempal.Reports.Budget
import Mempal.Schema.CrashSafe
import Mempal.Search.Isolation
import Mempal.Search.Rerank
import Mempal.Search.Tunnels
import Mempal.Settings.ValidSnapshots
import Mempal.Spool.Durability
import Mempal.WriteReserve.Discipline
import Mempal.WriterLease.DaemonStart
import Mempal.WriterLease.Preserving
import Mempal.Xurl.CwdFilter
import Mempal.Xurl.Reconcile
import Mempal.Xurl.TagBlocks
