import Ax.Config.Cycles
import Ax.Workspace.NormalPaths
import Ax.Workspace.BusySessions
import Ax.Workspace.BlockedRestarts
import Ax.Workspace.KeptArtifacts
import Ax.Workspace.SharedServers
import Ax.Workspace.FreshStarts
import Ax.Workspace.SessionNames
import Ax.Daemon.TaskStore.RollupFreshness
import Ax.Daemon.TaskStore.Durability
import Ax.Daemon.SharedWrites
import Ax.Proto.Persisted
import Ax.Daemon.GitStatus
import Ax.Daemon.MemoryLinks
import Ax.Daemon.Team.Changes
import Ax.Daemon.Team.ReportFrame
import Ax.Daemon.Team.Leases
import Ax.Daemon.Redelivery
import Ax.Daemon.Refinement
import Ax.Daemon.Presence
import Ax.Daemon.Responses
import Ax.Daemon.PeerMail
import Ax.Daemon.WakeRetries
import Ax.Mcp.MemoryScope
import Ax.Mcp.TaskProgress
import Ax.Usage.ByModel
