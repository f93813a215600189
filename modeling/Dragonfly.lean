import Dragonfly.Base.Forest
import Dragonfly.Base.GoText
import Dragonfly.Base.SortedWindow
import Dragonfly.Base.Interleave
import Dragonfly.Base.NotifyList
import Dragonfly.Scheduler.PeerTree
import Dragonfly.Scheduler.Scheduling
import Dragonfly.Scheduler.TreeRuns
import Dragonfly.Scheduler.Resource
import Dragonfly.Scheduler.Service
import Dragonfly.Scheduler.Registration
import Dragonfly.Scheduler.Schedule
import Dragonfly.Util.Range
import Dragonfly.Pkg.Digest
import Dragonfly.Rpc.Base
import Dragonfly.Daemon.Storage
import Dragonfly.Daemon.Conductor
import Dragonfly.Daemon.BackSource
import Dragonfly.Daemon.KnownLength
import Dragonfly.Cdn.Storage
import Dragonfly.Cdn.Resume
import Dragonfly.Cdn.PieceTasks
import Dragonfly.Cdn.Trigger
import Dragonfly.Cdn.Progress
import Dragonfly.Dfget.Download
import Dragonfly.Contract.ExpectedDigest
import Dragonfly.Scheduler.ServiceRuns
import Dragonfly.Pkg.Idgen
import Dragonfly.Daemon.Transport
import Dragonfly.Cdn.TaskManager
import Dragonfly.Base.OrderedMap
import Dragonfly.Cdn.StorageGC
import Dragonfly.Daemon.PiecePoller
import Dragonfly.Rpc.Failover
import Dragonfly.Base.RWLock
import Dragonfly.Pkg.Synclock
import Dragonfly.Dfget.Recursive
import Dragonfly.Base.FloatFormat
import Dragonfly.Pkg.Unit
import Dragonfly.Base.ByteBits
import Dragonfly.Daemon.ReadyPieces
import Dragonfly.Base.WordArith
import Dragonfly.Pkg.RateLimiter
import Dragonfly.Pkg.Cache
import Dragonfly.Internal.Dynconfig
import Dragonfly.Daemon.Stream
import Dragonfly.Daemon.PieceLayout
import Dragonfly.Scheduler.Affinity
import Dragonfly.Pkg.SortedList
import Dragonfly.Base.GoMap
import Dragonfly.Cdn.Clone
import Dragonfly.Manager.Searcher
import Dragonfly.Base.GoChan
import Dragonfly.Daemon.PieceBroker
import Dragonfly.Daemon.PullPieces
import Dragonfly.Scheduler.PieceResults
import Dragonfly.Scheduler.ScheduleRace
import Dragonfly.Base.Stats
import Dragonfly.Scheduler.Evaluator
import Dragonfly.Daemon.StorageManager
