import RcpLib.Semantics.Transition
import RcpLib.Semantics.Program
import RcpLib.Semantics.Pool
import RcpLib.Semantics.Assoc
import RcpLib.Semantics.Sorting
import RcpLib.Semantics.Numeral
import RcpLib.Semantics.CString
import RcpLib.Threads.Os
import RcpLib.Threads.ThreadWin
import RcpLib.Threads.ThreadMac
import RcpLib.Threads.Thread
import RcpLib.Threads.System
import RcpLib.Threads.Discipline
import RcpLib.Threads.Ledger
import RcpLib.Threads.Ownership
import RcpLib.Threads.HandleLife
import RcpLib.Threads.Interference
import RcpLib.Threads.JoinBarrier
import RcpLib.Threads.PromiseWin
import RcpLib.Threads.PromiseRun
import RcpLib.Threads.PromiseException
import RcpLib.Threads.PromiseValue
import RcpLib.Threads.PromiseStd
import RcpLib.Threads.PromiseAgreement
import RcpLib.Threads.StartHandshake
import RcpLib.Threads.StartRuns
import RcpLib.Threads.StartOwnership
import RcpLib.Threads.Capture
import RcpLib.Utils.Environ
import RcpLib.Utils.SysEnv
import RcpLib.Utils.EnvMap
import RcpLib.Utils.EnvRefinement
import RcpLib.Utils.EnvScopes
import RcpLib.Utils.SysEnvWin
import RcpLib.Utils.EnvReads
import RcpLib.Utils.Dump
import RcpLib.Utils.EnvBlock
import RcpLib.Utils.EnvCells
import RcpLib.Utils.EnvGuards
import RcpLib.Utils.NumTraits
import RcpLib.Utils.NumericValues
import RcpLib.Utils.NumericRoundTrip
import RcpLib.Platform.CodePage
import RcpLib.Platform.PlatformWin
import RcpLib.Platform.BufferPaths
import RcpLib.Platform.ViewLocality
import RcpLib.Platform.Utf8Win
import RcpLib.Platform.Utf8Mac
import RcpLib.Utils.WideWrites
import RcpLib.Semantics.GhostRun
import RcpLib.Semantics.RecursiveLock
import RcpLib.Semantics.Tally
import RcpLib.Semantics.Layout
import RcpLib.Win.Sync
import RcpLib.Win.SyncExclusion
import RcpLib.Win.SyncRuns
import RcpLib.Win.SyncUpdates
import RcpLib.Threads.PromiseMany
import RcpLib.Platform.ScopedTypeRef
import RcpLib.Platform.Utf8Scoped
import RcpLib.Data.Buffers
import RcpLib.Data.BufferLife
import RcpLib.Data.BufferMemory
import RcpLib.Data.BufferRuns
import RcpLib.Threads.PosixHandles
import RcpLib.Utils.EnvBackend
import RcpLib.Utils.EnvHistories
import RcpLib.Utils.EnvPosix
import RcpLib.Utils.EnvUnicode
import RcpLib.Utils.EnvWin
import RcpLib.Utils.EnvWinCells
import RcpLib.Utils.EnvPortable
import RcpLib.Semantics.Unicode
import RcpLib.Platform.Utf8RoundTrip
import RcpLib.Utils.EnvNumbers
