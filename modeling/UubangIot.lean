import UubangIot.Lib.ByteMemory
import UubangIot.Lib.CheckedArray
import UubangIot.Lib.DoublyLinked
import UubangIot.Lib.EulerLiars
import UubangIot.Lib.JacobiSymbol
import UubangIot.Lib.LinkedCells
import UubangIot.Lib.MachineInt
import UubangIot.Lib.ModularPower
import UubangIot.Lib.Program
import UubangIot.Lib.QuotedText
import UubangIot.Lib.RingBuffer
import UubangIot.Lib.Semantics
import UubangIot.Lib.Transition
import UubangIot.Server.ConnectionLists
import UubangIot.Server.CreateDailyMsgdb
import UubangIot.Server.Database
import UubangIot.Server.Directory
import UubangIot.Server.FieldWrites
import UubangIot.Server.IotTalk
import UubangIot.Server.LibThreadPool
import UubangIot.Server.MemoryPool
import UubangIot.Server.Ops
import UubangIot.Server.Records
import UubangIot.Server.Registry
import UubangIot.Server.RsaUtils
import UubangIot.Server.Session
import UubangIot.Server.SqlPool
import UubangIot.Server.SqlText
import UubangIot.Server.StoredCommands
import UubangIot.Server.StrSplit
import UubangIot.Server.Talk
import UubangIot.Server.Text
import UubangIot.Server.TopServer
import UubangIot.Server.TopServerLink
import UubangIot.Server.UndefinedAccess
import UubangIot.Server.UserNodes
import UubangIot.Server.Worker
import UubangIot.Verif.Authorship
import UubangIot.Verif.BinaryText
import UubangIot.Verif.BoundedReclamation
import UubangIot.Verif.Chronicle
import UubangIot.Verif.ChunkSizes
import UubangIot.Verif.ClientExchange
import UubangIot.Verif.CommandDelivery
import UubangIot.Verif.ConnectionLifeCycle
import UubangIot.Verif.ConnectionScan
import UubangIot.Verif.DailyMessageTables
import UubangIot.Verif.DeviceOperations
import UubangIot.Verif.EncryptedPayloads
import UubangIot.Verif.FailedLookups
import UubangIot.Verif.FieldBounds
import UubangIot.Verif.FieldSplitting
import UubangIot.Verif.FrameRouting
import UubangIot.Verif.FreshRequests
import UubangIot.Verif.Friendship
import UubangIot.Verif.HalfwaySignIns
import UubangIot.Verif.Handlers
import UubangIot.Verif.Handshakes
import UubangIot.Verif.IdleReclamation
import UubangIot.Verif.Isolation
import UubangIot.Verif.KeyAgreement
import UubangIot.Verif.KeyChanges
import UubangIot.Verif.KeyInvariant
import UubangIot.Verif.KeyModes
import UubangIot.Verif.LeaseBalance
import UubangIot.Verif.LiveHandles
import UubangIot.Verif.Lookups
import UubangIot.Verif.MutexProgress
import UubangIot.Verif.NodeRemoval
import UubangIot.Verif.NodeSearches
import UubangIot.Verif.OneSession
import UubangIot.Verif.OnlineLists
import UubangIot.Verif.OpcodeDispatch
import UubangIot.Verif.PasswordChange
import UubangIot.Verif.PasswordCustody
import UubangIot.Verif.PoolBlocks
import UubangIot.Verif.PoolCalls
import UubangIot.Verif.PoolChunks
import UubangIot.Verif.PoolCoalescing
import UubangIot.Verif.PoolContents
import UubangIot.Verif.PoolDestruction
import UubangIot.Verif.PoolEvents
import UubangIot.Verif.PoolExtension
import UubangIot.Verif.PoolLimit
import UubangIot.Verif.PoolMerge
import UubangIot.Verif.PoolMoves
import UubangIot.Verif.PoolRefinement
import UubangIot.Verif.PoolRequests
import UubangIot.Verif.PoolRuns
import UubangIot.Verif.PoolSize
import UubangIot.Verif.PoolTiling
import UubangIot.Verif.PrimalityError
import UubangIot.Verif.RecordInvariants
import UubangIot.Verif.RegisteredLists
import UubangIot.Verif.RegisteredNames
import UubangIot.Verif.RegistrationPins
import UubangIot.Verif.RegistryLock
import UubangIot.Verif.RegistryMirror
import UubangIot.Verif.RelayedCommands
import UubangIot.Verif.RequestParts
import UubangIot.Verif.Roles
import UubangIot.Verif.RsaCodec
import UubangIot.Verif.RsaKeys
import UubangIot.Verif.RsaPower
import UubangIot.Verif.RsaPrimes
import UubangIot.Verif.RsaTotality
import UubangIot.Verif.SceneReplies
import UubangIot.Verif.SceneRequests
import UubangIot.Verif.Searches
import UubangIot.Verif.SequenceNumbers
import UubangIot.Verif.ServerLeases
import UubangIot.Verif.SessionEffect
import UubangIot.Verif.SessionRounds
import UubangIot.Verif.SharedMemory
import UubangIot.Verif.SignInFlags
import UubangIot.Verif.SignInGrounds
import UubangIot.Verif.SignInTrail
import UubangIot.Verif.SocketCloses
import UubangIot.Verif.SocketOwners
import UubangIot.Verif.SqlBuffers
import UubangIot.Verif.SqlLeases
import UubangIot.Verif.SqlQuoting
import UubangIot.Verif.StampedFrames
import UubangIot.Verif.StatusUpdates
import UubangIot.Verif.StrandedTasks
import UubangIot.Verif.TaskAccounting
import UubangIot.Verif.TaskQueue
import UubangIot.Verif.TextFacts
import UubangIot.Verif.ThreadSteps
import UubangIot.Verif.TopServerPackets
import UubangIot.Verif.TopServerReceivers
import UubangIot.Verif.UserOperations
import UubangIot.Verif.Warrants
import UubangIot.Verif.WorkerCount
import UubangIot.Verif.WriterCalls
