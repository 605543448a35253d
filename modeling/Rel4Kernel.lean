import Rel4Kernel.Lib.HeapList
import Rel4Kernel.Lib.MemoryModel
import Rel4Kernel.Lib.Align
import Rel4Kernel.Lib.BackPointer
import Rel4Kernel.Lib.Ring
import Rel4Kernel.Lib.BitString
import Rel4Kernel.Object.Structures
import Rel4Kernel.Object.SchedContext
import Rel4Kernel.Object.BitfieldTypes
import Rel4Kernel.Task.TcbQueue
import Rel4Kernel.Task.Scheduler
import Rel4Kernel.Task.PrioritySet
import Rel4Kernel.Task.ReadyQueue
import Rel4Kernel.Task.ReleaseQueue
import Rel4Kernel.Task.McsScheduler
import Rel4Kernel.Task.CallStack
import Rel4Kernel.Task.Schedule
import Rel4Kernel.Task.SchedInvariant
import Rel4Kernel.Task.Refill
import Rel4Kernel.Task.RefillInvariant
import Rel4Kernel.Task.RefillRun
import Rel4Kernel.Kernel.Fastpath
import Rel4Kernel.Kernel.SmpLock
import Rel4Kernel.Kernel.Interrupt
import Rel4Kernel.CSpace.Capability
import Rel4Kernel.CSpace.Mdb
import Rel4Kernel.CSpace.MdbInvariant
import Rel4Kernel.CSpace.Lookup
import Rel4Kernel.IPC.Operations
import Rel4Kernel.IPC.QueueInvariant
import Rel4Kernel.IPC.IpcInvariant
import Rel4Kernel.IPC.McsOperations
import Rel4Kernel.IPC.McsQueueOrder
import Rel4Kernel.VSpace.InvokeMmu
import Rel4Kernel.VSpace.Riscv64
import Rel4Kernel.VSpace.Aarch64
import Rel4Kernel.Syscall.DecodeMmu
import Rel4Kernel.Syscall.Untyped
import Rel4Kernel.Syscall.InvokeTcb
import Rel4Kernel.Syscall.TimeSlice
import Rel4Kernel.Boot.Untyped
import Rel4Kernel.Boot.Memory
import Rel4Kernel.Lib.PointerChain
import Rel4Kernel.CSpace.MdbPreserve
import Rel4Kernel.IPC.Slots
import Rel4Kernel.Syscall.InvokeCNode
import Rel4Kernel.CSpace.Delete
import Rel4Kernel.Syscall.DecodeCNode
import Rel4Kernel.IPC.Transfer
import Rel4Kernel.IPC.Endpoint
import Rel4Kernel.Kernel.CSpaceRun
