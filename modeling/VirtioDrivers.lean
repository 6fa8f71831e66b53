import VirtioDrivers.Lib.Walk
import VirtioDrivers.Lib.ExceptBind
import VirtioDrivers.Lib.Partition
import VirtioDrivers.Lib.IndexRing
import VirtioDrivers.Lib.Memory
import VirtioDrivers.Lib.CircularBuffer
import VirtioDrivers.Lib.Fair
import VirtioDrivers.Queue.Types
import VirtioDrivers.Queue.Ops
import VirtioDrivers.Queue.Spec
import VirtioDrivers.Queue.Recycle
import VirtioDrivers.Queue.Invariant
import VirtioDrivers.Queue.Run
import VirtioDrivers.Queue.Encoding
import VirtioDrivers.Queue.RoundTrip
import VirtioDrivers.Queue.DeviceView
import VirtioDrivers.Transport.Basic
import VirtioDrivers.Queue.Device
import VirtioDrivers.Queue.Notify
import VirtioDrivers.Queue.Capacity
import VirtioDrivers.Queue.Tokens
import VirtioDrivers.Queue.New
import VirtioDrivers.Queue.Progress
import VirtioDrivers.Queue.Owning
import VirtioDrivers.Queue.OwningRun
import VirtioDrivers.Queue.WaitPop
import VirtioDrivers.Device.Console
import VirtioDrivers.Device.ConsoleRun
import VirtioDrivers.Device.Input
import VirtioDrivers.Lib.LittleEndian
import VirtioDrivers.Device.Socket.Protocol
import VirtioDrivers.Lib.Overflow
import VirtioDrivers.Device.Socket.Vsock
import VirtioDrivers.Device.Socket.RingBuffer
import VirtioDrivers.Device.Socket.Fifo
import VirtioDrivers.Device.Socket.ConnectionManager
import VirtioDrivers.Device.Socket.Credit
import VirtioDrivers.Device.Socket.Receive
import VirtioDrivers.Device.Socket.ManagerRun
import VirtioDrivers.Device.Net.Raw
import VirtioDrivers.Device.Net.Dev
import VirtioDrivers.Device.Net.Run
import VirtioDrivers.Device.Net.Bookkeeping
import VirtioDrivers.Device.Sound
import VirtioDrivers.Device.SoundLoop
import VirtioDrivers.Device.SoundPlay
import VirtioDrivers.Device.SoundSetUp
import VirtioDrivers.Device.Net.Faults
import VirtioDrivers.Device.Socket.BufferSizes
import VirtioDrivers.Transport.Pci.Bus
import VirtioDrivers.Transport.Pci.Transport
import VirtioDrivers.Transport.Pci.Bars
import VirtioDrivers.Transport.Pci.Probe
import VirtioDrivers.Transport.Pci.Regions
import VirtioDrivers.Transport.Pci.Capabilities
import VirtioDrivers.Lib.FilterMapIter
import VirtioDrivers.Transport.Pci.Enumerate
import VirtioDrivers.Device.Gpu
import VirtioDrivers.Device.GpuFramebuffer
import VirtioDrivers.Device.Blk
import VirtioDrivers.Device.BlkNb
import VirtioDrivers.Lib.Halves
import VirtioDrivers.Lib.StepRun
import VirtioDrivers.Transport.State
import VirtioDrivers.Transport.Mmio
import VirtioDrivers.Transport.MmioRegisters
import VirtioDrivers.Transport.MmioRun
import VirtioDrivers.Transport.MmioConfig
import VirtioDrivers.Transport.MmioRefines
import VirtioDrivers.Transport.Pci.Calls
import VirtioDrivers.Transport.Pci.Registers
import VirtioDrivers.Transport.Pci.Refines
import VirtioDrivers.Transport.Pci.Hyp
import VirtioDrivers.Transport.Pci.HypDevice
import VirtioDrivers.Device.InputConfig
import VirtioDrivers.Transport.Pci.Cam
import VirtioDrivers.Transport.Pci.HypCam
import VirtioDrivers.Device.SoundNb
