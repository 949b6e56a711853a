import ApmSdk.Usart.Setup
import ApmSdk.Usart.Bounds
import ApmSdk.Usart.Receive
import ApmSdk.Usart.Transmit
import ApmSdk.Lib.Chunks
import ApmSdk.Usbd.Control
import ApmSdk.Usbd.ControlIn
import ApmSdk.Usbd.OutBounds
import ApmSdk.Msc.Bot
import ApmSdk.Msc.Commands
import ApmSdk.Msc.Geometry
import ApmSdk.Msc.Reached
import ApmSdk.Msc.Liveness
import ApmSdk.Usbd.EndpointRegister
import ApmSdk.Usbd.Transfer
import ApmSdk.Usbd.Answered
import ApmSdk.Usbd.Address
import ApmSdk.Lib.FlagRegister
import ApmSdk.Otg.IntFlags
import ApmSdk.Otg.DeviceState
import ApmSdk.Otg.InTransfer
import ApmSdk.Lib.Frames
import ApmSdk.Otg.RxFifo
import ApmSdk.Otg.Control
import ApmSdk.Lib.Padding
import ApmSdk.Lib.Polling
import ApmSdk.Usbd.DataStage
import ApmSdk.Otg.DataStage
import ApmSdk.Msc.WriteData
import ApmSdk.Msc.Addressing
import ApmSdk.Msc.Blocks
import ApmSdk.Msc.Recovery
import ApmSdk.Msc.Csw
import ApmSdk.Usbh.CtrlXfer
import ApmSdk.Usbh.Enum
import ApmSdk.Usbh.Port
import ApmSdk.Usbh.Channel
import ApmSdk.Usbh.Outcome
import ApmSdk.Usbh.Toggle
import ApmSdk.Usbh.OutFifo
import ApmSdk.Lib.Slots
import ApmSdk.Usbh.Descriptors
import ApmSdk.Usbh.ClassInit
import ApmSdk.Usbh.Survival
import ApmSdk.Lib.Traces
import ApmSdk.Usbh.Class
import ApmSdk.Usbh.Host
import ApmSdk.Usbh.Detach
import ApmSdk.Usbh.Remnants
import ApmSdk.Usbh.Replug
import ApmSdk.Usbh.Receiver
import ApmSdk.Usbh.RxBounds
import ApmSdk.Usbh.Passes
import ApmSdk.Lib.Fields
import ApmSdk.StdPeriph.Dma
import ApmSdk.StdPeriph.Gpio
import ApmSdk.StdPeriph.Clock
import ApmSdk.StdPeriph.ClockTree
import ApmSdk.StdPeriph.BaudRate
import ApmSdk.Msc.SenseRing
import ApmSdk.Msc.Capacity
import ApmSdk.Usbd.OutStage
import ApmSdk.Otg.Features
import ApmSdk.Lib.OwnedRing
import ApmSdk.Eth.Descriptor
import ApmSdk.Eth.Transmit
import ApmSdk.Eth.Receive
import ApmSdk.Lib.Orbit
import ApmSdk.Usbh.ParseCfgDesc
import ApmSdk.Usbh.CfgTable
import ApmSdk.Usbh.StringDesc
import ApmSdk.Usbh.ChannelTable
import ApmSdk.Usbh.CdcSend
import ApmSdk.Usbh.MscStart
import ApmSdk.Usbh.Session
import ApmSdk.Usbh.Agreement
import ApmSdk.Usbh.Completion
import ApmSdk.StdPeriph.Fmc
import ApmSdk.StdPeriph.Can
import ApmSdk.StdPeriph.CanFlags
import ApmSdk.StdPeriph.CanMode
import ApmSdk.Lib.FlatMemory
import ApmSdk.Otg.FifoPacket
import ApmSdk.Usbd.PacketMemory
import ApmSdk.StdPeriph.I2c
import ApmSdk.StdPeriph.Nvic
import ApmSdk.Lib.RegisterFile
import ApmSdk.Eth.MacAddress
import ApmSdk.StdPeriph.Adc
import ApmSdk.StdPeriph.Tmr
import ApmSdk.Lib.Interleaved
import ApmSdk.StdPeriph.Rtc
import ApmSdk.StdPeriph.SystemClock
import ApmSdk.Lib.Replay
import ApmSdk.Msc.Disk
import ApmSdk.Usart.Echo
import ApmSdk.Lib.Broadcast
import ApmSdk.StdPeriph.CanFilter
import ApmSdk.StdPeriph.CanNetwork
