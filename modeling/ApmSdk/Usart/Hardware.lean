import Mathlib.Data.List.Basic
import Mathlib.Logic.Function.Basic

set_option autoImplicit false

/-!
# The peripherals of the USART idle-line example

USART1 and channels 4 and 5 of DMA1, with the driver functions that the example
calls written as the register writes they perform.
-/

namespace ApmSdk.Usart

abbrev Byte := UInt8

def maxLen : Nat := 256

inductive Channel where
  | ch4
  | ch5
  deriving DecidableEq, Repr

inductive MemoryAddr where
  | null
  | uartTxBuf
  | uartRxBuf
  deriving DecidableEq, Repr

-- `data` is `USART1_BASE + 0x04`.
inductive PeripheralAddr where
  | null
  | data
  deriving DecidableEq, Repr

inductive DmaDir where
  | peripheralSrc
  | peripheralDst
  deriving DecidableEq, Repr

inductive DataSize where
  | byte
  | halfword
  | word
  deriving DecidableEq, Repr

inductive DmaPriority where
  | low
  | medium
  | high
  | veryHigh
  deriving DecidableEq, Repr

structure DmaConfig where
  peripheralBaseAddr : PeripheralAddr
  memoryBaseAddr : MemoryAddr
  dir : DmaDir
  bufferSize : Nat
  peripheralInc : Bool
  memoryInc : Bool
  peripheralDataSize : DataSize
  memoryDataSize : DataSize
  loopMode : Bool
  priority : DmaPriority
  m2m : Bool

-- `DMA_Channel_T`, with the channel's internal offset from `CHMADDR`.
structure DmaChannel where
  chen : Bool
  dircfg : DmaDir
  cirmode : Bool
  perimode : Bool
  mimode : Bool
  persize : DataSize
  memsize : DataSize
  chpl : DmaPriority
  m2mmode : Bool
  chndata : Nat
  chpaddr : PeripheralAddr
  chmaddr : MemoryAddr
  offset : Nat
  deriving DecidableEq, Repr

def DmaChannel.reset : DmaChannel where
  chen := false
  dircfg := .peripheralSrc
  cirmode := false
  perimode := false
  mimode := false
  persize := .byte
  memsize := .byte
  chpl := .low
  m2mmode := false
  chndata := 0
  chpaddr := .null
  chmaddr := .null
  offset := 0

inductive ChannelWrite where
  | chen (enable : Bool)
  | chcfgZero
  | chndata (value : Nat)
  | chpaddr (value : PeripheralAddr)
  | chmaddr (value : MemoryAddr)
  | intfclr
  | dircfg (value : DmaDir)
  | cirmode (value : Bool)
  | perimode (value : Bool)
  | mimode (value : Bool)
  | persize (value : DataSize)
  | memsize (value : DataSize)
  | chpl (value : DmaPriority)
  | m2mmode (value : Bool)
  deriving DecidableEq

-- The count and address registers are read-only while the channel is enabled, and
-- the internal offset is loaded when the enable bit goes from 0 to 1.
def ChannelWrite.apply (channel : DmaChannel) : ChannelWrite → DmaChannel
  | .chen true => if channel.chen then channel else { channel with chen := true, offset := 0 }
  | .chen false => { channel with chen := false }
  | .chcfgZero =>
      { channel with
        chen := false, dircfg := .peripheralSrc, cirmode := false, perimode := false
        mimode := false, persize := .byte, memsize := .byte, chpl := .low, m2mmode := false }
  | .chndata value => if channel.chen then channel else { channel with chndata := value % 65536 }
  | .chpaddr value => if channel.chen then channel else { channel with chpaddr := value }
  | .chmaddr value => if channel.chen then channel else { channel with chmaddr := value }
  | .intfclr => channel
  | .dircfg value => { channel with dircfg := value }
  | .cirmode value => { channel with cirmode := value }
  | .perimode value => { channel with perimode := value }
  | .mimode value => { channel with mimode := value }
  | .persize value => { channel with persize := value }
  | .memsize value => { channel with memsize := value }
  | .chpl value => { channel with chpl := value }
  | .m2mmode value => { channel with m2mmode := value }

def dmaReset : List ChannelWrite :=
  [.chen false, .chcfgZero, .chndata 0, .chmaddr .null, .chpaddr .null, .intfclr]

def dmaConfig (config : DmaConfig) : List ChannelWrite :=
  [.dircfg config.dir, .cirmode config.loopMode, .perimode config.peripheralInc,
    .mimode config.memoryInc, .persize config.peripheralDataSize,
    .memsize config.memoryDataSize, .chpl config.priority, .m2mmode config.m2m,
    .chndata config.bufferSize, .chpaddr config.peripheralBaseAddr,
    .chmaddr config.memoryBaseAddr]

def dmaEnable : ChannelWrite := .chen true

def dmaDisable : ChannelWrite := .chen false

def dmaConfigDataNumber (dataNumber : Nat) : ChannelWrite := .chndata dataNumber

-- The bits of USART1 the example depends on; `tdr` is empty exactly when `TXBE` is set.
structure Registers where
  uen : Bool
  idleIen : Bool
  dmaTx : Bool
  dmaRx : Bool
  idle : Bool
  rxbne : Bool
  rdr : Byte
  tdr : Option Byte

def Registers.reset : Registers where
  uen := false
  idleIen := false
  dmaTx := false
  dmaRx := false
  idle := false
  rxbne := false
  rdr := 0
  tdr := none

def Registers.txbe (usart : Registers) : Bool := usart.tdr.isNone

-- A byte that completes while `RXBNE` is still set is an overrun and lost.
def Registers.receive (usart : Registers) (value : Byte) : Registers :=
  { usart with rxbne := true, rdr := if usart.rxbne then usart.rdr else value }

-- The read of `DATA` clears `RXBNE`, and `IDLE` because `STS` was read before it.
def usartRxData (usart : Registers) : Registers :=
  { usart with rxbne := false, idle := false }

def usartReadIntFlag (usart : Registers) : Bool := usart.idle && usart.idleIen

def Registers.request (usart : Registers) : Channel → Bool
  | .ch4 => usart.dmaTx && usart.txbe
  | .ch5 => usart.dmaRx && usart.rxbne

end ApmSdk.Usart
