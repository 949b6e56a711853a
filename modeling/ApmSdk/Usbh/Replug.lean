import ApmSdk.Usbh.Remnants

set_option autoImplicit false

/-!
# The next device

What a device that is attached after another one was pulled can find out about it.
-/

namespace ApmSdk.Usbh

open Traces
open Usbd (Byte Memory)

namespace Host

/-! ## What hosts that show the same have in common -/

section Pairs

variable {Vars : Type} {config : HostConfig} {driver : ClassDriver Vars} {first second : Host Vars}
  {memory memory' : Memory Buffer} {vars vars' : Vars}

variable (same : Indistinguishable (hostStep config driver) first second)
  (idles : first.Idles memory vars) (idles' : second.Idles memory' vars')

include same idles idles'

end Pairs

/-! ### The variables of the class driver -/

/-- The user agrees to the device. -/
def agreed : Env := { quiet with userOk := true }

section Cdc

variable {config : HostConfig} {memory memory' : Memory Buffer} {vars vars' : CdcReqState}

end Cdc

/-! ### The stage of the engine -/

section Stage

variable {Vars : Type} {config : HostConfig} {driver : ClassDriver Vars} {host : Host Vars}

def firstLabels : List HostLabel := attachLabels ++ [.poll quiet, .poll quiet]

end Stage

section First

variable {Vars : Type} {config : HostConfig} {driver : ClassDriver Vars} {host : Host Vars}

-- The SETUP of `GET_DESCRIPTOR(device, 8)` to address 0.
def firstObserved : Observed := ⟨⟨.setup, 8⟩, standardGetDescriptor .device 0 8, 0⟩

/-- No device has been asked for anything yet. -/
structure Unasked (host : Host Vars) : Prop where
  cur : host.control.curXferState = .setup
  phase :
    (host.curHostState = .idle ∨ host.curHostState = .deviceAttached) ∧
        host.enum.xferState = .start ∨
      host.curHostState = .enum ∧ host.enum.outAddress = 0 ∧
        (host.enum.enumState = .idle ∧ host.enum.xferState = .start ∨
          host.enum.enumState = .getDevDesc ∧ (host.enum.xferState = .start ∨
            host.enum.xferState = .waiting ∧ host.enum.reqData = standardGetDescriptor .device 0 8))

theorem Unasked.init : (Host.init config driver).Unasked := ⟨rfl, .inl ⟨.inl rfl, rfl⟩⟩

theorem Unasked.core (unasked : host.Unasked) (env : Env) :
    (host.coreHandler config driver env).2 = some firstObserved ∨
      (host.coreHandler config driver env).2 = none ∧
        (host.coreHandler config driver env).1.Unasked := by
  obtain ⟨cur, ⟨idle | attached, start⟩ | ⟨enum, address, ⟨state, start⟩ | ⟨state, built⟩⟩⟩ :=
    unasked
  · have polled : host.coreHandler config driver env = (host.idleHandler, none) := by
      rw [coreHandler, idle]
    rw [polled, idleHandler]
    refine .inr ⟨rfl, ?_⟩
    split
    · exact ⟨cur, .inl ⟨.inr rfl, start⟩⟩
    · exact ⟨cur, .inl ⟨.inl idle, start⟩⟩
  · rw [coreHandler, attached]
    exact .inr ⟨rfl, cur, .inr ⟨rfl, rfl, .inl ⟨rfl, start⟩⟩⟩
  · have polled : host.enumPoll config =
        ({ host with enum := { host.enum with enumState := .getDevDesc } }, none) := by
      simp [enumPoll, Enum.calls, state, enumHandler, ApmSdk.Usbh.idleHandler, start]
    rw [coreHandler, enum]
    dsimp only
    rw [polled]
    exact .inr ⟨rfl, cur, .inr ⟨enum, address, .inr ⟨rfl, .inl start⟩⟩⟩
  rw [coreHandler, enum]
  dsimp only
  rcases built with start | ⟨waiting, asked⟩
  · have polled : host.enumPoll config =
        ({ host with
          control := { host.control with ctrlState := .setup }
          enum := { host.enum with
            reqData := standardGetDescriptor .device 0 8, xferState := .waiting } }, none) := by
      simp [enumPoll, Enum.calls, state, enumHandler, start, getDevDescHandler, enumRequest]
    rw [polled]
    exact .inr ⟨rfl, cur, .inr ⟨enum, address, .inr ⟨state, .inr ⟨rfl, rfl⟩⟩⟩⟩
  · left
    simp [enumPoll, Enum.calls, state, waiting, engine, controlXferHandler, cur, ctrlXferSetup,
      observe, asked, firstObserved, Stage.isIn, address]

theorem Unasked.poll (unasked : host.Unasked) (env : Env) :
    (host.pollingProcess config driver env).2 = some firstObserved ∨
      (host.pollingProcess config driver env).2 = none ∧
        (host.pollingProcess config driver env).1.Unasked := by
  unfold pollingProcess
  split
  · exact .inr ⟨rfl, unasked.cur, .inl ⟨.inl rfl, rfl⟩⟩
  · exact unasked.core env

theorem Unasked.next (unasked : host.Unasked) {label : HostLabel} {next : Host Vars}
    {output : Option Observed} (taken : hostStep config driver host label = some (next, output)) :
    output = some firstObserved ∨ output = none ∧ next.Unasked := by
  cases label with
  | poll env =>
    obtain ⟨rfl, rfl⟩ := Prod.mk.inj (Option.some.inj taken)
    exact unasked.poll env
  | receive bytes =>
    have free : host.control.receives = false := by simp [Control.receives, unasked.cur]
    simp [hostStep, free] at taken
  | connect | enable | disconnect =>
    obtain ⟨rfl, rfl⟩ := Prod.mk.inj (Option.some.inj taken)
    exact .inr ⟨rfl, unasked.cur, unasked.phase⟩
  | urb dirIn status =>
    obtain ⟨rfl, rfl⟩ := Prod.mk.inj (Option.some.inj taken)
    refine .inr ⟨rfl, ?_, unasked.phase⟩
    cases dirIn <;> exact unasked.cur

end First

/-! ## Recovery -/

def sampleConfig : HostConfig := { usualConfig with ep0PacketSize := 64 }

/-- A device that is attached and pulled before it was asked for anything. -/
def untouched : Host Hid :=
  { Host.init sampleConfig hidDriver with curHostState := .deviceAttached }

/-- A cable that is pulled while a SETUP is on its way. -/
def pulledLabels : List HostLabel := firstLabels ++ [.disconnect]

end Host

end ApmSdk.Usbh
