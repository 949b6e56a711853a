import ApmSdk.Usbh.Receiver

set_option autoImplicit false

/-!
# Passes of the host

When a pass calls the engine of control transfers, for which request, and what it leaves as it was.
-/

namespace ApmSdk.Usbh

open Usbd (Byte Memory)

/-! ## The engine -/

/-- While the engine waits it has not given a result. -/
def Control.Busy (control : Control) : Prop :=
  control.curXferState = .waitUrb → control.ctrlState.result = .progress

/-- The handler polls the engine. -/
def Act.polls {Vars : Type} : Act Vars → Bool
  | .xfer _ => true
  | _ => false

namespace HostClass

variable {hostClass : HostClass} {vars : hostClass.Vars} {reqData : HostReqData}

end HostClass

/-! ## Passes -/

namespace Host

section Calls

variable {Vars : Type} (driver : ClassDriver Vars) (env : Env) (host : Host Vars)

/-- The handler of the state polls the engine. -/
def calls : Bool :=
  match host.curHostState with
  | .enum => host.enum.calls
  | .classReq => (driver.reqHandler host.vars host.enum.xferState).polls
  | .classCore => (driver.coreHandler env host.vars host.enum.xferState).polls
  | _ => false

end Calls

variable {Vars : Type} {config : HostConfig} {driver : ClassDriver Vars} {env : Env}
  {host : Host Vars}

/-- The engine is at the same stage, and has given no result that it had not. -/
structure Still (before after : Control) : Prop where
  cur : after.curXferState = before.curXferState
  pre : after.preXferState = before.preXferState
  progress : before.ctrlState.result = .progress → after.ctrlState.result = .progress

theorem Still.refl (control : Control) : Still control control := ⟨rfl, rfl, id⟩

/-- A request is built, or the device has gone. -/
theorem Still.setup (control : Control) : Still control { control with ctrlState := .setup } :=
  ⟨rfl, rfl, fun _ => rfl⟩

/-- A request that is waited for is the one that the handler of the state builds. -/
structure Asks (config : HostConfig) (driver : ClassDriver Vars) (host : Host Vars) : Prop where
  enum : host.curHostState = .enum → host.enum.xferState = .waiting →
    host.enum.enumState.request config.toConfig host.enum.memory = some host.enum.reqData
  classReq : host.curHostState = .classReq → host.enum.xferState = .waiting →
    driver.reqHandler host.vars .start = .request host.enum.reqData
  bare : host.curHostState = .idle ∨ host.curHostState = .deviceAttached ∨
    host.curHostState = .userInput → host.enum.xferState ≠ .waiting

end Host

namespace Host

variable {hostClass : HostClass} {config : HostConfig} {env : Env} {host : Host hostClass.Vars}

/-- While an IN stage into an object is under way, the object is that of the request. -/
def Aims (host : Host hostClass.Vars) (buf : Option Cursor) : Prop :=
  host.control.waitsIn = true → ∀ cursor object, buf = some cursor → cursor.area = .object object →
    host.enum.xferState = .waiting ∧ host.target hostClass.driver = some object

end Host

end ApmSdk.Usbh
