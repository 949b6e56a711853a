import ApmSdk.StdPeriph.Clock

set_option autoImplicit false

/-!
# The clock tree

The functions of the RCM driver that configure the clocks, and the tree of selections, factors and
divisors that they describe.
-/

namespace ApmSdk.StdPeriph.ClockTree

open Fields

/-! ## The arguments -/

-- `RCM_PLLSEL_T`, for the connectivity line and for the others.
inductive PllSel : Bool → Type where
  | hsiDiv2 {line : Bool} : PllSel line
  | prediv1 : PllSel true
  | hse : PllSel false
  | hseDiv2 : PllSel false

def PllSel.value {line : Bool} : PllSel line → BitVec 32
  | hsiDiv2 => 0
  | prediv1 => 1
  | hse => 1
  | hseDiv2 => 3

-- `RCM_PLLMF_T`: factors from 4 to 9 and 6.5, and from 2 to 16 elsewhere.
inductive PllMf : Bool → Type where
  | from4 (more : Fin 6) : PllMf true
  | mf6_5 : PllMf true
  | from2 (more : Fin 15) : PllMf false

def PllMf.value {line : Bool} : PllMf line → BitVec 32
  | from4 more => BitVec.ofNat 32 (2 + more.val)
  | mf6_5 => 13
  | from2 more => BitVec.ofNat 32 more.val

-- `RCM_PLL2MF_T` and `RCM_PLL3MF_T`: factors from 8 to 14, 16 and 20.
inductive Pll2Mf where
  | from8 (more : Fin 7)
  | mf16
  | mf20

def Pll2Mf.value : Pll2Mf → BitVec 32
  | from8 more => BitVec.ofNat 32 (6 + more.val)
  | mf16 => 14
  | mf20 => 15

inductive Pllpsc1Src where
  | hse
  | pll2
  deriving DecidableEq

def Pllpsc1Src.value : Pllpsc1Src → BitVec 32
  | hse => 0
  | pll2 => 1

-- `RCM_PLLPSC1_DIV_T` and `RCM_PLLPSC2_DIV_T`: divisors from 1 to 16.
structure PllpscDiv where
  less : Fin 16

def PllpscDiv.value (div : PllpscDiv) : BitVec 32 := BitVec.ofNat 32 div.less.val

inductive AhbDiv where
  | div1
  | div2
  | div4
  | div8
  | div16
  | div64
  | div128
  | div256
  | div512

def AhbDiv.value : AhbDiv → BitVec 32
  | div1 => 7
  | div2 => 8
  | div4 => 9
  | div8 => 10
  | div16 => 11
  | div64 => 12
  | div128 => 13
  | div256 => 14
  | div512 => 15

inductive ApbDiv where
  | div1
  | div2
  | div4
  | div8
  | div16

def ApbDiv.value : ApbDiv → BitVec 32
  | div1 => 3
  | div2 => 4
  | div4 => 5
  | div8 => 6
  | div16 => 7

inductive Pclk2Div where
  | div2
  | div4
  | div6
  | div8

def Pclk2Div.value : Pclk2Div → BitVec 32
  | div2 => 0
  | div4 => 1
  | div6 => 2
  | div8 => 3

/-! ## The functions -/

def configPLL {line : Bool} (rcm : Rcm) (pllSelect : PllSel line) (pllMf : PllMf line) : Rcm :=
  let cfg := assign rcm.cfg 18 4 pllMf.value
  let cfg := assign cfg 16 1 (pllSelect.value &&& 0x01)
  if line then { rcm with cfg }
  else { rcm with cfg := assign cfg 17 1 ((pllSelect.value >>> 1) &&& 0x01) }

def configPLLPSC1 (rcm : Rcm) (pllPsc1Src : Pllpsc1Src) (pllPsc1 : PllpscDiv) : Rcm :=
  { rcm with cfg2 := assign (assign rcm.cfg2 16 1 pllPsc1Src.value) 0 4 pllPsc1.value }

def configPLLPSC2 (rcm : Rcm) (pllpsc2 : PllpscDiv) : Rcm :=
  { rcm with cfg2 := assign rcm.cfg2 4 4 pllpsc2.value }

def configPLL2 (rcm : Rcm) (pll2Mf : Pll2Mf) : Rcm :=
  { rcm with cfg2 := assign rcm.cfg2 8 4 pll2Mf.value }

def configPLL3 (rcm : Rcm) (pll3Mf : Pll2Mf) : Rcm :=
  { rcm with cfg2 := assign rcm.cfg2 12 4 pll3Mf.value }

def configMCO (line : Bool) (rcm : Rcm) (mcoClock : BitVec 32) : Rcm :=
  { rcm with cfg := assign rcm.cfg 24 (if line then 4 else 3) mcoClock }

def configSYSCLK (rcm : Rcm) (sysClkSelect : SysclkSel) : Rcm :=
  { rcm with cfg := assign rcm.cfg 0 2 sysClkSelect.value }

def configAHB (rcm : Rcm) (ahbDiv : AhbDiv) : Rcm :=
  { rcm with cfg := assign rcm.cfg 4 4 ahbDiv.value }

def configAPB1 (rcm : Rcm) (apb1Div : ApbDiv) : Rcm :=
  { rcm with cfg := assign rcm.cfg 8 3 apb1Div.value }

def configAPB2 (rcm : Rcm) (apb2Div : ApbDiv) : Rcm :=
  { rcm with cfg := assign rcm.cfg 11 3 apb2Div.value }

def configI2S2CLK (rcm : Rcm) (i2s2ClkSelect : BitVec 32) : Rcm :=
  { rcm with cfg2 := assign rcm.cfg2 17 1 i2s2ClkSelect }

def configI2S3CLK (rcm : Rcm) (i2s3ClkSelect : BitVec 32) : Rcm :=
  { rcm with cfg2 := assign rcm.cfg2 18 1 i2s3ClkSelect }

def configOTGFSCLK (rcm : Rcm) (otgDiv : BitVec 32) : Rcm :=
  { rcm with cfg := assign rcm.cfg 22 2 otgDiv }

def configUSBCLK (rcm : Rcm) (usbDiv : BitVec 32) : Rcm :=
  { rcm with cfg := assign rcm.cfg 22 2 usbDiv }

def configFPUCLK (rcm : Rcm) (fpuDiv : BitVec 32) : Rcm :=
  { rcm with cfg := assign rcm.cfg 27 1 fpuDiv }

def configADCCLK (rcm : Rcm) (adcDiv : Pclk2Div) : Rcm :=
  { rcm with cfg := assign rcm.cfg 14 2 adcDiv.value }

-- What `RCM_Reset` does to `CFG` and `CFG2`.
def rcmReset (line : Bool) (rcm : Rcm) : Rcm :=
  if line then { cfg := rcm.cfg &&& 0xF0FF0000 &&& 0xFF00FFFF, cfg2 := 0 }
  else { rcm with cfg := rcm.cfg &&& 0xF8FF0000 &&& 0xFF00FFFF }

def adcpsc (rcm : Rcm) : BitVec 2 := field rcm.cfg 14 2

def adcPrescTable : List Nat := [2, 4, 6, 8]

def readAdcclkFreq (build : Build) (rcm : Rcm) : BitVec 32 :=
  (readPclkFreq build rcm).2 / BitVec.ofNat 32 (adcPrescTable.getD (adcpsc rcm).toNat 2)

-- The calls that a build of the driver offers.
inductive Call : Bool → Type where
  | reset {line : Bool} : Call line
  | configPLL {line : Bool} (pllSelect : PllSel line) (pllMf : PllMf line) : Call line
  | configPLLPSC1 (pllPsc1Src : Pllpsc1Src) (pllPsc1 : PllpscDiv) : Call true
  | configPLLPSC2 (pllpsc2 : PllpscDiv) : Call true
  | configPLL2 (pll2Mf : Pll2Mf) : Call true
  | configPLL3 (pll3Mf : Pll2Mf) : Call true
  | configMCO {line : Bool} (mcoClock : BitVec 32) : Call line
  | configSYSCLK {line : Bool} (sysClkSelect : SysclkSel) : Call line
  | configAHB {line : Bool} (ahbDiv : AhbDiv) : Call line
  | configAPB1 {line : Bool} (apb1Div : ApbDiv) : Call line
  | configAPB2 {line : Bool} (apb2Div : ApbDiv) : Call line
  | configI2S2CLK (i2s2ClkSelect : BitVec 32) : Call true
  | configI2S3CLK (i2s3ClkSelect : BitVec 32) : Call true
  | configOTGFSCLK (otgDiv : BitVec 32) : Call true
  | configUSBCLK (usbDiv : BitVec 32) : Call false
  | configFPUCLK (fpuDiv : BitVec 32) : Call false
  | configADCCLK {line : Bool} (adcDiv : Pclk2Div) : Call line

def Call.run {line : Bool} (rcm : Rcm) : Call line → Rcm
  | reset => rcmReset line rcm
  | configPLL pllSelect pllMf => ClockTree.configPLL rcm pllSelect pllMf
  | configPLLPSC1 pllPsc1Src pllPsc1 => ClockTree.configPLLPSC1 rcm pllPsc1Src pllPsc1
  | configPLLPSC2 pllpsc2 => ClockTree.configPLLPSC2 rcm pllpsc2
  | configPLL2 pll2Mf => ClockTree.configPLL2 rcm pll2Mf
  | configPLL3 pll3Mf => ClockTree.configPLL3 rcm pll3Mf
  | configMCO mcoClock => ClockTree.configMCO line rcm mcoClock
  | configSYSCLK sysClkSelect => ClockTree.configSYSCLK rcm sysClkSelect
  | configAHB ahbDiv => ClockTree.configAHB rcm ahbDiv
  | configAPB1 apb1Div => ClockTree.configAPB1 rcm apb1Div
  | configAPB2 apb2Div => ClockTree.configAPB2 rcm apb2Div
  | configI2S2CLK i2s2ClkSelect => ClockTree.configI2S2CLK rcm i2s2ClkSelect
  | configI2S3CLK i2s3ClkSelect => ClockTree.configI2S3CLK rcm i2s3ClkSelect
  | configOTGFSCLK otgDiv => ClockTree.configOTGFSCLK rcm otgDiv
  | configUSBCLK usbDiv => ClockTree.configUSBCLK rcm usbDiv
  | configFPUCLK fpuDiv => ClockTree.configFPUCLK rcm fpuDiv
  | configADCCLK adcDiv => ClockTree.configADCCLK rcm adcDiv

/-! ## The tree -/

inductive Input where
  | hsiHalf
  | hse
  | hseHalf
  | prescaler1
  deriving DecidableEq

/-- What the clocks are made of, in the terms of the comments of the driver. -/
structure Tree where
  system : SysclkSel
  input : Input
  -- Twice the factor of the PLL.
  twice : Nat
  psc1Source : Pllpsc1Src
  psc1 : Nat
  psc2 : Nat
  factor2 : Nat
  ahb : Nat
  apb1 : Nat
  apb2 : Nat
  adc : Nat

namespace Tree

variable (hse hsi : Nat) (tree : Tree)

def prescaler1 : Nat :=
  match tree.psc1Source with
  | .hse => hse / tree.psc1
  | .pll2 => hse / tree.psc2 * tree.factor2 / tree.psc1

-- Twice the frequency of the PLL, or of its double for the halved oscillator.
def product : Nat :=
  match tree.input with
  | .hsiHalf => hsi / 2 * tree.twice
  | .hse => hse * tree.twice
  | .hseHalf => hse * tree.twice
  | .prescaler1 => tree.prescaler1 hse * tree.twice

def pll : Nat :=
  match tree.input with
  | .hseHalf => tree.product hse hsi / 4
  | _ => tree.product hse hsi / 2

def sysclk : Nat :=
  match tree.system with
  | .hsi => hsi
  | .hse => hse
  | .pll => tree.pll hse hsi

def hclk : Nat := tree.sysclk hse hsi / tree.ahb
def pclk1 : Nat := tree.hclk hse hsi / tree.apb1
def pclk2 : Nat := tree.hclk hse hsi / tree.apb2
def adcclk : Nat := tree.pclk2 hse hsi / tree.adc

end Tree

def systemOf (select : BitVec 2) : SysclkSel :=
  match select.toNat with
  | 1 => .hse
  | 2 => .pll
  | _ => .hsi

def inputOf (line : Bool) (source half : BitVec 1) : Input :=
  if source = 0 then .hsiHalf
  else if line then .prescaler1
  else if half = 0 then .hse else .hseHalf

def twiceOf (line : Bool) (factor : BitVec 4) : Nat :=
  if line = true ∧ factor = 13 then 13 else 2 * (factor.toNat + 2)

-- The prescalers and PLL2 are there in the connectivity line only.
def sourceOf (line : Bool) (source : BitVec 1) : Pllpsc1Src :=
  if line = true ∧ source ≠ 0 then .pll2 else .hse

def pscOf (line : Bool) (less : BitVec 4) : Nat := if line then less.toNat + 1 else 1

def factor2Of (line : Bool) (factor : BitVec 4) : Nat :=
  if line then if factor = 15 then 20 else factor.toNat + 2 else 2

def ahbOf (psc : BitVec 4) : Nat := 2 ^ ahbPrescTable.getD psc.toNat 0
def apbOf (psc : BitVec 3) : Nat := 2 ^ apbPrescTable.getD psc.toNat 0
def adcOf (psc : BitVec 2) : Nat := adcPrescTable.getD psc.toNat 2

/-- The tree that the registers stand for. -/
def Tree.of (line : Bool) (rcm : Rcm) : Tree where
  system := systemOf (field rcm.cfg 0 2)
  input := inputOf line (field rcm.cfg 16 1) (field rcm.cfg 17 1)
  twice := twiceOf line (field rcm.cfg 18 4)
  psc1Source := sourceOf line (field rcm.cfg2 16 1)
  psc1 := pscOf line (field rcm.cfg2 0 4)
  psc2 := pscOf line (field rcm.cfg2 4 4)
  factor2 := factor2Of line (field rcm.cfg2 8 4)
  ahb := ahbOf (field rcm.cfg 4 4)
  apb1 := apbOf (field rcm.cfg 8 3)
  apb2 := apbOf (field rcm.cfg 11 3)
  adc := adcOf (field rcm.cfg 14 2)

/-! ## What the arguments say -/

def PllSel.input {line : Bool} : PllSel line → Input
  | hsiDiv2 => .hsiHalf
  | prediv1 => .prescaler1
  | hse => .hse
  | hseDiv2 => .hseHalf

def PllMf.twice {line : Bool} : PllMf line → Nat
  | from4 more => 2 * (4 + more.val)
  | mf6_5 => 13
  | from2 more => 2 * (2 + more.val)

def Pll2Mf.factor : Pll2Mf → Nat
  | from8 more => 8 + more.val
  | mf16 => 16
  | mf20 => 20

def AhbDiv.divisor : AhbDiv → Nat
  | div1 => 1
  | div2 => 2
  | div4 => 4
  | div8 => 8
  | div16 => 16
  | div64 => 64
  | div128 => 128
  | div256 => 256
  | div512 => 512

def ApbDiv.divisor : ApbDiv → Nat
  | div1 => 1
  | div2 => 2
  | div4 => 4
  | div8 => 8
  | div16 => 16

def Pclk2Div.divisor : Pclk2Div → Nat
  | div2 => 2
  | div4 => 4
  | div6 => 6
  | div8 => 8

-- The tree after a reset: the system clock is HSI, undivided.
def Tree.reset : Tree where
  system := .hsi
  input := .hsiHalf
  twice := 4
  psc1Source := .hse
  psc1 := 1
  psc2 := 1
  factor2 := 2
  ahb := 1
  apb1 := 1
  apb2 := 1
  adc := 2

def Call.effect {line : Bool} (tree : Tree) : Call line → Tree
  | reset => .reset
  | configPLL pllSelect pllMf => { tree with input := pllSelect.input, twice := pllMf.twice }
  | configPLLPSC1 pllPsc1Src pllPsc1 =>
      { tree with psc1Source := pllPsc1Src, psc1 := pllPsc1.less.val + 1 }
  | configPLLPSC2 pllpsc2 => { tree with psc2 := pllpsc2.less.val + 1 }
  | configPLL2 pll2Mf => { tree with factor2 := pll2Mf.factor }
  | configSYSCLK sysClkSelect => { tree with system := sysClkSelect }
  | configAHB ahbDiv => { tree with ahb := ahbDiv.divisor }
  | configAPB1 apb1Div => { tree with apb1 := apb1Div.divisor }
  | configAPB2 apb2Div => { tree with apb2 := apb2Div.divisor }
  | configADCCLK adcDiv => { tree with adc := adcDiv.divisor }
  | _ => tree

/-! ## The calls follow the tree -/

theorem systemOf_value (sysClkSelect : SysclkSel) :
    systemOf (sysClkSelect.value.setWidth 2) = sysClkSelect := by
  cases sysClkSelect <;> rfl

theorem twiceOf_value {line : Bool} (pllMf : PllMf line) :
    twiceOf line (pllMf.value.setWidth 4) = pllMf.twice := by
  cases pllMf with
  | mf6_5 => rfl
  | from4 more => revert more; decide
  | from2 more => revert more; decide

theorem sourceOf_value (source : Pllpsc1Src) :
    sourceOf true (source.value.setWidth 1) = source := by
  cases source <;> rfl

theorem pscOf_value (div : PllpscDiv) : pscOf true (div.value.setWidth 4) = div.less.val + 1 := by
  obtain ⟨less⟩ := div
  revert less
  decide

theorem factor2Of_value (pll2Mf : Pll2Mf) :
    factor2Of true (pll2Mf.value.setWidth 4) = pll2Mf.factor := by
  cases pll2Mf with
  | from8 more => revert more; decide
  | mf16 => rfl
  | mf20 => rfl

theorem ahbOf_value (ahbDiv : AhbDiv) : ahbOf (ahbDiv.value.setWidth 4) = ahbDiv.divisor := by
  cases ahbDiv <;> rfl

theorem apbOf_value (apbDiv : ApbDiv) : apbOf (apbDiv.value.setWidth 3) = apbDiv.divisor := by
  cases apbDiv <;> rfl

theorem adcOf_value (adcDiv : Pclk2Div) : adcOf (adcDiv.value.setWidth 2) = adcDiv.divisor := by
  cases adcDiv <;> rfl

theorem of_configPLL {line : Bool} (rcm : Rcm) (pllSelect : PllSel line) (pllMf : PllMf line) :
    Tree.of line (configPLL rcm pllSelect pllMf) =
      { Tree.of line rcm with input := pllSelect.input, twice := pllMf.twice } := by
  cases line with
  | true =>
    have input : inputOf true ((pllSelect.value &&& 0x01).setWidth 1) (field rcm.cfg 17 1) =
        pllSelect.input := by
      cases pllSelect <;> rfl
    simp (disch := decide) only [configPLL, if_true, Tree.of, field_assign_self, field_assign_apart,
      input, twiceOf_value]
  | false =>
    have input : inputOf false ((pllSelect.value &&& 0x01).setWidth 1)
        (((pllSelect.value >>> 1) &&& 0x01).setWidth 1) = pllSelect.input := by
      cases pllSelect <;> rfl
    simp (disch := decide) only [configPLL, Bool.false_eq_true, if_false, Tree.of,
      field_assign_self, field_assign_apart, input, twiceOf_value]

theorem field_and_clear {mask : BitVec 32} (register : BitVec 32) {offset count : Nat}
    (clear : field mask offset count = 0) : field (register &&& mask) offset count = 0 := by
  have both : field (register &&& mask) offset count =
      field register offset count &&& field mask offset count := by
    apply BitVec.eq_of_getLsbD_eq
    intro bit within
    simp [field, within]
  rw [both, clear]
  simp

theorem of_rcmReset (line : Bool) (rcm : Rcm) : Tree.of line (rcmReset line rcm) = .reset := by
  cases line with
  | true =>
    have zero : field (0 : BitVec 32) 16 1 = 0 ∧ field (0 : BitVec 32) 0 4 = 0 ∧
        field (0 : BitVec 32) 4 4 = 0 ∧ field (0 : BitVec 32) 8 4 = 0 := by decide
    simp (disch := decide) only [rcmReset, if_true, Tree.of, BitVec.and_assoc, field_and_clear,
      zero]
    rfl
  | false =>
    simp (disch := decide) only [rcmReset, Bool.false_eq_true, if_false, Tree.of, BitVec.and_assoc,
      field_and_clear]
    rfl

theorem of_run {line : Bool} (rcm : Rcm) (call : Call line) :
    Tree.of line (call.run rcm) = call.effect (Tree.of line rcm) := by
  cases call with
  | reset => exact of_rcmReset line rcm
  | configPLL pllSelect pllMf => exact of_configPLL rcm pllSelect pllMf
  | configPLLPSC1 pllPsc1Src pllPsc1 =>
    simp (disch := decide) only [Call.run, Call.effect, ClockTree.configPLLPSC1, Tree.of,
      field_assign_self, field_assign_apart, sourceOf_value, pscOf_value]
  | configPLLPSC2 pllpsc2 =>
    simp (disch := decide) only [Call.run, Call.effect, ClockTree.configPLLPSC2, Tree.of,
      field_assign_self, field_assign_apart, pscOf_value]
  | configPLL2 pll2Mf =>
    simp (disch := decide) only [Call.run, Call.effect, ClockTree.configPLL2, Tree.of,
      field_assign_self, field_assign_apart, factor2Of_value]
  | configPLL3 pll3Mf =>
    simp (disch := decide) only [Call.run, Call.effect, ClockTree.configPLL3, Tree.of,
      field_assign_apart]
  | configMCO mcoClock =>
    cases line <;> simp (disch := decide) only [Call.run, Call.effect, ClockTree.configMCO, Tree.of,
      field_assign_apart, if_true, Bool.false_eq_true, if_false]
  | configSYSCLK sysClkSelect =>
    simp (disch := decide) only [Call.run, Call.effect, ClockTree.configSYSCLK, Tree.of,
      field_assign_self, field_assign_apart, systemOf_value]
  | configAHB ahbDiv =>
    simp (disch := decide) only [Call.run, Call.effect, ClockTree.configAHB, Tree.of,
      field_assign_self, field_assign_apart, ahbOf_value]
  | configAPB1 apb1Div =>
    simp (disch := decide) only [Call.run, Call.effect, ClockTree.configAPB1, Tree.of,
      field_assign_self, field_assign_apart, apbOf_value]
  | configAPB2 apb2Div =>
    simp (disch := decide) only [Call.run, Call.effect, ClockTree.configAPB2, Tree.of,
      field_assign_self, field_assign_apart, apbOf_value]
  | configI2S2CLK i2s2ClkSelect =>
    simp (disch := decide) only [Call.run, Call.effect, ClockTree.configI2S2CLK, Tree.of,
      field_assign_apart]
  | configI2S3CLK i2s3ClkSelect =>
    simp (disch := decide) only [Call.run, Call.effect, ClockTree.configI2S3CLK, Tree.of,
      field_assign_apart]
  | configOTGFSCLK otgDiv =>
    simp (disch := decide) only [Call.run, Call.effect, ClockTree.configOTGFSCLK, Tree.of,
      field_assign_apart]
  | configUSBCLK usbDiv =>
    simp (disch := decide) only [Call.run, Call.effect, ClockTree.configUSBCLK, Tree.of,
      field_assign_apart]
  | configFPUCLK fpuDiv =>
    simp (disch := decide) only [Call.run, Call.effect, ClockTree.configFPUCLK, Tree.of,
      field_assign_apart]
  | configADCCLK adcDiv =>
    simp (disch := decide) only [Call.run, Call.effect, ClockTree.configADCCLK, Tree.of,
      field_assign_self, field_assign_apart, adcOf_value]

/-! ## The readings -/

/-- No product that is computed on the way to the frequencies exceeds 32 bits: not twice the
frequency of the PLL, and not that of PLL2, even if it is not in use. -/
structure Tree.Representable (hse hsi : Nat) (tree : Tree) : Prop where
  pll2 : hse / tree.psc2 * tree.factor2 < 2 ^ 32
  pll : tree.product hse hsi < 2 ^ 32

section Readings

variable (build : Build) (rcm : Rcm)

theorem widened_eq_zero {width : Nat} (small : width ≤ 32) (value : BitVec width) :
    value.setWidth 32 = 0 ↔ value = 0 := by
  rw [← BitVec.toNat_inj, ← BitVec.toNat_inj, BitVec.toNat_setWidth_of_le small]
  simp

theorem widened_mulcfg (value constant : BitVec 4) :
    value.setWidth 32 = constant.setWidth 32 ↔ value = constant := by
  rw [← BitVec.toNat_inj, ← BitVec.toNat_inj, BitVec.toNat_setWidth_of_le (by decide),
    BitVec.toNat_setWidth_of_le (by decide)]

/-- What goes into the PLL of the connectivity line. -/
theorem pllInput_eq
    (fits : build.hseValue.toNat / (Tree.of true rcm).psc2 * (Tree.of true rcm).factor2 < 2 ^ 32) :
    pllInput build rcm =
      if field rcm.cfg 16 1 = 0 then build.hsiValue.toNat / 2
      else (Tree.of true rcm).prescaler1 build.hseValue.toNat := by
  have twenty : (field rcm.cfg2 8 4).setWidth 32 = 15 ↔ field rcm.cfg2 8 4 = 15 :=
    widened_mulcfg _ 15
  simp only [Tree.of, pscOf, factor2Of, if_true] at fits
  simp only [pllInput, Rcm.pll1srcsel, Rcm.pllpsc1src, Rcm.pllpsc1, Rcm.pllpsc2, Rcm.pll2mul,
    widened_eq_zero (by decide : 1 ≤ 32), twenty, BitVec.toNat_setWidth_of_le (by decide : 4 ≤ 32)]
  split
  next => rfl
  next =>
    rw [Nat.mod_eq_of_lt fits]
    by_cases hse : field rcm.cfg2 16 1 = 0
    next =>
      have source : (Tree.of true rcm).psc1Source = .hse := if_neg fun both => both.2 hse
      simp only [hse, if_true, Tree.prescaler1, source]
      rfl
    next =>
      have source : (Tree.of true rcm).psc1Source = .pll2 := if_pos ⟨rfl, hse⟩
      simp only [hse, if_false, Tree.prescaler1, source]
      rfl

theorem whole_factor {input factor : Nat} (fits : input * (2 * factor) < 2 ^ 32) :
    input * factor % 2 ^ 32 / 1 = input * (2 * factor) / 2 := by
  have double : input * (2 * factor) = 2 * (input * factor) := by
    rw [← Nat.mul_assoc, Nat.mul_comm input 2, Nat.mul_assoc]
  rw [double] at fits ⊢
  omega

theorem halved_factor {input factor : Nat} (fits : input * (2 * factor) < 2 ^ 32) :
    input * factor % 2 ^ 32 / 2 = input * (2 * factor) / 4 := by
  have double : input * (2 * factor) = 2 * (input * factor) := by
    rw [← Nat.mul_assoc, Nat.mul_comm input 2, Nat.mul_assoc]
  rw [double] at fits ⊢
  omega

variable {build}

theorem pll_eq_of_line (line : build.connectivityLine = true)
    (fits : (Tree.of true rcm).Representable build.hseValue.toNat build.hsiValue.toNat) :
    (pllSource build rcm).frequency =
      (Tree.of true rcm).pll build.hseValue.toNat build.hsiValue.toNat := by
  have input : (Tree.of true rcm).product build.hseValue.toNat build.hsiValue.toNat =
      pllInput build rcm * twiceOf true (field rcm.cfg 18 4) := by
    rw [pllInput_eq build rcm fits.pll2]
    by_cases hsi : field rcm.cfg 16 1 = 0
    next =>
      have source : (Tree.of true rcm).input = .hsiHalf := if_pos hsi
      simp only [Tree.product, source, if_pos hsi]
      rfl
    next =>
      have source : (Tree.of true rcm).input = .prescaler1 := (if_neg hsi).trans (if_pos rfl)
      simp only [Tree.product, source, if_neg hsi]
      rfl
  have whole : (Tree.of true rcm).pll build.hseValue.toNat build.hsiValue.toNat =
      pllInput build rcm * twiceOf true (field rcm.cfg 18 4) / 2 := by
    rw [← input, Tree.pll]
    split
    next half =>
      by_cases hsi : field rcm.cfg 16 1 = 0
      next => exact absurd ((if_pos hsi : (Tree.of true rcm).input = .hsiHalf).symm.trans half) nofun
      next =>
        exact absurd (((if_neg hsi).trans (if_pos rfl) :
          (Tree.of true rcm).input = .prescaler1).symm.trans half) nofun
    next => rfl
  have product := input ▸ fits.pll
  have thirteen : (field rcm.cfg 18 4).setWidth 32 = 13 ↔ field rcm.cfg 18 4 = 13 :=
    widened_mulcfg _ 13
  rw [whole]
  simp only [pllSource, line, if_true, Rcm.pll1mulcfg, thirteen]
  by_cases half : field rcm.cfg 18 4 = 13
  next =>
    have twice : twiceOf true (field rcm.cfg 18 4) = 13 := if_pos ⟨rfl, half⟩
    rw [twice] at product ⊢
    rw [if_pos half, Source.frequency, Nat.mod_eq_of_lt product]
  next =>
    have twice : twiceOf true (field rcm.cfg 18 4) = 2 * ((field rcm.cfg 18 4).toNat + 2) :=
      if_neg fun both => half both.2
    rw [twice] at product ⊢
    rw [if_neg half, Source.frequency, BitVec.toNat_setWidth_of_le (by decide : 4 ≤ 32)]
    exact whole_factor product

theorem pll_eq_of_others (line : build.connectivityLine = false)
    (fits : (Tree.of false rcm).Representable build.hseValue.toNat build.hsiValue.toNat) :
    (pllSource build rcm).frequency =
      (Tree.of false rcm).pll build.hseValue.toNat build.hsiValue.toNat := by
  have twice : (Tree.of false rcm).twice = 2 * ((field rcm.cfg 18 4).toNat + 2) := by
    rw [Tree.of, twiceOf, if_neg fun both => Bool.false_ne_true both.1]
  have product := fits.pll
  simp only [Tree.product, twice] at product
  simp only [pllSource, line, Rcm.pll1mulcfg, Rcm.pll1srcsel, Rcm.pllhsepsc,
    BitVec.toNat_setWidth_of_le (by decide : 4 ≤ 32), widened_eq_zero (by decide : 1 ≤ 32),
    Bool.false_eq_true, if_false, Tree.pll, Tree.product, twice]
  by_cases hsi : field rcm.cfg 16 1 = 0
  next =>
    have source : (Tree.of false rcm).input = .hsiHalf := if_pos hsi
    simp only [source] at product ⊢
    simp only [hsi, if_true, Source.frequency]
    exact whole_factor product
  next =>
    by_cases whole : field rcm.cfg 17 1 = 0
    next =>
      have source : (Tree.of false rcm).input = .hse :=
        (if_neg hsi).trans ((if_neg Bool.false_ne_true).trans (if_pos whole))
      simp only [source] at product ⊢
      simp only [hsi, whole, if_true, if_false, Source.frequency]
      exact whole_factor product
    next =>
      have source : (Tree.of false rcm).input = .hseHalf :=
        (if_neg hsi).trans ((if_neg Bool.false_ne_true).trans (if_neg whole))
      simp only [source] at product ⊢
      simp only [hsi, whole, if_false, Source.frequency]
      exact halved_factor product

variable (build)

theorem sysclk_eq
    (fits : (Tree.of build.connectivityLine rcm).Representable build.hseValue.toNat
      build.hsiValue.toNat) :
    (readSysclkFreq build rcm).toNat =
      (Tree.of build.connectivityLine rcm).sysclk build.hseValue.toNat build.hsiValue.toNat := by
  have pll : (pllSource build rcm).frequency =
      (Tree.of build.connectivityLine rcm).pll build.hseValue.toNat build.hsiValue.toNat := by
    cases line : build.connectivityLine with
    | true => exact pll_eq_of_line rcm line (line ▸ fits)
    | false => exact pll_eq_of_others rcm line (line ▸ fits)
  rw [toNat_readSysclkFreq, selected, Rcm.sclksel, BitVec.toNat_setWidth_of_le (by decide : 2 ≤ 32),
    Tree.sysclk]
  have system : (Tree.of build.connectivityLine rcm).system = systemOf (field rcm.cfg 0 2) := rfl
  rw [system]
  generalize field rcm.cfg 0 2 = select
  obtain rfl | rfl | rfl | rfl : select = 0 ∨ select = 1 ∨ select = 2 ∨ select = 3 := by
    revert select
    decide
  next => exact Source.frequency_whole build.hsiValue
  next => exact Source.frequency_whole build.hseValue
  next => exact pll
  next => exact Source.frequency_whole build.hsiValue

/-- All that the driver reads: `SYSCLK`, `HCLK`, `PCLK1`, `PCLK2` and the clock of the ADC. -/
structure Frequencies where
  sysclk : Nat
  hclk : Nat
  pclk1 : Nat
  pclk2 : Nat
  adcclk : Nat
  deriving DecidableEq, Repr

def readings : Frequencies where
  sysclk := (readSysclkFreq build rcm).toNat
  hclk := (readHclkFreq build rcm).toNat
  pclk1 := (readPclkFreq build rcm).1.toNat
  pclk2 := (readPclkFreq build rcm).2.toNat
  adcclk := (readAdcclkFreq build rcm).toNat

def Tree.frequencies (hse hsi : Nat) (tree : Tree) : Frequencies where
  sysclk := tree.sysclk hse hsi
  hclk := tree.hclk hse hsi
  pclk1 := tree.pclk1 hse hsi
  pclk2 := tree.pclk2 hse hsi
  adcclk := tree.adcclk hse hsi

theorem adcclk_divisor : (BitVec.ofNat 32 (adcPrescTable.getD (adcpsc rcm).toNat 2)).toNat =
    adcOf (field rcm.cfg 14 2) := by
  rw [adcpsc, adcOf]
  generalize field rcm.cfg 14 2 = psc
  revert psc
  decide

theorem readings_eq
    (fits : (Tree.of build.connectivityLine rcm).Representable build.hseValue.toNat
      build.hsiValue.toNat) :
    readings build rcm = (Tree.of build.connectivityLine rcm).frequencies build.hseValue.toNat
      build.hsiValue.toNat := by
  have sysclk := sysclk_eq build rcm fits
  have hclk : (readHclkFreq build rcm).toNat =
      (Tree.of build.connectivityLine rcm).hclk build.hseValue.toNat build.hsiValue.toNat := by
    rw [readHclkFreq, BitVec.toNat_ushiftRight, Nat.shiftRight_eq_div_pow, sysclk]
    rfl
  have pclk1 : (readPclkFreq build rcm).1.toNat =
      (Tree.of build.connectivityLine rcm).pclk1 build.hseValue.toNat build.hsiValue.toNat := by
    rw [readPclkFreq, BitVec.toNat_ushiftRight, Nat.shiftRight_eq_div_pow, hclk]
    rfl
  have pclk2 : (readPclkFreq build rcm).2.toNat =
      (Tree.of build.connectivityLine rcm).pclk2 build.hseValue.toNat build.hsiValue.toNat := by
    rw [readPclkFreq, BitVec.toNat_ushiftRight, Nat.shiftRight_eq_div_pow, hclk]
    rfl
  have adcclk : (readAdcclkFreq build rcm).toNat =
      (Tree.of build.connectivityLine rcm).adcclk build.hseValue.toNat build.hsiValue.toNat := by
    rw [readAdcclkFreq, BitVec.toNat_udiv, pclk2, adcclk_divisor]
    rfl
  rw [readings, Tree.frequencies, sysclk, hclk, pclk1, pclk2, adcclk]

end Readings

theorem of_foldl {line : Bool} (rcm : Rcm) (calls : List (Call line)) :
    Tree.of line (calls.foldl Call.run rcm) = calls.foldl Call.effect (Tree.of line rcm) := by
  induction calls generalizing rcm with
  | nil => rfl
  | cons call rest ih => rw [List.foldl_cons, List.foldl_cons, ih, of_run]

/-- After any calls the driver reads the frequencies of the tree that the calls describe. -/
theorem readings_after_calls (build : Build) (rcm : Rcm)
    (calls : List (Call build.connectivityLine))
    (fits : (calls.foldl Call.effect (Tree.of build.connectivityLine rcm)).Representable
      build.hseValue.toNat build.hsiValue.toNat) :
    readings build (calls.foldl Call.run rcm) =
      (calls.foldl Call.effect (Tree.of build.connectivityLine rcm)).frequencies
        build.hseValue.toNat build.hsiValue.toNat := by
  rw [← of_foldl] at fits ⊢
  exact readings_eq build _ fits

-- 8 MHz times 9, the slow bus at half of it.
def callsFor72M : List (Call false) :=
  [.reset, .configAHB .div1, .configAPB1 .div2, .configAPB2 .div1, .configADCCLK .div6,
    .configPLL .hse (.from2 7), .configSYSCLK .pll]

theorem readings_after_calls_72M :
    readings ⟨false, 8000000, 8000000⟩ (callsFor72M.foldl Call.run ⟨0, 0⟩) =
      ⟨72000000, 72000000, 36000000, 72000000, 12000000⟩ :=
  readings_after_calls ⟨false, 8000000, 8000000⟩ ⟨0, 0⟩ callsFor72M
    ⟨by decide +kernel, by decide +kernel⟩

end ApmSdk.StdPeriph.ClockTree
