import Mathlib.Data.BitVec

/-! # Model-specific registers

`IntelMsr` lists the registers `msr.h` names, with the addresses it gives them: `ReadMsr` hands
the enumerator to `RDMSR` as a number, so a register file is keyed by address and an enumerator
reads whatever lives at its own. The unions that `msr.h` lays over a register are modelled by
their bit positions, allocated from the least significant bit in declaration order.
-/

namespace Guypervisor.Model

/-- `msr::intel_e`. -/
inductive IntelMsr
  | kIa32FeatureControl
  | kIa32VmxBasic
  | kIa32VmxCr0Fixed0
  | kIa32VmxCr0Fixed1
  | kIa32VmxCr4Fixed0
  | kIa32VmxCr4Fixed1
  | kIa32SysenterCs
  | kIa32SysenterEsp
  | kIa32SysenterEip
  | kIa32VmxPinbasedCtls
  | kIa32VmxTruePinbasedCtls
  | kIa32VmxProcbasedCtls
  | kIa32VmxTrueProcbasedCtls
  | kIa32VmxProcbasedCtls2
  | kIa32VmxEntryCtls
  | kIa32VmxTrueEntryCtls
  | kIa32VmxExitCtls
  | kIa32VmxTrueExitCtls
  | kIa32FsBase
  | kIa32GsBase
deriving DecidableEq, Repr

namespace IntelMsr

/-- The value of each enumerator, which is the register's address. -/
def address : IntelMsr → BitVec 32
  | kIa32FeatureControl => 0x3A
  | kIa32VmxBasic => 0x480
  | kIa32VmxCr0Fixed0 => 0x486
  | kIa32VmxCr0Fixed1 => 0x487
  | kIa32VmxCr4Fixed0 => 0x488
  | kIa32VmxCr4Fixed1 => 0x489
  | kIa32SysenterCs => 0x174
  | kIa32SysenterEsp => 0x175
  | kIa32SysenterEip => 0x176
  | kIa32VmxPinbasedCtls => 0x481
  | kIa32VmxTruePinbasedCtls => 0x48D
  | kIa32VmxProcbasedCtls => 0x482
  | kIa32VmxTrueProcbasedCtls => 0x48E
  | kIa32VmxProcbasedCtls2 => 0x48B
  | kIa32VmxEntryCtls => 0x484
  | kIa32VmxTrueEntryCtls => 0x490
  | kIa32VmxExitCtls => 0x483
  | kIa32VmxTrueExitCtls => 0x48F
  | kIa32FsBase => 0xC0000100
  | kIa32GsBase => 0xC0000101

end IntelMsr

/-- Views of `FeatureControlMsr`: `lock` is bit 0, `enable_smx` bit 1, `enable_vmxon` bit 2. -/
abbrev FeatureControlMsr := BitVec 64

namespace FeatureControlMsr

def lock (msr : FeatureControlMsr) : Bool := msr.getLsbD 0

/-- `bitfield.lock = 1`. -/
def setLock (msr : FeatureControlMsr) : FeatureControlMsr := msr ||| 0x1
/-- `bitfield.enable_smx = 1`. -/
def setEnableSmx (msr : FeatureControlMsr) : FeatureControlMsr := msr ||| 0x2
/-- `bitfield.enable_vmxon = 1`. -/
def setEnableVmxon (msr : FeatureControlMsr) : FeatureControlMsr := msr ||| 0x4

@[simp] theorem lock_setLock (msr : FeatureControlMsr) : msr.setLock.lock = true := by
  simp [lock, setLock]

@[simp] theorem lock_setEnableSmx (msr : FeatureControlMsr) :
    msr.setEnableSmx.lock = msr.lock := by
  simp [lock, setEnableSmx]

@[simp] theorem lock_setEnableVmxon (msr : FeatureControlMsr) :
    msr.setEnableVmxon.lock = msr.lock := by
  simp [lock, setEnableVmxon]

end FeatureControlMsr

/-- Views of `VmxBasicMsr`: `fields.revision_id` is the low half, `bitfield.bit55` is bit 55. -/
abbrev VmxBasicMsr := BitVec 64

namespace VmxBasicMsr

def revisionId (msr : VmxBasicMsr) : BitVec 32 := msr.setWidth 32
def bit55 (msr : VmxBasicMsr) : Bool := msr.getLsbD 55

end VmxBasicMsr

end Guypervisor.Model
