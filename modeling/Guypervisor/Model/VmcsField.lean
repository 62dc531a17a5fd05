import Mathlib.Data.BitVec
import Mathlib.Data.List.Nodup

/-! # VMCS fields

`VmcsFieldEncoding` lists the enumerators of `vmcs_field_encoding` that the driver's code writes
or reads, and the control fields VM entry and exit consult on every processor. `VMREAD` and
`VMWRITE` name a field by the enumerator's value, so a VMCS is keyed by that value: two
enumerators are the same field exactly when their encodings agree. Bits 14:13 of the encoding
give the width the field keeps.
-/

namespace Guypervisor.Model

/-- The enumerators of `vmcs_field_encoding` in use. -/
inductive VmcsFieldEncoding
  | kGuestEsSelector
  | kGuestCsSelector
  | kGuestSsSelector
  | kGuestDsSelector
  | kGuestFsSelector
  | kGuestGsSelector
  | kGuestLdtrSelector
  | kGuestTrSelector
  | kHostEsSelector
  | kHostCsSelector
  | kHostSsSelector
  | kHostDsSelector
  | kHostFsSelector
  | kHostGsSelector
  | kHostTrSelector
  | kGuestPhysicalAddrFull
  | kGuestVmcsLinkPtrFull
  | kGuestIa32DebugCtlFull
  | kGuestIa32PatFull
  | kGuestIa32EferFull
  | kGuestIa32PerfGlobalCtrlFull
  | kGuestPdpte0Full
  | kGuestPdpte1Full
  | kGuestPdpte2Full
  | kGuestPdpte3Full
  | kControlPinBasedVmExecutionControls
  | kControlPrimaryProcessorVmExecutionControls
  | kControlExceptionBitmap
  | kControlPageFaultErrorCodeMask
  | kControlPageFaultErrorCodeMatch
  | kControlCr3TargetCount
  | kControlVmExitControls
  | kControlVmExitMsrStoreCount
  | kControlVmExitMsrLoadCount
  | kControlVmEntryControls
  | kControlVmEntryMsrLoadCount
  | kControlVmEntryInterruptionInformationField
  | kControlSecondaryProcessorVmExecutionControls
  | kVmInstructionError
  | kExitReason
  | kVmExitInstructionLength
  | kGuestEsLimit
  | kGuestCsLimit
  | kGuestSsLimit
  | kGuestDsLimit
  | kGuestFsLimit
  | kGuestGsLimit
  | kGuestLdtrLimit
  | kGuestTrLimit
  | kGuestGdtrLimit
  | kGuestIdtrLimit
  | kGuestEsAccessRights
  | kGuestCsAccessRights
  | kGuestSsAccessRights
  | kGuestDsAccessRights
  | kGuestFsAccessRights
  | kGuestGsAccessRights
  | kGuestLdtrAccessRights
  | kGuestTrAccessRights
  | kGuestInterruptibilityState
  | kGuestActivityState
  | kGuestSmbase
  | kGuestIa32SysenterCs
  | kHostIa32SysenterCs
  | kControlCr0Mask
  | kControlCr4Mask
  | kControlCr0ReadShadow
  | kControlCr4ReadShadow
  | kGuestCr0
  | kGuestCr3
  | kGuestCr4
  | kGuestEsBase
  | kGuestCsBase
  | kGuestSsBase
  | kGuestDsBase
  | kGuestFsBase
  | kGuestGsBase
  | kGuestLdtrBase
  | kGuestTrBase
  | kGuestGdtrBase
  | kGuestIdtrBase
  | kGuestDr7
  | kGuestRsp
  | kGuestRip
  | kGuestRFlags
  | kGuestPendingDebugExceptions
  | kGuestIa32SysenterEsp
  | kGuestIa32SysenterEip
  | kHostCr0
  | kHostCr3
  | kHostCr4
  | kHostFsBase
  | kHostGsBase
  | kHostTrBase
  | kHostGdtrBase
  | kHostIdtrBase
  | kHostIa32SysenterEsp
  | kHostIa32SysenterEip
  | kHostRsp
  | kHostRip
deriving DecidableEq, Repr

namespace VmcsFieldEncoding

/-- The value of each enumerator. -/
def encoding : VmcsFieldEncoding → BitVec 32
  | kGuestEsSelector => 0x0800
  | kGuestCsSelector => 0x0802
  | kGuestSsSelector => 0x0804
  | kGuestDsSelector => 0x0806
  | kGuestFsSelector => 0x0808
  | kGuestGsSelector => 0x080A
  | kGuestLdtrSelector => 0x080C
  | kGuestTrSelector => 0x080E
  | kHostEsSelector => 0x0C00
  | kHostCsSelector => 0x0C02
  | kHostSsSelector => 0x0C04
  | kHostDsSelector => 0x0C06
  | kHostFsSelector => 0x0C08
  | kHostGsSelector => 0x0C0A
  | kHostTrSelector => 0x0C0C
  | kGuestPhysicalAddrFull => 0x2400
  | kGuestVmcsLinkPtrFull => 0x2800
  | kGuestIa32DebugCtlFull => 0x2802
  | kGuestIa32PatFull => 0x2804
  | kGuestIa32EferFull => 0x2806
  | kGuestIa32PerfGlobalCtrlFull => 0x2808
  | kGuestPdpte0Full => 0x280A
  | kGuestPdpte1Full => 0x280C
  | kGuestPdpte2Full => 0x280E
  | kGuestPdpte3Full => 0x2810
  | kControlPinBasedVmExecutionControls => 0x4000
  | kControlPrimaryProcessorVmExecutionControls => 0x4002
  | kControlExceptionBitmap => 0x4004
  | kControlPageFaultErrorCodeMask => 0x4006
  | kControlPageFaultErrorCodeMatch => 0x4008
  | kControlCr3TargetCount => 0x400A
  | kControlVmExitControls => 0x400C
  | kControlVmExitMsrStoreCount => 0x400E
  | kControlVmExitMsrLoadCount => 0x4010
  | kControlVmEntryControls => 0x4012
  | kControlVmEntryMsrLoadCount => 0x4014
  | kControlVmEntryInterruptionInformationField => 0x4016
  | kControlSecondaryProcessorVmExecutionControls => 0x401E
  | kVmInstructionError => 0x4400
  | kExitReason => 0x4402
  | kVmExitInstructionLength => 0x440C
  | kGuestEsLimit => 0x4800
  | kGuestCsLimit => 0x4802
  | kGuestSsLimit => 0x4804
  | kGuestDsLimit => 0x4806
  | kGuestFsLimit => 0x4808
  | kGuestGsLimit => 0x480A
  | kGuestLdtrLimit => 0x480C
  | kGuestTrLimit => 0x480E
  | kGuestGdtrLimit => 0x4810
  | kGuestIdtrLimit => 0x4812
  | kGuestEsAccessRights => 0x4814
  | kGuestCsAccessRights => 0x4816
  | kGuestSsAccessRights => 0x4818
  | kGuestDsAccessRights => 0x481A
  | kGuestFsAccessRights => 0x481C
  | kGuestGsAccessRights => 0x481E
  | kGuestLdtrAccessRights => 0x4820
  | kGuestTrAccessRights => 0x4822
  | kGuestInterruptibilityState => 0x4824
  | kGuestActivityState => 0x4826
  | kGuestSmbase => 0x4828
  | kGuestIa32SysenterCs => 0x482A
  | kHostIa32SysenterCs => 0x4C00
  | kControlCr0Mask => 0x6000
  | kControlCr4Mask => 0x6002
  | kControlCr0ReadShadow => 0x6004
  | kControlCr4ReadShadow => 0x6006
  | kGuestCr0 => 0x6800
  | kGuestCr3 => 0x6802
  | kGuestCr4 => 0x6804
  | kGuestEsBase => 0x6806
  | kGuestCsBase => 0x6808
  | kGuestSsBase => 0x680A
  | kGuestDsBase => 0x680C
  | kGuestFsBase => 0x680E
  | kGuestGsBase => 0x6810
  | kGuestLdtrBase => 0x6812
  | kGuestTrBase => 0x6814
  | kGuestGdtrBase => 0x6816
  | kGuestIdtrBase => 0x6818
  | kGuestDr7 => 0x681A
  | kGuestRsp => 0x681C
  | kGuestRip => 0x681E
  | kGuestRFlags => 0x6820
  | kGuestPendingDebugExceptions => 0x6822
  | kGuestIa32SysenterEsp => 0x6824
  | kGuestIa32SysenterEip => 0x6826
  | kHostCr0 => 0x6C00
  | kHostCr3 => 0x6C02
  | kHostCr4 => 0x6C04
  | kHostFsBase => 0x6C06
  | kHostGsBase => 0x6C08
  | kHostTrBase => 0x6C0A
  | kHostGdtrBase => 0x6C0C
  | kHostIdtrBase => 0x6C0E
  | kHostIa32SysenterEsp => 0x6C10
  | kHostIa32SysenterEip => 0x6C12
  | kHostRsp => 0x6C14
  | kHostRip => 0x6C16

/-- All enumerators in use, in increasing order of encoding. -/
def all : List VmcsFieldEncoding :=
  [.kGuestEsSelector, .kGuestCsSelector, .kGuestSsSelector, .kGuestDsSelector, .kGuestFsSelector,
   .kGuestGsSelector, .kGuestLdtrSelector, .kGuestTrSelector, .kHostEsSelector, .kHostCsSelector,
   .kHostSsSelector, .kHostDsSelector, .kHostFsSelector, .kHostGsSelector, .kHostTrSelector,
   .kGuestPhysicalAddrFull, .kGuestVmcsLinkPtrFull, .kGuestIa32DebugCtlFull, .kGuestIa32PatFull,
   .kGuestIa32EferFull, .kGuestIa32PerfGlobalCtrlFull, .kGuestPdpte0Full, .kGuestPdpte1Full,
   .kGuestPdpte2Full, .kGuestPdpte3Full, .kControlPinBasedVmExecutionControls,
   .kControlPrimaryProcessorVmExecutionControls, .kControlExceptionBitmap,
   .kControlPageFaultErrorCodeMask, .kControlPageFaultErrorCodeMatch, .kControlCr3TargetCount,
   .kControlVmExitControls, .kControlVmExitMsrStoreCount, .kControlVmExitMsrLoadCount,
   .kControlVmEntryControls, .kControlVmEntryMsrLoadCount,
   .kControlVmEntryInterruptionInformationField, .kControlSecondaryProcessorVmExecutionControls,
   .kVmInstructionError, .kExitReason, .kVmExitInstructionLength, .kGuestEsLimit, .kGuestCsLimit,
   .kGuestSsLimit, .kGuestDsLimit, .kGuestFsLimit, .kGuestGsLimit, .kGuestLdtrLimit, .kGuestTrLimit,
   .kGuestGdtrLimit, .kGuestIdtrLimit, .kGuestEsAccessRights, .kGuestCsAccessRights,
   .kGuestSsAccessRights, .kGuestDsAccessRights, .kGuestFsAccessRights, .kGuestGsAccessRights,
   .kGuestLdtrAccessRights, .kGuestTrAccessRights, .kGuestInterruptibilityState,
   .kGuestActivityState, .kGuestSmbase, .kGuestIa32SysenterCs, .kHostIa32SysenterCs,
   .kControlCr0Mask, .kControlCr4Mask, .kControlCr0ReadShadow, .kControlCr4ReadShadow, .kGuestCr0,
   .kGuestCr3, .kGuestCr4, .kGuestEsBase, .kGuestCsBase, .kGuestSsBase, .kGuestDsBase,
   .kGuestFsBase, .kGuestGsBase, .kGuestLdtrBase, .kGuestTrBase, .kGuestGdtrBase, .kGuestIdtrBase,
   .kGuestDr7, .kGuestRsp, .kGuestRip, .kGuestRFlags, .kGuestPendingDebugExceptions,
   .kGuestIa32SysenterEsp, .kGuestIa32SysenterEip, .kHostCr0, .kHostCr3, .kHostCr4, .kHostFsBase,
   .kHostGsBase, .kHostTrBase, .kHostGdtrBase, .kHostIdtrBase, .kHostIa32SysenterEsp,
   .kHostIa32SysenterEip, .kHostRsp, .kHostRip]

theorem mem_all (field : VmcsFieldEncoding) : field ∈ all := by
  cases field <;> decide

/-- No two enumerators in use share a value: distinct names are distinct fields. -/
theorem encoding_injective : Function.Injective encoding := by
  have distinct : (all.map encoding).Nodup := by decide +kernel
  intro first second same
  exact List.inj_on_of_nodup_map distinct (mem_all first) (mem_all second) same

end VmcsFieldEncoding

/-- The field widths of VMX, as bits 14:13 of an encoding say. -/
def fieldBits (encoding : BitVec 32) : ℕ :=
  if (encoding >>> 13) &&& 3 = 0 then 16
  else if (encoding >>> 13) &&& 3 = 2 then 32
  else 64

/-- The contents of one VMCS: the value each encoding keeps. -/
def Vmcs : Type := BitVec 32 → BitVec 64

namespace Vmcs

/-- `VMREAD` of a field. -/
def read (vmcs : Vmcs) (field : VmcsFieldEncoding) : BitVec 64 := vmcs field.encoding

/-- What a field keeps of a 64-bit operand. -/
def kept (field : VmcsFieldEncoding) (value : BitVec 64) : BitVec 64 :=
  (value.setWidth (fieldBits field.encoding)).setWidth 64

/-- A successful `VMWRITE` changes one encoding, truncating to the field's width. -/
def write (vmcs : Vmcs) (field : VmcsFieldEncoding) (value : BitVec 64) : Vmcs :=
  fun encoding => if encoding = field.encoding then kept field value else vmcs encoding

theorem read_write (vmcs : Vmcs) (field : VmcsFieldEncoding) (value : BitVec 64) :
    (vmcs.write field value).read = Function.update vmcs.read field (kept field value) := by
  funext other
  by_cases same : other = field
  · simp [read, write, same]
  · simp [read, write, same, VmcsFieldEncoding.encoding_injective.ne same]

@[simp] theorem kept_of_natural {field : VmcsFieldEncoding} (width : fieldBits field.encoding = 64)
    (value : BitVec 64) : kept field value = value := by
  simp [kept, width]

/-- A value no wider than its field is kept whole. -/
theorem kept_of_fits {w : ℕ} {field : VmcsFieldEncoding} (fits : w ≤ fieldBits field.encoding)
    (value : BitVec w) : kept field (value.setWidth 64) = value.setWidth 64 := by
  apply BitVec.eq_of_getLsbD_eq
  intro i bound
  simp only [kept, BitVec.getLsbD_setWidth, bound, decide_true, Bool.true_and]
  by_cases within : i < fieldBits field.encoding
  · simp [within]
  · have past : value.getLsbD i = false := BitVec.getLsbD_of_ge value i (by omega)
    simp [past]

end Vmcs

end Guypervisor.Model
