import Guypervisor.Model.Populate

/-! # The lines of the dump

`DumpVmcsGuestArea` repeats two statements: a field is read into one of three variables and the
variable is printed, or a zero is printed for a field that is not read. `dumpLines` lists them.
-/

namespace Guypervisor.Proofs

open Effects Model Code

/-- A variable of `DumpVmcsGuestArea`. -/
inductive DumpVariable
  | value16 | value32 | value64
deriving DecidableEq, Repr

def DumpVariable.bits : DumpVariable → ℕ
  | value16 => 16
  | value32 => 32
  | value64 => 64

inductive DumpLine
  | field (label : String) (destination : DumpVariable) (encoding : VmcsFieldEncoding)
  | zero (label : String)
deriving DecidableEq, Repr

namespace DumpLine

def run (depth : ℕ) (values : DumpValues) : DumpLine → Code DumpValues
  | field label .value16 encoding => dump16 depth label encoding values
  | field label .value32 encoding => dump32 depth label encoding values
  | field label .value64 encoding => dump64 depth label encoding values
  | zero label => do
    print label 0
    return values

/-- What a line is printed with. -/
def label : DumpLine → String
  | field label _ _ => label
  | zero label => label

/-- The field a line reads, and the variable it is read into. -/
def reads : DumpLine → Option (VmcsFieldEncoding × DumpVariable)
  | field _ destination encoding => some (encoding, destination)
  | zero _ => none

end DumpLine

/-- Lines one after the other. -/
def dumpAll (depth : ℕ) : List DumpLine → DumpValues → Code Unit
  | [], _ => return ()
  | line :: rest, values => do
    let values ← line.run depth values
    dumpAll depth rest values

def dumpLines : List DumpLine :=
  [.field "VMCS_GUEST_ES_SELECTOR" .value16 .kGuestEsSelector,
   .field "VMCS_GUEST_CS_SELECTOR" .value16 .kGuestCsSelector,
   .field "VMCS_GUEST_SS_SELECTOR" .value16 .kGuestSsSelector,
   .field "VMCS_GUEST_DS_SELECTOR" .value16 .kGuestDsSelector,
   .field "VMCS_GUEST_FS_SELECTOR" .value16 .kGuestFsSelector,
   .field "VMCS_GUEST_GS_SELECTOR" .value16 .kGuestGsSelector,
   .field "VMCS_GUEST_LDTR_SELECTOR" .value16 .kGuestLdtrSelector,
   .field "VMCS_GUEST_TR_SELECTOR" .value16 .kGuestTrSelector,
   .zero "VMCS_GUEST_INTERRUPT_STATUS",
   .zero "VMCS_GUEST_PML_INDEX",
   .field "VMCS_GUEST_PHYSICAL_ADDRESS" .value64 .kGuestPhysicalAddrFull,
   .field "VMCS_GUEST_VMCS_LINK_POINTER" .value64 .kGuestVmcsLinkPtrFull,
   .field "VMCS_GUEST_DEBUGCTL" .value64 .kGuestIa32DebugCtlFull,
   .field "VMCS_GUEST_PAT" .value64 .kGuestIa32PatFull,
   .field "VMCS_GUEST_EFER" .value64 .kGuestIa32EferFull,
   .field "VMCS_GUEST_PERF_GLOBAL_CTRL" .value64 .kGuestIa32PerfGlobalCtrlFull,
   .field "VMCS_GUEST_PDPTE0" .value64 .kGuestPdpte0Full,
   .field "VMCS_GUEST_PDPTE1" .value64 .kGuestPdpte1Full,
   .field "VMCS_GUEST_PDPTE2" .value64 .kGuestPdpte2Full,
   .field "VMCS_GUEST_PDPTE3" .value64 .kGuestPdpte3Full,
   .field "VMCS_GUEST_ES_LIMIT" .value32 .kGuestEsLimit,
   .field "VMCS_GUEST_CS_LIMIT" .value32 .kGuestCsLimit,
   .field "VMCS_GUEST_SS_LIMIT" .value32 .kGuestSsLimit,
   .field "VMCS_GUEST_DS_LIMIT" .value32 .kGuestDsLimit,
   .field "VMCS_GUEST_FS_LIMIT" .value32 .kGuestFsLimit,
   .field "VMCS_GUEST_GS_LIMIT" .value32 .kGuestGsLimit,
   .field "VMCS_GUEST_LDTR_LIMIT" .value32 .kGuestLdtrLimit,
   .field "VMCS_GUEST_TR_LIMIT" .value32 .kGuestTrLimit,
   .field "VMCS_GUEST_GDTR_LIMIT" .value32 .kGuestGdtrLimit,
   .field "VMCS_GUEST_IDTR_LIMIT" .value32 .kGuestIdtrLimit,
   .field "VMCS_GUEST_ES_ACCESS_RIGHTS" .value32 .kGuestEsAccessRights,
   .field "VMCS_GUEST_CS_ACCESS_RIGHTS" .value32 .kGuestCsAccessRights,
   .field "VMCS_GUEST_SS_ACCESS_RIGHTS" .value32 .kGuestSsAccessRights,
   .field "VMCS_GUEST_DS_ACCESS_RIGHTS" .value32 .kGuestDsAccessRights,
   .field "VMCS_GUEST_FS_ACCESS_RIGHTS" .value32 .kGuestFsAccessRights,
   .field "VMCS_GUEST_GS_ACCESS_RIGHTS" .value32 .kGuestGsAccessRights,
   .field "VMCS_GUEST_LDTR_ACCESS_RIGHTS" .value32 .kGuestLdtrAccessRights,
   .field "VMCS_GUEST_TR_ACCESS_RIGHTS" .value32 .kGuestTrAccessRights,
   .field "VMCS_GUEST_INTERRUPTIBILITY_STATE" .value32 .kGuestInterruptibilityState,
   .field "VMCS_GUEST_ACTIVITY_STATE" .value32 .kGuestActivityState,
   .field "VMCS_GUEST_SMBASE" .value32 .kGuestSmbase,
   .field "VMCS_GUEST_SYSENTER_CS" .value32 .kGuestIa32SysenterCs,
   .zero "VMCS_GUEST_VMX_PREEMPTION_TIMER_VALUE",
   .field "VMCS_GUEST_CR0" .value64 .kGuestCr0,
   .field "VMCS_GUEST_CR3" .value64 .kGuestCr3,
   .field "VMCS_GUEST_CR4" .value64 .kGuestCr4,
   .field "VMCS_GUEST_ES_BASE" .value64 .kGuestEsBase,
   .field "VMCS_GUEST_CS_BASE" .value64 .kGuestCsBase,
   .field "VMCS_GUEST_SS_BASE" .value64 .kGuestSsBase,
   .field "VMCS_GUEST_DS_BASE" .value64 .kGuestDsBase,
   .field "VMCS_GUEST_FS_BASE" .value64 .kGuestFsBase,
   .field "VMCS_GUEST_GS_BASE" .value64 .kGuestGsBase,
   .field "VMCS_GUEST_LDTR_BASE" .value64 .kGuestLdtrBase,
   .field "VMCS_GUEST_TR_BASE" .value64 .kGuestTrBase,
   .field "VMCS_GUEST_GDTR_BASE" .value64 .kGuestGdtrBase,
   .field "VMCS_GUEST_IDTR_BASE" .value64 .kGuestIdtrBase,
   .field "VMCS_GUEST_DR7" .value64 .kGuestDr7,
   .field "VMCS_GUEST_RSP" .value64 .kGuestRsp,
   .field "VMCS_GUEST_RIP" .value64 .kGuestRip,
   .field "VMCS_GUEST_RFLAGS" .value64 .kGuestRFlags,
   .field "VMCS_GUEST_PENDING_DEBUG_EXCEPTIONS" .value64 .kGuestPendingDebugExceptions,
   .field "VMCS_GUEST_SYSENTER_ESP" .value64 .kGuestIa32SysenterEip,
   .field "VMCS_GUEST_SYSENTER_EIP" .value64 .kGuestIa32SysenterEsp]

theorem dumpVmcsGuestArea_eq (depth : ℕ) :
    dumpVmcsGuestArea depth = dumpAll depth dumpLines ⟨0, 0, 0⟩ := rfl

/-- The fields the dump reads. -/
def dumpReads : List (VmcsFieldEncoding × DumpVariable) := dumpLines.filterMap DumpLine.reads

end Guypervisor.Proofs
