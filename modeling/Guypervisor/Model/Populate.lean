import Guypervisor.Model.Processor
import Guypervisor.Model.Virtualization

/-! # `PopulateActiveVMCS`

The function is cut at its section comments. Sections that write the same fields for different
registers are one definition with the fields as parameters. Each section receives the status
accumulated so far and returns it combined by `|=` with the statuses of its own writes, except
where the source assigns: the pending-debug-exceptions write replaces the status.
-/

namespace Guypervisor.Model

open Effects Code

/-- The three variables `DumpVmcsGuestArea` reads every field into. -/
structure DumpValues where
  value16 : BitVec 16
  value32 : BitVec 32
  value64 : BitVec 64
deriving DecidableEq, Repr

/-- Read a field into `value_16`, ignoring the status, and print the variable. -/
def dump16 (depth : ℕ) (label : String) (encoding : VmcsFieldEncoding) (values : DumpValues) :
    Code DumpValues := do
  let (_, field) ← readVMCSFieldGeneric depth encoding (some values.value16)
  let value := field.getD values.value16
  print label (value.setWidth 64)
  return { values with value16 := value }

/-- Read a field into `value_32`, ignoring the status, and print the variable. -/
def dump32 (depth : ℕ) (label : String) (encoding : VmcsFieldEncoding) (values : DumpValues) :
    Code DumpValues := do
  let (_, field) ← readVMCSFieldGeneric depth encoding (some values.value32)
  let value := field.getD values.value32
  print label (value.setWidth 64)
  return { values with value32 := value }

/-- Read a field into `value_64`, ignoring the status, and print the variable. -/
def dump64 (depth : ℕ) (label : String) (encoding : VmcsFieldEncoding) (values : DumpValues) :
    Code DumpValues := do
  let (_, field) ← readVMCSFieldGeneric depth encoding (some values.value64)
  let value := field.getD values.value64
  print label value
  return { values with value64 := value }

def dumpVmcsGuestArea (depth : ℕ) : Code Unit := do
  let values : DumpValues := ⟨0, 0, 0⟩
  let values ← dump16 depth "VMCS_GUEST_ES_SELECTOR" .kGuestEsSelector values
  let values ← dump16 depth "VMCS_GUEST_CS_SELECTOR" .kGuestCsSelector values
  let values ← dump16 depth "VMCS_GUEST_SS_SELECTOR" .kGuestSsSelector values
  let values ← dump16 depth "VMCS_GUEST_DS_SELECTOR" .kGuestDsSelector values
  let values ← dump16 depth "VMCS_GUEST_FS_SELECTOR" .kGuestFsSelector values
  let values ← dump16 depth "VMCS_GUEST_GS_SELECTOR" .kGuestGsSelector values
  let values ← dump16 depth "VMCS_GUEST_LDTR_SELECTOR" .kGuestLdtrSelector values
  let values ← dump16 depth "VMCS_GUEST_TR_SELECTOR" .kGuestTrSelector values
  print "VMCS_GUEST_INTERRUPT_STATUS" 0
  print "VMCS_GUEST_PML_INDEX" 0
  let values ← dump64 depth "VMCS_GUEST_PHYSICAL_ADDRESS" .kGuestPhysicalAddrFull values
  let values ← dump64 depth "VMCS_GUEST_VMCS_LINK_POINTER" .kGuestVmcsLinkPtrFull values
  let values ← dump64 depth "VMCS_GUEST_DEBUGCTL" .kGuestIa32DebugCtlFull values
  let values ← dump64 depth "VMCS_GUEST_PAT" .kGuestIa32PatFull values
  let values ← dump64 depth "VMCS_GUEST_EFER" .kGuestIa32EferFull values
  let values ← dump64 depth "VMCS_GUEST_PERF_GLOBAL_CTRL" .kGuestIa32PerfGlobalCtrlFull values
  let values ← dump64 depth "VMCS_GUEST_PDPTE0" .kGuestPdpte0Full values
  let values ← dump64 depth "VMCS_GUEST_PDPTE1" .kGuestPdpte1Full values
  let values ← dump64 depth "VMCS_GUEST_PDPTE2" .kGuestPdpte2Full values
  let values ← dump64 depth "VMCS_GUEST_PDPTE3" .kGuestPdpte3Full values
  let values ← dump32 depth "VMCS_GUEST_ES_LIMIT" .kGuestEsLimit values
  let values ← dump32 depth "VMCS_GUEST_CS_LIMIT" .kGuestCsLimit values
  let values ← dump32 depth "VMCS_GUEST_SS_LIMIT" .kGuestSsLimit values
  let values ← dump32 depth "VMCS_GUEST_DS_LIMIT" .kGuestDsLimit values
  let values ← dump32 depth "VMCS_GUEST_FS_LIMIT" .kGuestFsLimit values
  let values ← dump32 depth "VMCS_GUEST_GS_LIMIT" .kGuestGsLimit values
  let values ← dump32 depth "VMCS_GUEST_LDTR_LIMIT" .kGuestLdtrLimit values
  let values ← dump32 depth "VMCS_GUEST_TR_LIMIT" .kGuestTrLimit values
  let values ← dump32 depth "VMCS_GUEST_GDTR_LIMIT" .kGuestGdtrLimit values
  let values ← dump32 depth "VMCS_GUEST_IDTR_LIMIT" .kGuestIdtrLimit values
  let values ← dump32 depth "VMCS_GUEST_ES_ACCESS_RIGHTS" .kGuestEsAccessRights values
  let values ← dump32 depth "VMCS_GUEST_CS_ACCESS_RIGHTS" .kGuestCsAccessRights values
  let values ← dump32 depth "VMCS_GUEST_SS_ACCESS_RIGHTS" .kGuestSsAccessRights values
  let values ← dump32 depth "VMCS_GUEST_DS_ACCESS_RIGHTS" .kGuestDsAccessRights values
  let values ← dump32 depth "VMCS_GUEST_FS_ACCESS_RIGHTS" .kGuestFsAccessRights values
  let values ← dump32 depth "VMCS_GUEST_GS_ACCESS_RIGHTS" .kGuestGsAccessRights values
  let values ← dump32 depth "VMCS_GUEST_LDTR_ACCESS_RIGHTS" .kGuestLdtrAccessRights values
  let values ← dump32 depth "VMCS_GUEST_TR_ACCESS_RIGHTS" .kGuestTrAccessRights values
  let values ← dump32 depth "VMCS_GUEST_INTERRUPTIBILITY_STATE" .kGuestInterruptibilityState values
  let values ← dump32 depth "VMCS_GUEST_ACTIVITY_STATE" .kGuestActivityState values
  let values ← dump32 depth "VMCS_GUEST_SMBASE" .kGuestSmbase values
  let values ← dump32 depth "VMCS_GUEST_SYSENTER_CS" .kGuestIa32SysenterCs values
  print "VMCS_GUEST_VMX_PREEMPTION_TIMER_VALUE" 0
  let values ← dump64 depth "VMCS_GUEST_CR0" .kGuestCr0 values
  let values ← dump64 depth "VMCS_GUEST_CR3" .kGuestCr3 values
  let values ← dump64 depth "VMCS_GUEST_CR4" .kGuestCr4 values
  let values ← dump64 depth "VMCS_GUEST_ES_BASE" .kGuestEsBase values
  let values ← dump64 depth "VMCS_GUEST_CS_BASE" .kGuestCsBase values
  let values ← dump64 depth "VMCS_GUEST_SS_BASE" .kGuestSsBase values
  let values ← dump64 depth "VMCS_GUEST_DS_BASE" .kGuestDsBase values
  let values ← dump64 depth "VMCS_GUEST_FS_BASE" .kGuestFsBase values
  let values ← dump64 depth "VMCS_GUEST_GS_BASE" .kGuestGsBase values
  let values ← dump64 depth "VMCS_GUEST_LDTR_BASE" .kGuestLdtrBase values
  let values ← dump64 depth "VMCS_GUEST_TR_BASE" .kGuestTrBase values
  let values ← dump64 depth "VMCS_GUEST_GDTR_BASE" .kGuestGdtrBase values
  let values ← dump64 depth "VMCS_GUEST_IDTR_BASE" .kGuestIdtrBase values
  let values ← dump64 depth "VMCS_GUEST_DR7" .kGuestDr7 values
  let values ← dump64 depth "VMCS_GUEST_RSP" .kGuestRsp values
  let values ← dump64 depth "VMCS_GUEST_RIP" .kGuestRip values
  let values ← dump64 depth "VMCS_GUEST_RFLAGS" .kGuestRFlags values
  let values ← dump64 depth "VMCS_GUEST_PENDING_DEBUG_EXCEPTIONS" .kGuestPendingDebugExceptions values
  let values ← dump64 depth "VMCS_GUEST_SYSENTER_ESP" .kGuestIa32SysenterEip values
  let _ ← dump64 depth "VMCS_GUEST_SYSENTER_EIP" .kGuestIa32SysenterEsp values

/-- VMCS link pointer, execution, exit and entry controls, activity and interruptibility state. -/
def populateControls (depth : ℕ) (status : NTSTATUS) : Code NTSTATUS := do
  let basicMsr : VmxBasicMsr ← readMsr .kIa32VmxBasic
  let consultTrueMsr := basicMsr.bit55
  let status := status ||| (← writeVMCSField64 depth .kGuestVmcsLinkPtrFull (-1))
  let secondary ← modifyControlValue .kIa32VmxProcbasedCtls2 0
  let status := status |||
    (← writeVMCSField32 depth .kControlSecondaryProcessorVmExecutionControls secondary)
  let pinBased ← modifyControlValue
    (if consultTrueMsr then .kIa32VmxTruePinbasedCtls else .kIa32VmxPinbasedCtls) 0
  let status := status ||| (← writeVMCSField32 depth .kControlPinBasedVmExecutionControls pinBased)
  -- activateSecondaryControls is bit 31
  let primary ← modifyControlValue
    (if consultTrueMsr then .kIa32VmxTrueProcbasedCtls else .kIa32VmxProcbasedCtls) 0x80000000
  let status := status |||
    (← writeVMCSField32 depth .kControlPrimaryProcessorVmExecutionControls primary)
  let status := status ||| (← writeVMCSField32 depth .kControlExceptionBitmap 0)
  -- hostAddrSpaceSize and ia32ModeGuest are bit 9
  let exit ← modifyControlValue
    (if consultTrueMsr then .kIa32VmxTrueExitCtls else .kIa32VmxExitCtls) 0x200
  let status := status ||| (← writeVMCSField32 depth .kControlVmExitControls exit)
  let entry ← modifyControlValue
    (if consultTrueMsr then .kIa32VmxTrueEntryCtls else .kIa32VmxEntryCtls) 0x200
  let status := status ||| (← writeVMCSField32 depth .kControlVmEntryControls entry)
  let status := status ||| (← writeVMCSField32 depth .kGuestActivityState 0)
  let status := status ||| (← writeVMCSField32 depth .kGuestInterruptibilityState 0)
  return status

/-- The fields written for one segment register. -/
structure SegmentFields where
  guestSelector : VmcsFieldEncoding
  guestLimit : VmcsFieldEncoding
  guestAccessRights : VmcsFieldEncoding
  guestBase : VmcsFieldEncoding
  hostSelector : VmcsFieldEncoding

def csFields : SegmentFields :=
  ⟨.kGuestCsSelector, .kGuestCsLimit, .kGuestCsAccessRights, .kGuestCsBase, .kHostCsSelector⟩
def ssFields : SegmentFields :=
  ⟨.kGuestSsSelector, .kGuestSsLimit, .kGuestSsAccessRights, .kGuestSsBase, .kHostSsSelector⟩
def dsFields : SegmentFields :=
  ⟨.kGuestDsSelector, .kGuestDsLimit, .kGuestDsAccessRights, .kGuestDsBase, .kHostDsSelector⟩
def esFields : SegmentFields :=
  ⟨.kGuestEsSelector, .kGuestEsLimit, .kGuestEsAccessRights, .kGuestEsBase, .kHostEsSelector⟩
def fsFields : SegmentFields :=
  ⟨.kGuestFsSelector, .kGuestFsLimit, .kGuestFsAccessRights, .kGuestFsBase, .kHostFsSelector⟩
def trFields : SegmentFields :=
  ⟨.kGuestTrSelector, .kGuestTrLimit, .kGuestTrAccessRights, .kGuestTrBase, .kHostTrSelector⟩

/-- The sections for CS, SS, DS and ES. -/
def populateSegment (depth : ℕ) (gdtr : DescriptorTableRegister) (fields : SegmentFields)
    (selector : BitVec 16) (status : NTSTATUS) : Code NTSTATUS := do
  let currentEntry ← readGDTEntry gdtr selector
  let status := status ||| (← writeVMCSField16 depth fields.guestSelector selector)
  let status := status ||| (← writeVMCSField32 depth fields.guestLimit currentEntry.limit)
  let status := status ||| (← writeVMCSField32 depth fields.guestAccessRights currentEntry.access)
  let status := status ||| (← writeVMCSFieldNatural depth fields.guestBase currentEntry.base)
  let status := status |||
    (← writeVMCSField16 depth fields.hostSelector (selector &&& ~~~kRplMask))
  return status

/-- The sections for FS and TR, which also write the host's base from the descriptor. -/
def populateBasedSegment (depth : ℕ) (gdtr : DescriptorTableRegister) (fields : SegmentFields)
    (hostBase : VmcsFieldEncoding) (selector : BitVec 16) (status : NTSTATUS) :
    Code NTSTATUS := do
  let currentEntry ← readGDTEntry gdtr selector
  let status := status ||| (← writeVMCSField16 depth fields.guestSelector selector)
  let status := status ||| (← writeVMCSField32 depth fields.guestLimit currentEntry.limit)
  let status := status ||| (← writeVMCSField32 depth fields.guestAccessRights currentEntry.access)
  let status := status ||| (← writeVMCSFieldNatural depth fields.guestBase currentEntry.base)
  let status := status ||| (← writeVMCSFieldNatural depth hostBase currentEntry.base)
  let status := status |||
    (← writeVMCSField16 depth fields.hostSelector (selector &&& ~~~kRplMask))
  return status

/-- The section for GS, whose bases come from `IA32_GS_BASE`. -/
def populateGs (depth : ℕ) (gdtr : DescriptorTableRegister) (selector : BitVec 16)
    (status : NTSTATUS) : Code NTSTATUS := do
  let currentEntry ← readGDTEntry gdtr selector
  let status := status ||| (← writeVMCSField16 depth .kGuestGsSelector selector)
  let status := status ||| (← writeVMCSField32 depth .kGuestGsLimit currentEntry.limit)
  let status := status ||| (← writeVMCSField32 depth .kGuestGsAccessRights currentEntry.access)
  let guestBase ← readMsr .kIa32GsBase
  let status := status ||| (← writeVMCSFieldNatural depth .kGuestGsBase guestBase)
  let hostBase ← readMsr .kIa32GsBase
  let status := status ||| (← writeVMCSFieldNatural depth .kHostGsBase hostBase)
  let status := status ||| (← writeVMCSField16 depth .kHostGsSelector (selector &&& ~~~kRplMask))
  return status

/-- The section for LDTR, which has no host fields. -/
def populateLdtr (depth : ℕ) (gdtr : DescriptorTableRegister) (selector : BitVec 16)
    (status : NTSTATUS) : Code NTSTATUS := do
  let currentEntry ← readGDTEntry gdtr selector
  let status := status ||| (← writeVMCSField16 depth .kGuestLdtrSelector selector)
  let status := status ||| (← writeVMCSField32 depth .kGuestLdtrLimit currentEntry.limit)
  let status := status ||| (← writeVMCSField32 depth .kGuestLdtrAccessRights currentEntry.access)
  let status := status ||| (← writeVMCSFieldNatural depth .kGuestLdtrBase currentEntry.base)
  return status

/-- The sections for GDTR and IDTR. -/
def populateDescriptorTables (depth : ℕ) (gdtr idtr : DescriptorTableRegister)
    (status : NTSTATUS) : Code NTSTATUS := do
  let status := status ||| (← writeVMCSField32 depth .kGuestGdtrLimit (gdtr.limit.setWidth 32))
  let status := status ||| (← writeVMCSFieldNatural depth .kGuestGdtrBase gdtr.base)
  let status := status ||| (← writeVMCSFieldNatural depth .kHostGdtrBase gdtr.base)
  let status := status ||| (← writeVMCSField32 depth .kGuestIdtrLimit (idtr.limit.setWidth 32))
  let status := status ||| (← writeVMCSFieldNatural depth .kGuestIdtrBase idtr.base)
  let status := status ||| (← writeVMCSFieldNatural depth .kHostIdtrBase idtr.base)
  return status

/-- CR0, CR3 and CR4 of guest and host, their masks and read shadows, and DR7. -/
def populateControlRegisters (depth : ℕ) (status : NTSTATUS) : Code NTSTATUS := do
  let cr0 ← readCr0
  let cr0 := cr0 ||| (← readMsr .kIa32VmxCr0Fixed0)
  let cr0 := cr0 &&& (← readMsr .kIa32VmxCr0Fixed1)
  let _ ← readCr4
  let cr4 ← readCr4
  let cr4 := cr4 ||| (← readMsr .kIa32VmxCr4Fixed0)
  let cr4 := cr4 &&& (← readMsr .kIa32VmxCr0Fixed1)
  let status := status ||| (← writeVMCSFieldNatural depth .kGuestCr0 cr0)
  let hostCr0 ← readCr0
  let status := status ||| (← writeVMCSFieldNatural depth .kHostCr0 hostCr0)
  let status := status ||| (← writeVMCSFieldNatural depth .kControlCr0Mask 0)
  let status := status ||| (← writeVMCSFieldNatural depth .kControlCr0ReadShadow cr0)
  let cr3 ← readCr3
  let status := status ||| (← writeVMCSFieldNatural depth .kGuestCr3 cr3)
  let status := status ||| (← writeVMCSFieldNatural depth .kHostCr3 cr3)
  let status := status ||| (← writeVMCSFieldNatural depth .kGuestCr4 cr4)
  let hostCr4 ← readCr4
  let status := status ||| (← writeVMCSFieldNatural depth .kHostCr4 hostCr4)
  let status := status ||| (← writeVMCSFieldNatural depth .kControlCr4Mask 0)
  let status := status ||| (← writeVMCSFieldNatural depth .kControlCr4ReadShadow cr4)
  let dr7 ← readDr7
  let status := status ||| (← writeVMCSFieldNatural depth .kGuestDr7 dr7)
  return status

/-- RSP, RIP and RFLAGS of guest and host; both stack pointers are taken from local arrays of
4096 bytes. -/
def populateContexts (depth : ℕ) (status : NTSTATUS) : Code NTSTATUS := do
  let guestStack ← localAddress .guestStack
  let hostStack ← localAddress .hostStack
  let rflags ← readEflags
  let status := status ||| (← writeVMCSFieldNatural depth .kGuestRsp (guestStack + 4096 - 8))
  let guestCode ← symbolAddress .guestCode
  let status := status ||| (← writeVMCSFieldNatural depth .kGuestRip guestCode)
  let status := status ||| (← writeVMCSFieldNatural depth .kGuestRFlags rflags)
  let status := status ||| (← writeVMCSFieldNatural depth .kHostRsp (hostStack + 4096 - 8))
  let vmexitHandler ← symbolAddress .vmexitHandler
  let status := status ||| (← writeVMCSFieldNatural depth .kHostRip vmexitHandler)
  return status

/-- The three SYSENTER registers of guest and host. -/
def populateSysenter (depth : ℕ) (status : NTSTATUS) : Code NTSTATUS := do
  let sysenterCsMsr ← readMsr .kIa32SysenterCs
  let sysenterEspMsr ← readMsr .kIa32SysenterEsp
  let sysenterEipMsr ← readMsr .kIa32SysenterEip
  let status := status |||
    (← writeVMCSField32 depth .kHostIa32SysenterCs (sysenterCsMsr.setWidth 32))
  let status := status |||
    (← writeVMCSField32 depth .kGuestIa32SysenterCs (sysenterCsMsr.setWidth 32))
  let status := status ||| (← writeVMCSFieldNatural depth .kGuestIa32SysenterEsp sysenterEspMsr)
  let status := status ||| (← writeVMCSFieldNatural depth .kGuestIa32SysenterEip sysenterEipMsr)
  let status := status ||| (← writeVMCSFieldNatural depth .kHostIa32SysenterEsp sysenterEspMsr)
  let status := status ||| (← writeVMCSFieldNatural depth .kHostIa32SysenterEip sysenterEipMsr)
  return status

def populateActiveVMCS (depth : ℕ) : Code NTSTATUS := call .populateActiveVMCS do
  let _ ← populateControls depth statusSuccess
  let status ← writeVMCSFieldNatural depth .kGuestPendingDebugExceptions 0
  let segmentSelector ← loadSegmentSelectors
  let gdtr ← sgdt
  let idtr ← sidt
  let status ← populateSegment depth gdtr csFields segmentSelector.cs status
  let status ← populateSegment depth gdtr ssFields segmentSelector.ss status
  let status ← populateSegment depth gdtr dsFields segmentSelector.ds status
  let status ← populateSegment depth gdtr esFields segmentSelector.es status
  let status ← populateBasedSegment depth gdtr fsFields .kHostFsBase segmentSelector.fs status
  let status ← populateGs depth gdtr segmentSelector.gs status
  let status ← populateBasedSegment depth gdtr trFields .kHostTrBase segmentSelector.tr status
  let status ← populateLdtr depth gdtr segmentSelector.ldtr status
  let status ← populateDescriptorTables depth gdtr idtr status
  let status ← populateControlRegisters depth status
  let status ← populateContexts depth status
  let status ← populateSysenter depth status
  dumpVmcsGuestArea depth
  return status

end Guypervisor.Model
