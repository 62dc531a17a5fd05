import Guypervisor.Effects.Environment
import Guypervisor.Model.Msr
import Guypervisor.Model.Status
import Guypervisor.Model.VmcsField

/-! # What the driver asks of the processor and of the kernel

Every effect of the driver's code is one operation of this interface: a privileged or VMX
instruction, an access to memory or to the driver's own variables, a kernel routine, or the entry
to and return from one of the routines of `virtualization.cpp`. The driver's functions are
programs over it, so nothing about the processor, the kernel or the initial memory is built into
them. Two operations have no response: `guest`, when a VM entry has succeeded and the calling
code is not resumed, and `overflow`, when a nested call finds no kernel stack left.
-/

namespace Guypervisor.Model

open Effects

/-- How a VMX instruction ends: VMsucceed, VMfailInvalid or VMfailValid. -/
inductive VmxOutcome
  | succeed
  | failInvalid
  | failValid
deriving DecidableEq, Repr, Inhabited

/-- The value the compiler's intrinsic returns: 1 when the VM-instruction error field says why
the instruction failed, 2 when no status is available. -/
def VmxOutcome.operationStatus : VmxOutcome → BitVec 8
  | succeed => 0
  | failInvalid => 2
  | failValid => 1

/-- `CF`, `PF`, `AF`, `ZF`, `SF` and `OF`, which arithmetic and VMX instructions set anew. -/
def statusFlags : BitVec 64 := 0x8D5

/-- Two values of `RFLAGS` agree in all other flags. -/
def SameFlags (first second : BitVec 64) : Prop := first &&& ~~~statusFlags = second &&& ~~~statusFlags

instance (first second : BitVec 64) : Decidable (SameFlags first second) :=
  inferInstanceAs (Decidable (_ = _))

theorem SameFlags.refl (flags : BitVec 64) : SameFlags flags flags := rfl

/-- Setting status flags leaves the other flags alone. -/
theorem sameFlags_or (flags : BitVec 64) {status : BitVec 64}
    (inside : status &&& ~~~statusFlags = 0#64) : SameFlags (flags ||| status) flags := by
  rw [SameFlags, BitVec.and_or_distrib_right, inside, BitVec.or_zero]

/-- Each of these flags is the same. -/
theorem SameFlags.getLsbD_eq {first second : BitVec 64} (same : SameFlags first second) {flag : ℕ}
    (other : statusFlags.getLsbD flag = false) : first.getLsbD flag = second.getLsbD flag := by
  by_cases bound : flag < 64
  · have both := congrArg (·.getLsbD flag) same
    simpa only [BitVec.getLsbD_and, BitVec.getLsbD_not, bound, other, decide_true, Bool.not_false,
      Bool.and_true] using both
  · rw [BitVec.getLsbD_of_ge _ _ (by omega), BitVec.getLsbD_of_ge _ _ (by omega)]

theorem sameFlags_of_getLsbD {first second : BitVec 64}
    (same : ∀ flag, statusFlags.getLsbD flag = false → first.getLsbD flag = second.getLsbD flag) :
    SameFlags first second := by
  apply BitVec.eq_of_getLsbD_eq
  intro flag bound
  simp only [BitVec.getLsbD_and, BitVec.getLsbD_not, bound, decide_true, Bool.true_and]
  cases other : statusFlags.getLsbD flag with
  | true => simp
  | false => rw [same flag other]

/-- The selector registers `LoadSegmentSelectors` stores. -/
inductive SegmentRegister
  | es | cs | ss | ds | fs | gs | ldtr | tr
deriving DecidableEq, Repr

/-- `processor::GDTR` and `processor::IDTR`. -/
structure DescriptorTableRegister where
  limit : BitVec 16
  base : BitVec 64
deriving DecidableEq, Repr

/-- The four registers `CPUID` writes. -/
structure CpuInfo where
  eax : BitVec 32
  ebx : BitVec 32
  ecx : BitVec 32
  edx : BitVec 32
deriving DecidableEq, Repr

/-- Pointers and physical addresses. -/
abbrev Address := BitVec 64

/-- The members of `processor_context::processorContext`. -/
inductive ContextField
  | vmxonRegion | vmcsRegion | eptPml4Entries | msrBitmap | guestStack | hostStack
deriving DecidableEq, Repr

/-- The local arrays of `PopulateActiveVMCS`. -/
inductive LocalArray
  | guestStack | hostStack
deriving DecidableEq, Repr

/-- The symbols whose addresses go into the VMCS. -/
inductive Symbol
  | guestCode | vmexitHandler
deriving DecidableEq, Repr

/-- The routines whose frames are told apart. -/
inductive Routine
  | enterVmxHandler | enterVmxonMode | initializeVMCS | populateActiveVMCS | launchGuest
  | clearActiveVMCS
deriving DecidableEq, Repr

/-- One effect of the driver's code. -/
inductive Op
  | readCr0 | writeCr0 (value : BitVec 64) | readCr3 | readCr4 | writeCr4 (value : BitVec 64)
  | readDr7 | readEflags
  | readMsr (msr : IntelMsr) | writeMsr (msr : IntelMsr) (value : BitVec 64)
  | cpuid (leaf : BitVec 32)
  | readSelector (register : SegmentRegister) | sgdt | sidt
  | segmentLimit (selector : BitVec 16) | lar (selector : BitVec 16)
  | vmxon (region : Address) | vmxoff | vmclear (region : Address) | vmptrld (region : Address)
  | vmptrst | vmwrite (field : VmcsFieldEncoding) (value : BitVec 64)
  | vmread (field : VmcsFieldEncoding) | vmlaunch | vmresume
  | guest | overflow
  | load32 (address : Address) | store32 (address : Address) (value : BitVec 32)
  | load64 (address : Address) | store64 (address : Address) (value : BitVec 64)
  | zeroMemory (address : Address) (bytes : BitVec 64)
  | getPhysicalAddress (address : Address)
  | localAddress (array : LocalArray) | symbolAddress (symbol : Symbol)
  | loadContext | storeContext (pointer : Address)
  | loadField (context : Address) (field : ContextField)
  | storeField (context : Address) (field : ContextField) (pointer : Address)
  | allocateContiguousMemory (bytes highest : BitVec 64) | freeContiguousMemory (pointer : Address)
  | allocatePool (bytes : BitVec 64) | freePool (pointer : Address)
  | print (label : String) (value : BitVec 64)
  | setIoStatus (status : NTSTATUS) | completeRequest
  | enter (routine : Routine) | leave (routine : Routine)
deriving DecidableEq, Repr

/-- What each operation answers. -/
abbrev Op.Response : Op → Type
  | .readCr0 | .readCr3 | .readCr4 | .readDr7 | .readEflags | .readMsr _ => BitVec 64
  | .cpuid _ => CpuInfo
  | .readSelector _ => BitVec 16
  | .sgdt | .sidt => DescriptorTableRegister
  | .segmentLimit _ | .lar _ | .load32 _ => BitVec 32
  | .vmxon _ | .vmclear _ | .vmptrld _ | .vmwrite _ _ | .vmlaunch | .vmresume => VmxOutcome
  | .vmread _ | .vmptrst => VmxOutcome × BitVec 64
  | .guest | .overflow => Empty
  | .load64 _ => BitVec 64
  | .getPhysicalAddress _ | .localAddress _ | .symbolAddress _ => Address
  | .loadContext | .loadField _ _ => Address
  | .allocateContiguousMemory _ _ | .allocatePool _ => Address
  | _ => Unit

/-- The answers of a machine on which every instruction succeeds, every register, field and
memory word reads zero, physical addresses equal virtual ones, and every allocation fails; the
context and its regions occupy pages of their own. -/
def Op.plainAnswer : (op : Op) → Option op.Response
  | .readCr0 | .readCr3 | .readCr4 | .readDr7 | .readEflags | .readMsr _ => some (0 : BitVec 64)
  | .cpuid _ => some (⟨0, 0, 0, 0⟩ : CpuInfo)
  | .readSelector _ => some (0 : BitVec 16)
  | .sgdt | .sidt => some (⟨0, 0⟩ : DescriptorTableRegister)
  | .segmentLimit _ | .lar _ | .load32 _ => some (0 : BitVec 32)
  | .vmxon _ | .vmclear _ | .vmptrld _ | .vmwrite _ _ | .vmlaunch | .vmresume =>
    some VmxOutcome.succeed
  | .vmread _ | .vmptrst => some (VmxOutcome.succeed, (0 : BitVec 64))
  | .guest | .overflow => none
  | .load64 _ => some (0 : BitVec 64)
  | .getPhysicalAddress address => some address
  | .localAddress _ => some (0x8000 : Address)
  | .symbolAddress _ => some (0x9000 : Address)
  | .loadContext => some (0x1000 : Address)
  | .loadField _ .vmxonRegion => some (0x2000 : Address)
  | .loadField _ .vmcsRegion => some (0x3000 : Address)
  | .loadField _ _ => some (0x4000 : Address)
  | .allocateContiguousMemory _ _ | .allocatePool _ => some (0 : Address)
  | .writeCr0 _ | .writeCr4 _ | .writeMsr _ _ | .vmxoff | .store32 _ _ | .store64 _ _ => some ()
  | .zeroMemory _ _ | .storeContext _ | .storeField _ _ _ | .freeContiguousMemory _ => some ()
  | .freePool _ | .print _ _ | .setIoStatus _ | .completeRequest | .enter _ | .leave _ => some ()

/-- The same machine, but for `VMLAUNCH`, which fails. -/
def Op.launchFails : (op : Op) → Option op.Response
  | .vmlaunch => some VmxOutcome.failValid
  | op => op.plainAnswer

/-- The interface the driver's code runs against. -/
abbrev interface : PFunctor.{0, 0} := ⟨Op, Op.Response⟩

/-- Code of the driver. -/
abbrev Code (α : Type) := Program interface α

namespace Code

/-- Issue one operation and return its answer. -/
def ask (op : Op) : Code op.Response := @Program.perform interface op

def readCr0 : Code (BitVec 64) := ask .readCr0
def writeCr0 (value : BitVec 64) : Code Unit := ask (.writeCr0 value)
def readCr3 : Code (BitVec 64) := ask .readCr3
def readCr4 : Code (BitVec 64) := ask .readCr4
def writeCr4 (value : BitVec 64) : Code Unit := ask (.writeCr4 value)
def readDr7 : Code (BitVec 64) := ask .readDr7
def readEflags : Code (BitVec 64) := ask .readEflags
/-- `msr::ReadMsr`. -/
def readMsr (msr : IntelMsr) : Code (BitVec 64) := ask (.readMsr msr)
def writeMsr (msr : IntelMsr) (value : BitVec 64) : Code Unit :=
  ask (.writeMsr msr value)
def cpuid (leaf : BitVec 32) : Code CpuInfo := ask (.cpuid leaf)
def readSelector (register : SegmentRegister) : Code (BitVec 16) :=
  ask (.readSelector register)
def sgdt : Code DescriptorTableRegister := ask .sgdt
def sidt : Code DescriptorTableRegister := ask .sidt
def segmentLimit (selector : BitVec 16) : Code (BitVec 32) :=
  ask (.segmentLimit selector)
def lar (selector : BitVec 16) : Code (BitVec 32) := ask (.lar selector)
def vmxon (region : Address) : Code VmxOutcome := ask (.vmxon region)
def vmxoff : Code Unit := ask .vmxoff
def vmclear (region : Address) : Code VmxOutcome := ask (.vmclear region)
def vmptrld (region : Address) : Code VmxOutcome := ask (.vmptrld region)
def vmptrst : Code (VmxOutcome × BitVec 64) := ask .vmptrst
def vmwrite (field : VmcsFieldEncoding) (value : BitVec 64) : Code VmxOutcome :=
  ask (.vmwrite field value)
def vmread (field : VmcsFieldEncoding) : Code (VmxOutcome × BitVec 64) :=
  ask (.vmread field)
/-- Control is in the guest; no response ever arrives. -/
def guest {α : Type} : Code α := @Program.issue interface _ Op.guest Empty.elim
/-- A nested call finds no kernel stack left; no response ever arrives. -/
def overflow {α : Type} : Code α := @Program.issue interface _ Op.overflow Empty.elim
/-- A VM entry that succeeds does not return to the code after it. -/
def vmlaunch : Code VmxOutcome := do
  let outcome ← ask .vmlaunch
  if outcome = .succeed then guest else pure outcome
def vmresume : Code VmxOutcome := do
  let outcome ← ask .vmresume
  if outcome = .succeed then guest else pure outcome
def load32 (address : Address) : Code (BitVec 32) := ask (.load32 address)
def store32 (address : Address) (value : BitVec 32) : Code Unit :=
  ask (.store32 address value)
def load64 (address : Address) : Code (BitVec 64) := ask (.load64 address)
def store64 (address : Address) (value : BitVec 64) : Code Unit :=
  ask (.store64 address value)
def zeroMemory (address : Address) (bytes : BitVec 64) : Code Unit :=
  ask (.zeroMemory address bytes)
def getPhysicalAddress (address : Address) : Code Address :=
  ask (.getPhysicalAddress address)
def localAddress (array : LocalArray) : Code Address := ask (.localAddress array)
def symbolAddress (symbol : Symbol) : Code Address := ask (.symbolAddress symbol)
/-- The value of `kProcessorContext`. -/
def loadContext : Code Address := ask .loadContext
def storeContext (pointer : Address) : Code Unit := ask (.storeContext pointer)
def loadField (context : Address) (field : ContextField) : Code Address :=
  ask (.loadField context field)
def storeField (context : Address) (field : ContextField) (pointer : Address) : Code Unit :=
  ask (.storeField context field pointer)
def allocateContiguousMemory (bytes highest : BitVec 64) : Code Address :=
  ask (.allocateContiguousMemory bytes highest)
def freeContiguousMemory (pointer : Address) : Code Unit :=
  ask (.freeContiguousMemory pointer)
def allocatePool (bytes : BitVec 64) : Code Address := ask (.allocatePool bytes)
def freePool (pointer : Address) : Code Unit := ask (.freePool pointer)
def print (label : String) (value : BitVec 64) : Code Unit :=
  ask (.print label value)
def setIoStatus (status : NTSTATUS) : Code Unit := ask (.setIoStatus status)
def completeRequest : Code Unit := ask .completeRequest
def enter (routine : Routine) : Code Unit := ask (.enter routine)
def leave (routine : Routine) : Code Unit := ask (.leave routine)

/-- Run the body of a routine in a frame of its own. -/
def call {α : Type} (routine : Routine) (body : Code α) : Code α := do
  enter routine
  let result ← body
  leave routine
  pure result

end Code

end Guypervisor.Model
