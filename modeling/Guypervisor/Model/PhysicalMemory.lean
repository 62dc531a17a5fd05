import Guypervisor.Effects.WriteLog
import Guypervisor.Model.Memory

/-! # Physical memory through a mapped view

`WritePhysicalMemory` and `ReadPhysicalMemory` map a view of the section of physical memory, copy
four bytes to or from its beginning, and unmap it. The kernel lets a view begin only at multiples of
its allocation granularity, and says in the variable of the section offset where it began.
-/

namespace Guypervisor.Model

open Effects

/-- `SECTION_INHERIT`. -/
inductive SectionInherit
  | viewShare | viewUnmap
deriving DecidableEq, Repr

/-- What `ZwMapViewOfSection` is called with, and what its variables hold. -/
structure MapViewRequest where
  sectionHandle : BitVec 64
  processHandle : BitVec 64
  baseAddress : Address
  zeroBits : BitVec 64
  commitSize : BitVec 64
  sectionOffset : BitVec 64
  viewSize : BitVec 64
  inheritDisposition : SectionInherit
  allocationType : BitVec 32
  win32Protect : BitVec 32
deriving DecidableEq, Repr

/-- The status of the call, and what it leaves in the variables. -/
structure MapViewAnswer where
  status : NTSTATUS
  baseAddress : Address
  sectionOffset : BitVec 64
  viewSize : BitVec 64
deriving DecidableEq, Repr

/-- One effect of the two functions. -/
inductive SectionOp
  | mapViewOfSection (request : MapViewRequest)
  | unmapViewOfSection (processHandle : BitVec 64) (baseAddress : Address)
  | storeBytes (destination : Address) (bytes : List (BitVec 8))
  | loadBytes (source : Address) (count : ℕ)
  | print (format : String) (arguments : List (BitVec 64))
deriving DecidableEq, Repr

/-- What each operation answers. -/
abbrev SectionOp.Response : SectionOp → Type
  | .mapViewOfSection _ => MapViewAnswer
  | .unmapViewOfSection _ _ => NTSTATUS
  | .loadBytes _ _ => List (BitVec 8)
  | _ => Unit

abbrev sectionInterface : PFunctor.{0, 0} := ⟨SectionOp, SectionOp.Response⟩

/-- Code that works on physical memory. -/
abbrev SectionCode (α : Type) := Program sectionInterface α

namespace SectionCode

/-- Issue one operation and return its answer. -/
def ask (op : SectionOp) : SectionCode op.Response := @Program.perform sectionInterface op

def mapViewOfSection (request : MapViewRequest) : SectionCode MapViewAnswer :=
  ask (.mapViewOfSection request)
def unmapViewOfSection (processHandle : BitVec 64) (baseAddress : Address) : SectionCode NTSTATUS :=
  ask (.unmapViewOfSection processHandle baseAddress)
/-- `RtlCopyMemory` into a view. -/
def storeBytes (destination : Address) (bytes : List (BitVec 8)) : SectionCode Unit :=
  ask (.storeBytes destination bytes)
/-- `RtlCopyMemory` out of a view. -/
def loadBytes (source : Address) (count : ℕ) : SectionCode (List (BitVec 8)) :=
  ask (.loadBytes source count)
def print (format : String) (arguments : List (BitVec 64)) : SectionCode Unit :=
  ask (.print format arguments)

end SectionCode

open SectionCode

/-- `BOOLEAN`, an unsigned byte. -/
abbrev Boolean := BitVec 8

def booleanTrue : Boolean := 1
def booleanFalse : Boolean := 0

/-- `(HANDLE)-1`. -/
def currentProcess : BitVec 64 := -1
/-- `PAGE_READWRITE`. -/
def pageReadwrite : BitVec 32 := 0x04

/-- The view both functions ask for. -/
def viewRequest (physicalMemory address length : BitVec 64) : MapViewRequest where
  sectionHandle := physicalMemory
  processHandle := currentProcess
  baseAddress := 0
  zeroBits := 0
  commitSize := length
  sectionOffset := address
  viewSize := length
  inheritDisposition := .viewUnmap
  allocationType := 0
  win32Protect := pageReadwrite

def writePhysicalMemory (physicalMemory address length : BitVec 64) : SectionCode Boolean := do
  let test : List (BitVec 8) := [0x13, 0x37, 0x13, 0x37]
  if length < 4 then
    return statusFailedToAllocateMemory.setWidth 8
  let mapped ← mapViewOfSection (viewRequest physicalMemory address length)
  if ntSuccess mapped.status = false then
    print "Could not map view of %X length %X : %lx\n"
      [address, mapped.viewSize, mapped.status.signExtend 64]
    return booleanFalse
  storeBytes mapped.baseAddress test
  let _ ← unmapViewOfSection currentProcess mapped.baseAddress
  print "Write: %x %x %x %x\n" (test.map (·.signExtend 64))
  return booleanTrue

def readPhysicalMemory (physicalMemory address length : BitVec 64) : SectionCode Boolean := do
  if length < 4 then
    return statusFailedToAllocateMemory.setWidth 8
  let mapped ← mapViewOfSection (viewRequest physicalMemory address length)
  if ntSuccess mapped.status = false then
    print "Could not map view of %X length %X : %lx\n"
      [address, mapped.viewSize, mapped.status.signExtend 64]
    return booleanFalse
  let test ← loadBytes mapped.baseAddress 4
  let _ ← unmapViewOfSection currentProcess mapped.baseAddress
  print "Read: %x %x %x %x\n" (test.map (·.signExtend 64))
  return booleanTrue

/-- A mapped view: where it begins, at which physical address, and how many bytes it has. -/
structure View where
  baseAddress : Address
  sectionOffset : Address
  viewSize : BitVec 64
deriving DecidableEq, Repr

namespace View

/-- The bytes from an address on are in the view. -/
def Covers (view : View) (address : Address) (count : ℕ) : Prop :=
  (address - view.baseAddress).toNat + count ≤ view.viewSize.toNat

/-- The physical addresses of these bytes. -/
def physical (view : View) (address : Address) (count : ℕ) : List Address :=
  (List.range count).map fun offset =>
    view.sectionOffset + (address - view.baseAddress) + BitVec.ofNat 64 offset

end View

/-- Physical memory as it was, what was written to it and which of its bytes were read so far, and
the view that is mapped. -/
structure PhysicalMemory where
  initial : Memory
  stored : WriteLog Address (BitVec 8)
  loaded : List Address
  view : Option View

namespace PhysicalMemory

/-- Nothing accessed, and nothing mapped. -/
def start (memory : Memory) : PhysicalMemory := ⟨memory, [], [], none⟩

/-- What physical memory holds. -/
def bytes (state : PhysicalMemory) : Memory := state.stored.replay state.initial

/-- What follows an operation; `ZwUnmapViewOfSection` is taken to succeed, as the handle and the address
it is given are those of the view. -/
def next (state : PhysicalMemory) (op : SectionOp) (response : op.Response) : PhysicalMemory :=
  match op, response with
  | .mapViewOfSection _, mapped =>
    if ntSuccess mapped.status then
      { state with view := some ⟨mapped.baseAddress, mapped.sectionOffset, mapped.viewSize⟩ }
    else state
  | .unmapViewOfSection _ _, _ => { state with view := none }
  | .storeBytes destination bytes, _ =>
    match state.view with
    | some view =>
      { state with stored := state.stored ++ (view.physical destination bytes.length).zip bytes }
    | none => state
  | .loadBytes source count, _ =>
    match state.view with
    | some view => { state with loaded := state.loaded ++ view.physical source count }
    | none => state
  | .print _ _, _ => state

end PhysicalMemory

/-- How the kernel answers requests for a view. A view it maps begins at the section offset rounded
down to 64 KB, which is stored back, and has the bytes that were asked for. -/
structure Mapping where
  answer : MapViewRequest → MapViewAnswer
  rounds : ∀ request, ntSuccess (answer request).status = true →
    (answer request).sectionOffset = request.sectionOffset &&& ~~~0xFFFF
  covers : ∀ request, ntSuccess (answer request).status = true →
    request.viewSize ≤ (answer request).viewSize

/-- The kernel and physical memory as the environment of the two functions: only a mapped view can
be accessed. -/
def Mapping.environment (mapping : Mapping) : Environment sectionInterface PhysicalMemory where
  allows state op response :=
    match op, response with
    | .mapViewOfSection request, mapped => mapped = mapping.answer request
    | .storeBytes destination bytes, _ =>
      ∃ view, state.view = some view ∧ view.Covers destination bytes.length
    | .loadBytes source count, values =>
      ∃ view, state.view = some view ∧ view.Covers source count ∧
        values = (view.physical source count).map state.bytes
    | _, _ => True
  next := PhysicalMemory.next

end Guypervisor.Model
