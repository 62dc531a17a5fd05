import Guypervisor.Model.DeviceOperation

/-! # Detecting an Intel processor with VT-x

Three checks stand before anything is created. The first is assembly code: it sets a flag and looks
whether it stays set. The arrays of the second are numbers, the first byte the least significant.
-/

namespace Guypervisor.Model

open Effects Code DriverCode

/-- `1 << 21`, the ID flag. -/
def hasCpuidFlagMask : BitVec 32 := 1 <<< 21

/-- `IsCPUIdSupported`: the flags on the stack are restored before it returns; the stack pointer is
moved by `SUB` before they are saved, and back by `ADD` after. -/
def isCPUIdSupported (mask : BitVec 32) : DriverCode Bool := do
  let rcx : BitVec 64 := mask.setWidth 64
  let saved ← code readEflags
  let rax ← code readEflags
  let rax := rax ||| rcx
  writeEflags rax
  let rax ← code readEflags
  let rax := rax &&& rcx
  let rax := rax >>> 21
  writeEflags saved
  return rax.setWidth 8 ≠ (0 : BitVec 8)

/-- `CPUID` leaf `kIa32CpuVendorName`. -/
def kIa32CpuVendorName : BitVec 32 := 0
/-- `CPUID` leaf `kIa32CpuVersion`. -/
def kIa32CpuVersion : BitVec 32 := 1

/-- The bytes of `GenuineIntel`. -/
def kVendorName : BitVec 96 := 0x6C65746E49656E69756E6547

/-- `memcpy_s` of four bytes to the beginning of an array of twelve. -/
def memcpyFour (destination : BitVec 96) (source : BitVec 32) : BitVec 96 :=
  destination.extractLsb' 32 64 ++ source

/-- `VendorCPUInfo` names `EBX`, `EDX` and `ECX` the first, second and third part. -/
def vendorIsIntel : DriverCode Bool := do
  let vendorString ← uninitializedBytes 12
  let cpuidStruct ← code (cpuid kIa32CpuVendorName)
  let vendorString := memcpyFour vendorString cpuidStruct.ebx
  let vendorString := memcpyFour vendorString cpuidStruct.edx
  let vendorString := memcpyFour vendorString cpuidStruct.ecx
  return vendorString ≠ kVendorName

/-- `rev_bitfield` of `Register32`: `bit31` is declared first, `bit0` last. -/
def revBit (register : BitVec 32) (bit : ℕ) : Bool := register.getLsbD (31 - bit)

def supportsVtxOperation : DriverCode Bool := do
  let currentCpu ← code (cpuid kIa32CpuVersion)
  return revBit currentCpu.ecx 5

/-- What `CPUID` answers, and what arrays on the stack hold before anything is stored in them. -/
structure Identification where
  cpuid : BitVec 32 → CpuInfo
  stack : (count : ℕ) → BitVec (8 * count)

/-- The runs in which these are the answers; whatever else is asked may be answered in any way. -/
def Identification.environment (identification : Identification) :
    Environment driverInterface Unit where
  allows _ op response :=
    match op, response with
    | .inl (.cpuid leaf), info => info = identification.cpuid leaf
    | .inr (.uninitializedBytes count), bytes => bytes = identification.stack count
    | _, _ => True
  next _ _ _ := ()

/-- The flags register beside them: `POPFQ` changes those flags only that software can change, and
between any two operations other instructions may have set the status flags anew. -/
def Identification.withFlags (identification : Identification) (writable : BitVec 64) :
    Environment driverInterface (BitVec 64) where
  allows flags op response :=
    identification.environment.allows () op response ∧
      match op, response with
      | .inl .readEflags, value => SameFlags value flags
      | _, _ => True
  next flags op _ :=
    match op with
    | .inr (.writeEflags value) => (value &&& writable) ||| (flags &&& ~~~writable)
    | _ => flags

end Guypervisor.Model
