import Mathlib.Data.BitVec

/-! # Status codes

`NTSTATUS` values are 32-bit words. `NT_ERROR` and `NT_SUCCESS` are the two WDK macros: the first
asks whether the two severity bits are `11`, the second whether the word is nonnegative as a
signed number. The driver's own codes wrap their numeric value in `NT_ERROR`, so each of them is
the truth value of that question and not the number.
-/

namespace Guypervisor.Model

/-- `NTSTATUS` as its 32-bit pattern. -/
abbrev NTSTATUS := BitVec 32

/-- `NT_ERROR(x)`: `((ULONG)x >> 30) == 3`, an `int` truth value. -/
def ntError (status : NTSTATUS) : NTSTATUS := if status >>> 30 = 3 then 1 else 0

/-- `NT_SUCCESS(x)`: `(NTSTATUS)x >= 0`. -/
def ntSuccess (status : NTSTATUS) : Bool := 0 ≤ status.toInt

def statusSuccess : NTSTATUS := 0
def baseError : NTSTATUS := 0xC0133700

def statusFailedToAllocateMemory : NTSTATUS := ntError (baseError + 0x1)
def statusFailedVmxon : NTSTATUS := ntError (baseError + 0x10)
def statusFailedVmptrld : NTSTATUS := ntError (baseError + 0x12)
def statusFailedVmclear : NTSTATUS := ntError (baseError + 0x13)
def statusFailedVmlaunch : NTSTATUS := ntError (baseError + 0x14)
def statusFailedVmread : NTSTATUS := ntError (baseError + 0x15)
def statusFailedVmwrite : NTSTATUS := ntError (baseError + 0x16)
def statusNullptrError : NTSTATUS := ntError (baseError + 0x30)

/-- The statuses the driver's own code can produce: `STATUS_SUCCESS` and the wrapped codes. -/
def DriverStatus (status : NTSTATUS) : Prop := status = 0 ∨ status = 1

/-- Wrapping any code in `NT_ERROR` leaves a truth value. -/
theorem driverStatus_ntError (code : NTSTATUS) : DriverStatus (ntError code) := by
  unfold ntError
  split
  · exact .inr rfl
  · exact .inl rfl

theorem driverStatus_statusSuccess : DriverStatus statusSuccess := .inl rfl

/-- Accumulating with `|=` stays among the truth values. -/
theorem DriverStatus.or {first second : NTSTATUS} (left : DriverStatus first)
    (right : DriverStatus second) : DriverStatus (first ||| second) := by
  obtain rfl | rfl := left <;> obtain rfl | rfl := right <;> unfold DriverStatus <;> decide

/-- No status the driver produces is recognised as a failure by `NT_SUCCESS`. -/
theorem DriverStatus.ntSuccess {status : NTSTATUS} (produced : DriverStatus status) :
    ntSuccess status = true := by
  obtain rfl | rfl := produced <;> decide

end Guypervisor.Model
