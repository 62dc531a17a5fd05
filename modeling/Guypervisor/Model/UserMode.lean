import Guypervisor.Effects.Implementation
import Guypervisor.Model.System

/-! # The user-mode program and the driver

`main` opens the driver's device and sends it one control request. Between the program and the
driver stands the I/O manager, which serves a call by IRPs that it passes to the driver, and by what
it does itself. It is no part of the repository: any programs may stand for it here, and what is
documented of them is an assumption.
-/

namespace Guypervisor.Model

open Effects

/-- The parameters of `CreateFileW`. -/
structure FileParameters where
  name : String
  desiredAccess : BitVec 32
  shareMode : BitVec 32
  securityAttributes : Address
  creationDisposition : BitVec 32
  flagsAndAttributes : BitVec 32
  templateFile : BitVec 64
deriving DecidableEq, Repr

/-- The parameters of `DeviceIoControl`. -/
structure ControlParameters where
  device : BitVec 64
  ioControlCode : BitVec 32
  inBuffer : Address
  inBufferSize : BitVec 32
  outBuffer : Address
  outBufferSize : BitVec 32
  bytesReturned : Address
  overlapped : Address
deriving DecidableEq, Repr

/-- One effect of the user-mode program. -/
inductive UserOp
  | createFile (parameters : FileParameters)
  | deviceIoControl (parameters : ControlParameters)
  | getLastError
  | output (text : String)
  | exit (status : BitVec 32)
  | getchar
deriving DecidableEq, Repr

/-- What each operation answers; after `exit` nothing runs. -/
abbrev UserOp.Response : UserOp → Type
  | .createFile _ => BitVec 64
  | .deviceIoControl _ => Bool
  | .getLastError | .getchar => BitVec 32
  | .output _ => Unit
  | .exit _ => Empty

abbrev userInterface : PFunctor.{0, 0} := ⟨UserOp, UserOp.Response⟩

/-- Code of the user-mode program. -/
abbrev UserCode (α : Type) := Program userInterface α

namespace UserCode

/-- Issue one operation and return its answer. -/
def ask (op : UserOp) : UserCode op.Response := @Program.perform userInterface op

def createFile (parameters : FileParameters) : UserCode (BitVec 64) := ask (.createFile parameters)
def deviceIoControl (parameters : ControlParameters) : UserCode Bool :=
  ask (.deviceIoControl parameters)
def getLastError : UserCode (BitVec 32) := ask .getLastError
/-- A line sent to `std::cout`. -/
def output (text : String) : UserCode Unit := ask (.output text)
def exit {α : Type} (status : BitVec 32) : UserCode α :=
  @Program.issue userInterface _ (.exit status) Empty.elim
def getchar : UserCode (BitVec 32) := ask .getchar

end UserCode

namespace UserMode

open UserCode

def invalidHandleValue : BitVec 64 := -1
/-- `DEVICE_NAME` of the user-mode program. -/
def userDeviceName : String := "\\\\.\\Guypervisor"
/-- `VMX_ENTER`. -/
def vmxEnter : BitVec 32 := ctlCode 0x22 0x801 0 0
def openExisting : BitVec 32 := 3
def fileFlagNoBuffering : BitVec 32 := 0x20000000

def main : UserCode (BitVec 32) := do
  let hDevice ← createFile ⟨userDeviceName, 0, 0, 0, openExisting, fileFlagNoBuffering, 0⟩
  if hDevice = invalidHandleValue then
    let error ← getLastError
    output ("CreateFileW failed with error: " ++ toString error.toNat ++ "\n")
    exit (-1)
  let ioctl ← deviceIoControl ⟨hDevice, vmxEnter, 0, 0, 0, 0, 0, 0⟩
  if !ioctl then
    let error ← getLastError
    output ("DeviceIoControl failed with error: " ++ toString error.toNat ++ "\n")
    exit (-1)
  output "Press any key to exit..."
  let _ ← getchar
  return 0

/-- One effect of the I/O manager in serving a call: the driver's device gets an IRP, or the manager
does its own part of the call. -/
inductive ManagerOp
  | ioCallDriver (irp : Irp)
  | serve (op : UserOp)
deriving DecidableEq, Repr

abbrev ManagerOp.Response : ManagerOp → Type
  | .ioCallDriver _ => NTSTATUS
  | .serve op => op.Response

abbrev managerInterface : PFunctor.{0, 0} := ⟨ManagerOp, ManagerOp.Response⟩

/-- What the I/O manager does for each call. -/
abbrev IoManager : Type := Implementation userInterface managerInterface

def ioCallDriver (irp : Irp) : Program managerInterface NTSTATUS :=
  @Program.perform managerInterface (.ioCallDriver irp)
def serve (op : UserOp) : Program managerInterface op.Response :=
  @Program.perform managerInterface (.serve op)

/-- What a program and a driver share. -/
abbrev sharedInterface : PFunctor.{0, 0} := Both interface managerInterface

/-- An IRP comes to the routine that the dispatch table holds for it; where this is none of the
driver's, the system answers. -/
def callDriver (loaded : System) (depth : ℕ) : Implementation managerInterface sharedInterface
  | .ioCallDriver irp =>
    match loaded.majorFunction irp.majorFunction with
    | some routine => (routine.call depth irp).inLeft
    | none => @Program.perform sharedInterface (.inr (.ioCallDriver irp))
  | .serve op => @Program.perform sharedInterface (.inr (.serve op))

/-- The program with an I/O manager, run on a system with the driver loaded and room for `depth`
nested calls of the error printer. -/
def run (manager : IoManager) (loaded : System) (depth : ℕ) :
    Program sharedInterface (BitVec 32) :=
  (main.implemented manager).implemented (callDriver loaded depth)

/-- The statuses of the control requests that were passed to the driver. -/
def requests : Environment managerInterface (List NTSTATUS) where
  allows _ _ _ := True
  next statuses op response :=
    match op, response with
    | .ioCallDriver irp, status =>
      if irp.majorFunction = irpMjDeviceControl then statuses ++ [status] else statuses
    | .serve _, _ => statuses

/-- A call that is no control request: the driver gets none, and the manager's part is of this call. -/
def Ordinary (op : UserOp) : ManagerOp → Prop
  | .ioCallDriver irp => irp.majorFunction ≠ irpMjDeviceControl
  | .serve served => served = op

/-- A control request is passed to the driver once, with its control code. -/
def Controls (parameters : ControlParameters) (statuses : List NTSTATUS) : ManagerOp → Prop
  | .ioCallDriver irp =>
    irp.majorFunction = irpMjDeviceControl →
      statuses = [] ∧ irp.ioControlCode = parameters.ioControlCode
  | .serve served => served = .deviceIoControl parameters

/-- What is documented of the calls. Control requests are made by `DeviceIoControl` alone, at most
one by each call, and where this returns it returns a nonzero value if and only if the driver was
asked and succeeded. -/
structure Documented (manager : IoManager) : Prop where
  ordinary : ∀ op, (∀ parameters, op ≠ .deviceIoControl parameters) →
    (manager op).Confined (Ordinary op) fun _ => True
  controls : ∀ parameters, (manager (.deviceIoControl parameters)).Ensures requests
    (Controls parameters) [] fun ioctl statuses =>
      ioctl = true ↔ ∃ status ∈ statuses, ntSuccess status = true

end UserMode

end Guypervisor.Model
