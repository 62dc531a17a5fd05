import Guypervisor.Model.Driver
import Guypervisor.Model.Heap

/-! # The system the driver is loaded into

To the ledger of the driver's memory come its global `kGuypervisor`, the members of `Device`
objects, the driver object's dispatch table, and the device objects and symbolic links of the
system. `IoDeleteDevice` is answered whatever it is given.
-/

namespace Guypervisor.Model

open Effects

/-- The members of a `Device`. -/
structure DeviceMembers where
  name : DeviceName → String
  deviceObject : Address

/-- The state of the system as far as the driver has to do with it. -/
structure System where
  heap : Heap
  kGuypervisor : Address
  members : Address → DeviceMembers
  majorFunction : ℕ → Option DispatchRoutine
  devices : List Address
  links : List String

namespace System

/-- A system with no resource of the driver's, and a context that will be found with these members. -/
def start (field : ContextField → Address) : System :=
  ⟨.start field, 0, fun _ => ⟨fun _ => "", 0⟩, fun _ => none, [], []⟩

/-- The driver's image was just mapped: its global pointers are null and it has no dispatch
routine. -/
structure Mapped (system : System) : Prop where
  kGuypervisor : system.kGuypervisor = 0
  kProcessorContext : system.heap.kProcessorContext = 0
  majorFunction : ∀ majorFunction, system.majorFunction majorFunction = none

/-- The image is mapped. -/
def mapImage (system : System) : System :=
  { system with
    heap := { system.heap with kProcessorContext := 0 }
    kGuypervisor := 0
    majorFunction := fun _ => none }

theorem mapped_mapImage (system : System) : system.mapImage.Mapped := ⟨rfl, rfl, fun _ => rfl⟩

theorem mapped_start (field : ContextField → Address) : (start field).Mapped := ⟨rfl, rfl, fun _ => rfl⟩

/-- The members of one `Device` changed. -/
def setMembers (system : System) (device : Address) (members : DeviceMembers) : System :=
  { system with members := Function.update system.members device members }

/-- A dispatch routine was installed. -/
def install (system : System) (majorFunction : ℕ) (routine : DispatchRoutine) : System :=
  { system with
    majorFunction := Function.update system.majorFunction majorFunction (some routine) }

/-- The state after an operation of loading or unloading that was answered in the given way. -/
def nextDevice (system : System) (op : DeviceOp) (response : op.Response) : System :=
  match op, response with
  | .storeGuypervisor device, _ => { system with kGuypervisor := device }
  | .storeName device member name, _ =>
    system.setMembers device
      { system.members device with name := Function.update (system.members device).name member name }
  | .storeDeviceObject device object, _ =>
    system.setMembers device { system.members device with deviceObject := object }
  | .ioCreateDevice _, (status, object) =>
    if ntSuccess status then { system with devices := object :: system.devices } else system
  | .ioDeleteDevice object, _ => { system with devices := system.devices.filter (· ≠ object) }
  | .ioCreateSymbolicLink link _, status =>
    if ntSuccess status then { system with links := link :: system.links } else system
  | .ioDeleteSymbolicLink link, status =>
    if ntSuccess status then { system with links := system.links.filter (· ≠ link) } else system
  | .setMajorFunction majorFunction routine, _ => system.install majorFunction routine
  | _, _ => system

/-- What the system can answer to it: members are not reached through a null pointer, a device
object that was created is a new one, and a link can be created only if there is none of its
name, and deleted only if there is one. -/
def AnswersDevice (system : System) (op : DeviceOp) (response : op.Response) : Prop :=
  match op, response with
  | .loadGuypervisor, device => device = system.kGuypervisor
  | .loadName device member, name => device ≠ 0 ∧ name = (system.members device).name member
  | .storeName device _ _, _ | .storeDeviceObject device _, _ => device ≠ 0
  | .loadDeviceObject device, object => device ≠ 0 ∧ object = (system.members device).deviceObject
  | .ioCreateDevice _, (status, object) =>
    ntSuccess status = true → object ≠ 0 ∧ object ∉ system.devices
  | .ioCreateSymbolicLink link _, status => ntSuccess status = true → link ∉ system.links
  | .ioDeleteSymbolicLink link, status => ntSuccess status = true → link ∈ system.links
  | _, _ => True

/-- The system as the environment of the whole driver. -/
def environment : Environment driverInterface System where
  allows system op response :=
    match op, response with
    | .inl op, response => system.heap.Answers op response
    | .inr op, response => system.AnswersDevice op response
  next system op response :=
    match op, response with
    | .inl op, response => { system with heap := system.heap.next op response }
    | .inr op, response => system.nextDevice op response

end System

end Guypervisor.Model
