import Guypervisor.Model.Dispatch

/-! # Loading and unloading the driver again and again

Each cycle maps the image, runs a `DriverEntry` that succeeds, serves any number of IRPs and ends
with `DriverUnload`. What the system holds then is what the next cycle starts from.
-/

namespace Guypervisor.Model

open Effects

/-- One load of the driver, from a given state to the return of `DriverUnload`. -/
structure LoadCycle (start : System) where
  depth : ℕ
  status : NTSTATUS
  entry : List (Event driverInterface)
  loaded : System
  loads : Path System.environment (driverEntry depth) start.mapImage entry (.done status) loaded
  succeeds : ntSuccess status = true
  irps : List Served
  served : System
  serves : Serves System.environment.left loaded.majorFunction loaded irps served
  unload : List (Event driverInterface)
  unloaded : System
  unloads : Path System.environment Device.driverUnload served unload (.done ()) unloaded

/-- Everything the driver did in it. -/
def LoadCycle.events {start : System} (cycle : LoadCycle start) : List (Event driverInterface) :=
  cycle.entry ++ (cycle.irps.flatMap (·.events)).map .inLeft ++ cycle.unload

/-- Any number of cycles, one after another. -/
inductive LoadCycles : System → Type
  | none (state : System) : LoadCycles state
  | next {state : System} (cycle : LoadCycle state) (later : LoadCycles cycle.unloaded) :
      LoadCycles state

namespace LoadCycles

variable {state : System}

def count : {state : System} → LoadCycles state → ℕ
  | _, none _ => 0
  | _, next _ later => later.count + 1

/-- The states that each `DriverUnload` left. -/
def unloaded : {state : System} → LoadCycles state → List System
  | _, none _ => []
  | _, next cycle later => cycle.unloaded :: later.unloaded

def events : {state : System} → LoadCycles state → List (Event driverInterface)
  | _, none _ => []
  | _, next cycle later => cycle.events ++ later.events

end LoadCycles

end Guypervisor.Model
