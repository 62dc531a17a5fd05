import Guypervisor.Model.ProcessorState
import Guypervisor.Model.Virtualization

/-! # The guest and its exits

`guest_code` runs at the address in the guest RIP field. It leaves through `CPUID`, which exits
unconditionally and is not completed, or through an event between two instructions; the exit
saves the address execution stopped at. The host then runs `vmexit_handler`, and once its
`VMRESUME` has succeeded the guest goes on at the guest RIP field.
-/

namespace Guypervisor.Model

open Effects

/-- The instructions of `guest_code`. -/
inductive GuestInstruction
  | cli
  | xorRaxRax
  | cpuid
  | jmpLoopPls
deriving DecidableEq, Repr

namespace GuestInstruction

/-- Bytes of the assembled instruction. -/
def length : GuestInstruction → BitVec 64
  | cli => 1
  | xorRaxRax => 3
  | cpuid => 2
  | jmpLoopPls => 2

end GuestInstruction

def guestCode : List GuestInstruction := [.cli, .xorRaxRax, .cpuid, .jmpLoopPls]

/-- The offset of the label `loop_pls`. -/
def loopPls : BitVec 64 := GuestInstruction.cli.length + GuestInstruction.xorRaxRax.length

/-- The instruction that begins at an offset. -/
def fetch : List GuestInstruction → BitVec 64 → Option GuestInstruction
  | [], _ => none
  | instruction :: rest, offset =>
    if offset = 0 then some instruction else fetch rest (offset - instruction.length)

/-- Where execution goes after an instruction of the code at `base`. -/
def GuestInstruction.next (base rip : Address) : GuestInstruction → Address
  | .jmpLoopPls => base + loopPls
  | instruction => rip + instruction.length

/-- The addresses the code at `base` reaches when nothing intervenes. -/
def nativeAddress (base : Address) : ℕ → Address
  | 0 => base
  | count + 1 =>
    match fetch guestCode (nativeAddress base count - base) with
    | some instruction => instruction.next base (nativeAddress base count)
    | none => nativeAddress base count

/-- What ends a stretch of guest execution. -/
inductive GuestExit
  | cpuid
  | event (reason : BitVec 32)
deriving DecidableEq, Repr

/-- The exit reason saved; 10 is `CPUID`. -/
def GuestExit.reason : GuestExit → BitVec 32
  | cpuid => 10
  | event reason => reason

/-- A stretch of guest execution: from an address, through the addresses reached, to an exit that
saves an address. -/
inductive GuestRuns (base : Address) : Address → List Address → GuestExit → Address → Prop
  | event (rip : Address) (reason : BitVec 32) : GuestRuns base rip [] (.event reason) rip
  | cpuid {rip : Address} : fetch guestCode (rip - base) = some .cpuid →
      GuestRuns base rip [rip] .cpuid rip
  | step {rip saved : Address} {instruction : GuestInstruction} {reached : List Address}
      {exit : GuestExit} : fetch guestCode (rip - base) = some instruction →
      instruction ≠ .cpuid → GuestRuns base (instruction.next base rip) reached exit saved →
      GuestRuns base rip (rip :: reached) exit saved

/-- The fields a VM exit saves; the others may change in any way. -/
structure Exited (exit : GuestExit) (saved : Address) (vmcs : Vmcs) : Prop where
  guestRip : vmcs.read .kGuestRip = saved
  exitReason : vmcs.read .kExitReason = exit.reason.setWidth 64
  instructionLength : exit = .cpuid →
    vmcs.read .kVmExitInstructionLength = GuestInstruction.cpuid.length

/-- How a stretch of guest execution ended: the exit, the address it saved, and the address the
guest is resumed at. -/
structure Stop where
  exit : GuestExit
  saved : Address
  resumed : Address
deriving DecidableEq, Repr

/-- One round: the guest runs until a VM exit, the handler runs, and `VMRESUME` succeeds and goes on
at the guest RIP field. -/
def Round (base : Address) (depth : ℕ) (before : Vmcs) (reached : List Address) (stop : Stop)
    (after : Vmcs) : Prop :=
  ∃ exited resume, GuestRuns base (before.read .kGuestRip) reached stop.exit stop.saved ∧
    Exited stop.exit stop.saved exited ∧
    Reaches activeVmcs (vmexitHandler depth) exited (.issue .guest resume) after ∧
    stop.resumed = after.read .kGuestRip

/-- Rounds after a `VMLAUNCH`, with the addresses reached and how each stretch ended. -/
inductive Rounds (base : Address) (depth : ℕ) (launched : Vmcs) :
    List Address → List Stop → Vmcs → Prop
  | none : Rounds base depth launched [] [] launched
  | more {reached further : List Address} {stops : List Stop} {stop : Stop}
      {before after : Vmcs} : Rounds base depth launched reached stops before →
      Round base depth before further stop after →
      Rounds base depth launched (reached ++ further) (stops ++ [stop]) after

end Guypervisor.Model
