import Guypervisor.Model.Ept
import Guypervisor.Proofs.Rules

/-! # What setting up the driver's memory can do

The operations and statuses of `InitializeProcessorContext` and `InitializeEPT` under any responses
at all. Neither releases a block of the pool, and neither returns a status that `NT_SUCCESS` rejects.
-/

namespace Guypervisor.Proofs

open Effects Effects.Program Model Code

/-- Operations that release no pool block. -/
def KeepsPool : Op → Prop
  | .freePool _ => False
  | _ => True

/-- The operations of setting up: memory is allocated and cleared, the context's members and the
words of the tables are read and written. -/
def IsSetupWork : Op → Prop
  | .cpuid _ | .allocateContiguousMemory _ _ | .allocatePool _ | .zeroMemory _ _ => True
  | .loadContext | .storeContext _ | .loadField _ _ | .storeField _ _ _ => True
  | .load64 _ | .store64 _ _ | .getPhysicalAddress _ => True
  | _ => False

theorem IsSetupWork.keepsPool {op : Op} (work : IsSetupWork op) : KeepsPool op := by
  cases op <;> first | exact work.elim | trivial

theorem confined_newProcessorContext {ops : Op → Prop}
    (allocates : ops (.allocatePool sizeofProcessorContext))
    (stores : ∀ pointer, ops (.storeContext pointer)) :
    newProcessorContext.Confined ops fun _ => True :=
  confined_ask_bind allocates fun pointer => ⟨stores pointer, fun _ => trivial⟩

theorem confined_allocateAligned (size alignmentSize : BitVec 64) :
    (allocateContingiousPhysicalMemoryAligned size alignmentSize).Confined IsSetupWork
      fun _ => True := by
  refine confined_ask_bind trivial fun _ => confined_ask_bind trivial fun pointer => ?_
  split
  · trivial
  · exact confined_ask_bind trivial fun _ => trivial

theorem confined_initializeProcessorContext :
    initializeProcessorContext.Confined IsSetupWork DriverStatus := by
  refine confined_ask_bind trivial fun context => ?_
  refine (confined_allocateAligned _ _).bind fun _ _ => ?_
  refine confined_ask_bind trivial fun _ => confined_ask_bind trivial fun member => ?_
  split
  · exact driverStatus_ntError _
  refine (confined_allocateAligned _ _).bind fun _ _ => ?_
  refine confined_ask_bind trivial fun _ => confined_ask_bind trivial fun member => ?_
  split
  · exact driverStatus_ntError _
  iterate 4 refine confined_ask_bind trivial fun _ => ?_
  refine (confined_allocateAligned _ _).bind fun _ _ => ?_
  iterate 5 refine confined_ask_bind trivial fun _ => ?_
  exact driverStatus_statusSuccess

theorem confined_ifNotNullptrThenFree (context : Address) (field : ContextField) :
    (ifNotNullptrThenFreeAndSetNullptr context field).Confined KeepsPool fun _ => True := by
  refine confined_ask_bind trivial fun member => ?_
  split
  · refine confined_ask_bind trivial fun _ => confined_ask_bind trivial fun _ => ?_
    exact ⟨trivial, fun _ => trivial⟩
  · trivial

/-- The operations of releasing a context. -/
def IsRelease : Op → Prop
  | .loadContext | .storeContext _ | .loadField _ _ | .storeField _ _ _ => True
  | .freeContiguousMemory _ | .freePool _ => True
  | _ => False

theorem confined_freeProcessorContext :
    freeProcessorContext.Confined IsRelease fun _ => True := by
  have contiguous (context : Address) (field : ContextField) :
      (ifNotNullptrThenFreeAndSetNullptr context field).Confined IsRelease fun _ => True := by
    refine confined_ask_bind trivial fun member => ?_
    split
    · refine confined_ask_bind trivial fun _ => confined_ask_bind trivial fun _ => ?_
      exact ⟨trivial, fun _ => trivial⟩
    · trivial
  have pool (context : Address) (field : ContextField) :
      (setNullptrThenDelete context field).Confined IsRelease fun _ => True := by
    refine confined_ask_bind trivial fun member => ?_
    split
    · refine confined_ask_bind trivial fun _ => confined_ask_bind trivial fun _ => ?_
      exact ⟨trivial, fun _ => trivial⟩
    · trivial
  refine confined_ask_bind trivial fun context => ?_
  iterate 3 refine (contiguous _ _).bind fun _ _ => ?_
  iterate 3 refine (pool _ _).bind fun _ _ => ?_
  refine confined_ask_bind trivial fun context => ?_
  split
  · refine confined_ask_bind trivial fun _ => confined_ask_bind trivial fun _ => ?_
    exact ⟨trivial, fun _ => trivial⟩
  · trivial

/-- The operations of the filling loops. -/
def IsFilling : Op → Prop
  | .load64 _ | .getPhysicalAddress _ => True
  | _ => False

theorem confined_fillEntry (entry table : Address) :
    (fillEntry entry table).Confined IsFilling fun _ => True :=
  confined_ask_bind trivial fun _ => confined_ask_bind trivial fun _ => trivial

theorem confined_fillPdpteEntries (pdpteEntries pdeEntries : Address) :
    (fillPdpteEntries pdpteEntries pdeEntries).Confined IsFilling fun _ => True := by
  unfold fillPdpteEntries
  generalize List.range kPdptEntryCount = rows
  exact confined_forM fun _ _ => confined_fillEntry _ _

theorem confined_fillPdeEntries (pdeEntries : Address) :
    (fillPdeEntries pdeEntries).Confined IsFilling fun _ => True := by
  unfold fillPdeEntries
  generalize List.range kPdptEntryCount = rows
  generalize List.range kPageDirectoryEntryCount = columns
  exact confined_forM fun _ _ => confined_forM fun _ _ => confined_fillEntry _ _

/-- The operations of `InitializeEPT`. -/
def IsTableWork : Op → Prop
  | .loadContext | .loadField _ .eptPml4Entries | .allocatePool _ | .zeroMemory _ _ => True
  | .load64 _ | .store64 _ _ | .getPhysicalAddress _ => True
  | _ => False

theorem IsTableWork.isSetupWork {op : Op} (work : IsTableWork op) : IsSetupWork op := by
  cases op <;> first | exact work.elim | trivial

theorem confined_assignField (entry : Address) (assign : EptEntry → EptEntry) :
    (assignField entry assign).Confined IsTableWork fun _ => True :=
  confined_ask_bind trivial fun _ => ⟨trivial, fun _ => trivial⟩

theorem IsFilling.isTableWork {op : Op} (filling : IsFilling op) : IsTableWork op := by
  cases op <;> trivial

theorem confined_initializeEPT : initializeEPT.Confined IsTableWork DriverStatus := by
  iterate 6 refine confined_ask_bind trivial fun _ => ?_
  iterate 3 refine (confined_assignField _ _).bind fun _ _ => ?_
  refine confined_ask_bind trivial fun _ => ?_
  refine (confined_assignField _ _).bind fun _ _ => ?_
  refine ((confined_fillPdpteEntries _ _).mono (fun _ => IsFilling.isTableWork)
    (fun _ => id)).bind fun _ _ => ?_
  refine ((confined_fillPdeEntries _).mono (fun _ => IsFilling.isTableWork)
    (fun _ => id)).bind fun _ _ => ?_
  exact driverStatus_statusSuccess

end Guypervisor.Proofs
