import Guypervisor.Soundness.Population
import Guypervisor.Soundness.SelectorTables

/-! # Host selectors

VM entry accepts a host selector whose privilege level and table indicator are zero.
`PopulateActiveVMCS` clears the privilege level of each selector it writes and leaves the table
indicator as it is. The index always stays.
-/

namespace Guypervisor.Soundness.HostSelectors

open Effects Model Population SelectorTables

def guestSelectorField : SegmentRegister → VmcsFieldEncoding
  | .es => .kGuestEsSelector
  | .cs => .kGuestCsSelector
  | .ss => .kGuestSsSelector
  | .ds => .kGuestDsSelector
  | .fs => .kGuestFsSelector
  | .gs => .kGuestGsSelector
  | .ldtr => .kGuestLdtrSelector
  | .tr => .kGuestTrSelector

/-- LDTR has no host selector. -/
def hostSelectorField : SegmentRegister → Option VmcsFieldEncoding
  | .es => some .kHostEsSelector
  | .cs => some .kHostCsSelector
  | .ss => some .kHostSsSelector
  | .ds => some .kHostDsSelector
  | .fs => some .kHostFsSelector
  | .gs => some .kHostGsSelector
  | .ldtr => none
  | .tr => some .kHostTrSelector

/-- A host selector for a guest selector: VM entry accepts it, and it has the same index. -/
structure Serves (host guest : BitVec 16) : Prop where
  level : host.extractLsb' 0 2 = 0
  indicator : tableIndicator host = false
  index : host >>> 3 = guest >>> 3

/-- The run writes a register's selector for the guest, and one that serves for the host. -/
def WritesSelectors (events : List (Event interface)) (selector : BitVec 16)
    (guestField hostField : VmcsFieldEncoding) : Prop :=
  ∃ guest host : BitVec 16, WritesOne events guestField (guest.setWidth 64) ∧
    WritesOne events hostField (host.setWidth 64) ∧ guest = selector ∧ Serves host guest

/-- The selectors a finished run writes. -/
theorem writesOne_selectors {cpu : ProcessorState} {depth : ℕ} {events : List (Event interface)}
    {status : NTSTATUS} {register : SegmentRegister} {hostField : VmcsFieldEncoding}
    (path : Path cpu.running (populateActiveVMCS depth) () events (.done status) ())
    (host : hostSelectorField register = some hostField) :
    WritesOne events (guestSelectorField register) ((cpu.selector register).setWidth 64) ∧
      WritesOne events hostField ((cpu.selector register &&& ~~~kRplMask).setWidth 64) := by
  constructor
  · apply writesOne_of_path path
    · cases register <;> decide
    · cases register <;> simp [populateWrites, segmentWrites, basedSegmentWrites, gsWrites,
        ldtrWrites, csFields, ssFields, dsFields, esFields, fsFields, trFields, guestSelectorField]
  · apply writesOne_of_path path
    · cases register <;> cases host <;> decide
    · cases register <;> cases host <;> simp [populateWrites, segmentWrites, basedSegmentWrites,
        gsWrites, csFields, ssFields, dsFields, esFields, fsFields, trFields]

section Mask

variable (selector : BitVec 16)

private theorem getLsbD_masked (i : ℕ) :
    (selector &&& ~~~kRplMask).getLsbD i = (selector.getLsbD i && decide (2 ≤ i)) := by
  rw [BitVec.getLsbD_and, BitVec.getLsbD_not, getLsbD_kRplMask]
  by_cases within : i < 16
  · have split : (decide (2 ≤ i)) = !decide (i < 2) := by grind
    simp [within, split]
  · simp [BitVec.getLsbD_of_ge selector i (by omega)]

/-- The mask clears the privilege level. -/
theorem level_masked : (selector &&& ~~~kRplMask).extractLsb' 0 2 = 0 := by
  apply BitVec.eq_of_getLsbD_eq
  intro i bound
  rw [BitVec.getLsbD_extractLsb', getLsbD_masked]
  have low : decide (2 ≤ 0 + i) = false := decide_eq_false (by omega)
  rw [low, Bool.and_false, Bool.and_false]
  simp

/-- It keeps the table indicator. -/
theorem indicator_masked : tableIndicator (selector &&& ~~~kRplMask) = tableIndicator selector := by
  rw [tableIndicator, getLsbD_masked, tableIndicator]
  exact Bool.and_true _

/-- It keeps the index. -/
theorem index_masked : (selector &&& ~~~kRplMask) >>> 3 = selector >>> 3 := by
  apply BitVec.eq_of_getLsbD_eq
  intro i bound
  rw [BitVec.getLsbD_ushiftRight, BitVec.getLsbD_ushiftRight, getLsbD_masked]
  have high : 2 ≤ 3 + i := by omega
  simp [high]

theorem serves_masked_iff :
    Serves (selector &&& ~~~kRplMask) selector ↔ tableIndicator selector = false := by
  constructor
  · intro serves
    rw [← indicator_masked]
    exact serves.indicator
  · intro clear
    exact ⟨level_masked selector, (indicator_masked selector).trans clear, index_masked selector⟩

end Mask

/-- The selectors written are the register's, and the masked one. -/
theorem writesSelectors_iff_serves {cpu : ProcessorState} {depth : ℕ}
    {events : List (Event interface)} {status : NTSTATUS} {register : SegmentRegister}
    {hostField : VmcsFieldEncoding}
    (path : Path cpu.running (populateActiveVMCS depth) () events (.done status) ())
    (host : hostSelectorField register = some hostField) :
    WritesSelectors events (cpu.selector register) (guestSelectorField register) hostField ↔
      Serves (cpu.selector register &&& ~~~kRplMask) (cpu.selector register) := by
  obtain ⟨guestWrites, hostWrites⟩ := writesOne_selectors path host
  constructor
  · rintro ⟨guest, value, -, writes, rfl, serves⟩
    obtain rfl := writes.unique (by omega) hostWrites
    exact serves
  · intro serves
    exact ⟨_, _, guestWrites, hostWrites, rfl, serves⟩

/-- The exact extent of the defect: VM entry accepts the host selector written for a register when
the register's selector is one of the GDT. -/
theorem writesSelectors_iff {cpu : ProcessorState} {depth : ℕ} {events : List (Event interface)}
    {status : NTSTATUS} {register : SegmentRegister} {hostField : VmcsFieldEncoding}
    (path : Path cpu.running (populateActiveVMCS depth) () events (.done status) ())
    (host : hostSelectorField register = some hostField) :
    WritesSelectors events (cpu.selector register) (guestSelectorField register) hostField ↔
      tableIndicator (cpu.selector register) = false := by
  rw [writesSelectors_iff_serves path host]
  exact serves_masked_iff _

/-- A processor whose FS names an LDT descriptor. -/
def localCpu : ProcessorState :=
  { (default : ProcessorState) with
    selector := fun register => if register = .fs then 0xF else 0x10 }

def localRun : List (Event interface) × Code NTSTATUS × Vmcs := populateRun localCpu fun _ => 0

private theorem path_localRun : ∃ status,
    Path localCpu.running (populateActiveVMCS 2) () localRun.1 (.done status) () := by
  have finished : localRun.2.1.head? = none := by decide +kernel
  exact path_running_populateRun finished

theorem writesSelectors_iff_localRun :
    WritesSelectors localRun.1 0xF .kGuestFsSelector .kHostFsSelector ↔
      tableIndicator 0xF = false := by
  obtain ⟨status, path⟩ := path_localRun
  have host : hostSelectorField .fs = some .kHostFsSelector := rfl
  exact writesSelectors_iff path host

/-- The host's FS is given a selector of the LDT. -/
theorem not_writesSelectors : ¬ ∀ (cpu : ProcessorState) (depth : ℕ)
    (events : List (Event interface)) (status : NTSTATUS) (register : SegmentRegister)
    (hostField : VmcsFieldEncoding),
    Path cpu.running (populateActiveVMCS depth) () events (.done status) () →
    hostSelectorField register = some hostField →
      WritesSelectors events (cpu.selector register) (guestSelectorField register) hostField := by
  intro written
  obtain ⟨status, path⟩ := path_localRun
  have writes := written localCpu 2 _ status .fs _ path rfl
  have serves := (writesSelectors_iff_serves path rfl).mp writes
  have indicator := serves.indicator
  revert indicator
  decide

end Guypervisor.Soundness.HostSelectors
