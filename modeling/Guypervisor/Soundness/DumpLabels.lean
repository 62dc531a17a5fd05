import Guypervisor.Effects.Observation
import Guypervisor.Model.ProcessorState
import Guypervisor.Proofs.Confinement
import Guypervisor.Proofs.Dump

/-! # The labels of the dump

`DumpVmcsGuestArea` reads a field and prints a label with the variable it was read into. A `VMREAD`
that fails is not recognised and leaves a zero, so no line repeats what was read before it. Two lines
have each other's label: the one that reads the guest's `SYSENTER_EIP` and the one that reads its
`SYSENTER_ESP`.
-/

namespace Guypervisor.Soundness.DumpLabels

open Effects Effects.Program Model Code Proofs

/-- The guest fields that are read, and the label that names each. -/
def labels : List (VmcsFieldEncoding × String) :=
  [(.kGuestEsSelector, "VMCS_GUEST_ES_SELECTOR"), (.kGuestCsSelector, "VMCS_GUEST_CS_SELECTOR"),
   (.kGuestSsSelector, "VMCS_GUEST_SS_SELECTOR"), (.kGuestDsSelector, "VMCS_GUEST_DS_SELECTOR"),
   (.kGuestFsSelector, "VMCS_GUEST_FS_SELECTOR"), (.kGuestGsSelector, "VMCS_GUEST_GS_SELECTOR"),
   (.kGuestLdtrSelector, "VMCS_GUEST_LDTR_SELECTOR"),
   (.kGuestTrSelector, "VMCS_GUEST_TR_SELECTOR"),
   (.kGuestPhysicalAddrFull, "VMCS_GUEST_PHYSICAL_ADDRESS"),
   (.kGuestVmcsLinkPtrFull, "VMCS_GUEST_VMCS_LINK_POINTER"),
   (.kGuestIa32DebugCtlFull, "VMCS_GUEST_DEBUGCTL"), (.kGuestIa32PatFull, "VMCS_GUEST_PAT"),
   (.kGuestIa32EferFull, "VMCS_GUEST_EFER"),
   (.kGuestIa32PerfGlobalCtrlFull, "VMCS_GUEST_PERF_GLOBAL_CTRL"),
   (.kGuestPdpte0Full, "VMCS_GUEST_PDPTE0"), (.kGuestPdpte1Full, "VMCS_GUEST_PDPTE1"),
   (.kGuestPdpte2Full, "VMCS_GUEST_PDPTE2"), (.kGuestPdpte3Full, "VMCS_GUEST_PDPTE3"),
   (.kGuestEsLimit, "VMCS_GUEST_ES_LIMIT"), (.kGuestCsLimit, "VMCS_GUEST_CS_LIMIT"),
   (.kGuestSsLimit, "VMCS_GUEST_SS_LIMIT"), (.kGuestDsLimit, "VMCS_GUEST_DS_LIMIT"),
   (.kGuestFsLimit, "VMCS_GUEST_FS_LIMIT"), (.kGuestGsLimit, "VMCS_GUEST_GS_LIMIT"),
   (.kGuestLdtrLimit, "VMCS_GUEST_LDTR_LIMIT"), (.kGuestTrLimit, "VMCS_GUEST_TR_LIMIT"),
   (.kGuestGdtrLimit, "VMCS_GUEST_GDTR_LIMIT"), (.kGuestIdtrLimit, "VMCS_GUEST_IDTR_LIMIT"),
   (.kGuestEsAccessRights, "VMCS_GUEST_ES_ACCESS_RIGHTS"),
   (.kGuestCsAccessRights, "VMCS_GUEST_CS_ACCESS_RIGHTS"),
   (.kGuestSsAccessRights, "VMCS_GUEST_SS_ACCESS_RIGHTS"),
   (.kGuestDsAccessRights, "VMCS_GUEST_DS_ACCESS_RIGHTS"),
   (.kGuestFsAccessRights, "VMCS_GUEST_FS_ACCESS_RIGHTS"),
   (.kGuestGsAccessRights, "VMCS_GUEST_GS_ACCESS_RIGHTS"),
   (.kGuestLdtrAccessRights, "VMCS_GUEST_LDTR_ACCESS_RIGHTS"),
   (.kGuestTrAccessRights, "VMCS_GUEST_TR_ACCESS_RIGHTS"),
   (.kGuestInterruptibilityState, "VMCS_GUEST_INTERRUPTIBILITY_STATE"),
   (.kGuestActivityState, "VMCS_GUEST_ACTIVITY_STATE"), (.kGuestSmbase, "VMCS_GUEST_SMBASE"),
   (.kGuestIa32SysenterCs, "VMCS_GUEST_SYSENTER_CS"), (.kGuestCr0, "VMCS_GUEST_CR0"),
   (.kGuestCr3, "VMCS_GUEST_CR3"), (.kGuestCr4, "VMCS_GUEST_CR4"),
   (.kGuestEsBase, "VMCS_GUEST_ES_BASE"), (.kGuestCsBase, "VMCS_GUEST_CS_BASE"),
   (.kGuestSsBase, "VMCS_GUEST_SS_BASE"), (.kGuestDsBase, "VMCS_GUEST_DS_BASE"),
   (.kGuestFsBase, "VMCS_GUEST_FS_BASE"), (.kGuestGsBase, "VMCS_GUEST_GS_BASE"),
   (.kGuestLdtrBase, "VMCS_GUEST_LDTR_BASE"), (.kGuestTrBase, "VMCS_GUEST_TR_BASE"),
   (.kGuestGdtrBase, "VMCS_GUEST_GDTR_BASE"), (.kGuestIdtrBase, "VMCS_GUEST_IDTR_BASE"),
   (.kGuestDr7, "VMCS_GUEST_DR7"), (.kGuestRsp, "VMCS_GUEST_RSP"),
   (.kGuestRip, "VMCS_GUEST_RIP"), (.kGuestRFlags, "VMCS_GUEST_RFLAGS"),
   (.kGuestPendingDebugExceptions, "VMCS_GUEST_PENDING_DEBUG_EXCEPTIONS"),
   (.kGuestIa32SysenterEsp, "VMCS_GUEST_SYSENTER_ESP"),
   (.kGuestIa32SysenterEip, "VMCS_GUEST_SYSENTER_EIP")]

/-- These are the fields the dump reads. -/
theorem perm_labels : (labels.map Prod.fst).Perm (dumpReads.map Prod.fst) := by decide +kernel

/-- The fields that are read to report a failure. -/
def reportFields : List VmcsFieldEncoding := [.kVmInstructionError, .kExitReason]

/-- A VMCS that stays current, of which the `VMREAD`s of some fields fail; those that report a
failure may end in any way. -/
def dumping (fails : VmcsFieldEncoding → Bool) : Environment interface Vmcs :=
  activeVmcs.restrict fun _ op response =>
    match op, response with
    | .vmread field, (outcome, _) =>
      field ∉ reportFields → (fails field = true ↔ outcome ≠ .succeed)
    | _, _ => True

/-- The label and the value of a printed line. -/
def printed (event : Event interface) : Option (String × BitVec 64) :=
  match event.1 with
  | .print label value => some (label, value)
  | _ => none

/-- What was printed under a label. -/
def shown (events : List (Event interface)) (label : String) : Option (BitVec 64) :=
  (events.filterMap printed).lookup label

/-- What a field holds. -/
def held (vmcs : Vmcs) (field : VmcsFieldEncoding) : BitVec 64 := Vmcs.kept field (vmcs.read field)

/-- Under each label the dump shows the field it names: its value, if its `VMREAD` succeeded, and
nothing that depends on any other field. -/
structure ShowsOwn (fails : VmcsFieldEncoding → Bool) (vmcs : Vmcs)
    (events : List (Event interface)) : Prop where
  own : ∀ entry ∈ labels, fails entry.1 = false → shown events entry.2 = some (held vmcs entry.1)
  others : ∀ entry ∈ labels, ∀ depth other events' final,
    Path (dumping fails) (dumpVmcsGuestArea depth) other events' (.done ()) final →
      held other entry.1 = held vmcs entry.1 → shown events' entry.2 = shown events entry.2

section Lines

variable {fails : VmcsFieldEncoding → Bool}

/-- What is printed of a field, read into a variable. -/
def shownValue (fails : VmcsFieldEncoding → Bool) (vmcs : Vmcs) (encoding : VmcsFieldEncoding) :
    BitVec 64 :=
  if fails encoding then 0 else vmcs.read encoding

/-- The label and value of a line. -/
def shows (fails : VmcsFieldEncoding → Bool) (vmcs : Vmcs) : DumpLine → String × BitVec 64
  | .field label destination encoding =>
    (label, ((shownValue fails vmcs encoding).setWidth destination.bits).setWidth 64)
  | .zero label => (label, 0)

/-- The runs, with the lines printed so far. -/
abbrev recording (fails : VmcsFieldEncoding → Bool) :
    Environment interface (Vmcs × List (String × BitVec 64)) :=
  (dumping fails).observing printed

private abbrev anyDumpOp (_ : Vmcs × List (String × BitVec 64)) (_ : Op) : Prop := True

/-- Reading fields changes and prints nothing. -/
theorem fieldRead_passes (state : Vmcs × List (String × BitVec 64)) :
    Passes (recording fails) anyDumpOp IsFieldRead state where
  issues _ _ := trivial
  steady op response read _ := by
    cases op <;> first | exact Prod.ext rfl (List.append_nil _) | exact read.elim

/-- A read gives what the field holds, or zero. -/
theorem ensures_readVMCSFieldGeneric (depth : ℕ) {w : ℕ} {encoding : VmcsFieldEncoding}
    (guest : encoding ∉ reportFields) (prior : BitVec w)
    (state : Vmcs × List (String × BitVec 64)) :
    (readVMCSFieldGeneric depth encoding (some prior)).Ensures (recording fails) anyDumpOp state
      fun result final => final = state ∧
        result.2 = some ((shownValue fails state.1 encoding).setWidth w) := by
  have read : (readVMCSField64 depth encoding (some 0)).Ensures (recording fails) anyDumpOp state
      fun result final => final = state ∧ DriverStatus result.1 ∧
        result.2 = some (shownValue fails state.1 encoding) := by
    refine ensures_query_bind trivial (fun _ => Prod.ext rfl (List.append_nil _)) ?_
    rintro ⟨outcome, value⟩ ⟨gives, ends⟩
    have failed := ends guest
    have report (unread : fails encoding = true) :
        (do let _ ← printVMXError depth; return (statusFailedVmread, some 0)).Ensures
          (recording fails) anyDumpOp state fun result final => final = state ∧
            DriverStatus result.1 ∧ result.2 = some (shownValue fails state.1 encoding) := by
      apply (confined_printVMXError depth).ensures_bind (fieldRead_passes state)
      intro _ _
      have driverStatus : DriverStatus statusFailedVmread := driverStatus_ntError _
      exact ⟨rfl, driverStatus, congrArg some (if_pos unread).symm⟩
    cases outcome with
    | succeed =>
      have read : ¬ fails encoding = true := fun unread => failed.mp unread rfl
      exact ⟨rfl, driverStatus_statusSuccess,
        congrArg some ((gives rfl).trans (if_neg read).symm)⟩
    | failInvalid => exact report (failed.mpr nofun)
    | failValid => exact report (failed.mpr nofun)
  apply read.bind
  rintro ⟨status, field⟩ _ ⟨rfl, driverStatus, rfl⟩
  dsimp only
  rw [driverStatus.ntSuccess]
  exact ⟨rfl, rfl⟩

/-- A line reads no field of a report. -/
def ReadsGuest (line : DumpLine) : Prop := ∀ read ∈ line.reads, read.1 ∉ reportFields

instance (line : DumpLine) : Decidable (ReadsGuest line) :=
  inferInstanceAs (Decidable (∀ read ∈ line.reads, read.1 ∉ reportFields))

/-- A line is printed with its value, whatever the variables hold. -/
theorem ensures_run (depth : ℕ) (line : DumpLine) (guest : ReadsGuest line) (values : DumpValues)
    (vmcs : Vmcs) (seen : List (String × BitVec 64)) :
    (line.run depth values).Ensures (recording fails) anyDumpOp (vmcs, seen)
      fun _ final => final = (vmcs, seen ++ [shows fails vmcs line]) := by
  cases line with
  | zero label => exact ⟨trivial, fun _ _ => rfl⟩
  | field label destination encoding =>
    have unreported : encoding ∉ reportFields := guest _ rfl
    cases destination with
    | value16 | value32 =>
      apply (ensures_readVMCSFieldGeneric depth unreported _ _).bind
      rintro ⟨_, _⟩ _ ⟨rfl, rfl⟩
      exact ⟨trivial, fun _ _ => rfl⟩
    | value64 =>
      apply (ensures_readVMCSFieldGeneric depth unreported _ _).bind
      rintro ⟨_, _⟩ _ ⟨rfl, rfl⟩
      have whole := BitVec.setWidth_eq ((shownValue fails vmcs encoding).setWidth 64)
      refine ⟨trivial, fun _ _ => Prod.ext rfl ?_⟩
      exact congrArg (fun value => seen ++ [(label, value)]) whole.symm

/-- Lines are printed in order. -/
theorem ensures_dumpAll (depth : ℕ) (lines : List DumpLine) (guest : ∀ line ∈ lines, ReadsGuest line)
    (values : DumpValues) (vmcs : Vmcs) (seen : List (String × BitVec 64)) :
    (dumpAll depth lines values).Ensures (recording fails) anyDumpOp (vmcs, seen)
      fun _ final => final = (vmcs, seen ++ lines.map (shows fails vmcs)) := by
  induction lines generalizing values seen with
  | nil => exact Prod.ext rfl (List.append_nil _).symm
  | cons line rest ih =>
    obtain ⟨first, later⟩ := List.forall_mem_cons.mp guest
    apply (ensures_run depth line first values vmcs seen).bind
    rintro values _ rfl
    have split := List.append_cons seen (shows fails vmcs line) (rest.map (shows fails vmcs))
    rw [List.map_cons, split]
    exact ih later values _

/-- A finished dump has printed its lines. -/
theorem printed_of_path {depth : ℕ} {vmcs final : Vmcs} {events : List (Event interface)}
    (path : Path (dumping fails) (dumpVmcsGuestArea depth) vmcs events (.done ()) final) :
    events.filterMap printed = dumpLines.map (shows fails vmcs) := by
  have guest : ∀ line ∈ dumpLines, ReadsGuest line := by decide +kernel
  rw [dumpVmcsGuestArea_eq] at path
  have recorded := path.observing printed []
  have ended := (ensures_dumpAll depth dumpLines guest ⟨0, 0, 0⟩ vmcs []).post_of_path recorded
  exact congrArg Prod.snd ended

/-- The field that is read where a field's label is printed. -/
def crossed : VmcsFieldEncoding → VmcsFieldEncoding
  | .kGuestIa32SysenterEip => .kGuestIa32SysenterEsp
  | .kGuestIa32SysenterEsp => .kGuestIa32SysenterEip
  | field => field

/-- The line with a label. -/
def lineOf (label : String) : Option DumpLine := dumpLines.find? fun line => label == line.label

/-- Under a label a whole variable of the crossed field is printed. -/
theorem lineOf_eq : ∀ entry ∈ labels, ∃ destination ∈ [DumpVariable.value16, .value32, .value64],
    lineOf entry.2 = some (.field entry.2 destination (crossed entry.1)) ∧
      destination.bits = fieldBits (crossed entry.1).encoding := by
  decide +kernel

/-- What is found under a label is the line with it. -/
theorem lookup_shows (vmcs : Vmcs) (label : String) (lines : List DumpLine) :
    (lines.map (shows fails vmcs)).lookup label =
      (lines.find? fun line => label == line.label).map fun line => (shows fails vmcs line).2 := by
  induction lines with
  | nil => rfl
  | cons line rest ih =>
    have named : (shows fails vmcs line).1 = line.label := by cases line <;> rfl
    rw [List.map_cons, List.lookup_cons, List.find?_cons, named]
    cases label == line.label with
    | true => rfl
    | false => exact ih

/-- Under each label a finished dump shows the crossed field. -/
theorem shown_of_path {depth : ℕ} {vmcs final : Vmcs} {events : List (Event interface)}
    (path : Path (dumping fails) (dumpVmcsGuestArea depth) vmcs events (.done ()) final)
    {entry : VmcsFieldEncoding × String} (labelled : entry ∈ labels) :
    shown events entry.2 =
      some (if fails (crossed entry.1) then 0 else held vmcs (crossed entry.1)) := by
  obtain ⟨destination, -, line, bits⟩ := lineOf_eq entry labelled
  rw [shown, printed_of_path path, lookup_shows]
  change (lineOf entry.2).map _ = _
  rw [line, Option.map_some, shows, bits, shownValue]
  split
  · simp
  · rfl

/-- Where the errors can be reported, every read comes back. -/
theorem reaches_readVMCSFieldGeneric (vmcs : Vmcs) {w : ℕ} (encoding : VmcsFieldEncoding)
    (prior : BitVec w) :
    ∃ result, Reaches (dumping fails) (readVMCSFieldGeneric 1 encoding (some prior)) vmcs
      (.done result) vmcs := by
  cases unread : fails encoding with
  | false =>
    have succeeds : (dumping fails).allows vmcs (.vmread encoding) (.succeed, vmcs.read encoding) :=
      ⟨fun _ => rfl, fun _ => by simp [unread]⟩
    refine ⟨(statusSuccess, some ((vmcs.read encoding).setWidth w)), ?_⟩
    exact .step (P := interface) _ succeeds (.refl _ _)
  | true =>
    have failed : (dumping fails).allows vmcs (.vmread encoding) (.failInvalid, 0) :=
      ⟨nofun, fun _ => by simp [unread]⟩
    have reported (field : VmcsFieldEncoding) (report : field ∈ reportFields) :
        (dumping fails).allows vmcs (.vmread field) (.succeed, vmcs.read field) :=
      ⟨fun _ => rfl, fun other => absurd report other⟩
    refine ⟨(statusFailedVmread, some ((0 : BitVec 64).setWidth w)), ?_⟩
    refine .step (P := interface) _ failed ?_
    refine .step (P := interface) _ (reported .kVmInstructionError (by decide)) ?_
    refine .step (P := interface) _ (reported .kExitReason (by decide)) ?_
    exact .refl _ _

/-- So does every line. -/
theorem reaches_dumpAll (vmcs : Vmcs) (lines : List DumpLine) (values : DumpValues) :
    Reaches (dumping fails) (dumpAll 1 lines values) vmcs (.done ()) vmcs := by
  have prints (label : String) (value : BitVec 64) (values : DumpValues) :
      Reaches (dumping fails) (do print label value; return values) vmcs (.done values) vmcs :=
    .step (P := interface) () ⟨trivial, trivial⟩ (.refl _ _)
  have runs (line : DumpLine) (values : DumpValues) :
      ∃ later, Reaches (dumping fails) (line.run 1 values) vmcs (.done later) vmcs := by
    cases line with
    | zero label => exact ⟨_, prints label 0 values⟩
    | field label destination encoding =>
      cases destination with
      | value16 =>
        obtain ⟨_, read⟩ := reaches_readVMCSFieldGeneric vmcs encoding values.value16
        exact ⟨_, read.andThen (prints _ _ _)⟩
      | value32 =>
        obtain ⟨_, read⟩ := reaches_readVMCSFieldGeneric vmcs encoding values.value32
        exact ⟨_, read.andThen (prints _ _ _)⟩
      | value64 =>
        obtain ⟨_, read⟩ := reaches_readVMCSFieldGeneric vmcs encoding values.value64
        exact ⟨_, read.andThen (prints _ _ _)⟩
  induction lines generalizing values with
  | nil => exact .refl _ _
  | cons line rest ih =>
    obtain ⟨values, run⟩ := runs line values
    exact run.andThen (ih values)

/-- Whatever fails, and whatever the VMCS holds, the dump can come to its end. -/
theorem exists_path (fails : VmcsFieldEncoding → Bool) (vmcs : Vmcs) :
    ∃ events, Path (dumping fails) (dumpVmcsGuestArea 1) vmcs events (.done ()) vmcs :=
  reaches_dumpAll vmcs dumpLines ⟨0, 0, 0⟩

end Lines

section Labels

variable {fails : VmcsFieldEncoding → Bool} {depth : ℕ} {vmcs final : Vmcs}
  {events : List (Event interface)}

/-- No other label is crossed. -/
theorem crossed_eq_self {field : VmcsFieldEncoding} (esp : field ≠ .kGuestIa32SysenterEsp)
    (eip : field ≠ .kGuestIa32SysenterEip) : crossed field = field := by
  unfold crossed
  split
  · contradiction
  · contradiction
  · rfl

/-- What the fields hold after one is written. -/
theorem held_write (vmcs : Vmcs) {field : VmcsFieldEncoding}
    (natural : fieldBits field.encoding = 64) (value : BitVec 64) :
    held (vmcs.write field value) = Function.update (held vmcs) field value := by
  funext other
  rw [held, Vmcs.read_write]
  by_cases same : other = field
  · subst same
    rw [Function.update_self, Function.update_self, Vmcs.kept_of_natural natural,
      Vmcs.kept_of_natural natural]
  · rw [Function.update_of_ne same, Function.update_of_ne same, held]

/-- Under a crossed label a line shows the other field, unless its `VMREAD` fails. -/
theorem fails_of_showsOwn
    (path : Path (dumping fails) (dumpVmcsGuestArea depth) vmcs events (.done ()) final)
    (shows : ShowsOwn fails vmcs events) {entry : VmcsFieldEncoding × String}
    (labelled : entry ∈ labels) (moved : crossed entry.1 ≠ entry.1)
    (natural : fieldBits (crossed entry.1).encoding = 64) : fails (crossed entry.1) = true := by
  by_contra read
  have other := held_write vmcs natural (held vmcs (crossed entry.1) + 1)
  obtain ⟨events', otherPath⟩ :=
    exists_path fails (vmcs.write (crossed entry.1) (held vmcs (crossed entry.1) + 1))
  have agree := shows.others entry labelled _ _ events' _ otherPath
    (by rw [other, Function.update_of_ne moved.symm])
  rw [shown_of_path otherPath labelled, shown_of_path path labelled, if_neg read, if_neg read, other,
    Function.update_self] at agree
  exact absurd (Option.some.inj agree) (by simp)

/-- The exact extent of the defect: the labels are right when neither `VMREAD` of the two `SYSENTER`
addresses succeeds. -/
theorem showsOwn_iff
    (path : Path (dumping fails) (dumpVmcsGuestArea depth) vmcs events (.done ()) final) :
    ShowsOwn fails vmcs events ↔
      fails .kGuestIa32SysenterEip = true ∧ fails .kGuestIa32SysenterEsp = true := by
  constructor
  · intro shows
    have esp : (.kGuestIa32SysenterEsp, "VMCS_GUEST_SYSENTER_ESP") ∈ labels := by simp [labels]
    have eip : (.kGuestIa32SysenterEip, "VMCS_GUEST_SYSENTER_EIP") ∈ labels := by simp [labels]
    constructor
    · exact fails_of_showsOwn path shows esp (by decide) (by decide)
    · exact fails_of_showsOwn path shows eip (by decide) (by decide)
  · rintro ⟨eip, esp⟩
    have value (field : VmcsFieldEncoding) (other : Vmcs) :
        (if fails (crossed field) then 0 else held other (crossed field)) =
          if fails field then 0 else held other field := by
      by_cases isEsp : field = .kGuestIa32SysenterEsp
      · rw [isEsp, esp]
        exact if_pos eip
      by_cases isEip : field = .kGuestIa32SysenterEip
      · rw [isEip, eip]
        exact if_pos esp
      rw [crossed_eq_self isEsp isEip]
    constructor
    · intro entry labelled read
      rw [shown_of_path path labelled, value, if_neg (Bool.eq_false_iff.mp read)]
    · intro entry labelled depth other events' final otherPath same
      rw [shown_of_path path labelled, shown_of_path otherPath labelled, value, value, same]

/-- A VMCS with different `SYSENTER` addresses. -/
def sysenterVmcs : Vmcs :=
  Vmcs.write (Vmcs.write (fun _ => 0) .kGuestIa32SysenterEsp 0x1000) .kGuestIa32SysenterEip 0x2000

/-- The `VMREAD`s of both fail. -/
def sysenterFails (field : VmcsFieldEncoding) : Bool :=
  field = .kGuestIa32SysenterEip || field = .kGuestIa32SysenterEsp

theorem showsOwn_sysenterFails : ∃ events,
    Path (dumping sysenterFails) (dumpVmcsGuestArea 1) sysenterVmcs events (.done ())
        sysenterVmcs ∧
      ShowsOwn sysenterFails sysenterVmcs events := by
  obtain ⟨events, path⟩ := exists_path sysenterFails sysenterVmcs
  exact ⟨events, path, (showsOwn_iff path).mpr ⟨rfl, rfl⟩⟩

/-- With every `VMREAD` succeeding, the line of `SYSENTER_ESP` shows `SYSENTER_EIP`. -/
theorem not_showsOwn : ¬ ∀ (fails : VmcsFieldEncoding → Bool) (depth : ℕ) (vmcs final : Vmcs)
    (events : List (Event interface)),
    Path (dumping fails) (dumpVmcsGuestArea depth) vmcs events (.done ()) final →
      ShowsOwn fails vmcs events := by
  intro shows
  obtain ⟨events, path⟩ := exists_path (fun _ => false) sysenterVmcs
  have esp : (.kGuestIa32SysenterEsp, "VMCS_GUEST_SYSENTER_ESP") ∈ labels := by simp [labels]
  have own := (shows _ _ _ _ _ path).own _ esp rfl
  rw [shown_of_path path esp] at own
  revert own
  decide +kernel

end Labels

end Guypervisor.Soundness.DumpLabels
