import Guypervisor.Proofs.Life
import Guypervisor.Soundness.LoadBalance
import Guypervisor.Soundness.ProcessorDetection

/-! # How loading ends

`DriverEntry` asks a good deal of the kernel, but two answers decide what it returns: those of
`IoCreateDevice` and `IoCreateSymbolicLink`. Neither a failed allocation nor any outcome of the
request to enter VMX makes a difference. Before these two calls stand the checks of the processor,
and a processor that does not pass them is left as it was found.
-/

namespace Guypervisor.Soundness.LoadOutcome

open Effects Effects.Program Model DriverCode Proofs

section Status

/-- A call of the I/O manager that can fail the load, with its status. -/
inductive Creation
  | device (status : NTSTATUS) | link (status : NTSTATUS)
deriving DecidableEq, Repr

def creation : Event driverInterface → Option Creation
  | ⟨.inr (.ioCreateDevice _), (status, _)⟩ => some (.device status)
  | ⟨.inr (.ioCreateSymbolicLink _ _), status⟩ => some (.link status)
  | _ => none

/-- The status `DriverEntry` returns after these calls. -/
inductive Returns : List Creation → NTSTATUS → Prop
  | unsupported : Returns [] statusNotSupported
  | notCreated {device : NTSTATUS} : ntSuccess device = false → Returns [.device device] device
  | notLinked {device link : NTSTATUS} : ntSuccess device = true → ntSuccess link = false →
      Returns [.device device, .link link] link
  | loaded {device link : NTSTATUS} : ntSuccess device = true → ntSuccess link = true →
      Returns [.device device, .link link] statusSuccess

/-- Loading succeeds exactly when a link was created. -/
theorem Returns.ntSuccess_iff {creations : List Creation} {status : NTSTATUS}
    (returns : Returns creations status) :
    ntSuccess status = true ↔ ∃ link, .link link ∈ creations ∧ ntSuccess link = true := by
  cases returns with
  | unsupported => simp [show ntSuccess statusNotSupported = false by decide]
  | notCreated failed => simp [failed]
  | notLinked _ failed => simp [failed]
  | loaded _ succeeded => simp [succeeded, show ntSuccess statusSuccess = true by decide]

variable {σ α : Type} {env : Environment driverInterface σ} {depth : ℕ} {state : σ × List Creation}
  {creations : List Creation} {post : α → σ × List Creation → Prop}

private abbrev anyOp (_ : σ × List Creation) (_ : driverInterface.A) : Prop := True

/-- Everything but the two calls. -/
def IsSilent : driverInterface.A → Prop
  | .inr (.ioCreateDevice _) | .inr (.ioCreateSymbolicLink _ _) => False
  | _ => True

theorem IsSilent.silent {op : driverInterface.A} (isSilent : IsSilent op) : Silent creation op := by
  intro response
  match op with
  | .inl _ => rfl
  | .inr op => cases op <;> first | rfl | exact isSilent.elim

/-- What makes neither call adds nothing to what was seen. -/
private theorem ensures_silent_bind {β : Type} {program : DriverCode β} {next : β → DriverCode α}
    {results : β → Prop} (confined : program.Confined IsSilent results) (seen : Seen creations state)
    (rest : ∀ result between, results result → Seen creations between →
      (next result).Ensures (env.observing creation) anyOp between post) :
    (program >>= next).Ensures (env.observing creation) anyOp state post := by
  apply (confined.ensures_seen (fun _ => IsSilent.silent) (fun _ _ _ => trivial) seen).bind
  rintro result between ⟨produced, seen⟩
  exact rest result between produced seen

private theorem ensures_silentDevice_bind {op : DeviceOp} {next : op.Response → DriverCode α}
    (silent : IsSilent (.inr op)) (seen : Seen creations state)
    (rest : ∀ response between, Seen creations between →
      (next response).Ensures (env.observing creation) anyOp between post) :
    (DriverCode.ask op >>= next).Ensures (env.observing creation) anyOp state post :=
  ensures_askDevice_bind trivial fun response _ => rest response _ (seen.next silent.silent response)

theorem IsDetection.isSilent {op : driverInterface.A} (detects : IsDetection op) : IsSilent op := by
  match op, detects with
  | .inl _, _ => trivial
  | .inr (.writeEflags _), _ | .inr (.uninitializedBytes _), _ => trivial

theorem IsUndo.isSilent {op : driverInterface.A} (undoes : IsUndo op) : IsSilent op := by
  match op, undoes with
  | .inl _, _ => trivial
  | .inr .loadGuypervisor, _ | .inr (.loadDeviceObject _), _ | .inr (.ioDeleteDevice _), _ => trivial

theorem IsInstall.isSilent {op : driverInterface.A} (installs : IsInstall op) : IsSilent op := by
  match op, installs with
  | .inr (.setMajorFunction _ _), _ => trivial

theorem IsCode.isSilent {op : driverInterface.A} (isCode : IsCode op) : IsSilent op := by
  match op, isCode with
  | .inl _, _ => trivial

theorem IsConstruction.isSilent {op : driverInterface.A} (constructs : IsConstruction op) :
    IsSilent op := by
  match op, constructs with
  | .inl _, _ => trivial
  | .inr (.storeDeviceObject _ _), _ | .inr (.storeName _ _ _), _ => trivial

/-- A cleanup returns the status it was given. -/
private theorem ensures_cleanup (status : NTSTATUS) (seen : Seen creations state) :
    (driverCleanup status).Ensures (env.observing creation) anyOp state fun result final =>
      result = status ∧ Seen creations final := by
  rw [← bind_pure (driverCleanup status)]
  apply ensures_silent_bind ((confined_driverCleanup status).mono (fun _ => IsUndo.isSilent)
    fun _ => id) seen
  rintro _ _ rfl seen
  exact ⟨rfl, seen⟩

/-- `InitDevice` returns what `IoCreateDevice` answered. -/
private theorem ensures_initDevice (device : Address) (seen : Seen [] state) :
    (Device.initDevice device).Ensures (env.observing creation) anyOp state fun status final =>
      Seen [.device status] final := by
  have installs (status : NTSTATUS) {state : σ × List Creation} (seen : Seen [.device status] state) :
      (do
        setDriverUnload
        let _ ← Device.addFunctions
        return status : DriverCode NTSTATUS).Ensures (env.observing creation) anyOp state
        fun status final => Seen [.device status] final := by
    refine ensures_silentDevice_bind trivial seen fun _ _ seen => ?_
    apply ensures_silent_bind (confined_addFunctions.mono (fun _ => IsInstall.isSilent) fun _ => id)
      seen
    exact fun _ _ _ seen => seen
  refine ensures_silentDevice_bind trivial seen fun name between seen => ?_
  refine ensures_askDevice_bind trivial fun answer _ => ?_
  obtain ⟨status, object⟩ := answer
  have created : Seen [.device status] ((env.observing creation).next between
      (.inr (.ioCreateDevice name)) (status, object)) := seen.observed rfl
  dsimp only
  split
  · exact ensures_silentDevice_bind trivial created fun _ _ seen => installs status seen
  · exact installs status created

/-- `CreateSymlink` returns what `IoCreateSymbolicLink` answered. -/
private theorem ensures_createSymlink (device : Address) (seen : Seen creations state) :
    (Device.createSymlink device).Ensures (env.observing creation) anyOp state fun status final =>
      Seen (creations ++ [.link status]) final := by
  refine ensures_silentDevice_bind trivial seen fun _ _ seen => ?_
  refine ensures_silentDevice_bind trivial seen fun _ _ seen => ?_
  refine ensures_silentDevice_bind trivial seen fun _ _ seen => ?_
  refine ensures_silentDevice_bind trivial seen fun _ _ seen => ?_
  refine ensures_askDevice_bind trivial fun status _ => ?_
  exact seen.observed rfl

/-- What follows the creation of the link always ends in success. -/
private theorem ensures_afterSymlink (depth : ℕ) (seen : Seen creations state) :
    (afterSymlink depth).Ensures (env.observing creation) anyOp state fun status final =>
      status = statusSuccess ∧ Seen creations final := by
  have built : (code setUpTables).Confined IsSilent fun status => status = statusSuccess := by
    apply (confined_inLeft _ _ _).mpr
    have always : ∀ op : Op, True → IsSilent (.inl op) := fun _ _ => trivial
    have silent {β : Type} (program : Code β) :
        program.Confined (fun op => IsSilent (.inl op)) fun _ => True :=
      (confined_true program).mono always fun _ => id
    apply (silent newProcessorContext).bind
    intro _ _
    apply (silent initializeProcessorContext).bind
    intro _ _
    rw [LoadBalance.initializeEPT_eq]
    apply (silent LoadBalance.prepareTables).bind
    intro tables _
    apply (silent (fillPdpteEntries tables.1 tables.2)).bind
    intro _ _
    apply (silent (fillPdeEntries tables.2)).bind
    intro _ _
    rfl
  have entered : (code (enterVmxHandler depth)).Confined IsSilent fun _ => True :=
    (confined_inLeft _ _ _).mpr ((confined_true _).mono (fun _ _ => trivial) fun _ => id)
  rw [afterSymlink_eq]
  apply ensures_silent_bind built seen
  rintro _ _ rfl seen
  apply ensures_silent_bind entered seen
  exact fun _ _ _ seen => ⟨rfl, seen⟩

/-- Past the checks at least the first call is made. -/
private theorem ensures_afterDetection (depth : ℕ) (seen : Seen [] state) :
    (afterDetection depth).Ensures (env.observing creation) anyOp state fun status final =>
      Returns final.2 status ∧ final.2 ≠ [] := by
  have ended {status : NTSTATUS} {creations : List Creation} {program : DriverCode NTSTATUS}
      {state : σ × List Creation} (returns : Returns creations status) (some : creations ≠ [])
      (ensured : program.Ensures (env.observing creation) anyOp state fun result final =>
        result = status ∧ Seen creations final) :
      program.Ensures (env.observing creation) anyOp state fun status final =>
        Returns final.2 status ∧ final.2 ≠ [] := by
    apply ensured.mono
    rintro _ final ⟨rfl, seen⟩
    rw [show final.2 = creations from seen]
    exact ⟨returns, some⟩
  apply ensures_silent_bind ((confined_new _ _).mono (fun _ => IsConstruction.isSilent) fun _ => id) seen
  intro device _ _ seen
  refine ensures_silentDevice_bind trivial seen fun _ _ seen => ?_
  refine ensures_silentDevice_bind trivial seen fun device _ seen => ?_
  apply (ensures_initDevice device seen).bind
  intro created _ seen
  split
  · rename_i failed
    exact ended (.notCreated (by simpa using failed)) (List.cons_ne_nil _ _)
      (ensures_cleanup created seen)
  rename_i succeeded
  refine ensures_silentDevice_bind trivial seen fun device _ seen => ?_
  apply (ensures_createSymlink device seen).bind
  intro linked _ seen
  split
  · rename_i failed
    exact ended (.notLinked (by simpa using succeeded) (by simpa using failed))
      (List.cons_ne_nil _ _) (ensures_cleanup linked seen)
  · rename_i linkSucceeded
    exact ended (.loaded (by simpa using succeeded) (by simpa using linkSucceeded))
      (List.cons_ne_nil _ _) (ensures_afterSymlink depth seen)

private theorem ensures_driverEntry (depth : ℕ) (seen : Seen [] state) :
    (driverEntry depth).Ensures (env.observing creation) anyOp state fun status final =>
      Returns final.2 status := by
  have detects {program : DriverCode Bool} (confined : program.Confined IsDetection fun _ => True) :
      program.Confined IsSilent fun _ => True :=
    confined.mono (fun _ => IsDetection.isSilent) fun _ => id
  have rejects {state : σ × List Creation} (seen : Seen [] state) :
      (driverCleanup statusNotSupported).Ensures (env.observing creation) anyOp state
        fun status final => Returns final.2 status := by
    apply (ensures_cleanup statusNotSupported seen).mono
    rintro _ final ⟨rfl, seen⟩
    rw [show final.2 = [] from seen]
    exact .unsupported
  apply ensures_silent_bind (detects (confined_isCPUIdSupported _)) seen
  intro supported _ _ seen
  split
  · exact rejects seen
  apply ensures_silent_bind (detects confined_vendorIsIntel) seen
  intro intel _ _ seen
  split
  · exact rejects seen
  apply ensures_silent_bind (detects confined_supportsVtxOperation) seen
  intro vtx _ _ seen
  split
  · exact rejects seen
  · exact (ensures_afterDetection depth seen).mono fun _ _ ended => ended.1

/-- **Of all that a run of `DriverEntry` asks, the answers to two calls decide its status.** -/
theorem returns_of_path {start final : σ} {events : List (Event driverInterface)} {status : NTSTATUS}
    (path : Path env (driverEntry depth) start events (.done status) final) :
    Returns (events.filterMap creation) status := by
  have seen : Seen [] (start, ([] : List Creation)) := rfl
  exact (ensures_driverEntry depth seen).post_of_path (path.observing creation [])

/-- A load that succeeds. -/
theorem returns_of_path_loaded : ∃ events loaded, Path System.environment (driverEntry 2)
    (System.start fun _ => 0).mapImage events (.done statusSuccess) loaded ∧
      Returns (events.filterMap creation) statusSuccess := by
  obtain ⟨loaded, events, path⟩ := LoadBalance.returns_driverEntry
  exact ⟨events, loaded, path, returns_of_path path⟩

end Status

section Admission

variable {identification : Identification} {writable flags : BitVec 64} {depth : ℕ} {α : Type}
  {legal : BitVec 64 × List Creation → driverInterface.A → Prop}
  {post : α → BitVec 64 × List Creation → Prop}

/-- The processors that `DriverEntry` does not turn away: the ID flag is set or can be set, the last
part of the vendor's name is not the first part of `GenuineIntel` before old stack contents that
spell the rest, and bit 26 of the feature word is set. -/
structure Admitted (identification : Identification) (writable flags : BitVec 64) : Prop where
  idFlag : (flags ||| writable).getLsbD 21 = true
  vendor : memcpyFour (identification.stack 12) (identification.cpuid kIa32CpuVendorName).ecx ≠
    kVendorName
  version : (identification.cpuid kIa32CpuVersion).ecx.getLsbD 26 = true

/-- What `POPFQ` leaves of the flags. -/
abbrev popped (writable value flags : BitVec 64) : BitVec 64 :=
  (value &&& writable) ||| (flags &&& ~~~writable)

private theorem getLsbD_popped (writable value flags : BitVec 64) (flag : ℕ) :
    (popped writable value flags).getLsbD flag =
      if writable.getLsbD flag then value.getLsbD flag else flags.getLsbD flag := by
  by_cases bound : flag < 64
  · simp only [BitVec.getLsbD_or, BitVec.getLsbD_and, BitVec.getLsbD_not, bound, decide_true]
    cases writable.getLsbD flag <;> simp
  · have beyond (register : BitVec 64) : register.getLsbD flag = false :=
      BitVec.getLsbD_of_ge _ _ (by omega)
    rw [beyond, beyond writable, if_neg Bool.false_ne_true, beyond]

/-- Flags that were changed and popped again are as they were. -/
theorem sameFlags_popped {saved : BitVec 64} (same : SameFlags saved flags) (value : BitVec 64) :
    SameFlags (popped writable saved (popped writable value flags)) flags := by
  apply sameFlags_of_getLsbD
  intro flag other
  rw [getLsbD_popped, getLsbD_popped]
  split
  · exact same.getLsbD_eq other
  · rfl

/-- The mask leaves the ID flag alone. -/
private theorem shifted_eq (value : BitVec 64) :
    ((value &&& hasCpuidFlagMask.setWidth 64) >>> 21).setWidth 8 =
      (BitVec.ofBool (value.getLsbD 21)).setWidth 8 := by
  have mask (i : ℕ) : (hasCpuidFlagMask.setWidth 64).getLsbD i = decide (21 = i) := by
    change (2 ^ 21).testBit i = _
    exact Nat.testBit_two_pow
  apply BitVec.eq_of_getLsbD_eq
  intro i bound
  rw [BitVec.getLsbD_setWidth, BitVec.getLsbD_ushiftRight, BitVec.getLsbD_and, mask,
    BitVec.getLsbD_setWidth, BitVec.getLsbD_ofBool]
  by_cases first : i = 0
  · subst first
    simp
  · simp [first]

/-- What is found of the ID flag after an attempt to set it. -/
theorem idFlag_iff {rax found : BitVec 64}
    (kept : SameFlags found (popped writable (rax ||| hasCpuidFlagMask.setWidth 64) flags)) :
    ((found &&& hasCpuidFlagMask.setWidth 64) >>> 21).setWidth 8 ≠ (0 : BitVec 8) ↔
      (flags ||| writable).getLsbD 21 = true := by
  have mask : (hasCpuidFlagMask.setWidth 64).getLsbD 21 = true := by decide
  have other : statusFlags.getLsbD 21 = false := by decide
  rw [shifted_eq, kept.getLsbD_eq other, getLsbD_popped, BitVec.getLsbD_or, BitVec.getLsbD_or, mask]
  cases flags.getLsbD 21 <;> cases writable.getLsbD 21 <;> simp

/-- The flags, with the calls so far. -/
private abbrev admitting (identification : Identification) (writable : BitVec 64) :
    Environment driverInterface (BitVec 64 × List Creation) :=
  (identification.withFlags writable).observing creation

private theorem next_admitting {op : driverInterface.A} (silent : IsSilent op)
    (state : BitVec 64 × List Creation) (response : driverInterface.B op) :
    (admitting identification writable).next state op response =
      ((identification.withFlags writable).next state.1 op response, state.2) := by
  have seen : Seen state.2 state := rfl
  exact Prod.ext rfl (seen.next silent.silent response)

section Checks

variable {now : BitVec 64} (checks : ∀ now op, IsDetection op → legal (now, []) op)

include checks

private theorem ensures_checkCode_bind {op : Op} {next : op.Response → DriverCode α}
    (detects : IsDetection (.inl op))
    (rest : ∀ response, (identification.withFlags writable).allows now (.inl op) response →
      (next response).Ensures (admitting identification writable) legal (now, []) post) :
    (code (Code.ask op) >>= next).Ensures (admitting identification writable) legal (now, []) post := by
  refine ensures_askCode_bind (checks _ _ detects) fun response allowed => ?_
  rw [next_admitting (IsDetection.isSilent detects)]
  exact rest response allowed

private theorem ensures_writeEflags_bind {value : BitVec 64} {next : Unit → DriverCode α}
    (rest : (next ()).Ensures (admitting identification writable) legal
      (popped writable value now, []) post) :
    (writeEflags value >>= next).Ensures (admitting identification writable) legal (now, []) post := by
  have detects : IsDetection (.inr (.writeEflags value)) := trivial
  refine ensures_askDevice_bind (checks _ _ detects) fun response _ => ?_
  rw [next_admitting (IsDetection.isSilent detects)]
  exact rest

/-- The first check leaves the flags as they were, but for the status flags. -/
private theorem ensures_isCPUIdSupported_bind {next : Bool → DriverCode α}
    (rest : ∀ now, SameFlags now flags →
      (next (decide ((flags ||| writable).getLsbD 21 = true))).Ensures
        (admitting identification writable) legal (now, []) post) :
    (isCPUIdSupported hasCpuidFlagMask >>= next).Ensures (admitting identification writable) legal
      (flags, []) post := by
  rw [isCPUIdSupported]
  simp only [bind_assoc, pure_bind]
  refine ensures_checkCode_bind checks trivial fun saved save => ?_
  refine ensures_checkCode_bind checks trivial fun rax _ => ?_
  apply ensures_writeEflags_bind checks
  refine ensures_checkCode_bind checks trivial fun found kept => ?_
  apply ensures_writeEflags_bind checks
  rw [decide_eq_decide.mpr (idFlag_iff kept.2)]
  exact rest _ (sameFlags_popped save.2 _)

private theorem ensures_vendorIsIntel_bind {next : Bool → DriverCode α}
    (rest : (next (decide (memcpyFour (identification.stack 12)
      (identification.cpuid kIa32CpuVendorName).ecx ≠ kVendorName))).Ensures
      (admitting identification writable) legal (now, []) post) :
    (vendorIsIntel >>= next).Ensures (admitting identification writable) legal (now, []) post := by
  have detects : IsDetection (.inr (.uninitializedBytes 12)) := trivial
  refine ensures_askDevice_bind (checks _ _ detects) fun bytes read => ?_
  rw [next_admitting (IsDetection.isSilent detects)]
  obtain rfl : bytes = identification.stack 12 := read.1
  refine ensures_checkCode_bind checks trivial fun info read => ?_
  obtain rfl : info = identification.cpuid kIa32CpuVendorName := read.1
  rw [ProcessorDetection.memcpyFour_memcpyFour, ProcessorDetection.memcpyFour_memcpyFour]
  exact rest

private theorem ensures_supportsVtxOperation_bind {next : Bool → DriverCode α}
    (rest : (next ((identification.cpuid kIa32CpuVersion).ecx.getLsbD 26)).Ensures
      (admitting identification writable) legal (now, []) post) :
    (supportsVtxOperation >>= next).Ensures (admitting identification writable) legal (now, []) post := by
  refine ensures_checkCode_bind checks trivial fun info read => ?_
  obtain rfl : info = identification.cpuid kIa32CpuVersion := read.1
  exact rest

/-- The checks turn a processor away, or let it pass, with its flags. -/
private theorem ensures_driverEntry_of_checks {post : NTSTATUS → BitVec 64 × List Creation → Prop}
    (rejects : ¬ Admitted identification writable flags → ∀ now, SameFlags now flags →
      (driverCleanup statusNotSupported).Ensures (admitting identification writable) legal (now, []) post)
    (admits : Admitted identification writable flags → ∀ now, SameFlags now flags →
      (afterDetection depth).Ensures (admitting identification writable) legal (now, []) post) :
    (driverEntry depth).Ensures (admitting identification writable) legal (flags, []) post := by
  apply ensures_isCPUIdSupported_bind checks
  intro now same
  by_cases idFlag : (flags ||| writable).getLsbD 21 = true
  · rw [decide_eq_true idFlag]
    apply ensures_vendorIsIntel_bind checks
    by_cases vendor : memcpyFour (identification.stack 12)
        (identification.cpuid kIa32CpuVendorName).ecx ≠ kVendorName
    · rw [decide_eq_true vendor]
      apply ensures_supportsVtxOperation_bind checks
      cases version : (identification.cpuid kIa32CpuVersion).ecx.getLsbD 26 with
      | false =>
        exact rejects (fun admitted => Bool.false_ne_true (version.symm.trans admitted.version)) now same
      | true => exact admits ⟨idFlag, vendor, version⟩ now same
    · rw [decide_eq_false vendor]
      exact rejects (fun admitted => vendor admitted.vendor) now same
  · rw [decide_eq_false idFlag]
    exact rejects (fun admitted => idFlag admitted.idFlag) now same

end Checks

/-- Leaving the flags alone. -/
def KeepsFlags : driverInterface.A → Prop
  | .inr (.writeEflags _) => False
  | _ => True

theorem IsUndo.keepsFlags {op : driverInterface.A} (undoes : IsUndo op) : KeepsFlags op := by
  match op, undoes with
  | .inl _, _ => trivial
  | .inr .loadGuypervisor, _ | .inr (.loadDeviceObject _), _ | .inr (.ioDeleteDevice _), _ => trivial

theorem IsConstruction.keepsFlags {op : driverInterface.A} (constructs : IsConstruction op) :
    KeepsFlags op := by
  match op, constructs with
  | .inl _, _ => trivial
  | .inr (.storeDeviceObject _ _), _ | .inr (.storeName _ _ _), _ => trivial

private theorem keepsFlags_initDevice (device : Address) :
    (Device.initDevice device).Confined KeepsFlags fun _ => True := by
  refine (LoadBalance.confined_initDevice device).mono (fun op init => ?_) fun _ => id
  match op, init with
  | .inr (.loadName _ _), _ | .inr (.ioCreateDevice _), _ | .inr (.storeDeviceObject _ _), _ => trivial
  | .inr .setDriverUnload, _ | .inr (.setMajorFunction _ _), _ => trivial

private theorem keepsFlags_afterDetection (depth : ℕ) :
    (afterDetection depth).Confined KeepsFlags fun _ => True := by
  have cleanup (status : NTSTATUS) : (driverCleanup status).Confined KeepsFlags fun _ => True :=
    (confined_driverCleanup status).mono (fun _ => IsUndo.keepsFlags) fun _ _ => trivial
  have created : (Device.new deviceName dosDeviceName).Confined KeepsFlags fun _ => True :=
    (confined_new _ _).mono (fun _ => IsConstruction.keepsFlags) fun _ => id
  apply created.bind
  intro device _
  refine confined_askDevice_bind trivial fun _ => ?_
  refine confined_askDevice_bind trivial fun device => ?_
  apply (keepsFlags_initDevice device).bind
  intro status _
  split
  · exact cleanup status
  refine confined_askDevice_bind trivial fun device => ?_
  have linked : (Device.createSymlink device).Confined KeepsFlags fun _ => True := by
    iterate 5 refine confined_askDevice_bind trivial fun _ => ?_
    trivial
  apply linked.bind
  intro status _
  split
  · exact cleanup status
  · refine (confined_afterSymlink depth).mono (fun op isCode => ?_) fun _ _ => trivial
    match op, isCode with
    | .inl _, _ => trivial

/-- Past the checks the flags are these, but for the status flags. -/
def HasFlags (flags : BitVec 64) (state : BitVec 64 × List Creation) (op : driverInterface.A) : Prop :=
  ¬ IsDetection op → SameFlags state.1 flags

private theorem ensures_hasFlags {program : DriverCode NTSTATUS} {state : BitVec 64 × List Creation}
    (same : SameFlags state.1 flags) (confined : program.Confined KeepsFlags fun _ => True) :
    program.Ensures (admitting identification writable) (HasFlags flags) state
      fun _ final => SameFlags final.1 flags := by
  have kept : program.Ensures (admitting identification writable) (HasFlags flags) state
      fun _ final => True ∧ SameFlags final.1 flags := by
    apply confined.keeps
    · exact fun _ _ _ same _ => same
    · intro state op response keeps same _
      match op, keeps with
      | .inl _, _ => exact same
      | .inr op, keeps => cases op <;> first | exact same | exact keeps.elim
    · exact same
  exact kept.mono fun _ _ ended => ended.2

/-- The flags are restored, whatever the processor. -/
private theorem ensures_restores (depth : ℕ) :
    (driverEntry depth).Ensures (admitting identification writable) (HasFlags flags) (flags, [])
      fun _ final => SameFlags final.1 flags := by
  apply ensures_driverEntry_of_checks fun _ _ detects other => absurd detects other
  · intro _ now same
    exact ensures_hasFlags same ((confined_driverCleanup _).mono (fun _ => IsUndo.keepsFlags)
      fun _ _ => trivial)
  · intro _ now same
    exact ensures_hasFlags same (keepsFlags_afterDetection depth)

/-- What is done for a processor that is turned away: nothing is created. -/
def TurnsAway (state : BitVec 64 × List Creation) (op : driverInterface.A) : Prop :=
  state.2 = [] ∧ (IsDetection op ∨ IsUndo op)

private theorem ensures_rejects (depth : ℕ) (rejected : ¬ Admitted identification writable flags) :
    (driverEntry depth).Ensures (admitting identification writable) TurnsAway (flags, [])
      fun status final => status = statusNotSupported ∧ final.2 = [] := by
  apply ensures_driverEntry_of_checks fun _ _ detects => ⟨rfl, .inl detects⟩
  · intro _ now _
    apply (confined_driverCleanup statusNotSupported).keeps
    · exact fun _ _ undoes seen => ⟨seen, .inr undoes⟩
    · intro state op response undoes seen _
      have none : Seen [] state := seen
      exact none.next (IsUndo.isSilent undoes).silent response
    · rfl
  · exact fun admitted => absurd admitted rejected

/-- What comes before a device is created: the checks, and a `Device` is constructed. -/
def IsEarly : driverInterface.A → Prop
  | .inr (.storeGuypervisor _) | .inr .loadGuypervisor | .inr (.loadName _ _) => True
  | .inr (.ioCreateDevice _) => True
  | op => IsDetection op ∨ IsConstruction op

theorem IsDetection.isEarly {op : driverInterface.A} (detects : IsDetection op) : IsEarly op := by
  match op, detects with
  | .inl _, detects => exact .inl detects
  | .inr (.writeEflags _), detects | .inr (.uninitializedBytes _), detects => exact .inl detects

theorem IsConstruction.isEarly {op : driverInterface.A} (constructs : IsConstruction op) :
    IsEarly op := by
  match op, constructs with
  | .inl _, constructs => exact .inr constructs
  | .inr (.storeDeviceObject _ _), constructs | .inr (.storeName _ _ _), constructs =>
    exact .inr constructs

/-- What is done for every other one, as long as no device was created. -/
def LetsPass (state : BitVec 64 × List Creation) (op : driverInterface.A) : Prop :=
  state.2 = [] → IsEarly op

/-- Once a device was asked for, anything may be done. -/
private theorem ensures_letsPass {program : DriverCode α} {state : BitVec 64 × List Creation}
    (made : state.2 ≠ []) :
    program.Ensures (admitting identification writable) LetsPass state fun _ final => final.2 ≠ [] := by
  have kept : program.Ensures (admitting identification writable) LetsPass state
      fun _ final => True ∧ final.2 ≠ [] :=
    (confined_true program).keeps (fun _ _ _ made none => absurd none made)
      (fun _ _ _ _ made _ => List.append_ne_nil_of_left_ne_nil made _) made
  exact kept.mono fun _ _ ended => ended.2

private theorem ensures_earlyDevice_bind {op : DeviceOp} {next : op.Response → DriverCode α}
    {state : BitVec 64 × List Creation} (early : IsEarly (.inr op)) (silent : IsSilent (.inr op))
    (seen : Seen [] state)
    (rest : ∀ response between, Seen [] between →
      (next response).Ensures (admitting identification writable) LetsPass between post) :
    (DriverCode.ask op >>= next).Ensures (admitting identification writable) LetsPass state post :=
  ensures_askDevice_bind (fun _ => early) fun response _ =>
    rest response _ (seen.next silent.silent response)

private theorem ensures_admits (depth : ℕ) (admitted : Admitted identification writable flags) :
    (driverEntry depth).Ensures (admitting identification writable) LetsPass (flags, [])
      fun _ final => final.2 ≠ [] := by
  apply ensures_driverEntry_of_checks fun _ _ detects _ => IsDetection.isEarly detects
  · exact fun rejected => absurd admitted rejected
  · intro _ now _
    have constructs : (Device.new deviceName dosDeviceName).Ensures (admitting identification writable)
        LetsPass (now, []) fun _ final => True ∧ Seen [] final :=
      (confined_new _ _).ensures_seen (fun _ work => (IsConstruction.isSilent work).silent)
        (fun _ _ work _ => IsConstruction.isEarly work) rfl
    apply constructs.bind
    rintro device _ ⟨-, seen⟩
    refine ensures_earlyDevice_bind trivial trivial seen fun _ _ seen => ?_
    refine ensures_earlyDevice_bind trivial trivial seen fun device _ seen => ?_
    have created {state : BitVec 64 × List Creation} (seen : Seen [] state) :
        (Device.initDevice device).Ensures (admitting identification writable) LetsPass state
          fun _ final => final.2 ≠ [] := by
      refine ensures_earlyDevice_bind trivial trivial seen fun name _ seen => ?_
      refine ensures_askDevice_bind (fun _ => trivial) fun answer _ => ?_
      exact ensures_letsPass (List.append_ne_nil_of_right_ne_nil _ (List.cons_ne_nil _ _))
    apply (created seen).bind
    exact fun _ _ made => ensures_letsPass made

/-- How `DriverEntry` treats a processor, wherever it stands. -/
structure Treats (identification : Identification) (writable flags : BitVec 64)
    (rest : DriverCode NTSTATUS) (now : BitVec 64) (creations : List Creation) : Prop where
  restored : (∀ op, rest.head? = some op → ¬ IsDetection op) → SameFlags now flags
  rejected : ¬ Admitted identification writable flags → creations = [] ∧
    (∀ op, rest.head? = some op → IsDetection op ∨ IsUndo op) ∧
      ∀ status, rest = .done status → status = statusNotSupported
  admitted : Admitted identification writable flags → creations = [] →
    ∃ op, rest.head? = some op ∧ IsEarly op

/-- **A processor that is turned away is told so with nothing created, every other one gets as far as
`IoCreateDevice`, and past the checks either has its flags back, but for the status flags; in every
run, whether it ends or not.** -/
theorem treats_of_path {rest : DriverCode NTSTATUS} {now : BitVec 64}
    {events : List (Event driverInterface)}
    (path : Path (identification.withFlags writable) (driverEntry depth) flags events rest now) :
    Treats identification writable flags rest now (events.filterMap creation) := by
  have observed := path.observing creation []
  have restores := (ensures_restores depth).along observed
  cases rest with
  | done status =>
    refine ⟨fun _ => restores, fun rejected => ?_, fun admitted none => ?_⟩
    · obtain ⟨told, none⟩ := (ensures_rejects depth rejected).post_of_path observed
      refine ⟨none, nofun, fun _ ended => ?_⟩
      rw [← Program.done.inj ended, told]
    · exact absurd none ((ensures_admits depth admitted).post_of_path observed)
  | issue op resume =>
    refine ⟨fun past => restores.1 (past op rfl), fun rejected => ?_, fun admitted none => ?_⟩
    · obtain ⟨none, turns⟩ := (ensures_rejects depth rejected).legal_of_path observed rfl
      refine ⟨none, fun other issued => ?_, nofun⟩
      rw [← Option.some.inj issued]
      exact turns
    · exact ⟨op, rfl, (ensures_admits depth admitted).legal_of_path observed rfl none⟩

/-- A processor of Intel's with VMX. -/
def genuineIntel (leaf : BitVec 32) : CpuInfo :=
  ⟨0x16, 0x756E6547, if leaf = kIa32CpuVersion then 0x04000000 else 0x6C65746E, 0x49656E69⟩

private def genuine : Identification := ⟨genuineIntel, fun _ => 0⟩

/-- Its answers, with the carry flag set whenever the flags are read. -/
private def flagsAnswer (kGuypervisor : Address) (flags : BitVec 64) :
    (op : driverInterface.A) → Option (driverInterface.B op)
  | .inl .readEflags => some (flags ||| 1)
  | .inl (.cpuid leaf) => some (genuineIntel leaf)
  | .inl .loadContext => some (0 : Address)
  | .inl (.allocatePool _) => some (0x10000 : Address)
  | .inr (.writeEflags _) | .inr (.storeGuypervisor _) => some ()
  | .inr (.storeName _ _ _) | .inr (.storeDeviceObject _ _) => some ()
  | .inr .setDriverUnload | .inr (.setMajorFunction _ _) => some ()
  | .inr (.uninitializedBytes _) => some 0
  | .inr .loadGuypervisor => some kGuypervisor
  | .inr (.loadName _ .deviceName) => some deviceName
  | .inr (.loadName _ .dosDeviceName) => some dosDeviceName
  | .inr (.ioCreateDevice _) => some (statusSuccess, (0x20000 : Address))
  | .inr (.ioDeleteSymbolicLink _) => some (0xC0000034 : NTSTATUS)
  | _ => none

private theorem allows_of_flagsAnswer {writable : BitVec 64} (kGuypervisor : Address)
    (flags : BitVec 64) (op : driverInterface.A) (response : driverInterface.B op)
    (answered : flagsAnswer kGuypervisor flags op = some response) :
    (genuine.withFlags writable).allows flags op response := by
  match op with
  | .inl op =>
    cases op with
    | readEflags =>
      have read : flags ||| 1 = response := Option.some.inj answered
      subst read
      exact ⟨trivial, sameFlags_or flags (by decide)⟩
    | cpuid leaf =>
      have read : genuineIntel leaf = response := Option.some.inj answered
      exact ⟨read.symm, trivial⟩
    | _ => exact ⟨trivial, trivial⟩
  | .inr op =>
    cases op with
    | uninitializedBytes count =>
      have read : 0 = response := Option.some.inj answered
      exact ⟨read.symm, trivial⟩
    | _ => exact ⟨trivial, trivial⟩

private theorem reaches_symbolicLink : ∃ rest now,
    Reaches (genuine.withFlags 0x3F7FD5) (driverEntry 2) 0x202 rest now ∧
      rest.head? = some (.inr (.ioCreateSymbolicLink dosDeviceName deviceName)) ∧ now = 0x203 := by
  refine ⟨?rest, ?now, ?run, ?issued, ?flags⟩
  case run => exact reaches_driven (allows_of_flagsAnswer 0x10000) 70 _ _
  case issued => decide +kernel
  case flags => decide +kernel

/-- Where the ID flag can be set a device is created, and where it cannot the processor is turned
away. The flags were read with the carry flag set; where it is writable it stays set. -/
theorem treats_of_path_genuine :
    (∃ events rest, Path (genuine.withFlags 0x3F7FD5) (driverEntry 2) 0x202 events rest 0x203 ∧
      rest.head? = some (.inr (.ioCreateSymbolicLink dosDeviceName deviceName)) ∧
      Treats genuine 0x3F7FD5 0x202 rest 0x203 (events.filterMap creation)) ∧
    ∃ events, Path (genuine.withFlags 0) (driverEntry 2) 0x202 events (.done statusNotSupported) 0x202 ∧
      Treats genuine 0 0x202 (.done statusNotSupported) 0x202 (events.filterMap creation) := by
  constructor
  · obtain ⟨rest, now, ⟨events, path⟩, issued, rfl⟩ := reaches_symbolicLink
    exact ⟨events, rest, path, issued, treats_of_path path⟩
  · obtain ⟨events, path⟩ : Reaches (genuine.withFlags 0) (driverEntry 2) 0x202
        (.done statusNotSupported) _ :=
      reaches_drive (allows_of_flagsAnswer 0) 20 statusNotSupported (by decide +kernel)
    exact ⟨events, path, treats_of_path path⟩

end Admission

section Table

variable {before : ℕ → Option DispatchRoutine} {state : System × List Creation} {depth : ℕ}

/-- The dispatch table of the driver object, filled over an earlier one: four major functions have
routines of their own, and the table's last entry is none of the driver's. -/
def dispatchTable (before : ℕ → Option DispatchRoutine) (major : ℕ) : Option DispatchRoutine :=
  if major = irpMjCreate then some .createHandlerIRP
  else if major = irpMjClose then some .closeHandlerIRP
  else if major = irpMjDeviceControl then some .ioctlHandlerIRP
  else if major = irpMjWrite then some .writeHandlerIRP
  else if major < irpMjMaximumFunction then some .generalHandlerIRP
  else before major

/-- The system, with the calls so far. -/
private abbrev loading : Environment driverInterface (System × List Creation) :=
  System.environment.observing creation

/-- No call was made, and no routine installed. -/
structure Untouched (before : ℕ → Option DispatchRoutine) (state : System × List Creation) : Prop where
  table : state.1.majorFunction = before
  seen : state.2 = []

/-- A call was made, and this is the table. -/
structure Made (table : ℕ → Option DispatchRoutine) (state : System × List Creation) : Prop where
  table : state.1.majorFunction = table
  seen : state.2 ≠ []

/-- Leaving the table alone. -/
def KeepsTable : driverInterface.A → Prop
  | .inr (.setMajorFunction _ _) => False
  | _ => True

private theorem majorFunction_next {op : driverInterface.A} (keeps : KeepsTable op) (system : System)
    (response : driverInterface.B op) :
    (System.environment.next system op response).majorFunction = system.majorFunction := by
  match op with
  | .inl _ => rfl
  | .inr op =>
    cases op with
    | ioCreateDevice => exact apply_ite System.majorFunction _ _ _ |>.trans (ite_self _)
    | ioCreateSymbolicLink | ioDeleteSymbolicLink =>
      exact apply_ite System.majorFunction _ _ _ |>.trans (ite_self _)
    | setMajorFunction => exact keeps.elim
    | _ => rfl

theorem Untouched.next {op : driverInterface.A} (untouched : Untouched before state)
    (keeps : KeepsTable op) (silent : IsSilent op) (response : driverInterface.B op) :
    Untouched before (loading.next state op response) := by
  obtain ⟨table, seen⟩ := untouched
  have none : Seen [] state := seen
  exact ⟨(majorFunction_next keeps _ response).trans table, none.next silent.silent response⟩

theorem Made.next {table : ℕ → Option DispatchRoutine} {op : driverInterface.A}
    (made : Made table state) (keeps : KeepsTable op) (response : driverInterface.B op) :
    Made table (loading.next state op response) := by
  obtain ⟨same, seen⟩ := made
  exact ⟨(majorFunction_next keeps _ response).trans same, List.append_ne_nil_of_left_ne_nil seen _⟩

/-- The call that is made first. -/
theorem Untouched.made (untouched : Untouched before state) (name : String)
    (answer : NTSTATUS × Address) :
    Made before (loading.next state (.inr (.ioCreateDevice name)) answer) := by
  have keeps : KeepsTable (.inr (.ioCreateDevice name)) := trivial
  exact ⟨(majorFunction_next keeps _ answer).trans untouched.table,
    List.append_ne_nil_of_right_ne_nil _ (List.cons_ne_nil _ _)⟩

private theorem ensures_untouched {α : Type} {program : DriverCode α} {results : α → Prop}
    (untouched : Untouched before state)
    (confined : program.Confined (fun op => KeepsTable op ∧ IsSilent op) results) :
    program.Ensures loading anyOp state fun result final => results result ∧ Untouched before final :=
  confined.keeps (fun _ _ _ _ => trivial)
    (fun _ _ response work untouched _ => untouched.next work.1 work.2 response) untouched

private theorem ensures_made {α : Type} {table : ℕ → Option DispatchRoutine} {program : DriverCode α}
    {results : α → Prop} (made : Made table state) (confined : program.Confined KeepsTable results) :
    program.Ensures loading anyOp state fun result final => results result ∧ Made table final :=
  confined.keeps (fun _ _ _ _ => trivial)
    (fun _ _ response keeps made _ => made.next keeps response) made

private theorem ensures_untouchedDevice_bind {α : Type} {op : DeviceOp}
    {next : op.Response → DriverCode α} {post : α → System × List Creation → Prop}
    (keeps : KeepsTable (.inr op)) (silent : IsSilent (.inr op)) (untouched : Untouched before state)
    (rest : ∀ response between, Untouched before between →
      (next response).Ensures loading anyOp between post) :
    (DriverCode.ask op >>= next).Ensures loading anyOp state post :=
  ensures_askDevice_bind trivial fun response _ =>
    rest response _ (untouched.next keeps silent response)

private theorem ensures_madeDevice_bind {α : Type} {table : ℕ → Option DispatchRoutine} {op : DeviceOp}
    {next : op.Response → DriverCode α} {post : α → System × List Creation → Prop}
    (keeps : KeepsTable (.inr op)) (made : Made table state)
    (rest : ∀ response between, Made table between →
      (next response).Ensures loading anyOp between post) :
    (DriverCode.ask op >>= next).Ensures loading anyOp state post :=
  ensures_askDevice_bind trivial fun response _ => rest response _ (made.next keeps response)

/-- The general routine is installed in a list of places. -/
private theorem ensures_general (indices : List ℕ) {system : System} {seen : List Creation} :
    (indices.forM fun i => setMajorFunction i .generalHandlerIRP).Ensures loading anyOp
      (system, seen) fun _ final => final.2 = seen ∧ final.1.majorFunction = fun major =>
        if major ∈ indices then some .generalHandlerIRP else system.majorFunction major := by
  induction indices generalizing system with
  | nil => exact ⟨rfl, by simp⟩
  | cons index rest ih =>
    refine ensures_askDevice_bind trivial fun _ _ => ?_
    change Ensures _ _ _ (system.install index .generalHandlerIRP, seen ++ []) _
    rw [List.append_nil]
    apply ih.mono
    rintro _ final ⟨same, table⟩
    refine ⟨same, table.trans (funext fun major => ?_)⟩
    by_cases member : major ∈ rest
    · simp [member]
    · by_cases here : major = index <;> simp [System.install, member, here]

/-- `AddFunctions` fills the table. -/
private theorem ensures_addFunctions (made : Made before state) :
    Device.addFunctions.Ensures loading anyOp state fun _ final =>
      Made (dispatchTable before) final := by
  obtain ⟨system, seen⟩ := state
  obtain ⟨table, nonempty⟩ := made
  apply (ensures_general (List.range irpMjMaximumFunction)).bind
  rintro _ ⟨between, calls⟩ ⟨rfl, filled⟩
  iterate 4 refine ensures_askDevice_bind trivial fun _ _ => ?_
  constructor
  · funext major
    change Function.update (Function.update (Function.update (Function.update between.majorFunction
      irpMjCreate _) irpMjClose _) irpMjDeviceControl _) irpMjWrite _ major = _
    have distinct : irpMjCreate < irpMjClose ∧ irpMjClose < irpMjWrite ∧
        irpMjWrite < irpMjDeviceControl := by decide
    rw [show between.majorFunction = _ from filled, show system.majorFunction = before from table]
    simp only [Function.update_apply, dispatchTable, List.mem_range]
    split_ifs <;> first | rfl | omega
  · iterate 4 apply List.append_ne_nil_of_left_ne_nil
    exact nonempty

/-- `InitDevice` calls `IoCreateDevice` and fills the table, whatever the call returns. -/
private theorem ensures_initDevice_table (device : Address) (untouched : Untouched before state) :
    (Device.initDevice device).Ensures loading anyOp state fun _ final =>
      Made (dispatchTable before) final := by
  have installs (status : NTSTATUS) {state : System × List Creation} (made : Made before state) :
      (do
        setDriverUnload
        let _ ← Device.addFunctions
        return status : DriverCode NTSTATUS).Ensures loading anyOp state
        fun _ final => Made (dispatchTable before) final := by
    refine ensures_madeDevice_bind trivial made fun _ _ made => ?_
    exact (ensures_addFunctions made).bind fun _ _ filled => filled
  refine ensures_untouchedDevice_bind trivial trivial untouched fun name _ untouched => ?_
  refine ensures_askDevice_bind trivial fun answer _ => ?_
  have made := untouched.made name answer
  obtain ⟨status, object⟩ := answer
  dsimp only
  split
  · exact ensures_madeDevice_bind trivial made fun _ _ made => installs status made
  · exact installs status made

private theorem keepsTable_createSymlink (device : Address) :
    (Device.createSymlink device).Confined KeepsTable fun _ => True := by
  iterate 5 refine confined_askDevice_bind trivial fun _ => ?_
  trivial

/-- From the construction of the `Device` on, the table is filled. -/
private theorem ensures_afterDetection_table (depth : ℕ) (untouched : Untouched before state) :
    (afterDetection depth).Ensures loading anyOp state fun _ final =>
      Made (dispatchTable before) final := by
  have undoes {op : driverInterface.A} (undo : IsUndo op) : KeepsTable op := by
    match op, undo with
    | .inl _, _ => trivial
    | .inr .loadGuypervisor, _ | .inr (.loadDeviceObject _), _ => trivial
    | .inr (.ioDeleteDevice _), _ => trivial
  have cleanup (status : NTSTATUS) : (driverCleanup status).Confined KeepsTable fun _ => True :=
    (confined_driverCleanup status).mono (fun _ => undoes) fun _ _ => trivial
  have constructs {op : driverInterface.A} (construction : IsConstruction op) :
      KeepsTable op ∧ IsSilent op := by
    match op, construction with
    | .inl _, _ => exact ⟨trivial, trivial⟩
    | .inr (.storeDeviceObject _ _), _ | .inr (.storeName _ _ _), _ => exact ⟨trivial, trivial⟩
  have built : (Device.new deviceName dosDeviceName).Confined
      (fun op => KeepsTable op ∧ IsSilent op) fun _ => True :=
    (confined_new _ _).mono (fun _ => constructs) fun _ => id
  apply (ensures_untouched untouched built).bind
  rintro device _ ⟨-, untouched⟩
  refine ensures_untouchedDevice_bind trivial trivial untouched fun _ _ untouched => ?_
  refine ensures_untouchedDevice_bind trivial trivial untouched fun device _ untouched => ?_
  apply (ensures_initDevice_table device untouched).bind
  intro status _ made
  have rest : (if !ntSuccess status then (do return (← driverCleanup status)) else do
      let status ← Device.createSymlink (← loadGuypervisor)
      if !ntSuccess status then
        return (← driverCleanup status)
      afterSymlink depth : DriverCode NTSTATUS).Confined KeepsTable fun _ => True := by
    split
    · exact cleanup status
    refine confined_askDevice_bind trivial fun device => ?_
    apply (keepsTable_createSymlink device).bind
    intro status _
    split
    · exact cleanup status
    · refine (confined_afterSymlink depth).mono (fun op isCode => ?_) fun _ _ => trivial
      match op, isCode with
      | .inl _, _ => trivial
  exact (ensures_made made rest).mono fun _ _ ended => ended.2

/-- The table is full as soon as `IoCreateDevice` was called, and as it was before that. -/
private theorem ensures_driverEntry_table (depth : ℕ) (untouched : Untouched before state) :
    (driverEntry depth).Ensures loading anyOp state fun _ final =>
      Untouched before final ∨ Made (dispatchTable before) final := by
  have detects {op : driverInterface.A} (detection : IsDetection op) : KeepsTable op ∧ IsSilent op := by
    match op, detection with
    | .inl _, _ => exact ⟨trivial, trivial⟩
    | .inr (.writeEflags _), _ | .inr (.uninitializedBytes _), _ => exact ⟨trivial, trivial⟩
  have undoes {op : driverInterface.A} (undo : IsUndo op) : KeepsTable op ∧ IsSilent op := by
    match op, undo with
    | .inl _, _ => exact ⟨trivial, trivial⟩
    | .inr .loadGuypervisor, _ | .inr (.loadDeviceObject _), _ => exact ⟨trivial, trivial⟩
    | .inr (.ioDeleteDevice _), _ => exact ⟨trivial, trivial⟩
  have rejects {state : System × List Creation} (untouched : Untouched before state) :
      (driverCleanup statusNotSupported).Ensures loading anyOp state fun _ final =>
        Untouched before final ∨ Made (dispatchTable before) final :=
    (ensures_untouched untouched ((confined_driverCleanup _).mono (fun _ => undoes) fun _ => id)).mono
      fun _ _ ended => .inl ended.2
  apply (ensures_untouched untouched ((confined_isCPUIdSupported _).mono (fun _ => detects)
    fun _ => id)).bind
  rintro supported _ ⟨-, untouched⟩
  split
  · exact rejects untouched
  apply (ensures_untouched untouched (confined_vendorIsIntel.mono (fun _ => detects) fun _ => id)).bind
  rintro intel _ ⟨-, untouched⟩
  split
  · exact rejects untouched
  apply (ensures_untouched untouched (confined_supportsVtxOperation.mono (fun _ => detects)
    fun _ => id)).bind
  rintro vtx _ ⟨-, untouched⟩
  split
  · exact rejects untouched
  · exact (ensures_afterDetection_table depth untouched).mono fun _ _ => Or.inr

/-- A load that succeeded has asked for a device object, so its table is full. -/
theorem majorFunction_of_ntSuccess {start final : System} {events : List (Event driverInterface)}
    {status : NTSTATUS}
    (path : Path System.environment (driverEntry depth) start events (.done status) final)
    (success : ntSuccess status = true) :
    final.majorFunction = dispatchTable start.majorFunction := by
  have seen : Seen [] (start, ([] : List Creation)) := rfl
  have returns : Returns (events.filterMap creation) status :=
    (ensures_driverEntry depth seen).post_of_path (path.observing creation [])
  obtain ⟨link, member, -⟩ := returns.ntSuccess_iff.mp success
  have untouched : Untouched start.majorFunction (start, []) := ⟨rfl, rfl⟩
  rcases (ensures_driverEntry_table depth untouched).post_of_path (path.observing creation []) with
    untouched | made
  · have none : events.filterMap creation = [] := untouched.seen
    rw [none] at member
    exact absurd member List.not_mem_nil
  · exact made.table

/-- **After every run of `DriverEntry`, failed or not, the dispatch table is as it was if no device
object was asked for, and else the driver's, entry by entry.** -/
theorem majorFunction_of_path {start final : System} {events : List (Event driverInterface)}
    {status : NTSTATUS}
    (path : Path System.environment (driverEntry depth) start events (.done status) final) :
    final.majorFunction = if events.filterMap creation = [] then start.majorFunction
      else dispatchTable start.majorFunction := by
  have untouched : Untouched start.majorFunction (start, []) := ⟨rfl, rfl⟩
  rcases (ensures_driverEntry_table depth untouched).post_of_path (path.observing creation []) with
    untouched | made
  · have none : events.filterMap creation = [] := untouched.seen
    rw [if_pos none]
    exact untouched.table
  · have some : events.filterMap creation ≠ [] := made.seen
    rw [if_neg some]
    exact made.table

/-- A load that succeeds has filled the table. -/
theorem majorFunction_of_path_loaded : ∃ events loaded, Path System.environment (driverEntry 2)
    (System.start fun _ => 0).mapImage events (.done statusSuccess) loaded ∧
      loaded.majorFunction = if events.filterMap creation = [] then fun _ => none
        else dispatchTable fun _ => none := by
  obtain ⟨loaded, events, path⟩ := LoadBalance.returns_driverEntry
  exact ⟨events, loaded, path, majorFunction_of_path path⟩

end Table

end Guypervisor.Soundness.LoadOutcome
