import Guypervisor.Model.PhysicalMemory

/-! # Which bytes of physical memory are reached

`WritePhysicalMemory` and `ReadPhysicalMemory` copy to and from the beginning of the view, which is
the address they are given only where that address is a multiple of 64 KB, and report success all
the same. For a length below four the status they return is the truth value of `NT_ERROR`, which as
a `BOOLEAN` is `TRUE`.
-/

namespace Guypervisor.Soundness.PhysicalAccess

open Effects Model

/-- The addresses of the four bytes at an address. -/
def bytesAt (address : Address) : List Address :=
  (List.range 4).map fun offset => address + BitVec.ofNat 64 offset

/-- The bytes 13 37 13 37. -/
def pattern : List (BitVec 8) := [0x13, 0x37, 0x13, 0x37]

/-- The four bytes at an address were changed to the pattern. -/
def Patterned (address : Address) (state : PhysicalMemory) : Prop :=
  ∀ write ∈ (bytesAt address).zip pattern, write ∈ state.stored

section Calls

variable (mapping : Mapping) (physicalMemory address length : BitVec 64) (memory : Memory)

/-- The kernel maps the view. -/
def Maps : Prop :=
  ntSuccess (mapping.answer (viewRequest physicalMemory address length)).status = true

/-- A call of `WritePhysicalMemory` ended this way. -/
abbrev Writes (result : Boolean) (final : PhysicalMemory) : Prop :=
  Reaches mapping.environment (writePhysicalMemory physicalMemory address length) (.start memory)
    (.done result) final

/-- A call of `ReadPhysicalMemory` ended this way. -/
abbrev Reads (result : Boolean) (final : PhysicalMemory) : Prop :=
  Reaches mapping.environment (readPhysicalMemory physicalMemory address length) (.start memory)
    (.done result) final

/-- A call that ends in these ways returns, returns `TRUE` when it did what it is for, and neither
that nor a change of memory when the length is short or the view is not mapped. -/
structure Serves (ends : Boolean → PhysicalMemory → Prop) (served : PhysicalMemory → Prop) :
    Prop where
  returns : ∃ result final, ends result final
  reports : ∀ result final, ends result final → (result = booleanTrue ↔ served final)
  refuses : ∀ result final, ends result final →
    length < 4 ∨ ¬ Maps mapping physicalMemory address length →
      result = booleanFalse ∧ final.bytes = memory

/-- `WritePhysicalMemory` is to change the four bytes at the address to the pattern, and no other. -/
def WriteServes : Prop :=
  Serves mapping physicalMemory address length memory
      (Writes mapping physicalMemory address length memory) (Patterned address) ∧
    ∀ result final, Writes mapping physicalMemory address length memory result final →
      ∀ target ∉ bytesAt address, final.bytes target = memory target

/-- `ReadPhysicalMemory` is to copy the four bytes at the address, and to change none. -/
def ReadServes : Prop :=
  Serves mapping physicalMemory address length memory
      (Reads mapping physicalMemory address length memory)
      (fun final => final.loaded = bytesAt address) ∧
    ∀ result final, Reads mapping physicalMemory address length memory result final →
      final.bytes = memory

end Calls

section Views

variable {mapping : Mapping} {physicalMemory address length : BitVec 64} {memory : Memory}

/-- Where the kernel lets a view of an address begin. -/
def viewBase (address : Address) : Address := address &&& ~~~0xFFFF

/-- The view of a request, if it is mapped. -/
def viewOf (mapping : Mapping) (physicalMemory address length : BitVec 64) : View :=
  let mapped := mapping.answer (viewRequest physicalMemory address length)
  ⟨mapped.baseAddress, mapped.sectionOffset, mapped.viewSize⟩

/-- The first bytes of the view are those at the rounded address. -/
theorem physical_viewOf (maps : Maps mapping physicalMemory address length) :
    (viewOf mapping physicalMemory address length).physical
      (viewOf mapping physicalMemory address length).baseAddress 4 = bytesAt (viewBase address) := by
  have offset := mapping.rounds _ maps
  unfold View.physical bytesAt
  rw [sub_self, add_zero]
  exact congrArg (fun base : Address => (List.range 4).map (base + BitVec.ofNat 64 ·)) offset

/-- Four bytes can be accessed where that many were asked for. -/
theorem covers_viewOf (maps : Maps mapping physicalMemory address length)
    (long : ¬ length < 4) :
    (viewOf mapping physicalMemory address length).Covers
      (viewOf mapping physicalMemory address length).baseAddress 4 := by
  have covers : length ≤ (viewOf mapping physicalMemory address length).viewSize :=
    mapping.covers _ maps
  have four : (4 : BitVec 64).toNat = 4 := by decide
  unfold View.Covers
  rw [sub_self]
  rw [BitVec.lt_def] at long
  rw [BitVec.le_def] at covers
  change 0 + 4 ≤ _
  omega

/-- An address is where its view begins when it is a multiple of 64 KB. -/
theorem viewBase_eq_iff (address : Address) :
    viewBase address = address ↔ 65536 ∣ address.toNat := by
  have mask : (0xFFFF#64).toNat = 2 ^ 16 - 1 := by decide
  exact and_not_eq_self_iff mask

/-- The four writes at one address are among those at another when the addresses are the same. -/
theorem zip_pattern_subset_iff (address base : Address) :
    (∀ write ∈ (bytesAt address).zip pattern, write ∈ (bytesAt base).zip pattern) ↔
      base = address := by
  constructor
  · intro subset
    have first := subset (address, 0x13) (by simp [bytesAt, pattern, List.range_succ])
    have last := subset (address + 3, 0x37) (by simp [bytesAt, pattern, List.range_succ])
    simp [bytesAt, pattern, List.range_succ] at first last
    bv_omega
  · rintro rfl
    exact fun _ => id

section Rules

variable {start final : PhysicalMemory} {result : Boolean}

/-- A call comes to an end after one of the answers to its first operation. -/
theorem reaches_ask_bind_iff {op : SectionOp} {next : op.Response → SectionCode Boolean} :
    Reaches mapping.environment (SectionCode.ask op >>= next) start (.done result) final ↔
      ∃ response, mapping.environment.allows start op response ∧
        Reaches mapping.environment (next response) (start.next op response) (.done result) final :=
  Reaches.issue_iff

theorem reaches_map_bind_iff {request : MapViewRequest}
    {next : MapViewAnswer → SectionCode Boolean} :
    Reaches mapping.environment (SectionCode.mapViewOfSection request >>= next) start
        (.done result) final ↔
      Reaches mapping.environment (next (mapping.answer request))
        (start.next (.mapViewOfSection request) (mapping.answer request)) (.done result) final :=
  reaches_ask_bind_iff.trans exists_eq_left

/-- Printing changes nothing. -/
theorem reaches_print_bind_iff {format : String} {arguments : List (BitVec 64)}
    {next : Unit → SectionCode Boolean} :
    Reaches mapping.environment (SectionCode.print format arguments >>= next) start
        (.done result) final ↔
      Reaches mapping.environment (next ()) start (.done result) final := by
  refine reaches_ask_bind_iff.trans ?_
  constructor
  · rintro ⟨_, -, rest⟩
    exact rest
  · intro rest
    exact ⟨(), trivial, rest⟩

theorem reaches_unmap_bind_iff {processHandle : BitVec 64} {base : Address}
    {rest : SectionCode Boolean} :
    Reaches mapping.environment
        (SectionCode.unmapViewOfSection processHandle base >>= fun _ => rest) start
        (.done result) final ↔
      Reaches mapping.environment rest { start with view := none } (.done result) final := by
  refine reaches_ask_bind_iff.trans ?_
  constructor
  · rintro ⟨_, -, reaches⟩
    exact reaches
  · intro reaches
    exact ⟨statusSuccess, trivial, reaches⟩

variable {view : View}

/-- Bytes are stored into the view that is mapped. -/
theorem reaches_store_bind_iff {destination : Address} {bytes : List (BitVec 8)}
    {next : Unit → SectionCode Boolean} (mapped : start.view = some view)
    (covers : view.Covers destination bytes.length) :
    Reaches mapping.environment (SectionCode.storeBytes destination bytes >>= next) start
        (.done result) final ↔
      Reaches mapping.environment (next ()) { start with
        stored := start.stored ++ (view.physical destination bytes.length).zip bytes }
        (.done result) final := by
  have stored : start.next (.storeBytes destination bytes) () = { start with
      stored := start.stored ++ (view.physical destination bytes.length).zip bytes } := by
    simp only [PhysicalMemory.next, mapped]
  refine reaches_ask_bind_iff.trans ?_
  rw [← stored]
  constructor
  · rintro ⟨_, -, rest⟩
    exact rest
  · intro rest
    exact ⟨(), ⟨view, mapped, covers⟩, rest⟩

/-- Bytes are loaded from the view that is mapped. -/
theorem reaches_load_bind_iff {source : Address} {count : ℕ}
    {next : List (BitVec 8) → SectionCode Boolean} (mapped : start.view = some view)
    (covers : view.Covers source count) :
    Reaches mapping.environment (SectionCode.loadBytes source count >>= next) start
        (.done result) final ↔
      Reaches mapping.environment (next ((view.physical source count).map start.bytes))
        { start with loaded := start.loaded ++ view.physical source count }
        (.done result) final := by
  have loaded (values : List (BitVec 8)) : start.next (.loadBytes source count) values =
      { start with loaded := start.loaded ++ view.physical source count } := by
    simp only [PhysicalMemory.next, mapped]
  refine reaches_ask_bind_iff.trans ?_
  constructor
  · rintro ⟨_, ⟨other, found, -, rfl⟩, rest⟩
    obtain rfl : view = other := Option.some.inj (mapped.symm.trans found)
    rwa [loaded] at rest
  · intro rest
    refine ⟨_, ⟨view, mapped, covers, rfl⟩, ?_⟩
    rwa [loaded]

end Rules

/-- How a call ends that makes a change of the state through the view: early for a short length and
for a view that is not mapped. -/
def callEnd (mapping : Mapping) (physicalMemory address length : BitVec 64)
    (start through : PhysicalMemory) : Boolean × PhysicalMemory :=
  if length < 4 then (booleanTrue, start)
  else if ntSuccess (mapping.answer (viewRequest physicalMemory address length)).status = false then
    (booleanFalse, start)
  else (booleanTrue, through)

/-- The three ways a call ends. -/
theorem callEnd_cases (mapping : Mapping) (physicalMemory address length : BitVec 64)
    (start through : PhysicalMemory) :
    (length < 4 ∧ callEnd mapping physicalMemory address length start through =
        (booleanTrue, start)) ∨
      (¬ length < 4 ∧ ¬ Maps mapping physicalMemory address length ∧
        callEnd mapping physicalMemory address length start through = (booleanFalse, start)) ∨
      (¬ length < 4 ∧ Maps mapping physicalMemory address length ∧
        callEnd mapping physicalMemory address length start through = (booleanTrue, through)) := by
  unfold callEnd Maps
  split
  · rename_i short
    exact .inl ⟨short, rfl⟩
  · rename_i long
    split
    · rename_i failed
      exact .inr (.inl ⟨long, by rw [failed]; nofun, rfl⟩)
    · rename_i succeeded
      exact .inr (.inr ⟨long, Bool.eq_true_of_not_eq_false succeeded, rfl⟩)

/-- Memory after the pattern was stored where the view begins. -/
def stored (address : Address) (memory : Memory) : PhysicalMemory :=
  { PhysicalMemory.start memory with stored := (bytesAt (viewBase address)).zip pattern }

/-- Memory after the bytes were loaded from where the view begins. -/
def loaded (address : Address) (memory : Memory) : PhysicalMemory :=
  { PhysicalMemory.start memory with loaded := bytesAt (viewBase address) }

/-- `STATUS_FAILED_TO_ALLOCATE_MEMORY` as a `BOOLEAN` is `TRUE`. -/
theorem statusFailedToAllocateMemory_eq :
    statusFailedToAllocateMemory.setWidth 8 = booleanTrue := by decide

theorem next_map_of_fails
    (failed : ntSuccess (mapping.answer (viewRequest physicalMemory address length)).status = false) :
    (PhysicalMemory.start memory).next
      (.mapViewOfSection (viewRequest physicalMemory address length))
      (mapping.answer (viewRequest physicalMemory address length)) = .start memory := by
  simp [PhysicalMemory.next, failed]

theorem next_map_of_maps (maps : Maps mapping physicalMemory address length) :
    (PhysicalMemory.start memory).next
      (.mapViewOfSection (viewRequest physicalMemory address length))
      (mapping.answer (viewRequest physicalMemory address length)) =
      { PhysicalMemory.start memory with
        view := some (viewOf mapping physicalMemory address length) } :=
  if_pos maps

/-- What both functions do, but for the copy to or from the view. -/
def throughView (physicalMemory address length : BitVec 64)
    (copy : Address → SectionCode Boolean) : SectionCode Boolean := do
  if length < 4 then
    return statusFailedToAllocateMemory.setWidth 8
  let mapped ← SectionCode.mapViewOfSection (viewRequest physicalMemory address length)
  if ntSuccess mapped.status = false then
    SectionCode.print "Could not map view of %X length %X : %lx\n"
      [address, mapped.viewSize, mapped.status.signExtend 64]
    return booleanFalse
  copy mapped.baseAddress

theorem writePhysicalMemory_eq (physicalMemory address length : BitVec 64) :
    writePhysicalMemory physicalMemory address length =
      throughView physicalMemory address length fun base => do
        SectionCode.storeBytes base pattern
        let _ ← SectionCode.unmapViewOfSection currentProcess base
        SectionCode.print "Write: %x %x %x %x\n" (pattern.map (·.signExtend 64))
        return booleanTrue := rfl

theorem readPhysicalMemory_eq (physicalMemory address length : BitVec 64) :
    readPhysicalMemory physicalMemory address length =
      throughView physicalMemory address length fun base => do
        let test ← SectionCode.loadBytes base 4
        let _ ← SectionCode.unmapViewOfSection currentProcess base
        SectionCode.print "Read: %x %x %x %x\n" (test.map (·.signExtend 64))
        return booleanTrue := rfl

/-- A call ends early, or as its copy does in the view. -/
theorem reaches_throughView_iff {copy : Address → SectionCode Boolean} {through : PhysicalMemory}
    (copies : Maps mapping physicalMemory address length → ¬ length < 4 → ∀ result final,
      Reaches mapping.environment
          (copy (viewOf mapping physicalMemory address length).baseAddress)
          { PhysicalMemory.start memory with
            view := some (viewOf mapping physicalMemory address length) } (.done result) final ↔
        (result, final) = (booleanTrue, through))
    {result : Boolean} {final : PhysicalMemory} :
    Reaches mapping.environment (throughView physicalMemory address length copy) (.start memory)
        (.done result) final ↔
      (result, final) = callEnd mapping physicalMemory address length (.start memory) through := by
  unfold throughView callEnd
  rw [← statusFailedToAllocateMemory_eq]
  split
  · exact Reaches.done_iff.trans Prod.mk_inj.symm
  rename_i long
  refine reaches_map_bind_iff.trans ?_
  split
  · rename_i failed
    rw [next_map_of_fails failed]
    exact reaches_print_bind_iff.trans (Reaches.done_iff.trans Prod.mk_inj.symm)
  · rename_i succeeded
    have maps : Maps mapping physicalMemory address length := Bool.eq_true_of_not_eq_false succeeded
    rw [next_map_of_maps maps]
    exact copies maps long result final

theorem writes_iff {result : Boolean} {final : PhysicalMemory} :
    Writes mapping physicalMemory address length memory result final ↔
      (result, final) = callEnd mapping physicalMemory address length (.start memory)
        (stored address memory) := by
  rw [Writes, writePhysicalMemory_eq]
  apply reaches_throughView_iff
  intro maps long result final
  refine (reaches_store_bind_iff rfl (covers_viewOf maps long)).trans ?_
  refine reaches_unmap_bind_iff.trans (reaches_print_bind_iff.trans ?_)
  have written := congrArg (fun addresses : List Address =>
    { PhysicalMemory.start memory with stored := addresses.zip pattern }) (physical_viewOf maps)
  refine (iff_of_eq (congrArg (Reaches _ _ · _ _) written)).trans ?_
  exact Reaches.done_iff.trans Prod.mk_inj.symm

theorem reads_iff {result : Boolean} {final : PhysicalMemory} :
    Reads mapping physicalMemory address length memory result final ↔
      (result, final) = callEnd mapping physicalMemory address length (.start memory)
        (loaded address memory) := by
  rw [Reads, readPhysicalMemory_eq]
  apply reaches_throughView_iff
  intro maps long result final
  refine (reaches_load_bind_iff rfl (covers_viewOf maps long)).trans ?_
  refine reaches_unmap_bind_iff.trans (reaches_print_bind_iff.trans ?_)
  have read := congrArg (fun addresses : List Address =>
    { PhysicalMemory.start memory with loaded := addresses }) (physical_viewOf maps)
  refine (iff_of_eq (congrArg (Reaches _ _ · _ _) read)).trans ?_
  exact Reaches.done_iff.trans Prod.mk_inj.symm

/-- A call that ends like this serves when its length is not short and a view that is mapped begins
at the address. -/
theorem serves_iff {ends : Boolean → PhysicalMemory → Prop} {served : PhysicalMemory → Prop}
    {through : PhysicalMemory}
    (only : ∀ result final, ends result final ↔ (result, final) =
      callEnd mapping physicalMemory address length (.start memory) through)
    (early : ¬ served (.start memory)) (late : served through ↔ viewBase address = address) :
    Serves mapping physicalMemory address length memory ends served ↔
      ¬ length < 4 ∧ (Maps mapping physicalMemory address length → 65536 ∣ address.toNat) := by
  rw [← viewBase_eq_iff, ← late]
  rcases callEnd_cases mapping physicalMemory address length (.start memory) through with
    ⟨short, ended⟩ | ⟨long, fails, ended⟩ | ⟨long, maps, ended⟩
  all_goals
    rw [ended] at only
    have reached := (only _ _).mpr rfl
  · constructor
    · intro serves
      exact absurd (serves.refuses _ _ reached (.inl short)).1 (by decide)
    · rintro ⟨long, -⟩
      exact absurd short long
  · constructor
    · intro _
      exact ⟨long, fun maps => absurd maps fails⟩
    · intro _
      constructor
      · exact ⟨_, _, reached⟩
      · intro result final ends
        obtain ⟨rfl, rfl⟩ := Prod.mk.inj ((only _ _).mp ends)
        exact iff_of_false (by decide) early
      · intro result final ends _
        obtain ⟨rfl, rfl⟩ := Prod.mk.inj ((only _ _).mp ends)
        exact ⟨rfl, rfl⟩
  · constructor
    · intro serves
      exact ⟨long, fun _ => (serves.reports _ _ reached).mp rfl⟩
    · rintro ⟨-, serves⟩
      constructor
      · exact ⟨_, _, reached⟩
      · intro result final ends
        obtain ⟨rfl, rfl⟩ := Prod.mk.inj ((only _ _).mp ends)
        exact iff_of_true rfl (serves maps)
      · rintro result final - (short | fails)
        · exact absurd short long
        · exact absurd maps fails

/-- A call of `WritePhysicalMemory` changes bytes of the rounded address only. -/
theorem bytes_of_writes {result : Boolean} {final : PhysicalMemory}
    (writes : Writes mapping physicalMemory address length memory result final) {target : Address}
    (outside : target ∉ bytesAt (viewBase address)) : final.bytes target = memory target := by
  have ended := writes_iff.mp writes
  rcases callEnd_cases mapping physicalMemory address length (.start memory)
    (stored address memory) with ⟨_, same⟩ | ⟨_, _, same⟩ | ⟨_, _, same⟩
  all_goals
    rw [same] at ended
    obtain ⟨-, rfl⟩ := Prod.mk.inj ended
  · rfl
  · rfl
  · have keys : WriteLog.keys (stored address memory).stored = bytesAt (viewBase address) :=
      List.map_fst_zip (by simp [bytesAt, pattern])
    apply WriteLog.replay_of_notMem
    rw [keys]
    exact outside

theorem bytes_of_reads {result : Boolean} {final : PhysicalMemory}
    (reads : Reads mapping physicalMemory address length memory result final) :
    final.bytes = memory := by
  have ended := reads_iff.mp reads
  rcases callEnd_cases mapping physicalMemory address length (.start memory)
    (loaded address memory) with ⟨_, same⟩ | ⟨_, _, same⟩ | ⟨_, _, same⟩
  all_goals
    rw [same] at ended
    obtain ⟨-, rfl⟩ := Prod.mk.inj ended
    rfl

/-- The exact extent of the defect in `WritePhysicalMemory`. -/
theorem writeServes_iff :
    WriteServes mapping physicalMemory address length memory ↔
      ¬ length < 4 ∧ (Maps mapping physicalMemory address length → 65536 ∣ address.toNat) := by
  have early : ¬ Patterned address (.start memory) := by
    intro patterned
    have first := patterned (address, 0x13) (by simp [bytesAt, pattern, List.range_succ])
    exact List.not_mem_nil first
  have serves : Serves mapping physicalMemory address length memory
      (Writes mapping physicalMemory address length memory) (Patterned address) ↔ _ :=
    serves_iff (fun _ _ => writes_iff) early (zip_pattern_subset_iff address (viewBase address))
  rw [← serves]
  constructor
  · exact fun both => both.1
  · intro reports
    refine ⟨reports, fun result final writes target outside => ?_⟩
    obtain ⟨long, aligned⟩ := serves.mp reports
    by_cases maps : Maps mapping physicalMemory address length
    · apply bytes_of_writes writes
      rw [(viewBase_eq_iff address).mpr (aligned maps)]
      exact outside
    · rw [(reports.refuses result final writes (.inr maps)).2]

/-- The exact extent of the defect in `ReadPhysicalMemory`. -/
theorem readServes_iff :
    ReadServes mapping physicalMemory address length memory ↔
      ¬ length < 4 ∧ (Maps mapping physicalMemory address length → 65536 ∣ address.toNat) := by
  have copied : bytesAt (viewBase address) = bytesAt address ↔ viewBase address = address := by
    constructor
    · intro same
      simpa using (List.cons.inj same).1
    · intro same
      rw [same]
  have serves : Serves mapping physicalMemory address length memory
      (Reads mapping physicalMemory address length memory)
      (fun final => final.loaded = bytesAt address) ↔ _ :=
    serves_iff (fun _ _ => reads_iff) (List.cons_ne_nil _ _).symm copied
  rw [← serves]
  constructor
  · exact fun both => both.1
  · exact fun reports => ⟨reports, fun _ _ => bytes_of_reads⟩

end Views

/-- The two functions serve one address and length, each with the kernel's answers to it. -/
def ServesBoth (writing reading : Mapping) (physicalMemory address length : BitVec 64)
    (memory : Memory) : Prop :=
  WriteServes writing physicalMemory address length memory ∧
    ReadServes reading physicalMemory address length memory

/-- The exact extent of the defect: both serve when the length is not short and, if either view is
mapped, the address is a multiple of 64 KB. -/
theorem servesBoth_iff (writing reading : Mapping) (physicalMemory address length : BitVec 64)
    (memory : Memory) :
    ServesBoth writing reading physicalMemory address length memory ↔
      ¬ length < 4 ∧ (Maps writing physicalMemory address length ∨
        Maps reading physicalMemory address length → 65536 ∣ address.toNat) := by
  rw [ServesBoth, writeServes_iff, readServes_iff, or_imp]
  tauto

/-- A kernel that maps every view it is asked for, at one address. -/
def alwaysMaps : Mapping where
  answer request := ⟨0, 0x7FF00000, request.sectionOffset &&& ~~~0xFFFF, request.viewSize⟩
  rounds _ _ := rfl
  covers _ _ := BitVec.le_refl _

/-- Asked for the byte after a multiple of 64 KB, both functions reach the four bytes at the
multiple. -/
theorem not_servesBoth : ¬ ∀ (writing reading : Mapping) (physicalMemory address length : BitVec 64)
    (memory : Memory), ServesBoth writing reading physicalMemory address length memory := by
  intro serves
  have both := serves alwaysMaps alwaysMaps 0x44 0x10001 4 fun _ => 0
  have aligned := (writeServes_iff.mp both.1).2 rfl
  revert aligned
  decide

end Guypervisor.Soundness.PhysicalAccess
