import Guypervisor.Soundness.PhysicalAccess

/-! # Any number of calls

`WritePhysicalMemory` and `ReadPhysicalMemory` are called one after the other, for any addresses and
lengths, and the kernel maps each view or does not. Each call gives back the view it was given, and
reaches physical memory through it only. All they ever change is the first four bytes of blocks of
64 KB, and what a call shows is what the calls before it have left there.
-/

namespace Guypervisor.Soundness.PhysicalCalls

open Effects Effects.Program Model PhysicalAccess

/-- A call of one of the two functions. -/
inductive PhysicalCall
  | write (physicalMemory address length : BitVec 64)
  | read (physicalMemory address length : BitVec 64)
deriving DecidableEq, Repr

def PhysicalCall.run : PhysicalCall → SectionCode Boolean
  | write physicalMemory address length => writePhysicalMemory physicalMemory address length
  | read physicalMemory address length => readPhysicalMemory physicalMemory address length

/-- Some calls, one after the other. -/
def callAll : List PhysicalCall → SectionCode Unit
  | [] => pure ()
  | call :: rest => do
    let _ ← call.run
    callAll rest

/-- A kernel that may answer each request in a way of its own. A view it maps begins at the section
offset rounded down to 64 KB, and has the bytes that were asked for, and it is gone once it was
unmapped. Nothing keeps code from reaching for a view that is not mapped. -/
def kernel : Environment sectionInterface PhysicalMemory where
  allows state op response :=
    match op, response with
    | .mapViewOfSection request, mapped => ntSuccess mapped.status = true →
        mapped.sectionOffset = viewBase request.sectionOffset ∧ request.viewSize ≤ mapped.viewSize
    | .loadBytes source count, values =>
      ∀ view, state.view = some view → values = (view.physical source count).map state.bytes
    | _, _ => True
  next := PhysicalMemory.next

/-- What is written from the beginning of a block on. -/
def mark (base : Address) : WriteLog Address (BitVec 8) := (bytesAt base).zip pattern

/-- The four bytes are shown. -/
def shown (bytes : List (BitVec 8)) : List (BitVec 64) := bytes.map (·.signExtend 64)

/-- A view is mapped where none is, only its bytes are reached, and it is the one that is unmapped;
what is read is shown after that. -/
def Managed (state : PhysicalMemory) : SectionOp → Prop
  | .mapViewOfSection _ | .print _ _ => state.view = none
  | .unmapViewOfSection processHandle baseAddress =>
    processHandle = currentProcess ∧ ∃ view, state.view = some view ∧ view.baseAddress = baseAddress
  | .storeBytes destination bytes =>
    ∃ view, state.view = some view ∧ view.Covers destination bytes.length
  | .loadBytes source count => ∃ view, state.view = some view ∧ view.Covers source count

/-- What a call that read shows. -/
def readFormat : String := "Read: %x %x %x %x\n"

/-- What is shown was read last, from the beginning of a block: the pattern if the block was written,
and what memory held in the beginning otherwise. -/
def Shows (memory : Memory) (state : PhysicalMemory) : SectionOp → Prop
  | .print format arguments => format = readFormat →
    ∃ base earlier, 65536 ∣ base.toNat ∧ state.loaded = earlier ++ bytesAt base ∧
      ((∀ address ∈ bytesAt base, address ∈ state.stored.keys) ∧ arguments = shown pattern ∨
        (∀ address ∈ bytesAt base, address ∉ state.stored.keys) ∧
          arguments = shown ((bytesAt base).map memory))
  | _ => True

section Marks

/-- The writes of calls whose views began here. -/
def marks (bases : List Address) : WriteLog Address (BitVec 8) := bases.flatMap mark

variable {bases : List Address} {base : Address}

/-- The beginnings of blocks. -/
def Aligned (bases : List Address) : Prop := ∀ base ∈ bases, 65536 ∣ base.toNat

theorem mem_bytesAt_iff {address base : Address} :
    address ∈ bytesAt base ↔ ∃ offset < 4, base + BitVec.ofNat 64 offset = address := by
  simp [bytesAt]

/-- A byte at the beginning of a block. -/
theorem toNat_add_of_dvd (aligned : 65536 ∣ base.toNat) {offset : ℕ} (bound : offset < 4) :
    (base + BitVec.ofNat 64 offset).toNat = base.toNat + offset := by
  have room := base.isLt
  rw [BitVec.toNat_add, BitVec.toNat_ofNat]
  omega

/-- The four bytes of two blocks are the same only for the same block. -/
theorem base_eq_of_mem {other address : Address} (aligned : 65536 ∣ base.toNat)
    (otherAligned : 65536 ∣ other.toNat) (mem : address ∈ bytesAt base)
    (otherMem : address ∈ bytesAt other) : base = other := by
  obtain ⟨offset, bound, rfl⟩ := mem_bytesAt_iff.mp mem
  obtain ⟨offset', bound', same⟩ := mem_bytesAt_iff.mp otherMem
  have sums := congrArg BitVec.toNat same
  rw [toNat_add_of_dvd aligned bound, toNat_add_of_dvd otherAligned bound'] at sums
  apply BitVec.eq_of_toNat_eq
  omega

theorem keys_mark (base : Address) : (mark base).keys = bytesAt base :=
  List.map_fst_zip (by simp [bytesAt, pattern])

theorem mem_keys_marks {address : Address} :
    address ∈ (marks bases).keys ↔ ∃ base ∈ bases, address ∈ bytesAt base := by
  simp only [WriteLog.keys, marks, List.map_flatMap, List.mem_flatMap]
  exact exists_congr fun base => and_congr_right fun _ => by rw [← keys_mark]; rfl

/-- The beginning of a block is written as a whole or not at all. -/
theorem mem_keys_of_mem (aligned : Aligned bases) (baseAligned : 65536 ∣ base.toNat)
    {address : Address} (mem : address ∈ bytesAt base) :
    address ∈ (marks bases).keys ↔ base ∈ bases := by
  rw [mem_keys_marks]
  constructor
  · rintro ⟨other, member, otherMem⟩
    rwa [base_eq_of_mem baseAligned (aligned other member) mem otherMem]
  · intro member
    exact ⟨base, member, mem⟩

/-- A byte of the pattern. -/
theorem mem_mark {offset : ℕ} {value : BitVec 8} (aligned : 65536 ∣ base.toNat) (bound : offset < 4)
    (mem : (base + BitVec.ofNat 64 offset, value) ∈ mark base) : pattern[offset]? = some value := by
  obtain ⟨index, inside, found⟩ := List.mem_iff_getElem.mp mem
  have bound' : index < 4 := by simpa [mark, bytesAt, pattern] using inside
  simp only [mark, List.getElem_zip, bytesAt, List.getElem_map, List.getElem_range] at found
  obtain ⟨address, byte⟩ := Prod.mk.inj found
  have sums := congrArg BitVec.toNat address
  rw [toNat_add_of_dvd aligned bound', toNat_add_of_dvd aligned bound] at sums
  obtain rfl : index = offset := by omega
  rw [← byte]
  exact List.getElem?_eq_getElem _

/-- What the first bytes of a block hold. -/
theorem replay_marks (aligned : Aligned bases) (baseAligned : 65536 ∣ base.toNat) (memory : Memory) :
    (bytesAt base).map ((marks bases).replay memory) =
      if base ∈ bases then pattern else (bytesAt base).map memory := by
  split
  · rename_i member
    apply List.ext_getElem?
    intro offset
    by_cases bound : offset < 4
    · have address : (bytesAt base)[offset]? = some (base + BitVec.ofNat 64 offset) := by
        simp [bytesAt, bound]
      have written : base + BitVec.ofNat 64 offset ∈ (marks bases).keys :=
        mem_keys_marks.mpr ⟨base, member, mem_bytesAt_iff.mpr ⟨offset, bound, rfl⟩⟩
      obtain ⟨other, otherMember, mem⟩ :=
        List.mem_flatMap.mp (WriteLog.mem_of_mem_keys written memory)
      obtain rfl : other = base :=
        base_eq_of_mem (aligned other otherMember) baseAligned (List.of_mem_zip mem).1
          (mem_bytesAt_iff.mpr ⟨offset, bound, rfl⟩)
      rw [List.getElem?_map, address, mem_mark baseAligned bound mem]
      rfl
    · rw [List.getElem?_eq_none (by simpa [bytesAt] using bound),
        List.getElem?_eq_none (by simpa [pattern] using bound)]
  · rename_i unwritten
    apply List.map_congr_left
    intro address mem
    exact WriteLog.replay_of_notMem (mt (mem_keys_of_mem aligned baseAligned mem).mp unwritten) _

/-- Every byte is the pattern's or as it was. -/
theorem replay_marks_of_notMem {address : Address} (memory : Memory)
    (outside : ∀ base ∈ bases, address ∉ bytesAt base) :
    (marks bases).replay memory address = memory address := by
  apply WriteLog.replay_of_notMem
  rw [mem_keys_marks]
  rintro ⟨base, member, mem⟩
  exact outside base member mem

end Marks

section Views

variable {view : View}

/-- The first bytes of a view. -/
theorem physical_base (view : View) :
    view.physical view.baseAddress 4 = bytesAt view.sectionOffset := by
  unfold View.physical bytesAt
  rw [sub_self, add_zero]

theorem covers_base {length : BitVec 64} (long : ¬ length < 4) (size : length ≤ view.viewSize) :
    view.Covers view.baseAddress 4 := by
  have four : (4 : BitVec 64).toNat = 4 := by decide
  rw [BitVec.lt_def] at long
  rw [BitVec.le_def] at size
  rw [View.Covers, sub_self]
  change 0 + 4 ≤ _
  omega

/-- A view begins at the beginning of a block. -/
theorem dvd_viewBase (address : Address) : 65536 ∣ (viewBase address).toNat := by
  rw [← viewBase_eq_iff]
  change (address &&& ~~~0xFFFF) &&& ~~~0xFFFF = address &&& ~~~0xFFFF
  rw [BitVec.and_assoc, BitVec.and_self]

end Views

section Calls

variable {calls : List PhysicalCall} {memory : Memory} {state : PhysicalMemory}

/-- The blocks that these calls can write. -/
def Targets (calls : List PhysicalCall) (bases : List Address) : Prop :=
  ∀ base ∈ bases, ∃ physicalMemory address length,
    PhysicalCall.write physicalMemory address length ∈ calls ∧ ¬ length < 4 ∧ viewBase address = base

theorem Targets.aligned {bases : List Address} (targets : Targets calls bases) : Aligned bases := by
  intro base member
  obtain ⟨_, address, _, _, _, rfl⟩ := targets base member
  exact dvd_viewBase address

/-- What holds between two of the calls. -/
structure Between (calls : List PhysicalCall) (memory : Memory) (state : PhysicalMemory) : Prop where
  view : state.view = none
  initial : state.initial = memory
  stored : ∃ bases, Targets calls bases ∧ state.stored = marks bases

/-- Each operation is managed, and shows what it should. -/
def Orderly (memory : Memory) (state : PhysicalMemory) (op : SectionOp) : Prop :=
  Managed state op ∧ Shows memory state op

theorem between_start (calls : List PhysicalCall) (memory : Memory) :
    Between calls memory (.start memory) :=
  ⟨rfl, rfl, [], nofun, rfl⟩

/-- Asking for a view. -/
theorem ensures_map_bind {physicalMemory address length : BitVec 64}
    {next : MapViewAnswer → SectionCode Boolean} {post : Boolean → PhysicalMemory → Prop}
    (between : Between calls memory state)
    (fails : ∀ mapped, ntSuccess mapped.status = false →
      (next mapped).Ensures kernel (Orderly memory) state post)
    (maps : ∀ mapped, ntSuccess mapped.status = true → mapped.sectionOffset = viewBase address →
      length ≤ mapped.viewSize → (next mapped).Ensures kernel (Orderly memory) { state with
        view := some ⟨mapped.baseAddress, mapped.sectionOffset, mapped.viewSize⟩ } post) :
    (SectionCode.mapViewOfSection (viewRequest physicalMemory address length) >>= next).Ensures
      kernel (Orderly memory) state post := by
  refine ⟨⟨between.view, trivial⟩, fun mapped allowed => ?_⟩
  rcases mapping : ntSuccess mapped.status with _ | _
  · have kept : kernel.next state (.mapViewOfSection (viewRequest physicalMemory address length))
        mapped = state := by
      simp [kernel, PhysicalMemory.next, mapping]
    rw [kept]
    exact fails mapped mapping
  · have moved : kernel.next state (.mapViewOfSection (viewRequest physicalMemory address length))
        mapped = { state with
          view := some ⟨mapped.baseAddress, mapped.sectionOffset, mapped.viewSize⟩ } := by
      simp [kernel, PhysicalMemory.next, mapping]
    rw [moved]
    obtain ⟨offset, size⟩ := allowed mapping
    exact maps mapped mapping offset size

/-- What is printed without having been read. -/
theorem ensures_print_bind {format : String} {arguments : List (BitVec 64)} {result : Boolean}
    (between : Between calls memory state) (other : format ≠ readFormat) :
    (SectionCode.print format arguments >>= fun _ => pure result : SectionCode Boolean).Ensures
      kernel (Orderly memory) state fun _ final => Between calls memory final :=
  ⟨⟨between.view, fun same => absurd same other⟩, fun _ _ => between⟩

theorem ensures_write (between : Between calls memory state)
    {physicalMemory address length : BitVec 64}
    (called : .write physicalMemory address length ∈ calls) :
    (writePhysicalMemory physicalMemory address length).Ensures kernel (Orderly memory) state
      fun _ final => Between calls memory final := by
  unfold writePhysicalMemory
  split
  · exact between
  rename_i long
  apply ensures_map_bind between
  · intro mapped failed
    rw [if_pos failed]
    exact ensures_print_bind between (by decide)
  · rintro ⟨status, base, offset, size⟩ succeeded rfl enough
    rw [if_neg (by simp [succeeded])]
    have covers : View.Covers ⟨base, viewBase address, size⟩ base 4 := covers_base long enough
    refine ⟨⟨⟨_, rfl, covers⟩, trivial⟩, fun _ _ => ?_⟩
    refine ⟨⟨⟨rfl, _, rfl, rfl⟩, trivial⟩, fun _ _ => ?_⟩
    apply ensures_print_bind _ (by decide)
    obtain ⟨-, initial, bases, targets, stored⟩ := between
    refine ⟨rfl, initial, bases ++ [viewBase address], ?_, ?_⟩
    · intro other member
      rcases List.mem_append.mp member with earlier | new
      · exact targets other earlier
      · exact ⟨physicalMemory, address, length, called, long, (List.mem_singleton.mp new).symm⟩
    · change state.stored ++ (View.physical ⟨base, viewBase address, size⟩ base 4).zip pattern = _
      rw [physical_base, stored, marks, marks, List.flatMap_append, List.flatMap_singleton]
      rfl

theorem ensures_read (between : Between calls memory state)
    (physicalMemory address length : BitVec 64) :
    (readPhysicalMemory physicalMemory address length).Ensures kernel (Orderly memory) state
      fun _ final => Between calls memory final := by
  unfold readPhysicalMemory
  split
  · exact between
  rename_i long
  apply ensures_map_bind between
  · intro mapped failed
    rw [if_pos failed]
    exact ensures_print_bind between (by decide)
  · rintro ⟨status, base, offset, size⟩ succeeded rfl enough
    rw [if_neg (by simp [succeeded])]
    have covers : View.Covers ⟨base, viewBase address, size⟩ base 4 := covers_base long enough
    have copied : ∀ test, kernel.allows { state with view := some ⟨base, viewBase address, size⟩ }
        (.loadBytes base 4) test → test = (bytesAt (viewBase address)).map state.bytes := by
      intro test read
      rw [← physical_base ⟨base, viewBase address, size⟩]
      exact read _ rfl
    refine ⟨⟨⟨_, rfl, covers⟩, trivial⟩, fun test read => ?_⟩
    refine ⟨⟨⟨rfl, _, rfl, rfl⟩, trivial⟩, fun _ _ => ?_⟩
    refine ⟨⟨rfl, fun _ => ⟨viewBase address, state.loaded, dvd_viewBase address, ?_, ?_⟩⟩,
      fun _ _ => ⟨rfl, between.initial, between.stored⟩⟩
    · exact congrArg (state.loaded ++ ·) (physical_base ⟨base, viewBase address, size⟩)
    · obtain ⟨-, rfl, bases, targets, stored⟩ := between
      have aligned := targets.aligned
      have whole : ∀ target ∈ bytesAt (viewBase address),
          target ∈ state.stored.keys ↔ viewBase address ∈ bases := by
        intro target mem
        rw [stored]
        exact mem_keys_of_mem aligned (dvd_viewBase address) mem
      have held := replay_marks aligned (dvd_viewBase address) state.initial
      rw [← stored] at held
      rw [copied test read, PhysicalMemory.bytes, held]
      by_cases written : viewBase address ∈ bases
      · rw [if_pos written]
        exact .inl ⟨fun target mem => (whole target mem).mpr written, rfl⟩
      · rw [if_neg written]
        exact .inr ⟨fun target mem => mt (whole target mem).mp written, rfl⟩

/-- The rest of the calls. -/
theorem ensures_callAll {rest : List PhysicalCall} (among : rest ⊆ calls)
    (between : Between calls memory state) :
    (callAll rest).Ensures kernel (Orderly memory) state
      fun _ final => Between calls memory final := by
  induction rest generalizing state with
  | nil => exact between
  | cons call rest ih =>
    have called : call ∈ calls := among List.mem_cons_self
    have ran : call.run.Ensures kernel (Orderly memory) state
        fun _ final => Between calls memory final := by
      cases call with
      | write => exact ensures_write between called
      | read physicalMemory address length => exact ensures_read between _ _ _
    exact ran.bind fun _ _ later => ih (fun _ member => among (List.mem_cons_of_mem _ member)) later

/-- All of them. -/
private theorem ensures_all (calls : List PhysicalCall) (memory : Memory) :
    (callAll calls).Ensures kernel (Orderly memory) (.start memory)
      fun _ final => Between calls memory final :=
  ensures_callAll (List.Subset.refl calls) (between_start calls memory)

/-- **In any run of any number of calls, whatever the kernel answers, a view is mapped only while none
is, only its bytes are reached, and it is the one that is unmapped, before anything else is mapped or
shown.** -/
theorem managed_of_path {events : List (Event sectionInterface)}
    {rest : SectionCode Unit} {op : SectionOp}
    (path : Path kernel (callAll calls) (.start memory) events rest state)
    (issued : rest.head? = some op) : Managed state op :=
  ((ensures_all calls memory).legal_of_path path issued).1

/-- **What is shown was read from the beginning of a block of 64 KB: the pattern if a call before has
written there, and otherwise what memory held before all of them.** -/
theorem shows_of_path {events : List (Event sectionInterface)}
    {rest : SectionCode Unit} {op : SectionOp}
    (path : Path kernel (callAll calls) (.start memory) events rest state)
    (issued : rest.head? = some op) : Shows memory state op :=
  ((ensures_all calls memory).legal_of_path path issued).2

/-- **After any number of calls the beginnings of some blocks of 64 KB hold the pattern, each the block
of an address that a call was to write, and every other byte of physical memory is what it was.** -/
theorem bytes_of_path {events : List (Event sectionInterface)}
    (path : Path kernel (callAll calls) (.start memory) events (.done ()) state) :
    ∃ bases, Targets calls bases ∧ (∀ base ∈ bases, (bytesAt base).map state.bytes = pattern) ∧
      ∀ address, (∀ base ∈ bases, address ∉ bytesAt base) → state.bytes address = memory address := by
  obtain ⟨-, rfl, bases, targets, stored⟩ := (ensures_all calls memory).post_of_path path
  rw [PhysicalMemory.bytes, stored]
  refine ⟨bases, targets, ?_, ?_⟩
  · intro base member
    rw [replay_marks targets.aligned (targets.aligned base member), if_pos member]
  · intro address outside
    exact replay_marks_of_notMem state.initial outside

end Calls

section Witnesses

/-- A kernel that maps every view it is asked for, at one address. -/
private def mapsAll (state : PhysicalMemory) : (op : SectionOp) → Option op.Response
  | .mapViewOfSection request =>
    some (⟨0, 0x7FF00000, viewBase request.sectionOffset, request.viewSize⟩ : MapViewAnswer)
  | .unmapViewOfSection _ _ => some statusSuccess
  | .loadBytes source count => state.view.map fun view => (view.physical source count).map state.bytes
  | .storeBytes _ _ | .print _ _ => some ()

private theorem mapsAll_allowed (state : PhysicalMemory) (op : SectionOp) (response : op.Response)
    (answered : mapsAll state op = some response) : kernel.allows state op response := by
  cases op with
  | mapViewOfSection request =>
    obtain rfl := Option.some.inj answered
    exact fun _ => ⟨rfl, BitVec.le_refl _⟩
  | loadBytes source count =>
    obtain ⟨view, mapped, rfl⟩ := Option.map_eq_some_iff.mp answered
    intro other found
    rw [Option.some.inj (found.symm.trans mapped)]
  | _ => trivial

/-- A write and a read of one block, at addresses of their own. -/
private def twoCalls : List PhysicalCall := [.write 0x44 0x10001 4, .read 0x44 0x1FFF0 8]

private def driven (steps : ℕ) : List (Event sectionInterface) × SectionCode Unit × PhysicalMemory :=
  drive kernel mapsAll steps (callAll twoCalls) (.start fun _ => 0)

private theorem path_driven (steps : ℕ) : Path kernel (callAll twoCalls) (.start fun _ => 0)
    (driven steps).1 (driven steps).2.1 (driven steps).2.2 :=
  drive_path _ _ mapsAll_allowed _ _ _

private theorem issued_driven :
    (driven 7).2.1.head? = some (.print readFormat (shown pattern)) := by decide +kernel

theorem managed_of_path_two : ∃ events rest state op,
    Path kernel (callAll twoCalls) (.start fun _ => 0) events rest state ∧
      rest.head? = some op ∧ Managed state op :=
  ⟨_, _, _, _, path_driven 7, issued_driven, managed_of_path (path_driven 7) issued_driven⟩

/-- The read shows what was written, though neither address is the block's. -/
theorem shows_of_path_two : ∃ events rest state op,
    Path kernel (callAll twoCalls) (.start fun _ => 0) events rest state ∧
      rest.head? = some op ∧ Shows (fun _ => 0) state op :=
  ⟨_, _, _, _, path_driven 7, issued_driven, shows_of_path (path_driven 7) issued_driven⟩

theorem bytes_of_path_two : ∃ events state,
    Path kernel (callAll twoCalls) (.start fun _ => 0) events (.done ()) state ∧
      ∃ bases, Targets twoCalls bases ∧
        (∀ base ∈ bases, (bytesAt base).map state.bytes = pattern) ∧
        ∀ address, (∀ base ∈ bases, address ∉ bytesAt base) → state.bytes address = 0 := by
  obtain ⟨_, path⟩ : ∃ result, Path kernel (callAll twoCalls) (.start fun _ => 0) (driven 10).1
      (.done result) (driven 10).2.2 := drive_path_done mapsAll_allowed (by decide +kernel)
  exact ⟨_, _, path, bytes_of_path path⟩

end Witnesses

end Guypervisor.Soundness.PhysicalCalls
