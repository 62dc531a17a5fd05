import Guypervisor.Model.RegionMemory
import Guypervisor.Proofs.Tables
import Guypervisor.Soundness.TableContents
import Guypervisor.Soundness.VmxProtocol

/-! # The headers of the regions handed to the processor

A region is cleared when it is allocated, its first word is given the revision identifier by the
stage that hands the region to the processor, and the pointer handed over is that word's physical
address. Nothing in between writes into either region, so the shadow-VMCS bit of the word stays
clear over any number of requests.
-/

namespace Guypervisor.Soundness.RegionHeaders

open Effects Effects.Program Model Code Proofs VmxProtocol

/-- Where the header of the region in a block is. -/
abbrev headerOf (allocated : Address) : Address := alignUp allocated kAlignmentSize

/-- What a stage hands to the processor: the block of its region, and the pointer passed. -/
def handed (vmxon vmcs : Address) (frames : List Routine) : Op → Option (Address × Address)
  | .vmxon pointer => if frames.head? = some .enterVmxonMode then some (vmxon, pointer) else none
  | .vmclear pointer | .vmptrld pointer =>
    if frames.head? = some .initializeVMCS then some (vmcs, pointer) else none
  | _ => none

/-- The first word of the region in a block carries the processor's revision identifier and a clear
shadow-VMCS bit, and the pointer passed is its physical address. -/
structure CarriesHeader (physical : Address → Address) (basic : BitVec 64) (memory : Memory)
    (allocated pointer : Address) : Prop where
  inside : (Memory.wordAt (headerOf allocated)).Within (regionBlock allocated)
  revision : (memory.load32 (headerOf allocated)).extractLsb' 0 31 = basic.extractLsb' 0 31
  shadow : (memory.load32 (headerOf allocated)).getLsbD 31 = false
  pointer : pointer = physical (headerOf allocated)

/-- Where both regions were allocated, an operation that hands one over hands over a header. -/
def HandsHeaders (physical : Address → Address) (basic : BitVec 64) (state : RegionMemory)
    (op : Op) : Prop :=
  ∀ context vmxon vmcs later, state.kernel.pointers = context :: vmxon :: vmcs :: later →
    vmxon ≠ 0 → vmcs ≠ 0 → ∀ allocated pointer,
      handed vmxon vmcs state.frames op = some (allocated, pointer) →
        CarriesHeader physical basic state.kernel.memory allocated pointer

/-- A member leads to the header of the region in a block, with a clear shadow-VMCS bit. -/
structure HasHeader (kernel : KernelMemory) (field : ContextField) (allocated : Address) :
    Prop where
  member : kernel.heap.field field = headerOf allocated
  fits : (regionBlock allocated).base.toNat + (regionBlock allocated).bytes.toNat ≤ 2 ^ 64
  shadow : (kernel.memory.load32 (headerOf allocated)).getLsbD 31 = false

/-- Both regions have headers, in blocks that are apart. -/
structure HasHeaders (kernel : KernelMemory) (vmxon vmcs : Address) : Prop where
  vmxonHeader : HasHeader kernel .vmxonRegion vmxon
  vmcsHeader : HasHeader kernel .vmcsRegion vmcs
  apart : (regionBlock vmxon).Apart (regionBlock vmcs)

/-- The regions are prepared where both were allocated. -/
def Prepared (kernel : KernelMemory) : Prop :=
  ∀ context vmxon vmcs later, kernel.pointers = context :: vmxon :: vmcs :: later →
    vmxon ≠ 0 → vmcs ≠ 0 → HasHeaders kernel vmxon vmcs

section Words

/-- The word `setRevisionIdentifier` stores. -/
def revisionWord (word id : BitVec 32) : BitVec 32 := (word &&& 0x80000000) ||| (id &&& 0x7FFFFFFF)

/-- Its low bits are those of the identifier. -/
theorem extractLsb'_revisionWord (word id : BitVec 32) :
    (revisionWord word id).extractLsb' 0 31 = id.extractLsb' 0 31 := by
  apply BitVec.eq_of_getLsbD_eq
  intro i bound
  have low : (0x7FFFFFFF#32).getLsbD i = true := by
    change (2 ^ 31 - 1).testBit i = true
    rw [Nat.testBit_two_pow_sub_one, decide_eq_true bound]
  have high : (0x80000000#32).getLsbD i = false := by
    change (2 ^ 31).testBit i = false
    rw [Nat.testBit_two_pow]
    exact decide_eq_false (by omega)
  simp [revisionWord, low, high]

/-- Its shadow-VMCS bit is the one that was there. -/
theorem getLsbD_revisionWord (word id : BitVec 32) :
    (revisionWord word id).getLsbD 31 = word.getLsbD 31 := by
  simp [revisionWord]

/-- The identifier is the low half of the register. -/
theorem extractLsb'_revisionId (basic : VmxBasicMsr) :
    basic.revisionId.extractLsb' 0 31 = BitVec.extractLsb' 0 31 basic := by
  apply BitVec.eq_of_getLsbD_eq
  intro i bound
  simp [VmxBasicMsr.revisionId, bound, show i < 32 by omega]

/-- The header of a region lies in its block. -/
theorem wordAt_within {allocated : Address}
    (fits : (regionBlock allocated).base.toNat + (regionBlock allocated).bytes.toNat ≤ 2 ^ 64) :
    (Memory.wordAt (headerOf allocated)).Within (regionBlock allocated) := by
  have mask : (kAlignmentSize - 1).toNat = 2 ^ 12 - 1 := by decide
  have bytes : (sizeofVMCS + kAlignmentSize).toNat = 792 + 2 ^ 12 := by decide
  change allocated.toNat + (sizeofVMCS + kAlignmentSize).toNat ≤ 2 ^ 64 at fits
  have parts := roundUp_add_mod mask (show allocated.toNat + (kAlignmentSize - 1).toNat < 2 ^ 64 by
    omega)
  rw [headerOf, alignUp_eq_roundUp]
  constructor
  · rw [BitVec.le_def]
    change allocated.toNat ≤ (roundUp allocated (kAlignmentSize - 1)).toNat
    omega
  · change (roundUp allocated (kAlignmentSize - 1)).toNat + 4 ≤
      allocated.toNat + (sizeofVMCS + kAlignmentSize).toNat
    omega

end Words

section Headers

variable {kernel : KernelMemory} {field : ContextField} {allocated vmxon vmcs : Address}

/-- A region that was cleared has a header. -/
theorem hasHeader_of_isClear (member : kernel.heap.field field = headerOf allocated)
    (clear : IsClear kernel (regionBlock allocated)) : HasHeader kernel field allocated where
  member := member
  fits := clear.fits
  shadow := by
    have within := wordAt_within clear.fits
    have inside : ∀ offset < 4, kernel.memory (headerOf allocated + BitVec.ofNat 64 offset) =
        (0#32).extractLsb' (8 * offset) 8 := by
      intro offset bound
      rw [BitVec.extractLsb'_zero]
      apply clear.zero
      have header : (Memory.wordAt (headerOf allocated)).Contains
          (headerOf allocated + BitVec.ofNat 64 offset) :=
        Block.contains_add (within.2.trans clear.fits) bound
      exact within.contains header
    rw [Memory.load32_of_bytes inside]
    rfl

theorem hasHeaders_of_hasRegions (regions : HasRegions kernel vmxon vmcs) :
    HasHeaders kernel vmxon vmcs where
  vmxonHeader := hasHeader_of_isClear regions.vmxonField regions.vmxonClear
  vmcsHeader := hasHeader_of_isClear regions.vmcsField regions.vmcsClear
  apart := regions.apart

/-- The kernel once the header a member leads to was given the revision identifier. -/
def withRevision (kernel : KernelMemory) (field : ContextField) (id : BitVec 32) : KernelMemory :=
  let region := kernel.heap.field field
  { kernel with
    memory := kernel.memory.store32 region (revisionWord (kernel.memory.load32 region) id) }

/-- The header that was given the identifier. -/
theorem HasHeader.load32_withRevision (header : HasHeader kernel field allocated)
    (id : BitVec 32) : (withRevision kernel field id).memory.load32 (headerOf allocated) =
      revisionWord (kernel.memory.load32 (headerOf allocated)) id := by
  rw [← header.member]
  exact Memory.load32_store32 _ _ _

theorem HasHeader.withRevision (header : HasHeader kernel field allocated) (id : BitVec 32) :
    HasHeader (RegionHeaders.withRevision kernel field id) field allocated where
  member := header.member
  fits := header.fits
  shadow := by rw [header.load32_withRevision, getLsbD_revisionWord, header.shadow]

/-- Any other header stays as it is. -/
theorem HasHeader.withRevision_of_apart {other : ContextField} {block : Address}
    (header : HasHeader kernel field allocated) (elsewhere : HasHeader kernel other block)
    (apart : (regionBlock allocated).Apart (regionBlock block)) (id : BitVec 32) :
    HasHeader (RegionHeaders.withRevision kernel other id) field allocated where
  member := header.member
  fits := header.fits
  shadow := by
    have within := wordAt_within header.fits
    have otherWithin := wordAt_within elsewhere.fits
    have kept (value : BitVec 32) :
        (kernel.memory.store32 (headerOf block) value).load32 (headerOf allocated) =
          kernel.memory.load32 (headerOf allocated) :=
      Memory.load32_store32_of_apart kernel.memory (within.2.trans header.fits)
        (otherWithin.2.trans elsewhere.fits) (apart.of_within within otherWithin) value
    rw [RegionHeaders.withRevision, elsewhere.member, kept, header.shadow]

/-- Giving either header the identifier keeps both. -/
theorem HasHeaders.withRevision (headers : HasHeaders kernel vmxon vmcs)
    (region : field = .vmxonRegion ∨ field = .vmcsRegion) (id : BitVec 32) :
    HasHeaders (RegionHeaders.withRevision kernel field id) vmxon vmcs := by
  obtain ⟨first, second, apart⟩ := headers
  rcases region with rfl | rfl
  · exact ⟨first.withRevision id, second.withRevision_of_apart first (Or.symm apart) id, apart⟩
  · exact ⟨first.withRevision_of_apart second apart id, second.withRevision id, apart⟩

/-- Of the two blocks, the one that a member leads to. -/
def blockOf (vmxon vmcs : Address) (field : ContextField) : Address :=
  if field = .vmxonRegion then vmxon else vmcs

theorem HasHeaders.header (headers : HasHeaders kernel vmxon vmcs)
    (region : field = .vmxonRegion ∨ field = .vmcsRegion) :
    HasHeader kernel field (blockOf vmxon vmcs field) := by
  rcases region with rfl | rfl
  · exact headers.vmxonHeader
  · exact headers.vmcsHeader

end Headers

section Run

variable {physical : Address → Address} {basic : BitVec 64} {α : Type} {kernel : KernelMemory}
  {frames : List Routine} {post : α → RegionMemory → Prop}

/-- Operations that hand nothing over. -/
private theorem handsHeaders_of_none {state : RegionMemory} {op : Op}
    (none : ∀ vmxon vmcs frames, handed vmxon vmcs frames op = none) :
    HandsHeaders physical basic state op := by
  intro _ vmxon vmcs _ _ _ _ _ _ passed
  rw [none] at passed
  contradiction

/-- What a stage does before it hands a region over, but for storing the header. -/
private def IsLookup : Op → Prop
  | .store32 _ _ | .enter _ | .leave _ => False
  | op => IsPreparation op

/-- A step of the preparation leaves everything as it is. -/
private theorem next_of_isLookup {op : Op} (lookup : IsLookup op) (state : RegionMemory)
    (response : op.Response) : state.next op response = state := by
  cases op <;> first
    | exact RegionMemory.next_eq_self (next_eq_self rfl rfl rfl) rfl
    | exact lookup.elim

private theorem ensures_lookup_bind {op : Op} {next : op.Response → Code α}
    {state : RegionMemory} (lookup : IsLookup op)
    (rest : ∀ response, (RegionMemory.environment physical basic).allows state op response →
      (next response).Ensures (RegionMemory.environment physical basic)
        (HandsHeaders physical basic) state post) :
    (ask op >>= next).Ensures (RegionMemory.environment physical basic)
      (HandsHeaders physical basic) state post := by
  have silent : ∀ vmxon vmcs frames, handed vmxon vmcs frames op = none := by
    cases op <;> first | exact fun _ _ _ => rfl | exact lookup.elim
  exact ensures_query_bind (handsHeaders_of_none silent) (next_of_isLookup lookup state) rest

/-- The store of the identifier. -/
private theorem next_revisionWord (kernel : KernelMemory) (frames : List Routine)
    (field : ContextField) (id : BitVec 32) :
    RegionMemory.next ⟨kernel, frames⟩ (.store32 (kernel.heap.field field)
      (revisionWord (kernel.memory.load32 (kernel.heap.field field)) id)) () =
      ⟨withRevision kernel field id, frames⟩ := by
  rw [RegionMemory.next, KernelMemory.next]
  exact congrArg (RegionMemory.mk ⟨_, _, ·⟩ _) (List.append_nil _)

/-- A member's region is given the revision identifier, and the rest stays as it is. -/
private theorem ensures_setRevisionIdentifier_bind {field : ContextField} {id : BitVec 32}
    {next : Unit → Code α}
    (rest : (next ()).Ensures (RegionMemory.environment physical basic)
      (HandsHeaders physical basic) ⟨withRevision kernel field id, frames⟩ post) :
    (setRevisionIdentifier (kernel.heap.field field) id >>= next).Ensures
      (RegionMemory.environment physical basic) (HandsHeaders physical basic) ⟨kernel, frames⟩
      post := by
  rw [setRevisionIdentifier, bind_assoc]
  refine ensures_lookup_bind trivial fun word loaded => ?_
  obtain rfl : word = kernel.memory.load32 (kernel.heap.field field) := loaded.1.2
  apply ensures_ask_bind (handsHeaders_of_none fun _ _ _ => rfl)
  intro _ _
  rw [← next_revisionWord] at rest
  exact rest

private theorem next_enter (state : RegionMemory) (routine : Routine) :
    state.next (.enter routine) () = ⟨state.kernel, routine :: state.frames⟩ :=
  congrArg (RegionMemory.mk · _) (next_eq_self rfl rfl rfl)

private theorem next_leave (state : RegionMemory) (routine : Routine) :
    state.next (.leave routine) () = ⟨state.kernel, state.frames.tail⟩ :=
  congrArg (RegionMemory.mk · _) (next_eq_self rfl rfl rfl)

/-- A stage runs in a frame of its own. -/
private theorem ensures_frame {routine : Routine} {body : Code α} {after : α → KernelMemory → Prop}
    (ensured : body.Ensures (RegionMemory.environment physical basic)
      (HandsHeaders physical basic) ⟨kernel, routine :: frames⟩
      fun result final => after result final.kernel ∧ final.frames = routine :: frames) :
    (call routine body).Ensures (RegionMemory.environment physical basic)
      (HandsHeaders physical basic) ⟨kernel, frames⟩
      fun result final => after result final.kernel ∧ final.frames = frames := by
  apply ensures_call (handsHeaders_of_none fun _ _ _ => rfl)
  change Ensures _ _ _ (RegionMemory.next ⟨kernel, frames⟩ (.enter routine) ()) _
  rw [next_enter]
  apply ensured.mono
  rintro result final ⟨holds, opened⟩
  refine ⟨handsHeaders_of_none fun _ _ _ => rfl, ?_⟩
  change after result (RegionMemory.next final (.leave routine) ()).kernel ∧
    (RegionMemory.next final (.leave routine) ()).frames = frames
  rw [next_leave, opened]
  exact ⟨holds, rfl⟩

/-- Preparing a member's region keeps the regions prepared. -/
theorem Prepared.withRevision (prepared : Prepared kernel) {field : ContextField}
    (region : field = .vmxonRegion ∨ field = .vmcsRegion) (id : BitVec 32) :
    Prepared (RegionHeaders.withRevision kernel field id) := by
  intro context vmxon vmcs later pointers vmxonNonzero vmcsNonzero
  exact (prepared context vmxon vmcs later pointers vmxonNonzero vmcsNonzero).withRevision region id

/-- A stage that prepared a region hands over a header. -/
private theorem handsHeaders_withRevision (prepared : Prepared kernel) {field : ContextField}
    (region : field = .vmxonRegion ∨ field = .vmcsRegion) {routine : Routine} {op : Op}
    {pointer : Address} (translated : pointer = physical (kernel.heap.field field))
    (hands : ∀ vmxon vmcs, handed vmxon vmcs (routine :: frames) op =
      some (blockOf vmxon vmcs field, pointer)) :
    HandsHeaders physical basic
      ⟨withRevision kernel field (VmxBasicMsr.revisionId basic), routine :: frames⟩ op := by
  intro context vmxon vmcs later pointers vmxonNonzero vmcsNonzero allocated passedPointer passed
  obtain ⟨rfl, rfl⟩ : blockOf vmxon vmcs field = allocated ∧ pointer = passedPointer := by
    simpa [hands] using passed
  have header :=
    (prepared context vmxon vmcs later pointers vmxonNonzero vmcsNonzero).header region
  constructor
  · exact wordAt_within header.fits
  · rw [header.load32_withRevision, extractLsb'_revisionWord, extractLsb'_revisionId]
  · exact (header.withRevision _).shadow
  · rw [translated, header.member]

/-- `EnterVmxonMode` hands over the VMXON region with its header. -/
private theorem ensures_enterVmxonMode (prepared : Prepared kernel) :
    enterVmxonMode.Ensures (RegionMemory.environment physical basic)
      (HandsHeaders physical basic) ⟨kernel, frames⟩
      fun _ final => Prepared final.kernel ∧ final.frames = frames := by
  apply ensures_frame
  iterate 13
    refine ensures_lookup_bind trivial fun _ _ => ?_
  refine ensures_lookup_bind trivial fun basicMsr read => ?_
  obtain rfl : basicMsr = basic := read.2
  refine ensures_lookup_bind trivial fun region found => ?_
  obtain rfl : region = kernel.heap.field .vmxonRegion := found.1.1.2.2
  apply ensures_setRevisionIdentifier_bind
  refine ensures_lookup_bind trivial fun region found => ?_
  obtain rfl : region = kernel.heap.field .vmxonRegion := found.1.1.2.2
  refine ensures_lookup_bind trivial fun physicalAllocatedVMX translated => ?_
  have stays := prepared.withRevision (.inl rfl) (VmxBasicMsr.revisionId basicMsr)
  apply ensures_query_bind (handsHeaders_withRevision prepared (.inl rfl) translated.1.2
    fun _ _ => rfl) fun _ => RegionMemory.next_eq_self (next_eq_self rfl rfl rfl) rfl
  intro outcome _
  split
  · exact ⟨stays, rfl⟩
  · exact ⟨stays, rfl⟩

/-- `InitializeVMCS` hands over the VMCS region with its header, twice if `VMCLEAR` succeeds. -/
private theorem ensures_initializeVMCS (prepared : Prepared kernel) :
    initializeVMCS.Ensures (RegionMemory.environment physical basic)
      (HandsHeaders physical basic) ⟨kernel, frames⟩
      fun _ final => Prepared final.kernel ∧ final.frames = frames := by
  apply ensures_frame
  refine ensures_lookup_bind trivial fun _ _ => ?_
  refine ensures_lookup_bind trivial fun basicMsr read => ?_
  obtain rfl : basicMsr = basic := read.2
  refine ensures_lookup_bind trivial fun region found => ?_
  obtain rfl : region = kernel.heap.field .vmcsRegion := found.1.1.2.2
  apply ensures_setRevisionIdentifier_bind
  refine ensures_lookup_bind trivial fun region found => ?_
  obtain rfl : region = kernel.heap.field .vmcsRegion := found.1.1.2.2
  refine ensures_lookup_bind trivial fun physicalAllocatedVMX translated => ?_
  have stays := prepared.withRevision (.inr rfl) (VmxBasicMsr.revisionId basicMsr)
  apply ensures_query_bind (handsHeaders_withRevision prepared (.inr rfl) translated.1.2
    fun _ _ => rfl) fun _ => RegionMemory.next_eq_self (next_eq_self rfl rfl rfl) rfl
  intro outcome _
  split
  · exact ⟨stays, rfl⟩
  apply ensures_query_bind (handsHeaders_withRevision prepared (.inr rfl) translated.1.2
    fun _ _ => rfl) fun _ => RegionMemory.next_eq_self (next_eq_self rfl rfl rfl) rfl
  intro outcome _
  split
  · exact ⟨stays, rfl⟩
  · exact ⟨stays, rfl⟩

/-- The regions are prepared, and no stage that prepares one is running. -/
structure Standing (state : RegionMemory) : Prop where
  prepared : Prepared state.kernel
  frames : ∀ routine ∈ state.frames, routine ≠ .enterVmxonMode ∧ routine ≠ .initializeVMCS

/-- What a request does besides the two stages keeps the regions prepared. -/
private theorem standing_next {state : RegionMemory} (op : Op) (work : IsAfterEntry op)
    (standing : Standing state) (response : op.Response) : Standing (state.next op response) := by
  obtain ⟨prepared, frames⟩ := standing
  have kernel : state.kernel.next op response = state.kernel := by
    cases op <;> first | exact next_eq_self rfl rfl rfl | exact work.elim
  constructor
  · change Prepared (state.kernel.next op response)
    rw [kernel]
    exact prepared
  · cases op with
    | enter routine => exact List.forall_mem_cons.mpr ⟨work, frames⟩
    | leave => exact fun routine member => frames routine (List.mem_of_mem_tail member)
    | _ => exact frames

/-- It hands over no region. -/
private theorem handsHeaders_of_standing {state : RegionMemory} (op : Op)
    (standing : Standing state) : HandsHeaders physical basic state op := by
  have outside (routine : Routine) (stage : routine = .enterVmxonMode ∨ routine = .initializeVMCS) :
      state.frames.head? ≠ some routine := by
    intro innermost
    obtain ⟨notEnter, notInitialize⟩ :=
      standing.frames routine (List.mem_of_mem_head? (Option.mem_def.mpr innermost))
    exact stage.elim notEnter notInitialize
  have silent (vmxon vmcs : Address) : handed vmxon vmcs state.frames op = none := by
    cases op with
    | vmxon => exact if_neg (outside _ (.inl rfl))
    | vmclear | vmptrld => exact if_neg (outside _ (.inr rfl))
    | _ => rfl
  intro _ vmxon vmcs _ _ _ _ _ _ passed
  rw [silent] at passed
  contradiction

private theorem ensures_afterEntry {program : Code α} {results : α → Prop} {state : RegionMemory}
    (confined : program.Confined IsAfterEntry results) (standing : Standing state) :
    program.Ensures (RegionMemory.environment physical basic) (HandsHeaders physical basic) state
      fun result final => results result ∧ Standing final :=
  confined.keeps (fun _ op _ => handsHeaders_of_standing op)
    (fun _ _ response work standing _ => standing_next _ work standing response) standing

/-- A request leaves the regions prepared for the next one. -/
theorem ensures_enterVmxHandler (depth : ℕ) {state : RegionMemory} (standing : Standing state) :
    (enterVmxHandler depth).Ensures (RegionMemory.environment physical basic)
      (HandsHeaders physical basic) state fun _ final => Standing final := by
  rw [enterVmxHandler_eq]
  apply ensures_call (handsHeaders_of_standing _ standing)
  have opened := standing_next (.enter .enterVmxHandler) ⟨nofun, nofun⟩ standing ()
  apply (ensures_enterVmxonMode opened.prepared).bind
  rintro _ entered ⟨prepared, frames⟩
  have standing : Standing entered := ⟨prepared, frames ▸ opened.frames⟩
  apply (ensures_initializeVMCS standing.prepared).bind
  rintro _ initialized ⟨prepared, frames⟩
  have standing : Standing initialized := ⟨prepared, frames ▸ standing.frames⟩
  have populated : (populateActiveVMCS depth).Confined IsAfterEntry DriverStatus :=
    (confined_populateActiveVMCS depth).mono (fun _ => IsFieldWork.isAfterEntry) fun _ => id
  apply (ensures_afterEntry populated standing).bind
  rintro _ _ ⟨_, standing⟩
  apply (ensures_afterEntry (confined_launchGuest depth) standing).bind
  rintro status _ ⟨launched, standing⟩
  apply (ensures_afterEntry (confined_enterVmxCleanup depth launched) standing).mono
  rintro _ final ⟨_, standing⟩
  exact ⟨handsHeaders_of_standing _ standing, standing_next (.leave _) trivial standing ()⟩

/-- Any number of requests, one after another, hand over headers. -/
theorem ensures_requests (depths : List ℕ) {state : RegionMemory} (standing : Standing state) :
    (requests depths).Ensures (RegionMemory.environment physical basic)
      (HandsHeaders physical basic) state fun _ final => Standing final := by
  induction depths generalizing state with
  | nil => exact standing
  | cons depth later ih =>
    apply (ensures_enterVmxHandler depth standing).bind
    intro _ _ standing
    exact ih standing

/-- Setting up prepares the regions, outside all stages. -/
theorem ensures_setUpTables (field : ContextField → Address) (memory : Memory) :
    setUpTables.Ensures (RegionMemory.environment physical basic) (HandsHeaders physical basic)
      (.start field memory) fun _ final => Standing final := by
  have outside : setUpTables.Ensures (RegionMemory.environment physical basic)
      (HandsHeaders physical basic) (.start field memory)
      fun status final => DriverStatus status ∧ final.frames = [] := by
    apply confined_setUpTables.keeps
    · intro _ op work _
      apply handsHeaders_of_none
      cases op <;> first | exact fun _ _ _ => rfl | exact work.elim
    · intro state op _ work frames _
      cases op <;> first | exact frames | exact work.elim
    · rfl
  have regions := (ensures_setUpTables_regions physical field memory).of_view
    (RegionMemory.environment physical basic) RegionMemory.kernel (.start field memory)
    (fun _ _ _ allowed => allowed.1) fun _ _ _ _ => rfl
  apply (regions.and outside).mono
  rintro _ final ⟨laid, -, frames⟩
  constructor
  · intro context vmxon vmcs later pointers vmxonNonzero vmcsNonzero
    exact hasHeaders_of_hasRegions
      (laid context vmxon vmcs later pointers vmxonNonzero vmcsNonzero)
  · rw [frames]
    exact nofun

end Run

/-- In every run, from setting up through any number of requests, what is handed to the processor is
a header. -/
theorem handsHeaders_of_path {physical : Address → Address} {basic : BitVec 64}
    {field : ContextField → Address} {memory : Memory} {depths : List ℕ}
    {events : List (Event interface)} {rest : Code Unit} {state : RegionMemory} {op : Op}
    (path : Path (RegionMemory.environment physical basic)
      (setUpTables >>= fun _ => requests depths) (.start field memory) events rest state)
    (issued : rest.head? = some op) : HandsHeaders physical basic state op := by
  have run : (setUpTables >>= fun _ => requests depths).Ensures
      (RegionMemory.environment physical basic) (HandsHeaders physical basic)
      (.start field memory) fun _ final => Standing final := by
    apply (ensures_setUpTables field memory).bind
    intro _ _ standing
    exact ensures_requests depths standing
  exact run.legal_of_path path issued

section Runs

variable {physical : Address → Address} {basic : BitVec 64}

/-- Setting up opens no frame and does not read `IA32_VMX_BASIC`. -/
private theorem path_of_setup {α : Type} {program rest : Code α} {start final : KernelMemory}
    {events : List (Event interface)}
    (path : Path (KernelMemory.environment physical) program start events rest final)
    (work : ∀ event ∈ events, IsSetupWork event.1) (frames : List Routine) :
    Path (RegionMemory.environment physical basic) program ⟨start, frames⟩ events rest
      ⟨final, frames⟩ := by
  induction path with
  | nil => exact .nil _ _
  | @cons op _ start final _ _ response allowed _ ih =>
    obtain ⟨first, later⟩ := List.forall_mem_cons.mp work
    have opened : RequestStacks.nextFrames frames op = frames := by
      cases op <;> first | rfl | exact first.elim
    have moved : (RegionMemory.environment physical basic).next ⟨start, frames⟩ op response =
        ⟨start.next op response, frames⟩ := congrArg (RegionMemory.mk _) opened
    refine .cons response ⟨allowed, ?_⟩ ?_
    · cases op <;> trivial
    · rw [moved]
      exact ih later

/-- A request comes to its `VMXON`, with the header stored. -/
theorem reaches_vmxon (physical : Address → Address) (basic : BitVec 64) (depth : ℕ)
    {kernel : KernelMemory} (valid : kernel.heap.kProcessorContext ≠ 0) :
    ∃ rest, rest.head? = some (.vmxon (physical (kernel.heap.field .vmxonRegion))) ∧
      Reaches (RegionMemory.environment physical basic) (enterVmxHandler depth) ⟨kernel, []⟩ rest
        ⟨withRevision kernel .vmxonRegion (VmxBasicMsr.revisionId basic),
          [.enterVmxonMode, .enterVmxHandler]⟩ := by
  have steady {state : RegionMemory} {op : Op} {response : op.Response} (lookup : IsLookup op) :
      (RegionMemory.environment physical basic).next state op response = state :=
    next_of_isLookup lookup state response
  refine ⟨?rest, ?issued, ?run⟩
  case run =>
    refine .step () ⟨⟨trivial, trivial⟩, trivial⟩ ?_
    refine .step () ⟨⟨trivial, trivial⟩, trivial⟩ ?_
    change Reaches _ _ (RegionMemory.next (RegionMemory.next _ (.enter _) ()) (.enter _) ()) _ _
    rw [next_enter, next_enter]
    refine .stay _ ⟨⟨rfl, trivial⟩, trivial⟩ (steady trivial) ?_
    iterate 2
      iterate 3
        refine .stay (0 : BitVec 64) ⟨⟨trivial, trivial⟩, trivial⟩ (steady trivial) ?_
      refine .stay () ⟨⟨trivial, trivial⟩, trivial⟩ (steady trivial) ?_
    iterate 2
      refine .stay (0 : BitVec 64) ⟨⟨trivial, trivial⟩, trivial⟩ (steady trivial) ?_
      refine .stay () ⟨⟨trivial, trivial⟩, trivial⟩ (steady trivial) ?_
    refine .stay _ ⟨⟨trivial, trivial⟩, rfl⟩ (steady trivial) ?_
    refine .stay _ ⟨⟨⟨valid, rfl, rfl⟩, trivial⟩, trivial⟩ (steady trivial) ?_
    refine .stay _ ⟨⟨trivial, rfl⟩, trivial⟩ (steady trivial) ?_
    refine .step () ⟨⟨trivial, trivial⟩, trivial⟩ ?_
    change Reaches _ _ (RegionMemory.next _ (.store32 _ (revisionWord _ _)) ()) _ _
    rw [next_revisionWord]
    refine .stay _ ⟨⟨⟨valid, rfl, rfl⟩, trivial⟩, trivial⟩ (steady trivial) ?_
    refine .stay _ ⟨⟨trivial, rfl⟩, trivial⟩ (steady trivial) ?_
    exact .refl _ _
  case issued => rfl

/-- A run to `VMXON`, on a processor that has bit 31 of `IA32_VMX_BASIC` set. -/
theorem handsHeaders_of_path_vmxon : ∃ events rest state pointer,
    Path (RegionMemory.environment id 0x80000012) (setUpTables >>= fun _ => requests [1])
        (.start (fun _ => 0) (TableContents.leftover true)) events rest state ∧
      rest.head? = some (.vmxon pointer) ∧
      CarriesHeader id 0x80000012 state.kernel.memory 0x20000 pointer := by
  obtain ⟨kernel, ⟨events, path⟩, valid, pointers⟩ := TableContents.reaches_leftover true
  have work := (confined_setUpTables.along path).2
  obtain ⟨rest, issued, later, request⟩ := reaches_vmxon id 0x80000012 1 valid
  have run := ((path_of_setup path work []).bind fun _ => requests [1]).append
    (request.bind fun _ => requests [])
  replace issued := head?_bind issued fun _ => requests []
  refine ⟨_, _, _, _, run, issued, ?_⟩
  exact handsHeaders_of_path run issued _ _ _ _ pointers (by decide) (by decide) _ _ rfl

end Runs

end Guypervisor.Soundness.RegionHeaders
