import Guypervisor.Effects.Schedule
import Guypervisor.Effects.Surroundings
import Guypervisor.Model.SharedMemory
import Guypervisor.Proofs.Life
import Guypervisor.Soundness.RegionHeaders

/-! # Headers under concurrent requests

Any number of processors serve IRPs at the same time, on the one pair of regions. Nothing orders
their requests: the revision identifier is stored beside the shadow-VMCS bit in three steps, and
another processor may come in between; all the while the processors may store into the pages of the
regions, past the first word. If both regions were granted and all processors have one revision
identifier, every header is nevertheless in order whenever a region is handed to a processor, the
code stores nothing but headers, and no byte outside the two pages changes.
-/

namespace Guypervisor.Soundness.SharedHeaders

open Effects Effects.Program Model Code DriverCode Proofs RegionHeaders

section Words

/-- A word whose shadow-VMCS bit is clear is stored as it is. -/
theorem revisionWord_eq_self {word value : BitVec 32} (shadow : word.getLsbD 31 = false)
    (clear : value.getLsbD 31 = false) : revisionWord word value = value := by
  have parts := extractLsb'_revisionWord word value
  apply BitVec.eq_of_getLsbD_eq
  intro i bound
  by_cases top : i = 31
  · rw [top, getLsbD_revisionWord, shadow, clear]
  · have bit := congrArg (BitVec.getLsbD · i) parts
    simpa [show i < 31 by omega] using bit

/-- Giving a header the identifier changes its word only. -/
theorem memory_withRevision {kernel : KernelMemory} {field : ContextField} {id : BitVec 32}
    {address : Address} (outside : ¬ (address - kernel.heap.field field).toNat < 4) :
    (withRevision kernel field id).memory address = kernel.memory address := by
  rw [withRevision]
  dsimp only
  rw [Memory.store32, Memory.write_of_not_lt outside]

end Words

section Pages

/-- The page the processor uses for the region in a block. -/
def regionPage (allocated : Address) : Block 64 := ⟨headerOf allocated, pageSize⟩

/-- What comes after its first word. -/
def regionData (allocated : Address) : Block 64 := ⟨headerOf allocated + 4, pageSize - 4⟩

theorem headerOf_mod (allocated : Address) : (headerOf allocated).toNat % 4096 = 0 := by
  have aligned : headerOf allocated &&& 0xFFF = 0 := by
    rw [headerOf, alignUp_eq_roundUp]
    exact roundUp_and_mask allocated (kAlignmentSize - 1)
  have low := congrArg BitVec.toNat aligned
  rw [BitVec.toNat_and] at low
  exact (Nat.and_two_pow_sub_one_eq_mod _ 12).symm.trans low

/-- No header reaches into the data of a region. -/
theorem not_spans_regionData (first second : Address) {offset : ℕ} (bound : offset < 4) :
    ¬ (regionData second).Spans (headerOf first + BitVec.ofNat 64 offset) := by
  have firstAligned := headerOf_mod first
  have secondAligned := headerOf_mod second
  have size : (pageSize - 4).toNat = 4092 := by decide
  have word : (4 : Address).toNat = 4 := rfl
  unfold Block.Spans regionData
  simp only [size, word, BitVec.toNat_sub, BitVec.toNat_add, BitVec.toNat_ofNat]
  omega

/-- The data lies in the page. -/
theorem regionData_within (allocated : Address) :
    (regionData allocated).Within (regionPage allocated) := by
  have aligned := headerOf_mod allocated
  have size : (pageSize - 4).toNat = 4092 := by decide
  have whole : pageSize.toNat = 4096 := by decide
  have word : (4 : Address).toNat = 4 := rfl
  unfold Block.Within regionData regionPage
  simp only [size, whole, word, BitVec.le_def, BitVec.toNat_add]
  omega

end Pages

/-- All that a request may do to the memory it shares: it stores the identifier in a header, beside a
clear shadow-VMCS bit. -/
def MayIssue (vmxon vmcs : Address) (identifier : BitVec 31) : Op → Prop
  | .store32 address value =>
    (address = headerOf vmxon ∨ address = headerOf vmcs) ∧
      value.extractLsb' 0 31 = identifier ∧ value.getLsbD 31 = false
  | .store64 _ _ | .zeroMemory _ _ | .storeContext _ | .storeField _ _ _ => False
  | .allocateContiguousMemory _ _ | .allocatePool _ => False
  | .freeContiguousMemory _ | .freePool _ => False
  | _ => True

/-- The memory of the driver, with both regions allocated and the revision identifier that all
processors have. -/
structure Prepared where
  kernel : KernelMemory
  vmxon : Address
  vmcs : Address
  identifier : BitVec 31
  headers : HasHeaders kernel vmxon vmcs

namespace Prepared

variable (prepared : Prepared)

/-- The address is that of a header. -/
def IsHeader (address : Address) : Prop :=
  address = headerOf prepared.vmxon ∨ address = headerOf prepared.vmcs

/-- The same of these regions. -/
abbrev MayIssue (op : Op) : Prop :=
  SharedHeaders.MayIssue prepared.vmxon prepared.vmcs prepared.identifier op

/-- The kernel as requests leave it: of the headers, those at some addresses carry the identifier, and
all bytes outside the two pages are as they were. -/
structure Keeps (marked : List Address) (kernel : KernelMemory) : Prop where
  heap : kernel.heap = prepared.kernel.heap
  headers : HasHeaders kernel prepared.vmxon prepared.vmcs
  marked : ∀ address ∈ marked, prepared.IsHeader address ∧
    (kernel.memory.load32 address).extractLsb' 0 31 = prepared.identifier
  kept : ∀ address, ¬ (regionPage prepared.vmxon).Spans address →
    ¬ (regionPage prepared.vmcs).Spans address →
    kernel.memory address = prepared.kernel.memory address

variable {prepared : Prepared} {marked : List Address} {kernel : KernelMemory}

theorem keeps_start (prepared : Prepared) : prepared.Keeps [] prepared.kernel :=
  ⟨rfl, prepared.headers, fun _ member => absurd member List.not_mem_nil, fun _ _ _ => rfl⟩

/-- Two headers are one, or apart. -/
private theorem IsHeader.eq_or_apart {first second : Address}
    (headers : HasHeaders kernel prepared.vmxon prepared.vmcs) (one : prepared.IsHeader first)
    (other : prepared.IsHeader second) : first = second ∨
      first.toNat + 4 ≤ 2 ^ 64 ∧ second.toNat + 4 ≤ 2 ^ 64 ∧
        (Memory.wordAt first).Apart (Memory.wordAt second) := by
  have vmxon := wordAt_within headers.vmxonHeader.fits
  have vmcs := wordAt_within headers.vmcsHeader.fits
  have vmxonFits := vmxon.2.trans headers.vmxonHeader.fits
  have vmcsFits := vmcs.2.trans headers.vmcsHeader.fits
  have apart := headers.apart.of_within vmxon vmcs
  rcases one with rfl | rfl <;> rcases other with rfl | rfl
  · exact .inl rfl
  · exact .inr ⟨vmxonFits, vmcsFits, apart⟩
  · exact .inr ⟨vmcsFits, vmxonFits, Or.symm apart⟩
  · exact .inl rfl

private theorem store_eq_withRevision {field : ContextField} {allocated : Address}
    (header : HasHeader kernel field allocated) {value : BitVec 32} (clear : value.getLsbD 31 = false) :
    kernel.next (.store32 (headerOf allocated) value) () = withRevision kernel field value := by
  rw [KernelMemory.next, withRevision, header.member, revisionWord_eq_self header.shadow clear]
  exact congrArg (KernelMemory.mk _ _) (List.append_nil _)

/-- Storing the identifier in a header marks it. -/
private theorem Keeps.store (keeps : prepared.Keeps marked kernel) {address : Address}
    (isHeader : prepared.IsHeader address) {value : BitVec 32}
    (identifies : value.extractLsb' 0 31 = prepared.identifier) (clear : value.getLsbD 31 = false) :
    prepared.Keeps (address :: marked) (kernel.next (.store32 address value) ()) := by
  obtain ⟨heap, headers, earlier, kept⟩ := keeps
  have memory : (kernel.next (.store32 address value) ()).memory =
      kernel.memory.store32 address value := rfl
  constructor
  · exact heap
  · rcases isHeader with rfl | rfl
    · rw [store_eq_withRevision headers.vmxonHeader clear]
      exact headers.withRevision (.inl rfl) value
    · rw [store_eq_withRevision headers.vmcsHeader clear]
      exact headers.withRevision (.inr rfl) value
  · intro other member
    rw [memory]
    rcases List.mem_cons.mp member with rfl | before
    · rw [Memory.load32_store32]
      exact ⟨isHeader, identifies⟩
    · obtain ⟨otherHeader, carries⟩ := earlier other before
      rcases IsHeader.eq_or_apart headers otherHeader isHeader with rfl | ⟨fits, storeFits, apart⟩
      · rw [Memory.load32_store32]
        exact ⟨otherHeader, identifies⟩
      · rw [Memory.load32_store32_of_apart kernel.memory fits storeFits apart]
        exact ⟨otherHeader, carries⟩
  · intro target outsideVmxon outsideVmcs
    rw [← kept target outsideVmxon outsideVmcs, memory]
    apply Memory.write_of_not_lt
    intro near
    have inPage := near.trans (show 4 < pageSize.toNat by decide)
    rcases isHeader with rfl | rfl
    · exact outsideVmxon inPage
    · exact outsideVmcs inPage

theorem Keeps.anti {fewer : List Address} (keeps : prepared.Keeps marked kernel)
    (subset : fewer ⊆ marked) : prepared.Keeps fewer kernel :=
  ⟨keeps.heap, keeps.headers, fun address member => keeps.marked address (subset member), keeps.kept⟩

/-- The addresses a thread has stored to. -/
def nextMarked (marked : List Address) : Op → List Address
  | .store32 address _ => address :: marked
  | _ => marked

/-- Whatever may be issued keeps the memory, and marks the header it stores. -/
theorem Keeps.next (keeps : prepared.Keeps marked kernel) {op : Op} (may : prepared.MayIssue op)
    (response : op.Response) :
    prepared.Keeps (nextMarked marked op) (kernel.next op response) := by
  cases op with
  | store32 address value => exact keeps.store may.1 may.2.1 may.2.2
  | store64 | zeroMemory | storeContext | storeField | allocateContiguousMemory | allocatePool
  | freeContiguousMemory | freePool => exact may.elim
  | _ => rwa [show kernel.next _ response = kernel from next_eq_self rfl rfl rfl]

end Prepared

/-- What the processors do by themselves: they store, at any time, into the data of the two regions. -/
structure OwnStores (vmxon vmcs : Address) (before after : KernelMemory) : Prop where
  heap : after.heap = before.heap
  pointers : after.pointers = before.pointers
  memory : ∀ address, ¬ (regionData vmxon).Spans address → ¬ (regionData vmcs).Spans address →
    after.memory address = before.memory address

namespace Prepared

variable {prepared : Prepared} {marked : List Address} {kernel after : KernelMemory}

/-- No header is stored so. -/
private theorem load32_ownStores (stores : OwnStores prepared.vmxon prepared.vmcs kernel after)
    {address : Address} (isHeader : prepared.IsHeader address) :
    after.memory.load32 address = kernel.memory.load32 address := by
  apply Memory.load32_congr
  intro offset bound
  rcases isHeader with rfl | rfl <;>
    exact stores.memory _ (not_spans_regionData _ _ bound) (not_spans_regionData _ _ bound)

private theorem hasHeader_ownStores (stores : OwnStores prepared.vmxon prepared.vmcs kernel after)
    {field : ContextField} {allocated : Address} (isHeader : prepared.IsHeader (headerOf allocated))
    (header : HasHeader kernel field allocated) : HasHeader after field allocated where
  member := by rw [stores.heap, header.member]
  fits := header.fits
  shadow := by rw [load32_ownStores stores isHeader, header.shadow]

/-- Such stores keep the memory. -/
theorem Keeps.ownStores (keeps : prepared.Keeps marked kernel)
    (stores : OwnStores prepared.vmxon prepared.vmcs kernel after) : prepared.Keeps marked after := by
  obtain ⟨heap, ⟨vmxonHeader, vmcsHeader, apart⟩, carries, kept⟩ := keeps
  constructor
  · exact stores.heap.trans heap
  · exact ⟨hasHeader_ownStores stores (.inl rfl) vmxonHeader,
      hasHeader_ownStores stores (.inr rfl) vmcsHeader, apart⟩
  · intro address member
    obtain ⟨isHeader, carried⟩ := carries address member
    rw [load32_ownStores stores isHeader]
    exact ⟨isHeader, carried⟩
  · intro address outsideVmxon outsideVmcs
    have notData (region : Address) (outside : ¬ (regionPage region).Spans address) :
        ¬ (regionData region).Spans address := outside ∘ (regionData_within region).spans
    rw [stores.memory address (notData _ outsideVmxon) (notData _ outsideVmcs)]
    exact kept address outsideVmxon outsideVmcs

end Prepared

section View

/-- What a processor knows of itself: the frames it opened, and where it has stored the identifier. -/
structure Progress where
  frames : List Routine
  marked : List Address

/-- A processor's view of its own code: of a header it reads only that the shadow-VMCS bit is clear. -/
def view (prepared : Prepared) (physical : Address → Address) (basic : BitVec 64) :
    Environment interface Progress where
  allows _ op response :=
    match op, response with
    | .readMsr .kIa32VmxBasic, value => value = basic
    | .loadField _ .vmxonRegion, pointer => pointer = headerOf prepared.vmxon
    | .loadField _ .vmcsRegion, pointer => pointer = headerOf prepared.vmcs
    | .getPhysicalAddress address, translated => translated = physical address
    | .load32 address, word => prepared.IsHeader address → word.getLsbD 31 = false
    | _, _ => True
  next progress op _ :=
    ⟨RequestStacks.nextFrames progress.frames op, Prepared.nextMarked progress.marked op⟩

/-- What a processor is handed: by the two stages, and by `ClearActiveVMCS` if the current VMCS is the
region's. -/
def handedOver (physical : Address → Address) (vmxon vmcs : Address) (frames : List Routine) (op : Op) :
    Option (Address × Address) :=
  if frames.head? = some .clearActiveVMCS ∧ op = .vmclear (physical (headerOf vmcs)) then
    some (vmcs, physical (headerOf vmcs))
  else handed vmxon vmcs frames op

/-- A region is handed over once the processor itself has stored the identifier in its header. -/
structure Follows (prepared : Prepared) (physical : Address → Address) (progress : Progress)
    (op : Op) : Prop where
  mayIssue : prepared.MayIssue op
  hands : ∀ allocated pointer,
    handedOver physical prepared.vmxon prepared.vmcs progress.frames op = some (allocated, pointer) →
      headerOf allocated ∈ progress.marked ∧ pointer = physical (headerOf allocated)

/-- No stage that prepares a region is running, and the current VMCS is cleared only after the
identifier was stored in the header of the VMCS region. -/
def Outside (prepared : Prepared) (progress : Progress) : Prop :=
  ∀ routine ∈ progress.frames, routine ≠ .enterVmxonMode ∧ routine ≠ .initializeVMCS ∧
    (routine = .clearActiveVMCS → headerOf prepared.vmcs ∈ progress.marked)

variable {prepared : Prepared} {physical : Address → Address} {basic : BitVec 64} {α : Type}
  {progress : Progress} {post : α → Progress → Prop}

private theorem follows_of_none {op : Op} (may : prepared.MayIssue op)
    (none : ∀ vmxon vmcs frames, handed vmxon vmcs frames op = none) :
    Follows prepared physical progress op := by
  refine ⟨may, fun _ _ passed => ?_⟩
  unfold handedOver at passed
  split at passed
  · rename_i clears
    have silent := none prepared.vmxon prepared.vmcs [.initializeVMCS]
    rw [clears.2] at silent
    contradiction
  · rw [none] at passed
    contradiction

/-- Outside those stages only the VMCS region is handed over, with its header stored. -/
private theorem follows_of_outside {op : Op} (outside : Outside prepared progress)
    (may : prepared.MayIssue op) : Follows prepared physical progress op := by
  refine ⟨may, fun allocated pointer passed => ?_⟩
  unfold handedOver at passed
  split at passed
  · rename_i clears
    obtain ⟨rfl, rfl⟩ := Prod.mk.inj (Option.some.inj passed)
    obtain ⟨-, -, stored⟩ :=
      outside _ (List.mem_of_mem_head? (Option.mem_def.mpr clears.1))
    exact ⟨stored rfl, rfl⟩
  · have other (routine : Routine) (stage : routine = .enterVmxonMode ∨ routine = .initializeVMCS) :
        progress.frames.head? ≠ some routine := by
      intro innermost
      obtain ⟨notEnter, notInitialize, -⟩ :=
        outside routine (List.mem_of_mem_head? (Option.mem_def.mpr innermost))
      exact stage.elim notEnter notInitialize
    have silent : handed prepared.vmxon prepared.vmcs progress.frames op = none := by
      cases op with
      | vmxon => exact if_neg (other _ (.inl rfl))
      | vmclear | vmptrld => exact if_neg (other _ (.inr rfl))
      | _ => rfl
    rw [silent] at passed
    contradiction

/-- Outside a stage, more headers may be stored. -/
private theorem Outside.mono {frames : List Routine} {marked more : List Address}
    (outside : Outside prepared ⟨frames, marked⟩) (subset : marked ⊆ more) :
    Outside prepared ⟨frames, more⟩ := by
  intro routine member
  obtain ⟨notEnter, notInitialize, stored⟩ := outside routine member
  exact ⟨notEnter, notInitialize, fun clears => subset (stored clears)⟩

private theorem Outside.tail {frames : List Routine} {marked : List Address}
    (outside : Outside prepared ⟨frames, marked⟩) : Outside prepared ⟨frames.tail, marked⟩ :=
  fun routine member => outside routine (List.mem_of_mem_tail member)

/-- What a stage does before it hands a region over, but for storing the header. -/
private def IsLookup : Op → Prop
  | .store32 _ _ | .enter _ | .leave _ => False
  | op => IsPreparation op

private theorem ensures_lookup_bind {op : Op} {next : op.Response → Code α} (lookup : IsLookup op)
    (rest : ∀ response, (view prepared physical basic).allows progress op response →
      (next response).Ensures (view prepared physical basic) (Follows prepared physical) progress
        post) :
    (ask op >>= next).Ensures (view prepared physical basic) (Follows prepared physical) progress
      post := by
  apply ensures_query_bind _ _ rest
  · cases op <;> first | exact follows_of_none trivial fun _ _ _ => rfl | exact lookup.elim
  · intro response
    cases op <;> first | rfl | exact lookup.elim

/-- The word that is stored for the identifier of a processor. -/
private theorem mayIssue_revisionWord (oneRevision : basic.extractLsb' 0 31 = prepared.identifier)
    {address : Address} (isHeader : prepared.IsHeader address) {word : BitVec 32}
    (shadow : word.getLsbD 31 = false) :
    prepared.MayIssue (.store32 address (revisionWord word (VmxBasicMsr.revisionId basic))) := by
  refine ⟨isHeader, ?_, ?_⟩
  · rw [extractLsb'_revisionWord, extractLsb'_revisionId, oneRevision]
  · rw [getLsbD_revisionWord, shadow]

/-- The identifier is stored in a header. -/
private theorem ensures_setRevisionIdentifier_bind
    (oneRevision : basic.extractLsb' 0 31 = prepared.identifier) {region : Address}
    (isHeader : prepared.IsHeader region) {next : Unit → Code α}
    (rest : (next ()).Ensures (view prepared physical basic) (Follows prepared physical)
      ⟨progress.frames, region :: progress.marked⟩ post) :
    (setRevisionIdentifier region (VmxBasicMsr.revisionId basic) >>= next).Ensures
      (view prepared physical basic) (Follows prepared physical) progress post := by
  rw [setRevisionIdentifier, bind_assoc]
  refine ensures_lookup_bind trivial fun word loaded => ?_
  have may := mayIssue_revisionWord oneRevision isHeader (loaded isHeader)
  exact ensures_ask_bind (follows_of_none may fun _ _ _ => rfl) fun _ _ => rest

/-- A stage runs in a frame of its own. -/
private theorem ensures_frame {routine : Routine} {body : Code α} {marked : List Address}
    (ensured : body.Ensures (view prepared physical basic) (Follows prepared physical)
      ⟨routine :: progress.frames, progress.marked⟩
      fun _ final => final = ⟨routine :: progress.frames, marked⟩) :
    (call routine body).Ensures (view prepared physical basic) (Follows prepared physical) progress
      fun _ final => final = ⟨progress.frames, marked⟩ := by
  apply ensures_call (follows_of_none trivial fun _ _ _ => rfl)
  apply ensured.mono
  rintro _ _ rfl
  exact ⟨follows_of_none trivial fun _ _ _ => rfl, rfl⟩

/-- A region is handed over whose header the processor has just stored. -/
private theorem follows_handed {routine : Routine} {frames : List Routine} {marked : List Address}
    {op : Op} {block : Address} (may : prepared.MayIssue op) (stage : routine ≠ .clearActiveVMCS)
    (hands : handed prepared.vmxon prepared.vmcs (routine :: frames) op =
      some (block, physical (headerOf block))) :
    Follows prepared physical ⟨routine :: frames, headerOf block :: marked⟩ op := by
  refine ⟨may, fun allocated pointer passed => ?_⟩
  have same : handedOver physical prepared.vmxon prepared.vmcs (routine :: frames) op = _ :=
    (if_neg fun clears => stage (Option.some.inj clears.1)).trans hands
  obtain ⟨rfl, rfl⟩ := Prod.mk.inj (Option.some.inj (same.symm.trans passed))
  exact ⟨List.mem_cons_self, rfl⟩

private theorem ensures_enterVmxonMode (oneRevision : basic.extractLsb' 0 31 = prepared.identifier) :
    enterVmxonMode.Ensures (view prepared physical basic) (Follows prepared physical) progress
      fun _ final => final = ⟨progress.frames, headerOf prepared.vmxon :: progress.marked⟩ := by
  apply ensures_frame
  iterate 13 refine ensures_lookup_bind trivial fun _ _ => ?_
  refine ensures_lookup_bind trivial fun basicMsr read => ?_
  obtain rfl : basicMsr = basic := read
  refine ensures_lookup_bind trivial fun region found => ?_
  obtain rfl : region = headerOf prepared.vmxon := found
  apply ensures_setRevisionIdentifier_bind oneRevision (.inl rfl)
  refine ensures_lookup_bind trivial fun region found => ?_
  obtain rfl : region = headerOf prepared.vmxon := found
  refine ensures_lookup_bind trivial fun physicalAllocatedVMX translated => ?_
  obtain rfl : physicalAllocatedVMX = physical (headerOf prepared.vmxon) := translated
  refine ensures_ask_bind (follows_handed trivial nofun rfl) fun outcome _ => ?_
  split <;> rfl

private theorem ensures_initializeVMCS (oneRevision : basic.extractLsb' 0 31 = prepared.identifier) :
    initializeVMCS.Ensures (view prepared physical basic) (Follows prepared physical) progress
      fun _ final => final = ⟨progress.frames, headerOf prepared.vmcs :: progress.marked⟩ := by
  apply ensures_frame
  refine ensures_lookup_bind trivial fun _ _ => ?_
  refine ensures_lookup_bind trivial fun basicMsr read => ?_
  obtain rfl : basicMsr = basic := read
  refine ensures_lookup_bind trivial fun region found => ?_
  obtain rfl : region = headerOf prepared.vmcs := found
  apply ensures_setRevisionIdentifier_bind oneRevision (.inr rfl)
  refine ensures_lookup_bind trivial fun region found => ?_
  obtain rfl : region = headerOf prepared.vmcs := found
  refine ensures_lookup_bind trivial fun physicalAllocatedVMX translated => ?_
  obtain rfl : physicalAllocatedVMX = physical (headerOf prepared.vmcs) := translated
  refine ensures_ask_bind (follows_handed trivial nofun rfl) fun cleared _ => ?_
  split
  · rfl
  · refine ensures_ask_bind (follows_handed trivial nofun rfl) fun loaded _ => ?_
    split <;> rfl

/-- What a request does after its stages hands over a region whose header it stored. -/
private theorem ensures_afterEntry {program : Code α} {results : α → Prop}
    (confined : program.Confined IsAfterEntry results) (outside : Outside prepared progress)
    (stored : headerOf prepared.vmcs ∈ progress.marked) :
    program.Ensures (view prepared physical basic) (Follows prepared physical) progress
      fun result final => results result ∧
        Outside prepared final ∧ headerOf prepared.vmcs ∈ final.marked := by
  apply confined.keeps _ _ ⟨outside, stored⟩
  · intro progress op work ⟨outside, _⟩
    apply follows_of_outside outside
    cases op <;> trivial
  · rintro ⟨frames, marked⟩ op _ work ⟨outside, stored⟩ _
    cases op with
    | enter routine =>
      exact ⟨List.forall_mem_cons.mpr ⟨⟨work.1, work.2, fun _ => stored⟩, outside⟩, stored⟩
    | leave => exact ⟨outside.tail, stored⟩
    | store32 => exact work.elim
    | _ => exact ⟨outside, stored⟩

/-- What does not write memory and enters no stage. -/
private theorem ensures_outside {program : Code α} (outside : Outside prepared progress)
    (confined : program.Confined (fun op => IsOutside (.inl op) ∧ prepared.MayIssue op)
      fun _ => True) :
    program.Ensures (view prepared physical basic) (Follows prepared physical) progress
      fun _ final => Outside prepared final := by
  have kept : program.Ensures (view prepared physical basic) (Follows prepared physical) progress
      fun _ final => True ∧ Outside prepared final := by
    apply confined.keeps _ _ outside
    · exact fun _ op work outside => follows_of_outside outside work.2
    · rintro ⟨frames, marked⟩ op _ ⟨work, -⟩ outside _
      cases op with
      | enter => exact (work.elim id id).elim
      | leave => exact outside.tail
      | store32 => exact outside.mono (List.subset_cons_self _ _)
      | _ => exact outside
  exact kept.mono fun _ _ ended => ended.2

private theorem ensures_enterVmxHandler (depth : ℕ)
    (oneRevision : basic.extractLsb' 0 31 = prepared.identifier) (outside : Outside prepared progress) :
    (enterVmxHandler depth).Ensures (view prepared physical basic) (Follows prepared physical)
      progress fun _ final => Outside prepared final := by
  rw [enterVmxHandler_eq]
  apply ensures_call (follows_of_outside outside trivial)
  change Ensures _ _ _ (Progress.mk (.enterVmxHandler :: progress.frames) progress.marked) _
  apply (ensures_enterVmxonMode oneRevision).bind
  rintro _ _ rfl
  apply (ensures_initializeVMCS oneRevision).bind
  rintro _ _ rfl
  have prepares : Outside prepared ⟨.enterVmxHandler :: progress.frames,
      headerOf prepared.vmcs :: headerOf prepared.vmxon :: progress.marked⟩ := by
    have stored := outside.mono (List.Subset.trans (List.subset_cons_self _ _)
      (List.subset_cons_self (headerOf prepared.vmcs) (headerOf prepared.vmxon :: progress.marked)))
    exact List.forall_mem_cons.mpr ⟨⟨nofun, nofun, nofun⟩, stored⟩
  have populated : (populateActiveVMCS depth).Confined IsAfterEntry DriverStatus :=
    (confined_populateActiveVMCS depth).mono (fun _ => IsFieldWork.isAfterEntry) fun _ => id
  apply (ensures_afterEntry populated prepares List.mem_cons_self).bind
  rintro _ _ ⟨-, outside, stored⟩
  apply (ensures_afterEntry (confined_launchGuest depth) outside stored).bind
  rintro _ _ ⟨launched, outside, stored⟩
  apply (ensures_afterEntry (confined_enterVmxCleanup depth launched) outside stored).mono
  rintro _ final ⟨-, outside, -⟩
  exact ⟨follows_of_outside outside trivial, outside.tail⟩

/-- A dispatch routine ends outside. -/
private theorem ensures_dispatch (oneRevision : basic.extractLsb' 0 31 = prepared.identifier)
    (call : DispatchCall) (outside : Outside prepared progress) :
    call.run.Ensures (view prepared physical basic) (Follows prepared physical) progress
      fun _ final => Outside prepared final := by
  obtain ⟨depth, routine, irp⟩ := call
  cases routine with
  | ioctlHandlerIRP =>
    have handled : (handleIoControlCode depth irp.ioControlCode).Ensures
        (view prepared physical basic) (Follows prepared physical) progress
        fun _ final => Outside prepared final := by
      unfold handleIoControlCode
      split
      · exact ensures_enterVmxHandler depth oneRevision outside
      · exact outside
    apply handled.bind
    intro _ _ outside
    apply ensures_outside outside
    exact ⟨⟨trivial, trivial⟩, fun _ => ⟨⟨trivial, trivial⟩, fun _ => trivial⟩⟩
  | generalHandlerIRP =>
    apply ensures_outside outside
    exact ⟨⟨trivial, trivial⟩, fun _ => trivial⟩
  | createHandlerIRP | closeHandlerIRP | writeHandlerIRP =>
    apply ensures_outside outside
    exact ⟨⟨trivial, trivial⟩, fun _ => ⟨⟨trivial, trivial⟩, fun _ => trivial⟩⟩

/-- The condition on what the whole driver issues. -/
def FollowsDriver (prepared : Prepared) (physical : Address → Address) (progress : Progress) :
    driverInterface.A → Prop
  | .inl op => Follows prepared physical progress op
  | .inr _ => False

/-- A processor may be handed any IRPs, one after another. -/
private theorem ensures_serve (oneRevision : basic.extractLsb' 0 31 = prepared.identifier)
    (calls : List DispatchCall) (outside : Outside prepared progress) :
    (serve calls).Ensures (view prepared physical basic).beside (FollowsDriver prepared physical)
      progress fun _ final => Outside prepared final := by
  induction calls generalizing progress with
  | nil => exact outside
  | cons call later ih =>
    have called : (code call.run).Ensures (view prepared physical basic).beside
        (FollowsDriver prepared physical) progress fun _ final => Outside prepared final :=
      (ensures_inLeft call.run progress _).mpr (ensures_dispatch oneRevision call outside)
    apply called.bind
    exact fun _ _ outside => ih outside

end View

section Schedule

variable {ι : Type} {prepared : Prepared} {physical : Address → Address} {basic : ι → BitVec 64}
  {vmxon vmcs : Address}

/-- The processors store into the data of the two regions, whatever their code does. -/
def RegionStores (vmxon vmcs : Address) (before after : SharedMemory ι) : Prop :=
  after.frames = before.frames ∧ OwnStores vmxon vmcs before.kernel after.kernel

/-- What a processor knows is true of the memory it shares. -/
structure Couples (prepared : Prepared) (i : ι) (progress : Progress) (state : SharedMemory ι) :
    Prop where
  frames : state.frames i = progress.frames
  keeps : prepared.Keeps progress.marked state.kernel

/-- It stays true when the processors store. -/
private theorem Couples.stores {i : ι} {progress : Progress} {before after : SharedMemory ι}
    (coupled : Couples prepared i progress before)
    (stores : RegionStores prepared.vmxon prepared.vmcs before after) :
    Couples prepared i progress after :=
  ⟨by rw [stores.1, coupled.frames], coupled.keeps.ownStores stores.2⟩

variable [DecidableEq ι]

/-- One processor's environment, in which all of them do so. -/
abbrev storingProcessor (physical : Address → Address) (basic : ι → BitVec 64) (vmxon vmcs : Address)
    (i : ι) : Environment (Amid driverInterface (SharedMemory ι)) (SharedMemory ι) :=
  (SharedMemory.environment physical basic i).beside.amid (RegionStores vmxon vmcs)

/-- What a processor reads is what its view allows. -/
private theorem allows_view {i : ι} {mine : Progress} {state : SharedMemory ι} {op : Op}
    {response : op.Response} (coupled : Couples prepared i mine state)
    (allowed : (SharedMemory.environment physical basic i).allows state op response) :
    (view prepared physical (basic i)).allows mine op response := by
  obtain ⟨⟨answers, reads⟩, revision⟩ := allowed
  obtain ⟨-, keeps⟩ := coupled
  cases op with
  | readMsr msr => cases msr <;> exact revision
  | loadField context field =>
    cases field with
    | vmxonRegion => exact answers.2.2.trans keeps.headers.vmxonHeader.member
    | vmcsRegion => exact answers.2.2.trans keeps.headers.vmcsHeader.member
    | _ => trivial
  | getPhysicalAddress => exact reads
  | load32 address =>
    intro isHeader
    obtain rfl : response = state.kernel.memory.load32 address := reads
    rcases isHeader with rfl | rfl
    · exact keeps.headers.vmxonHeader.shadow
    · exact keeps.headers.vmcsHeader.shadow
  | _ => trivial

/-- Processors that store the same identifier do not interfere. -/
private theorem noninterfering (prepared : Prepared) (physical : Address → Address)
    (basic : ι → BitVec 64) :
    Noninterfering (storingProcessor physical basic prepared.vmxon prepared.vmcs)
      (fun i => (view prepared physical (basic i)).beside.unaware)
      (fun _ => FollowsDriver prepared physical) (Couples prepared) := by
  constructor
  · intro i mine state op answer coupled follows allowed
    match op with
    | .inl op =>
      refine ⟨allows_view coupled allowed.1, Couples.stores ?_ allowed.2⟩
      refine ⟨?_, coupled.keeps.next follows.mayIssue answer.1⟩
      change Function.update state.frames i _ i = _
      rw [Function.update_self, coupled.frames]
      rfl
    | .inr _ => exact follows.elim
  · intro i j distinct mine theirs state op answer coupled _ follows allowed
    match op with
    | .inl op =>
      have kept : prepared.Keeps mine.marked (state.kernel.next op answer.1) := by
        apply (coupled.keeps.next follows.mayIssue answer.1).anti
        cases op <;> first | exact List.subset_cons_self _ _ | exact List.Subset.refl _
      refine Couples.stores ⟨?_, kept⟩ allowed.2
      change Function.update state.frames j _ i = _
      rw [Function.update_of_ne distinct]
      exact coupled.frames
    | .inr _ => exact follows.elim

variable {field : ContextField → Address} {memory : Memory} {setUp : List (Event interface)}
  {status : NTSTATUS} {kernel : KernelMemory} {context : Address} {later : List Address}
  {identifier : BitVec 31} {calls : ι → List DispatchCall}
  {lasts : ι → Program (Amid driverInterface (SharedMemory ι)) Unit} {final : SharedMemory ι}

/-- The memory as setting up leaves it, if both regions were allocated. -/
private theorem hasHeaders_of_setUp
    (path : Path (KernelMemory.environment physical) setUpTables (.start field memory) setUp
      (.done status) kernel)
    (pointers : kernel.pointers = context :: vmxon :: vmcs :: later)
    (vmxonNonzero : vmxon ≠ 0) (vmcsNonzero : vmcs ≠ 0) : HasHeaders kernel vmxon vmcs :=
  hasHeaders_of_hasRegions ((ensures_setUpTables_regions physical field memory).post_of_path path
    context vmxon vmcs later pointers vmxonNonzero vmcsNonzero)

/-- Everything a processor ensures alone holds under the schedule. -/
private theorem coupled_of_schedules (prepared : Prepared)
    (oneRevision : ∀ i, (basic i).extractLsb' 0 31 = prepared.identifier)
    (run : Schedules (storingProcessor physical basic prepared.vmxon prepared.vmcs)
      (fun i => (serve (calls i)).amid) ⟨prepared.kernel, fun _ => []⟩ lasts final) :
    ∃ progress : ι → Progress, ∀ i, Couples prepared i (progress i) final ∧
      ∀ op, (lasts i).head? = some (.inl op) → Follows prepared physical (progress i) op := by
  have outside : Outside prepared ⟨[], []⟩ := fun _ member => absurd member List.not_mem_nil
  have serves (i : ι) : (serve (calls i)).Ensures (view prepared physical (basic i)).beside
      (FollowsDriver prepared physical) ⟨[], []⟩ fun _ final => Outside prepared final :=
    ensures_serve (oneRevision i) (calls i) outside
  have initially (i : ι) : Couples prepared i ⟨[], []⟩ ⟨prepared.kernel, fun _ => []⟩ :=
    ⟨rfl, prepared.keeps_start⟩
  obtain ⟨progress, ensured, coupled⟩ :=
    run.ensures (noninterfering prepared physical basic) (fun i => (serves i).unaware) initially
  exact ⟨progress, fun i => ⟨coupled i, fun _ issued => (ensured i).legal_of_path (.nil _ _) issued⟩⟩

/-- Only the two regions are handed over. -/
private theorem eq_of_handedOver {frames : List Routine} {op : Op} {allocated pointer : Address}
    (passed : handedOver physical vmxon vmcs frames op = some (allocated, pointer)) :
    allocated = vmxon ∨ allocated = vmcs := by
  unfold handedOver at passed
  split at passed
  · exact .inr (Prod.mk.inj (Option.some.inj passed)).1.symm
  · cases op with
    | vmxon =>
      obtain ⟨-, same⟩ := Option.ite_none_right_eq_some.mp passed
      exact .inl (Prod.mk.inj (Option.some.inj same)).1.symm
    | vmclear | vmptrld =>
      obtain ⟨-, same⟩ := Option.ite_none_right_eq_some.mp passed
      exact .inr (Prod.mk.inj (Option.some.inj same)).1.symm
    | _ => contradiction

/-- **If both regions were granted and all processors have one revision identifier: whatever IRPs any
number of processors serve at the same time, in any order of their steps, the region a processor is
handed has its revision identifier and a clear shadow-VMCS bit at that moment.** -/
theorem carriesHeader_of_schedules
    (path : Path (KernelMemory.environment physical) setUpTables (.start field memory) setUp
      (.done status) kernel)
    (pointers : kernel.pointers = context :: vmxon :: vmcs :: later)
    (vmxonNonzero : vmxon ≠ 0) (vmcsNonzero : vmcs ≠ 0)
    (oneRevision : ∀ i, (basic i).extractLsb' 0 31 = identifier)
    (run : Schedules (storingProcessor physical basic vmxon vmcs) (fun i => (serve (calls i)).amid)
      ⟨kernel, fun _ => []⟩ lasts final)
    {i : ι} {op : Op} (issued : (lasts i).head? = some (.inl op)) {allocated pointer : Address}
    (passed : handedOver physical vmxon vmcs (final.frames i) op = some (allocated, pointer)) :
    CarriesHeader physical (basic i) final.kernel.memory allocated pointer := by
  have headers := hasHeaders_of_setUp path pointers vmxonNonzero vmcsNonzero
  obtain ⟨progress, coupled⟩ :=
    coupled_of_schedules ⟨kernel, vmxon, vmcs, identifier, headers⟩ oneRevision run
  obtain ⟨⟨frames, keeps⟩, follows⟩ := coupled i
  rw [frames] at passed
  obtain ⟨stored, translated⟩ := (follows op issued).hands allocated pointer passed
  have carries := (keeps.marked _ stored).2.trans (oneRevision i).symm
  rcases eq_of_handedOver passed with rfl | rfl
  · have header := keeps.headers.vmxonHeader
    exact ⟨wordAt_within header.fits, carries, header.shadow, translated⟩
  · have header := keeps.headers.vmcsHeader
    exact ⟨wordAt_within header.fits, carries, header.shadow, translated⟩

end Schedule

section Run

/-- What one processor does alone it does among others. -/
private theorem path_of_alone {ι α : Type} [DecidableEq ι] {physical : Address → Address}
    (basic : ι → BitVec 64) (i : ι) (frames : ι → List Routine) {program rest : Code α}
    {events : List (Event interface)} {start final : RegionMemory}
    (path : Path (RegionMemory.environment physical (basic i)) program start events rest final) :
    Path (SharedMemory.environment physical basic i) program
      ⟨start.kernel, Function.update frames i start.frames⟩ events rest
      ⟨final.kernel, Function.update frames i final.frames⟩ := by
  apply path.map _ fun state => SharedMemory.mk state.kernel (Function.update frames i state.frames)
  · intro state op response allowed
    change (RegionMemory.environment physical (basic i)).allows
      ⟨state.kernel, Function.update frames i state.frames i⟩ op response
    rw [Function.update_self]
    exact allowed
  · intro state op response
    change SharedMemory.mk _ (Function.update (Function.update frames i state.frames) i
      (RequestStacks.nextFrames (Function.update frames i state.frames i) op)) = _
    rw [Function.update_idem, Function.update_self]
    rfl

/-- All processors have bit 31 of `IA32_VMX_BASIC` set. -/
private abbrev twoProcessors := storingProcessor (ι := Fin 2) id (fun _ => 0x80000012) 0x20000 0x30000

private abbrev entering : DispatchCall := ⟨1, .ioctlHandlerIRP, ⟨irpMjDeviceControl, 0, ioctlEnterVmx⟩⟩

/-- What its IRP is answered after the request. -/
private def completing (status : NTSTATUS) : Code NTSTATUS := do
  setIoStatus status
  completeRequest
  return status

private theorem serve_eq :
    serve [entering] = (enterVmxHandler 1 >>= completing).inLeft >>= fun _ => serve [] := by
  change (handleIoControlCode 1 ioctlEnterVmx >>= _).inLeft >>= _ = _
  rw [handleIoControlCode, if_pos rfl]
  rfl

/-- The processors need not store. -/
private theorem idle (state : SharedMemory (Fin 2)) : RegionStores 0x20000 0x30000 state state :=
  ⟨rfl, rfl, rfl, fun _ _ _ => rfl⟩

/-- A processor that was asked comes to its `VMXON`, with the header stored. -/
private theorem reaches_vmxon (i : Fin 2) {kernel : KernelMemory} (frames : Fin 2 → List Routine)
    (outside : frames i = []) (valid : kernel.heap.kProcessorContext ≠ 0) :
    ∃ resume, Reaches (twoProcessors i) (serve [entering]).amid ⟨kernel, frames⟩
      (@Program.issue driverInterface _ (.inl (.vmxon (kernel.heap.field .vmxonRegion))) resume).amid
      ⟨withRevision kernel .vmxonRegion (VmxBasicMsr.revisionId 0x80000012),
        Function.update frames i [.enterVmxonMode, .enterVmxHandler]⟩ := by
  obtain ⟨rest, issued, _, alone⟩ := RegionHeaders.reaches_vmxon id 0x80000012 1 valid
  have shared : Path (SharedMemory.environment id _ i) _ ⟨kernel, Function.update frames i []⟩ _ _ _ :=
    path_of_alone (fun _ => 0x80000012) i frames alone
  rw [show Function.update frames i [] = frames by rw [← outside, Function.update_eq_self]] at shared
  have beside := (Reaches.bind ⟨_, shared⟩ completing).beside (Q := deviceInterface)
  have called := beside.bind fun _ => serve []
  rw [← serve_eq] at called
  have first := head?_inLeft (Q := deviceInterface) (head?_bind issued completing)
  obtain ⟨resume, split⟩ := issue_of_head? (head?_bind first fun _ => serve [])
  rw [split] at called
  obtain ⟨_, path⟩ := called
  obtain ⟨_, -, amid⟩ := path.amid idle
  exact ⟨resume, _, amid⟩

/-- Of two processors that serve requests the first has executed its `VMXON`, the region was stored
into, and the second is at its `VMXON`. -/
private theorem exists_schedule {kernel : KernelMemory} (valid : kernel.heap.kProcessorContext ≠ 0)
    (member : kernel.heap.field .vmxonRegion = 0x20000) :
    ∃ lasts final, Schedules twoProcessors (fun _ => (serve [entering]).amid) ⟨kernel, fun _ => []⟩
      lasts final ∧ (lasts 1).head? = some (.inl (.vmxon 0x20000)) ∧
      final.frames 1 = [.enterVmxonMode, .enterVmxHandler] ∧
      final.kernel.memory 0x20008 = 0xFF := by
  obtain ⟨resume, _, first⟩ := reaches_vmxon 0 (fun _ => []) rfl valid
  let entered := (SharedMemory.environment id (fun _ => 0x80000012) 0).next
    ⟨withRevision kernel .vmxonRegion (VmxBasicMsr.revisionId 0x80000012),
      Function.update (fun _ => []) (0 : Fin 2) [.enterVmxonMode, .enterVmxHandler]⟩
    (.vmxon (kernel.heap.field .vmxonRegion)) .succeed
  let stored : SharedMemory (Fin 2) :=
    ⟨{ entered.kernel with memory := Function.update entered.kernel.memory 0x20008 0xFF },
      entered.frames⟩
  have stores : RegionStores 0x20000 0x30000 entered stored := by
    refine ⟨rfl, rfl, rfl, fun address outside _ => Function.update_of_ne ?_ _ _⟩
    rintro rfl
    exact outside (by decide)
  have executes : Path (twoProcessors 0) (Program.issue _ resume).amid _
      [⟨.inl (.vmxon (kernel.heap.field .vmxonRegion)), VmxOutcome.succeed, stored⟩]
      (resume .succeed).amid stored :=
    .cons _ ⟨⟨⟨trivial, trivial⟩, trivial⟩, stores⟩ (.nil _ _)
  have context : stored.kernel.heap.kProcessorContext ≠ 0 := valid
  obtain ⟨_, _, second⟩ := reaches_vmxon 1 stored.frames rfl context
  have one : Schedules twoProcessors (fun _ => (serve [entering]).amid) _ _ stored :=
    .of_path (first.append executes) rfl
  have both := one.trans (.of_path second (Function.update_of_ne (by decide) _ _))
  refine ⟨_, _, both, ?issued, ?frames, ?memory⟩
  case issued =>
    rw [Function.update_self, head?_amid, ← member]
    rfl
  case frames => exact Function.update_self (1 : Fin 2) _ stored.frames
  case memory =>
    have apart : ¬ ((0x20008 : Address) - stored.kernel.heap.field .vmxonRegion).toNat < 4 := by
      rw [show stored.kernel.heap.field .vmxonRegion = 0x20000 from member]
      decide
    have now : stored.kernel.memory 0x20008 = 0xFF :=
      Function.update_self (0x20008 : Address) 0xFF entered.kernel.memory
    exact (memory_withRevision apart).trans now

/-- The memory as setting up leaves it, with such a schedule. -/
private theorem exists_setUp_schedule : ∃ events kernel lasts final,
    Path (KernelMemory.environment id) setUpTables (.start (fun _ => 0) (TableContents.leftover true))
      events (.done statusSuccess) kernel ∧ kernel.pointers = TableContents.blockPointers ∧
    Schedules twoProcessors (fun _ => (serve [entering]).amid) ⟨kernel, fun _ => []⟩ lasts final ∧
    (lasts 1).head? = some (.inl (.vmxon 0x20000)) ∧
    final.frames 1 = [.enterVmxonMode, .enterVmxHandler] ∧ final.kernel.memory 0x20008 = 0xFF := by
  obtain ⟨kernel, ⟨events, path⟩, valid, pointers⟩ := TableContents.reaches_leftover true
  have headers := hasHeaders_of_setUp path pointers (by decide) (by decide)
  obtain ⟨lasts, final, run⟩ := exists_schedule valid headers.vmxonHeader.member
  exact ⟨events, kernel, lasts, final, path, pointers, run⟩

/-- The second processor's `VMXON` is handed a header. -/
theorem carriesHeader_of_schedules_two : ∃ kernel lasts final,
    Schedules twoProcessors (fun _ => (serve [entering]).amid) ⟨kernel, fun _ => []⟩ lasts final ∧
    (lasts 1).head? = some (.inl (.vmxon 0x20000)) ∧
    CarriesHeader id 0x80000012 final.kernel.memory 0x20000 0x20000 := by
  obtain ⟨_, kernel, lasts, final, path, pointers, run, issued, frames, -⟩ := exists_setUp_schedule
  refine ⟨kernel, lasts, final, run, issued, ?_⟩
  have passed : handedOver id 0x20000 0x30000 (final.frames 1) (.vmxon 0x20000) =
      some (0x20000, 0x20000) := by
    rw [frames]
    rfl
  exact carriesHeader_of_schedules path pointers (by decide) (by decide) (fun _ => rfl) run issued
    passed

end Run

end Guypervisor.Soundness.SharedHeaders
