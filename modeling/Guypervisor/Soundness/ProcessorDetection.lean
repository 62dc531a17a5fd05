import Guypervisor.Proofs.Loading

/-! # Recognising an Intel processor with VT-x

`VendorIsIntel` is to say whether `CPUID` spells `GenuineIntel`, and `SupportsVtxOperation` whether
it reports VMX. The first copies the three parts of the name to one place, so that the last is
compared together with what the array held before, with the sense of `memcmp` inverted; the second
reads the feature word from the wrong end.
-/

namespace Guypervisor.Soundness.ProcessorDetection

open Effects Effects.Program Model DriverCode Proofs

/-- The bytes of a register as they lie in memory. -/
def registerBytes (register : BitVec 32) : List (BitVec 8) :=
  [register.extractLsb' 0 8, register.extractLsb' 8 8, register.extractLsb' 16 8,
    register.extractLsb' 24 8]

/-- The twelve letters. -/
def genuineIntel : List (BitVec 8) :=
  "GenuineIntel".toList.map fun letter => BitVec.ofNat 8 letter.toNat

/-- `EBX`, `EDX` and `ECX` spell the name, in this order. -/
def SpellsIntel (info : CpuInfo) : Prop :=
  registerBytes info.ebx ++ registerBytes info.edx ++ registerBytes info.ecx = genuineIntel

instance (info : CpuInfo) : Decidable (SpellsIntel info) := inferInstanceAs (Decidable (_ = _))

@[simp] theorem length_registerBytes (register : BitVec 32) : (registerBytes register).length = 4 :=
  rfl

theorem registerBytes_injective : Function.Injective registerBytes := by
  have joined (register : BitVec 32) :
      register.extractLsb' 24 8 ++ (register.extractLsb' 16 8 ++
        (register.extractLsb' 8 8 ++ register.extractLsb' 0 8)) = register := by
    iterate 3 rw [BitVec.extractLsb'_append_extractLsb'_eq_extractLsb' (by rfl)]
    exact BitVec.extractLsb'_eq_self
  intro first second same
  obtain ⟨byte0, byte1, byte2, byte3⟩ : _ ∧ _ ∧ _ ∧ _ := by
    simpa only [registerBytes, List.cons.injEq, and_true] using same
  rw [← joined first, byte0, byte1, byte2, byte3, joined second]

/-- The registers that spell the name. -/
theorem spellsIntel_iff (info : CpuInfo) :
    SpellsIntel info ↔ info.ebx = 0x756E6547 ∧ info.edx = 0x49656E69 ∧ info.ecx = 0x6C65746E := by
  have letters : genuineIntel =
      registerBytes 0x756E6547 ++ registerBytes 0x49656E69 ++ registerBytes 0x6C65746E := by decide
  unfold SpellsIntel
  rw [letters]
  constructor
  · intro same
    obtain ⟨front, third⟩ := List.append_inj same (by simp)
    obtain ⟨first, second⟩ := List.append_inj front (by simp)
    exact ⟨registerBytes_injective first, registerBytes_injective second,
      registerBytes_injective third⟩
  · rintro ⟨first, second, third⟩
    rw [first, second, third]

/-- Of two parts copied to one place the second stays. -/
theorem memcpyFour_memcpyFour (destination : BitVec 96) (first second : BitVec 32) :
    memcpyFour (memcpyFour destination first) second = memcpyFour destination second := by
  unfold memcpyFour
  rw [BitVec.extractLsb'_append_eq_left]

/-- The array compares equal when its first four bytes and the other eight do. -/
theorem memcpyFour_eq_kVendorName_iff (destination : BitVec 96) (source : BitVec 32) :
    memcpyFour destination source = kVendorName ↔
      source = 0x756E6547 ∧ destination.extractLsb' 32 64 = 0x6C65746E49656E69 := by
  have parts : kVendorName = (0x6C65746E49656E69 : BitVec 64) ++ (0x756E6547 : BitVec 32) := by
    decide
  rw [parts, memcpyFour]
  constructor
  · intro same
    have high := congrArg (·.extractLsb' 32 64) same
    have low := congrArg (·.extractLsb' 0 32) same
    simp only [BitVec.extractLsb'_append_eq_left] at high
    simp only [BitVec.extractLsb'_append_eq_right] at low
    exact ⟨low, high⟩
  · rintro ⟨low, high⟩
    rw [low, high]

section Vendor

/-- Whatever the local array held, `VendorIsIntel` answers whether the registers spell the name. -/
def DecidesVendor (cpuid : BitVec 32 → CpuInfo) : Prop :=
  ∀ stack answer,
    Reaches (Identification.mk cpuid stack).environment vendorIsIntel () (.done answer) () →
      (answer = true ↔ SpellsIntel (cpuid kIa32CpuVendorName))

variable {identification : Identification}

/-- The one answer of `VendorIsIntel`. -/
theorem reaches_vendorIsIntel_iff {answer : Bool} :
    Reaches identification.environment vendorIsIntel () (.done answer) () ↔
      answer = decide (memcpyFour (identification.stack 12)
        (identification.cpuid kIa32CpuVendorName).ecx ≠ kVendorName) := by
  constructor
  · rintro ⟨events, path⟩
    obtain ⟨stack, later, -, rfl, path⟩ := path_askDevice_bind path
    obtain ⟨info, later, -, rfl, path⟩ := path_askCode_bind path
    obtain ⟨-, same, -⟩ := path.of_done
    rw [Program.done.inj same, memcpyFour_memcpyFour, memcpyFour_memcpyFour]
  · rintro rfl
    rw [← memcpyFour_memcpyFour _ (identification.cpuid kIa32CpuVendorName).ebx,
      ← memcpyFour_memcpyFour _ (identification.cpuid kIa32CpuVendorName).edx]
    apply Reaches.step (P := driverInterface) (identification.stack 12) rfl
    apply Reaches.step (P := driverInterface) (identification.cpuid kIa32CpuVendorName) rfl
    exact .refl _ _

/-- The array does not compare equal where the registers spell the name. -/
theorem not_equal_of_spellsIntel {destination : BitVec 96} {info : CpuInfo}
    (spelled : SpellsIntel info) : memcpyFour destination info.ecx ≠ kVendorName := by
  intro equal
  obtain ⟨-, -, last⟩ := (spellsIntel_iff info).mp spelled
  obtain ⟨first, -⟩ := (memcpyFour_eq_kVendorName_iff _ _).mp equal
  rw [last] at first
  exact absurd first (by decide)

/-- An array of zeros does not compare equal, whatever is copied into it. -/
theorem not_equal_of_zero (source : BitVec 32) : memcpyFour 0 source ≠ kVendorName := by
  intro equal
  obtain ⟨-, rest⟩ := (memcpyFour_eq_kVendorName_iff _ _).mp equal
  exact absurd rest (by decide)

/-- The exact extent of the defect: the answer is right whatever the array held exactly when the
registers spell the name. -/
theorem decidesVendor_iff (cpuid : BitVec 32 → CpuInfo) :
    DecidesVendor cpuid ↔ SpellsIntel (cpuid kIa32CpuVendorName) := by
  constructor
  · intro decides
    -- after a zero array every processor is taken for Intel's
    have zero := decides (fun _ => 0) true
    rw [reaches_vendorIsIntel_iff] at zero
    exact (zero (decide_eq_true (not_equal_of_zero _)).symm).mp rfl
  · intro spelled stack answer reaches
    rw [reaches_vendorIsIntel_iff] at reaches
    rw [reaches]
    exact iff_of_true (decide_eq_true (not_equal_of_spellsIntel spelled)) spelled

end Vendor

/-- A processor whose registers spell `AuthenticAMD`. -/
def authenticAmd (_ : BitVec 32) : CpuInfo := ⟨0x10, 0x68747541, 0x444D4163, 0x69746E65⟩

/-- It is taken for Intel's. -/
theorem not_decidesVendor : ¬ ∀ cpuid, DecidesVendor cpuid := by
  intro decides
  have spelled := (decidesVendor_iff authenticAmd).mp (decides authenticAmd)
  obtain ⟨ebx, -⟩ := (spellsIntel_iff _).mp spelled
  exact absurd ebx (by decide)

/-- `CPUID.1:ECX.VMX[bit 5]`. -/
def ReportsVmx (info : CpuInfo) : Prop := info.ecx.getLsbD 5 = true

instance (info : CpuInfo) : Decidable (ReportsVmx info) := inferInstanceAs (Decidable (_ = _))

/-- The `CPUID` of `SupportsVtxOperation`. -/
def versionEvent (info : CpuInfo) : Event driverInterface :=
  ⟨Sum.inl (.cpuid kIa32CpuVersion), info⟩

section Vtx

variable (identification : Identification)

/-- `SupportsVtxOperation` answers whether VMX is reported. -/
def DetectsVmx : Prop :=
  ∀ answer, Reaches identification.environment supportsVtxOperation () (.done answer) () →
    (answer = true ↔ ReportsVmx (identification.cpuid kIa32CpuVersion))

/-- Once `DriverEntry` has read the version, it goes on when VMX is reported, and only then. -/
def PassesOnVmx : Prop :=
  ∀ depth events info rest, (∀ earlier, versionEvent earlier ∉ events) →
    Path identification.environment (driverEntry depth) () (events ++ [versionEvent info]) rest () →
      (rest = afterDetection depth ↔ ReportsVmx (identification.cpuid kIa32CpuVersion))

end Vtx

variable {identification : Identification}

/-- The one answer of `SupportsVtxOperation`. -/
theorem reaches_supportsVtxOperation_iff {answer : Bool} :
    Reaches identification.environment supportsVtxOperation () (.done answer) () ↔
      answer = (identification.cpuid kIa32CpuVersion).ecx.getLsbD 26 := by
  constructor
  · rintro ⟨events, path⟩
    obtain ⟨info, later, -, rfl, path⟩ := path_askCode_bind path
    obtain ⟨-, same, -⟩ := path.of_done
    exact Program.done.inj same
  · rintro rfl
    exact .step (P := driverInterface) _ rfl (.refl _ _)

/-- The version is not read in a cleanup. -/
theorem not_versionEvent_of_cleanup {status : NTSTATUS} {events : List (Event driverInterface)}
    {info : CpuInfo} {rest : DriverCode NTSTATUS} :
    ¬ Path identification.environment (driverCleanup status) () (events ++ [versionEvent info]) rest
      () := by
  intro path
  have undo := ((confined_driverCleanup status).along path).2 (versionEvent info)
    (List.mem_append_right _ (List.mem_singleton_self _))
  exact undo

/-- A check that does not read the version leaves it to be read. -/
theorem path_of_check {check : DriverCode Bool} {next : Bool → DriverCode NTSTATUS}
    {events : List (Event driverInterface)} {info : CpuInfo} {rest : DriverCode NTSTATUS}
    (other : check.Confined (· ≠ Sum.inl (.cpuid kIa32CpuVersion)) fun _ => True)
    (unread : ∀ earlier, versionEvent earlier ∉ events)
    (path : Path identification.environment (check >>= next) () (events ++ [versionEvent info])
      rest ()) :
    ∃ answer later, (∀ earlier, versionEvent earlier ∉ later) ∧
      Path identification.environment (next answer) () (later ++ [versionEvent info]) rest () := by
  induction check generalizing events with
  | done answer => exact ⟨answer, events, unread, path⟩
  | issue op resume ih =>
    obtain ⟨response, -, ⟨-, same, -⟩ | ⟨later, rfl, remaining⟩⟩ := path.of_issue_concat
    · exact absurd (congrArg Sigma.fst same).symm other.1
    · apply ih response (other.2 response) _ remaining
      intro earlier member
      exact unread earlier (List.mem_cons_of_mem _ member)

/-- Where `DriverEntry` stands once it has read the version. -/
theorem rest_of_versionEvent {depth : ℕ} {events : List (Event driverInterface)} {info : CpuInfo}
    {rest : DriverCode NTSTATUS} (unread : ∀ earlier, versionEvent earlier ∉ events)
    (path : Path identification.environment (driverEntry depth) () (events ++ [versionEvent info])
      rest ()) :
    rest = if (identification.cpuid kIa32CpuVersion).ecx.getLsbD 26 then afterDetection depth
      else driverCleanup statusNotSupported := by
  have flags : (isCPUIdSupported hasCpuidFlagMask).Confined
      (· ≠ Sum.inl (.cpuid kIa32CpuVersion)) fun _ => True := by
    iterate 2 refine confined_askCode_bind nofun fun _ => ?_
    refine confined_askDevice_bind nofun fun _ => confined_askCode_bind nofun fun _ => ?_
    exact confined_askDevice_bind nofun fun _ => trivial
  have vendor : vendorIsIntel.Confined (· ≠ Sum.inl (.cpuid kIa32CpuVersion)) fun _ => True := by
    refine confined_askDevice_bind nofun fun _ => ?_
    exact confined_askCode_bind (by decide) fun _ => trivial
  obtain ⟨_, events, unread, path⟩ := path_of_check flags unread path
  split at path
  · exact absurd path not_versionEvent_of_cleanup
  obtain ⟨_, events, unread, path⟩ := path_of_check vendor unread path
  split at path
  · exact absurd path not_versionEvent_of_cleanup
  obtain ⟨found, allowed, ⟨-, -, rfl⟩ | ⟨later, rfl, -⟩⟩ := path.of_issue_concat
  · obtain rfl : found = identification.cpuid kIa32CpuVersion := allowed
    change (if !(identification.cpuid kIa32CpuVersion).ecx.getLsbD 26 then _ else _) = _
    cases (identification.cpuid kIa32CpuVersion).ecx.getLsbD 26 <;> rfl
  · exact absurd List.mem_cons_self (unread found)

theorem afterDetection_ne_driverCleanup (depth : ℕ) :
    afterDetection depth ≠ driverCleanup statusNotSupported := by
  intro same
  have heads : some (Sum.inl (Op.allocatePool Device.sizeofDevice)) =
      some (Sum.inr DeviceOp.loadGuypervisor) := congrArg Program.head? same
  exact Sum.inl_ne_inr (Option.some.inj heads)

/-- The exact extent of the defect: the feature word is read rightly when bit 26, which is read, is
the same as bit 5. -/
theorem detectsVmx_iff (identification : Identification) :
    DetectsVmx identification ∧ PassesOnVmx identification ↔
      (identification.cpuid kIa32CpuVersion).ecx.getLsbD 26 =
        (identification.cpuid kIa32CpuVersion).ecx.getLsbD 5 := by
  have only : DetectsVmx identification ↔
      ((identification.cpuid kIa32CpuVersion).ecx.getLsbD 26 = true ↔
        (identification.cpuid kIa32CpuVersion).ecx.getLsbD 5 = true) := by
    simp only [DetectsVmx, ReportsVmx, reaches_supportsVtxOperation_iff, forall_eq]
  rw [only, ← Bool.eq_iff_iff]
  refine and_iff_left_of_imp fun same => ?_
  intro depth events info rest unread path
  rw [rest_of_versionEvent unread path, ReportsVmx, same]
  split
  · rename_i reported
    exact iff_of_true rfl reported
  · rename_i unreported
    exact iff_of_false (afterDetection_ne_driverCleanup depth).symm unreported

/-- A processor that reports VMX and nothing else. -/
def vmxOnly : Identification where
  cpuid _ := ⟨0, 0, 0x20, 0⟩
  stack _ := 0

/-- It is taken for one without VMX. -/
theorem not_detectsVmx :
    ¬ ∀ identification, DetectsVmx identification ∧ PassesOnVmx identification := by
  intro detects
  have same := (detectsVmx_iff vmxOnly).mp (detects vmxOnly)
  revert same
  decide

end Guypervisor.Soundness.ProcessorDetection
