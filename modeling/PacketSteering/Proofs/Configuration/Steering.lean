import PacketSteering.ColourTable
import PacketSteering.Proofs.ColourTable.Entries
import PacketSteering.Proofs.Configuration.Reachable
import PacketSteering.Proofs.TableLayout

/-!
# Steering by virtual slots

A card reports hits by physical slot and a configuration speaks of virtual ones.  When the slots
are in order the slot map renumbers hits exactly: the virtual slot `v` is hit when the physical
slot that carries it is (`testBit_toVirtual`).

What a configuration does with a key is put into words by `Configuration.FirstStream`: the packet
goes to the first stream whose expression holds.  So where it goes is decided by which streams
accept the key, and by nothing else (`steerVirtual_congr`).

The table built from a configuration gives, at every index, what the configuration steers to
(`get?_build`): its entries are wide enough to name every stream.
-/

namespace PacketSteering

/-! ## The slot map -/

namespace SlotMap

/-- A physical slot that no filter claims keeps what it carried. -/
lemma virtual?_foldl_of_forall_ne (filters : List Filter) (slots : SlotMap) {slot : ℕ}
    (h : ∀ filter ∈ filters, filter.physicalSlot ≠ slot) :
    (filters.foldl assign slots).virtual? slot = slots.virtual? slot := by
  induction filters generalizing slots with
  | nil => rfl
  | cons filter rest ih =>
    have hne : filter.physicalSlot ≠ slot := h filter List.mem_cons_self
    rw [List.foldl_cons, ih _ fun other hother => h other (List.mem_cons_of_mem _ hother)]
    exact Vector.getElem?_setIfInBounds_ne hne

/-- A physical slot carries the filter that claims it, if no other one does. -/
lemma virtual?_foldl_of_mem (filters : List Filter) (slots : SlotMap)
    (hdistinct : (filters.map Filter.physicalSlot).Nodup) {filter : Filter}
    (hmem : filter ∈ filters) (hslot : filter.physicalSlot < filterCount) :
    (filters.foldl assign slots).virtual? filter.physicalSlot = some filter.virtualSlot := by
  induction filters generalizing slots with
  | nil => cases hmem
  | cons first rest ih =>
    rw [List.map_cons, List.nodup_cons] at hdistinct
    obtain ⟨hfirst, hrest⟩ := hdistinct
    rw [List.foldl_cons]
    rcases List.mem_cons.mp hmem with rfl | hmem
    · rw [virtual?_foldl_of_forall_ne]
      · exact Vector.getElem?_setIfInBounds_self_of_lt hslot
      · intro other hother heq
        exact hfirst (List.mem_map.mpr ⟨other, hother, heq⟩)
    · exact ih _ hrest hmem

/-- A virtual slot is hit when a physical slot that carries it is. -/
lemma testBit_toVirtual_iff (slots : SlotMap) (hits : UInt8) (v : Fin filterCount) :
    (slots.toVirtual hits).toNat.testBit v = true ↔
      ∃ (slot : ℕ) (hslot : slot < filterCount),
        slots.virt[slot] = v.val ∧ hits.toNat.testBit slot = true := by
  have hbyte : v.val < 8 := v.isLt
  rw [toVirtual, BitField.testBit_byte, decide_eq_true hbyte, Bool.true_and,
    Nat.any_eq_finRange_any, List.any_eq_true]
  constructor
  · rintro ⟨slot, -, hslot⟩
    rw [Bool.and_eq_true, beq_iff_eq] at hslot
    exact ⟨slot, slot.isLt, hslot.2, hslot.1⟩
  · rintro ⟨slot, hslot, hvirt, hhit⟩
    refine ⟨⟨slot, hslot⟩, List.mem_finRange _, ?_⟩
    rw [Bool.and_eq_true, beq_iff_eq]
    exact ⟨hhit, hvirt⟩

end SlotMap

namespace Configuration

lemma Slotted.nodup_physical {config : Configuration} (h : config.Slotted) :
    (config.filters.toList.map Filter.physicalSlot).Nodup := by
  rw [List.nodup_iff_getElem?_ne_getElem?]
  intro i j hij hj
  simp only [List.length_map, Vector.length_toList] at hj
  have hi : i < filterCount := by omega
  simp only [List.getElem?_map, Vector.getElem?_toList, Vector.getElem?_eq_getElem hi,
    Vector.getElem?_eq_getElem hj, Option.map_some]
  intro heq
  have hsame : (⟨i, hi⟩ : Fin filterCount) = ⟨j, hj⟩ :=
    h.physical_injective (Option.some.inj heq)
  exact Nat.ne_of_lt hij (congrArg Fin.val hsame)

/-- A physical slot carries, by the slot map, the virtual slot that it was given to. -/
lemma Slotted.virtual?_physical {config : Configuration} (h : config.Slotted)
    (v : Fin filterCount) : config.slotMap.virtual? (config.physical v) = some v.val := by
  have hmem : config.filters.get v ∈ config.filters.toList := mem_filters.mpr ⟨v, rfl⟩
  rw [← h.virtual_eq v]
  exact SlotMap.virtual?_foldl_of_mem _ _ h.nodup_physical hmem (h.physical_lt v)

/-- A physical slot is noted with the filter that it carries. -/
lemma Slotted.getElem_virt {config : Configuration} (h : config.Slotted) {v : Fin filterCount}
    {slot : ℕ} (hslot : slot < filterCount) (hv : config.physical v = slot) :
    config.slotMap.virt[slot] = v.val := by
  have hmap := h.virtual?_physical v
  rwa [hv, SlotMap.virtual?, Vector.getElem?_eq_getElem hslot, Option.some.injEq] at hmap

/-- Hits of physical slots, renumbered: a virtual slot is hit when the physical slot that carries
it is. -/
lemma Slotted.testBit_toVirtual {config : Configuration} (h : config.Slotted) (hits : UInt8)
    (v : Fin filterCount) :
    (config.slotMap.toVirtual hits).toNat.testBit v = hits.toNat.testBit (config.physical v) := by
  rw [Bool.eq_iff_iff, SlotMap.testBit_toVirtual_iff]
  constructor
  · rintro ⟨slot, hslot, hvirt, hhit⟩
    obtain ⟨w, hw⟩ := h.exists_physical hslot
    have hvw : w = v := Fin.ext ((h.getElem_virt hslot hw).symm.trans hvirt)
    rwa [← hvw, hw]
  · intro hhit
    exact ⟨config.physical v, h.physical_lt v, h.getElem_virt (h.physical_lt v) rfl, hhit⟩

/-! ## The first stream -/

/-- A stream is the first whose expression holds for a key. -/
structure FirstStream (config : Configuration) (key : TableKey) (i : ℕ) : Prop where
  lt_size : i < config.streams.size
  holds : config.streams[i].holdsVirtual config.partials key
  earlier : ∀ j (hj : j < i), ¬ config.streams[j].holdsVirtual config.partials key

lemma steerVirtual_eq_some_iff {config : Configuration} {key : TableKey} {i : ℕ} :
    config.steerVirtual key = some i ↔ config.FirstStream key i := by
  rw [steerVirtual, Array.findIdx?_eq_some_iff_getElem]
  constructor
  · rintro ⟨hlt, hholds, hearlier⟩
    exact ⟨hlt, hholds, hearlier⟩
  · rintro ⟨hlt, hholds, hearlier⟩
    exact ⟨hlt, hholds, hearlier⟩

lemma steerVirtual_lt {config : Configuration} {key : TableKey} {i : ℕ}
    (h : config.steerVirtual key = some i) : i < config.streams.size :=
  (steerVirtual_eq_some_iff.mp h).lt_size

/-- A stream accepts a key, numbered by virtual slot, if its expression holds. -/
def Accepts (config : Configuration) (key : TableKey) (i : ℕ) : Prop :=
  ∃ expression, config.streams[i]? = some expression ∧
    expression.holdsVirtual config.partials key = true

lemma accepts_iff {config : Configuration} {key : TableKey} {i : ℕ}
    (hi : i < config.streams.size) :
    config.Accepts key i ↔ config.streams[i].holdsVirtual config.partials key = true := by
  simp [Accepts, Array.getElem?_eq_getElem hi]

/-- A packet goes to the first stream that accepts its key. -/
lemma steerVirtual_eq_some_iff_accepts {config : Configuration} {key : TableKey} {i : ℕ} :
    config.steerVirtual key = some i ↔
      config.Accepts key i ∧ ∀ j < i, ¬ config.Accepts key j := by
  rw [steerVirtual_eq_some_iff]
  constructor
  · rintro ⟨hlt, hholds, hearlier⟩
    refine ⟨(accepts_iff hlt).mpr hholds, fun j hj haccepts => ?_⟩
    exact hearlier j hj ((accepts_iff (Nat.lt_trans hj hlt)).mp haccepts)
  · rintro ⟨haccepts, hearlier⟩
    obtain ⟨expression, hexpression, -⟩ := id haccepts
    obtain ⟨hlt, -⟩ := Array.getElem?_eq_some_iff.mp hexpression
    refine ⟨hlt, (accepts_iff hlt).mp haccepts, fun j hj hholds => ?_⟩
    exact hearlier j hj ((accepts_iff (Nat.lt_trans hj hlt)).mpr hholds)

/-- Keys that the same streams accept are steered alike, by one configuration or by two. -/
lemma steerVirtual_congr {config config' : Configuration} {key key' : TableKey}
    (h : ∀ i, config.Accepts key i ↔ config'.Accepts key' i) :
    config.steerVirtual key = config'.steerVirtual key' := by
  apply Option.ext
  intro i
  simp only [steerVirtual_eq_some_iff_accepts, h]

/-- The colour of a packet names the first stream that wants it. -/
lemma Slotted.ofStream?_eq_stream_iff {config : Configuration} (h : config.Slotted)
    {key : TableKey} {stream : UInt8} :
    Colour.ofStream? (config.steerVirtual key) = .stream stream ↔
      config.FirstStream key stream.toNat := by
  have hle := h.streams_le
  have hlimit : streamLimit = 64 := rfl
  rw [← steerVirtual_eq_some_iff]
  cases hsteer : config.steerVirtual key with
  | none => simp [Colour.ofStream?]
  | some i =>
    have hlt := steerVirtual_lt hsteer
    rw [Colour.ofStream?, Colour.stream.injEq, Option.some.injEq]
    constructor
    · rintro rfl
      rw [UInt8.toNat_ofNat_of_lt']
      have : UInt8.size = 256 := rfl
      omega
    · rintro rfl
      exact UInt8.ofNat_toNat

lemma ofStream?_eq_drop_iff {config : Configuration} {key : TableKey} :
    Colour.ofStream? (config.steerVirtual key) = .drop ↔
      ∀ expression ∈ config.streams, ¬ expression.holdsVirtual config.partials key := by
  cases hsteer : config.steerVirtual key with
  | none =>
    rw [steerVirtual, Array.findIdx?_eq_none_iff] at hsteer
    simpa [Colour.ofStream?] using hsteer
  | some i =>
    obtain ⟨hlt, hholds, -⟩ := steerVirtual_eq_some_iff.mp hsteer
    simp only [Colour.ofStream?, reduceCtorEq, false_iff]
    intro hnone
    exact hnone _ (Array.getElem_mem hlt) hholds

end Configuration

/-! ## Built tables -/

namespace ColourTable

/-- A table that is allocated is zero, and has a possible width. -/
lemma eq_zero_of_alloc {memory : Memory} {entries bits : ℕ} {table : ColourTable}
    (h : alloc memory entries bits = .ok table) :
    ∃ (hpos : 0 < bits) (hle : bits ≤ rowBits), table = zero entries bits hpos hle := by
  simp only [alloc] at h
  split at h
  case isFalse => cases h
  case isTrue hbits =>
    split at h
    case isTrue =>
      cases h
      exact ⟨hbits.1, hbits.2, rfl⟩
    case isFalse => split at h <;> cases h

lemma alloc_shape {memory : Memory} {entries bits : ℕ} {table : ColourTable}
    (h : alloc memory entries bits = .ok table) : table.entries = entries ∧ table.bits = bits := by
  obtain ⟨-, -, rfl⟩ := eq_zero_of_alloc h
  exact ⟨rfl, rfl⟩

lemma forConfiguration_shape {memory : Memory} {config : Configuration} {table : ColourTable}
    (h : forConfiguration memory config = .ok table) :
    table.entries = config.layout.entries ∧ table.bits = config.entryBits :=
  alloc_shape h

/-- A table of a possible width is made if the memory for its rows is granted. -/
lemma alloc_eq_ok {memory : Memory} {entries bits : ℕ} (hpos : 0 < bits) (hle : bits ≤ rowBits)
    (hgrants : memory.grants (2 * rowCount entries bits) = true) :
    alloc memory entries bits = .ok (zero entries bits hpos hle) := by
  rw [alloc, dif_pos ⟨hpos, hle⟩]
  exact if_pos hgrants

/-- A table of a possible width is refused only for want of memory. -/
lemma alloc_eq_error_iff {memory : Memory} {entries bits : ℕ} {failure : Failure}
    (hpos : 0 < bits) (hle : bits ≤ rowBits) (hbytes : 2 * rowCount entries bits < UInt64.size) :
    alloc memory entries bits = .error failure ↔
      memory.grants (2 * rowCount entries bits) = false ∧
        failure = .fault (.noMemory (2 * rowCount entries bits)) := by
  rw [alloc, dif_pos ⟨hpos, hle⟩]
  cases hgrants : memory.grants (2 * rowCount entries bits) with
  | true => simp only [hgrants, if_true, reduceCtorEq, false_and]
  | false =>
    simp only [hgrants, Bool.false_eq_true, if_false, hbytes, if_true, Except.error.injEq,
      true_and, eq_comm]

lemma exists_forConfiguration {config : Configuration} (h : config.Slotted) {memory : Memory}
    (hgrants : memory.grants (2 * rowCount config.layout.entries config.entryBits) = true) :
    ∃ table, forConfiguration memory config = .ok table := by
  have hpos : 0 < config.entryBits :=
    Nat.zero_lt_of_lt (config.layout.streamBits_lt_entryBits config.streams.size)
  have hle : config.entryBits ≤ rowBits :=
    Nat.le_trans (config.layout.entryBits_le h.streams_le) (by decide)
  exact ⟨_, alloc_eq_ok hpos hle hgrants⟩

lemma exists_forConfiguration_firstFilter :
    ∃ table, forConfiguration .addressSpace .firstFilter = .ok table :=
  ⟨_, alloc_eq_ok (by decide) (by decide) (by decide)⟩

lemma build_eq_ok_iff {memory : Memory} {config : Configuration} {built : ColourTable} :
    build memory config = .ok built ↔
      ∃ table, forConfiguration memory config = .ok table ∧ table.fill config = built := by
  unfold build
  cases forConfiguration memory config with
  | error failure => simp [bind, Except.bind]
  | ok table => simp [bind, Except.bind, pure, Except.pure]

/-- An entry of the right width can name whatever the configuration steers to. -/
lemma fits_colourAt {config : Configuration} (h : config.Slotted) {table : ColourTable}
    (hbits : table.bits = config.entryBits) (slots : SlotMap) (index : ℕ) :
    table.Fits (config.colourAt slots index) := by
  have hle := h.streams_le
  have hlimit : streamLimit = 64 := rfl
  unfold Configuration.colourAt Configuration.steer
  cases hsteer :
      config.steerVirtual (slots.renumber (config.layout.decode index)) with
  | none => trivial
  | some i =>
    have hlt := Configuration.steerVirtual_lt hsteer
    have hmarker := config.layout.streams_le_marker config.streams.size
    have hsmall : (UInt8.ofNat i).toNat = i := by
      rw [UInt8.toNat_ofNat_of_lt']
      have : UInt8.size = 256 := rfl
      omega
    change (UInt8.ofNat i).toNat < table.dropMarker
    rw [hsmall, table.dropMarker_eq, hbits]
    exact Nat.lt_of_lt_of_le hlt hmarker

/-- A table of the right shape, once filled, gives what the configuration steers to. -/
lemma get?_fill {config : Configuration} (h : config.Slotted) {table : ColourTable}
    (hentries : table.entries = config.layout.entries) (hbits : table.bits = config.entryBits)
    {index : ℕ} (hindex : index < config.layout.entries) :
    (table.fill config).get? index = some (config.colourAt config.slotMap index) :=
  table.get?_setAll (fits_colourAt h hbits config.slotMap) (by omega)

/-- **The built table is the steering function.** -/
theorem get?_build {config : Configuration} (h : config.Slotted) {memory : Memory}
    {built : ColourTable} (hbuilt : build memory config = .ok built) {index : ℕ}
    (hindex : index < config.layout.entries) :
    built.get? index = some (config.colourAt config.slotMap index) := by
  obtain ⟨table, htable, rfl⟩ := build_eq_ok_iff.mp hbuilt
  obtain ⟨hentries, hbits⟩ := forConfiguration_shape htable
  exact get?_fill h hentries hbits hindex

lemma fill_fill (table : ColourTable) (first second : Configuration) :
    (table.fill first).fill second = table.fill second :=
  table.setAll_setAll _ _

end ColourTable

end PacketSteering
