import PacketSteering.Proofs.Configuration.Steering

/-!
# How a built table is packed

A table is read by the card row by row, so what counts is every bit of its rows.  Two things are
kept by every store: each entry holds what was stored there last (`rawAt?_set`), and no bit is set
outside the fields of the entries (`Clean.set`).

A table that was allocated and filled any number of times (`Filled`) is therefore, once it is
filled from a configuration, the table of that configuration bit for bit (`fill_packs_steering`):
each entry holds the stream that the configuration steers to, or the drop marker, and the padding
of the rows is zero.
-/

namespace PacketSteering

namespace ColourTable

/-! ## Raw entries -/

lemma rawAt?_setFirst (table : ColourTable) (colour : ℕ → Colour) {n : ℕ}
    (hn : n ≤ table.entries) {i : ℕ} (hi : i < n) :
    (table.setFirst colour n).rawAt? i = some (table.rawOf (colour i)) := by
  induction n with
  | zero => omega
  | succ n ih =>
    obtain ⟨hbits, hentries⟩ := table.sameShape_setFirst colour n
    have hraw : (table.setFirst colour n).rawOf = table.rawOf := by
      funext other
      cases other <;> rw [rawOf, rawOf, dropMarker, dropMarker, hbits]
    rw [setFirst, rawAt?_set _ (by omega), hraw]
    by_cases hlast : n = i
    · rw [if_pos hlast, hlast]
    · rw [if_neg hlast]
      exact ih (by omega) (by omega)

lemma rawAt?_setAll (table : ColourTable) (colour : ℕ → Colour) {i : ℕ} (hi : i < table.entries) :
    (table.setAll colour).rawAt? i = some (table.rawOf (colour i)) := by
  rw [setAll_eq_setFirst]
  exact table.rawAt?_setFirst colour (Nat.le_refl _) hi

/-! ## Padding -/

/-- A bit of a row belongs to the field of an entry. -/
def InEntry (table : ColourTable) (row bit : ℕ) : Prop :=
  ∃ index < table.entries, index / table.perRow = row ∧
    (table.field index).low ≤ bit ∧ bit < (table.field index).low + (table.field index).width

/-- No bit is set outside the fields of the entries. -/
def Clean (table : ColourTable) : Prop :=
  ∀ (row : ℕ) (data : UInt16), table.rows[row]? = some data →
    ∀ bit, data.toNat.testBit bit = true → table.InEntry row bit

lemma clean_zero {entries bits : ℕ} (hpos : 0 < bits) (hle : bits ≤ rowBits) :
    (zero entries bits hpos hle).Clean := by
  intro row data hrow bit hbit
  have hzero : data = 0 := by
    simp only [zero, Array.getElem?_replicate] at hrow
    split at hrow
    case isTrue => exact (Option.some.inj hrow).symm
    case isFalse => cases hrow
  rw [hzero, UInt16.toNat_zero, Nat.zero_testBit] at hbit
  cases hbit

/-- A store sets no bit outside the field of its entry. -/
lemma Clean.set {table : ColourTable} (h : table.Clean) {index : ℕ}
    (hindex : index < table.entries) (colour : Colour) : (table.set index colour).Clean := by
  intro row data hrow bit hbit
  change table.InEntry row bit
  rw [getElem?_rows_set] at hrow
  split at hrow
  case isFalse => exact h row data hrow bit hbit
  case isTrue hsame =>
    obtain ⟨old, hold, rfl⟩ := Option.map_eq_some_iff.mp hrow
    rw [toNat_stored, BitField.testBit_set] at hbit
    split at hbit
    case isTrue hfield => exact ⟨index, hindex, hsame, hfield⟩
    case isFalse => exact h row old hold bit hbit

lemma Clean.setFirst {table : ColourTable} (h : table.Clean) (colour : ℕ → Colour) {n : ℕ}
    (hn : n ≤ table.entries) : (table.setFirst colour n).Clean := by
  induction n with
  | zero => exact h
  | succ n ih =>
    have hentries := (table.sameShape_setFirst colour n).2
    exact (ih (by omega)).set (by omega) (colour n)

lemma Clean.setAll {table : ColourTable} (h : table.Clean) (colour : ℕ → Colour) :
    (table.setAll colour).Clean := by
  rw [setAll_eq_setFirst]
  exact h.setFirst colour (Nat.le_refl _)

/-! ## Tables that were filled before -/

/-- A table that was allocated with a shape, and then filled any number of times. -/
inductive Filled (entries bits : ℕ) : ColourTable → Prop
  | alloc {memory : Memory} {table : ColourTable} (h : alloc memory entries bits = .ok table) :
      Filled entries bits table
  | fill {table : ColourTable} (h : Filled entries bits table) (config : Configuration) :
      Filled entries bits (table.fill config)

variable {entries bits : ℕ} {table : ColourTable}

lemma Filled.shape (h : Filled entries bits table) :
    table.entries = entries ∧ table.bits = bits := by
  induction h with
  | alloc h => exact alloc_shape h
  | @fill table _ config ih =>
    obtain ⟨hbits, hentries⟩ := table.sameShape_setAll (config.colourAt config.slotMap)
    exact ⟨hentries.trans ih.1, hbits.trans ih.2⟩

/-- Filling and filling again sets no bit of the padding. -/
lemma Filled.clean (h : Filled entries bits table) : table.Clean := by
  induction h with
  | alloc h =>
    obtain ⟨hpos, hle, rfl⟩ := eq_zero_of_alloc h
    exact clean_zero hpos hle
  | fill _ config ih => exact ih.setAll _

/-- A filled table forgets what it held before: it could as well have been zero. -/
lemma Filled.fill_eq (h : Filled entries bits table) (config : Configuration) :
    ∃ (hpos : 0 < bits) (hle : bits ≤ rowBits),
      table.fill config = (zero entries bits hpos hle).fill config := by
  induction h with
  | alloc h =>
    obtain ⟨hpos, hle, rfl⟩ := eq_zero_of_alloc h
    exact ⟨hpos, hle, rfl⟩
  | fill _ other ih =>
    rw [fill_fill]
    exact ih

/-- A table that was filled before, filled from a configuration of its shape, is the one that
would be built for the configuration. -/
lemma Filled.build_eq {config : Configuration}
    (h : Filled config.layout.entries config.entryBits table) {memory : Memory}
    (hgrants : memory.grants (2 * rowCount config.layout.entries config.entryBits) = true) :
    build memory config = .ok (table.fill config) := by
  obtain ⟨hpos, hle, heq⟩ := h.fill_eq config
  exact build_eq_ok_iff.mpr ⟨_, alloc_eq_ok hpos hle hgrants, heq.symm⟩

end ColourTable

/-! ## The table of a configuration -/

namespace Configuration

/-- The raw entry that says where a configuration steers an index: the number of a stream, or the
high bit alone for a drop. -/
def rawAnswer (config : Configuration) (index : ℕ) : ℕ :=
  match config.steer config.slotMap (config.layout.decode index) with
  | some stream => stream
  | none => 1 <<< (config.entryBits - 1)

/-- No stream has a number that reaches the drop marker. -/
lemma Slotted.steer_lt {config : Configuration} (h : config.Slotted) {slots : SlotMap}
    {key : TableKey} {stream : ℕ} (hsteer : config.steer slots key = some stream) :
    stream < 2 ^ (config.entryBits - 1) ∧ stream < 64 := by
  have hlt := steerVirtual_lt hsteer
  have hmarker := config.layout.streams_le_marker config.streams.size
  exact ⟨Nat.lt_of_lt_of_le hlt hmarker, Nat.lt_of_lt_of_le hlt h.streams_le⟩

lemma Slotted.rawOf_colourAt {config : Configuration} (h : config.Slotted) {table : ColourTable}
    (hbits : table.bits = config.entryBits) (index : ℕ) :
    table.rawOf (config.colourAt config.slotMap index) = config.rawAnswer index := by
  rw [colourAt, rawAnswer]
  cases hsteer : config.steer config.slotMap (config.layout.decode index) with
  | none =>
    change table.dropMarker = 1 <<< (config.entryBits - 1)
    rw [ColourTable.dropMarker, hbits]
  | some stream =>
    obtain ⟨hmarker, hlimit⟩ := h.steer_lt hsteer
    have hsmall : (UInt8.ofNat stream).toNat = stream := by
      rw [UInt8.toNat_ofNat_of_lt']
      exact Nat.lt_trans hlimit (by decide)
    change (UInt8.ofNat stream).toNat % table.dropMarker = stream
    rw [hsmall, table.dropMarker_eq, hbits, Nat.mod_eq_of_lt hmarker]

end Configuration

namespace ColourTable

/-- A table holds what a configuration steers to, bit for bit. -/
structure PacksSteering (config : Configuration) (table : ColourTable) : Prop where
  /-- From the low end of a row on, entry after entry holds its answer. -/
  entry : ∀ index < config.layout.entries, ∃ row,
    table.rows[index / (16 / config.entryBits)]? = some row ∧
      row.toNat >>> (index % (16 / config.entryBits) * config.entryBits) % 2 ^ config.entryBits =
        config.rawAnswer index
  /-- Every bit that is set belongs to an entry. -/
  padding : ∀ (row : ℕ) (data : UInt16), table.rows[row]? = some data →
    ∀ bit, data.toNat.testBit bit = true →
      ∃ index < config.layout.entries, index / (16 / config.entryBits) = row ∧
        index % (16 / config.entryBits) * config.entryBits ≤ bit ∧
        bit < index % (16 / config.entryBits) * config.entryBits + config.entryBits
  /-- The table reads back as the answers. -/
  get : ∀ index < config.layout.entries,
    table.get? index =
      some (.ofStream? (config.steer config.slotMap (config.layout.decode index)))

/-- **The built table is the steering function, packed exactly.** For every reachable
configuration and every table of its shape that was filled any number of times before, filling it
from the configuration leaves in every entry the number of the stream steered to, or the drop
marker, and every other bit zero; the number of a stream never reaches the marker; and the table
is the one that would be built for the configuration. -/
theorem fill_packs_steering {config : Configuration} (h : config.Reachable) {table : ColourTable}
    (hfilled : Filled config.layout.entries config.entryBits table) :
    (table.fill config).PacksSteering config ∧
      (∀ index stream, config.steer config.slotMap (config.layout.decode index) = some stream →
        stream < 2 ^ (config.entryBits - 1)) ∧
      ∀ memory : Memory,
        memory.grants (2 * rowCount config.layout.entries config.entryBits) = true →
          build memory config = .ok (table.fill config) := by
  have hslotted := h.slotted
  obtain ⟨hentries, hbits⟩ := hfilled.shape
  obtain ⟨hentries', hbits'⟩ := (hfilled.fill config).shape
  have hper : (table.fill config).perRow = 16 / config.entryBits := by
    rw [perRow, hbits']
    rfl
  refine ⟨⟨fun index hindex => ?_, fun row data hrow bit hbit => ?_, fun index hindex => ?_⟩,
    fun index stream hsteer => (hslotted.steer_lt hsteer).1, fun memory => hfilled.build_eq⟩
  · have hraw : (table.fill config).rawAt? index = some (config.rawAnswer index) := by
      rw [← hslotted.rawOf_colourAt hbits index]
      exact table.rawAt?_setAll _ (by omega)
    obtain ⟨row, hrow, hget⟩ := Option.map_eq_some_iff.mp hraw
    refine ⟨row, by rwa [hper] at hrow, ?_⟩
    rw [← hget, BitField.get, field, hper, hbits', Nat.one_shiftLeft]
  · obtain ⟨index, hindex, hsame, hlow, hhigh⟩ :=
      (hfilled.fill config).clean row data hrow bit hbit
    rw [field, hper, hbits'] at hlow hhigh
    rw [hper] at hsame
    exact ⟨index, by omega, hsame, hlow, hhigh⟩
  · exact get?_fill hslotted hentries hbits hindex

/-- A table for the configuration to try things on, filled from it twice: its first two entries
are a drop, for no filter hit, and the only stream, for the first filter hit. -/
theorem fill_packs_steering_firstFilter :
    ∃ table, Filled 4096 2 table ∧
      (∃ row, (table.fill .firstFilter).rows[0]? = some row ∧
        row.toNat % 4 = 2 ∧ row.toNat / 4 % 4 = 0) ∧
      build .addressSpace .firstFilter = .ok (table.fill .firstFilter) := by
  obtain ⟨fresh, hfresh⟩ := exists_forConfiguration_firstFilter
  have hfilled : Filled 4096 2 (fresh.fill .firstFilter) :=
    (Filled.alloc hfresh).fill _
  obtain ⟨hpacks, -, hbuild⟩ :=
    fill_packs_steering Configuration.reachable_firstFilter hfilled
  have hbits : Configuration.firstFilter.entryBits = 2 := by decide
  have hnoHit : Configuration.firstFilter.rawAnswer 0 = 2 := by decide +kernel
  have hhit : Configuration.firstFilter.rawAnswer 1 = 0 := by decide +kernel
  obtain ⟨row, hrow, hdrop⟩ := hpacks.entry 0 (by decide)
  obtain ⟨row', hrow', hstream⟩ := hpacks.entry 1 (by decide)
  obtain rfl : row = row' := Option.some.inj (hrow.symm.trans hrow')
  rw [hbits, hnoHit] at hdrop
  rw [hbits, hhit] at hstream
  refine ⟨_, hfilled, ⟨row, hrow, hdrop, ?_⟩, hbuild .addressSpace (by decide)⟩
  rw [← Nat.shiftRight_eq_div_pow row.toNat 2]
  exact hstream

end ColourTable

end PacketSteering
