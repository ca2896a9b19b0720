import PacketSteering.Proofs.ColourTable.Packing
import PacketSteering.Proofs.ColourTable.Words

/-!
# Tables as arrays

A table is used entry by entry: destinations are stored, one at a time or a drop everywhere, and
read back.  It behaves as an array of destinations (`Holds`): an entry shows what was stored there
last, narrowed to the width of the entry, and a store changes its own entry and nothing else,
neither its neighbours in the row nor the padding.  Entries that there is room for in the last row,
but that the table does not have, are not read.

One lemma says what a store does to an entry (`get?_store`), and by induction any number of stores
leaves the last destination of each (`stores_hold`).
-/

namespace PacketSteering.ColourTable

/-! ## Stores -/

/-- The stores into a table. -/
inductive Store
  | set (index : ℕ) (colour : Colour)
  | fillDrop

/-- The destination that a store puts into an entry, if it stores there. -/
def Store.puts? (index : ℕ) : Store → Option Colour
  | set other colour => if other = index then some colour else none
  | fillDrop => some .drop

/-- A store into entries of the table. -/
def Store.Within (entries : ℕ) : Store → Prop
  | set index _ => index < entries
  | fillDrop => True

/-- Makes a store. -/
def store (table : ColourTable) : Store → ColourTable
  | .set index colour => table.set index colour
  | .fillDrop => table.fillDrop

/-- The destination that was stored last in an entry, or the first stream if none was. -/
def lastStored (stores : List Store) (index : ℕ) : Colour :=
  (stores.filterMap (Store.puts? index)).getLastD (.stream 0)

lemma lastStored_concat (stores : List Store) (last : Store) (index : ℕ) :
    lastStored (stores ++ [last]) index = (last.puts? index).getD (lastStored stores index) := by
  rw [lastStored, lastStored, List.filterMap_append]
  cases hlast : last.puts? index with
  | none => simp [hlast]
  | some colour => simp [hlast]

variable {table : ColourTable}

lemma sameShape_store (table : ColourTable) (store : Store) :
    (table.store store).SameShape table := by
  cases store with
  | set index colour => exact table.sameShape_set index colour
  | fillDrop => exact table.sameShape_setAll _

lemma sameShape_foldl_store (table : ColourTable) (stores : List Store) :
    (stores.foldl store table).SameShape table := by
  induction stores generalizing table with
  | nil => exact SameShape.refl table
  | cons first rest ih => exact (ih _).trans (table.sameShape_store first)

/-! ## What entries show -/

/-- A store puts its destination into the entries that it is about. -/
lemma get?_store (table : ColourTable) {store : Store} (hstore : store.Within table.entries)
    {index : ℕ} (hindex : index < table.entries) :
    (table.store store).get? index =
      ((store.puts? index).map (Colour.narrowed table.bits)).or (table.get? index) := by
  cases store with
  | set other colour =>
    rw [ColourTable.store, get?_set table hstore, Store.puts?]
    split <;> rfl
  | fillDrop =>
    have hdrop : ∀ _ : ℕ, table.Fits .drop := fun _ => trivial
    exact table.get?_setAll hdrop hindex

/-- A fresh table sends everything to the first stream. -/
lemma get?_zero {entries bits : ℕ} (hpos : 0 < bits) (hle : bits ≤ rowBits) {index : ℕ}
    (hindex : index < entries) : (zero entries bits hpos hle).get? index = some (.stream 0) := by
  have hrow : index / entriesPerRow bits < rowCount entries bits :=
    div_entriesPerRow_lt_rowCount hpos hle hindex
  have hraw : (zero entries bits hpos hle).rawAt? index = some 0 := by
    rw [rawAt?]
    simp [zero, perRow, hrow, BitField.get_eq]
  have hmarker : ¬ (zero entries bits hpos hle).dropMarker ≤ 0 := by
    rw [dropMarker_eq]
    exact Nat.not_le.mpr (Nat.two_pow_pos _)
  have hentries : index < (zero entries bits hpos hle).entries := hindex
  rw [get?_eq, if_pos hentries, hraw, Option.map_some, colourOf, if_neg hmarker]
  rfl

/-- After any number of stores into a fresh table, an entry shows what was stored there last. -/
lemma get?_foldl_store {stores : List Store} {index : ℕ} (hindex : index < table.entries)
    (hfresh : table.get? index = some (.stream 0))
    (hstores : ∀ store ∈ stores, store.Within table.entries) :
    (stores.foldl store table).get? index =
      some ((lastStored stores index).narrowed table.bits) := by
  induction stores using List.reverseRecOn with
  | nil => simp [hfresh, lastStored, Colour.narrowed]
  | append_singleton stores last ih =>
    obtain ⟨hstores, hlast⟩ := List.forall_mem_append.mp hstores
    obtain ⟨hbits, hentries⟩ := table.sameShape_foldl_store stores
    have hlast : last.Within (stores.foldl store table).entries :=
      hentries ▸ hlast last List.mem_cons_self
    rw [List.foldl_append, List.foldl_cons, List.foldl_nil,
      get?_store _ hlast (hentries ▸ hindex), ih hstores, hbits, lastStored_concat]
    cases last.puts? index <;> rfl

/-! ## What a store leaves alone -/

/-- A bit of a row, if the table has the row. -/
def bitAt? (table : ColourTable) (row bit : ℕ) : Option Bool :=
  table.rows[row]?.map fun data => data.toNat.testBit bit

lemma bitAt?_set (table : ColourTable) {index row bit : ℕ} (colour : Colour)
    (houtside : ¬ (index / table.perRow = row ∧ (table.field index).low ≤ bit ∧
      bit < (table.field index).low + (table.field index).width)) :
    (table.set index colour).bitAt? row bit = table.bitAt? row bit := by
  rw [bitAt?, bitAt?, getElem?_rows_set]
  split
  case isFalse => rfl
  case isTrue hrow =>
    have hbit := fun hfield => houtside ⟨hrow, hfield⟩
    simp only [Option.map_map, Function.comp_def, toNat_stored, BitField.testBit_set, if_neg hbit]

/-- A table that behaves as an array of destinations. -/
structure Holds (entries bits : ℕ) (cells : ℕ → Colour) (table : ColourTable) : Prop where
  /-- Every entry stands in a row, within its sixteen bits. -/
  within : ∀ index < entries,
    index / (16 / bits) < table.rows.size ∧ index % (16 / bits) * bits + bits ≤ 16
  /-- Every entry shows its cell. -/
  get : ∀ index < entries, table.get? index = some ((cells index).narrowed bits)
  /-- Nothing else is read, whether or not there is room for it in the last row. -/
  get_eq_none_iff : ∀ index, table.get? index = none ↔ entries ≤ index
  /-- A store changes no other entry. -/
  set_other : ∀ index < entries, ∀ colour other, other ≠ index →
    (table.set index colour).get? other = table.get? other
  /-- A store changes no bit of a row outside its own entry. -/
  set_bit : ∀ index < entries, ∀ colour row bit,
    ¬ (index / (16 / bits) = row ∧ index % (16 / bits) * bits ≤ bit ∧
        bit < index % (16 / bits) * bits + bits) →
      (table.set index colour).bitAt? row bit = table.bitAt? row bit
  /-- Entries are read and stored by shifts and masks of the words that the rows are. -/
  words : ∀ index < entries, ∃ row, table.rows[index / (16 / bits)]? = some row ∧
    table.get? index = some (table.colourOfEntry (table.readEntry index row)) ∧
      ∀ colour, (table.set index colour).rows[index / (16 / bits)]? =
        some (table.storeEntry index colour row)

/-- **A packed table behaves as an array.** For every number of entries and every width for which a
table is allocated, and every sequence of stores into its entries: each entry stands within one row;
it shows the destination that was stored there last, a stream by the bits of its number below the
drop marker, or the first stream if nothing was stored there; a store changes no other entry and no
padding; and exactly the entries of the table can be read. -/
theorem stores_hold {memory : Memory} {entries bits : ℕ}
    (halloc : alloc memory entries bits = .ok table) {stores : List Store}
    (hstores : ∀ store ∈ stores, store.Within entries) :
    (stores.foldl store table).Holds entries bits (lastStored stores) := by
  obtain ⟨hpos, hle, rfl⟩ := eq_zero_of_alloc halloc
  obtain ⟨hbits, hentries⟩ := (zero entries bits hpos hle).sameShape_foldl_store stores
  have hget : ∀ index < entries, (stores.foldl store (zero entries bits hpos hle)).get? index =
      some ((lastStored stores index).narrowed bits) := fun index hindex =>
    get?_foldl_store hindex (get?_zero hpos hle hindex) hstores
  generalize stores.foldl store (zero entries bits hpos hle) = now at hbits hentries hget
  change now.bits = bits at hbits
  change now.entries = entries at hentries
  subst hbits hentries
  refine ⟨fun index hindex => ⟨now.row_lt hindex, now.field_within_row index⟩, hget,
    fun index => ?_, fun index hindex colour other hne => ?_,
    fun index _ colour row bit houtside => now.bitAt?_set colour houtside, fun index hindex => ?_⟩
  · by_cases hindex : index < now.entries
    · simp [hget index hindex, hindex]
    · rw [get?_eq, if_neg hindex]
      simp [Nat.le_of_not_lt hindex]
  · rw [now.get?_set hindex, if_neg hne.symm]
  · have hrow := Array.getElem?_eq_getElem (now.row_lt hindex)
    refine ⟨_, hrow, ?_, fun colour => ?_⟩
    · rw [colourOfEntry_readEntry, get?_eq, if_pos hindex, rawAt?, hrow]
      rfl
    · have hset := now.getElem?_rows_set index colour (index / now.perRow)
      rw [if_pos rfl, hrow] at hset
      rw [storeEntry_eq_stored]
      exact hset

/-- Of seven entries in five bits, three go into a row.  A number loses what does not fit below the
marker, the last store counts, and the place of an eighth and a ninth entry is not read. -/
theorem stores_hold_sevenEntries :
    ∃ table, alloc .addressSpace 7 5 = .ok table ∧ ∃ filled,
      filled = [.set 0 (.stream 1), .set 1 (.stream 2), .set 2 .drop, .set 1 (.stream 33)].foldl
        store table ∧
      filled.get? 1 = some (.stream 1) ∧ filled.get? 2 = some .drop ∧
      filled.get? 5 = some (.stream 0) ∧ filled.get? 7 = none := by
  have halloc : alloc .addressSpace 7 5 = .ok (zero 7 5 (by decide) (by decide)) :=
    alloc_eq_ok (by decide) (by decide) (by decide)
  have hstores : ∀ store ∈ [Store.set 0 (.stream 1), .set 1 (.stream 2), .set 2 .drop,
      .set 1 (.stream 33)], store.Within 7 := by
    simp [Store.Within]
  have holds := stores_hold halloc hstores
  exact ⟨_, halloc, _, rfl, holds.get 1 (by decide), holds.get 2 (by decide),
    holds.get 5 (by decide), (holds.get_eq_none_iff 7).mpr (Nat.le_refl _)⟩

end PacketSteering.ColourTable
