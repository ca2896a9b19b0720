import Mathlib.Tactic.Common
import PacketSteering.ColourTable
import PacketSteering.Proofs.BitField

/-!
# The entries of a colour table

Entries are packed into rows, but a table behaves as an array of raw entries.  Two entries of one
row lie in disjoint fields, so a store changes the entry it names and no other (`get?_set`), and
stores can be reordered and overwritten (`set_comm`, `set_set_self`).

From these alone follows that a table that is filled again forgets what it was filled with before
(`setAll_setAll`), padding bits and all, and that a filled table gives back what was stored
(`get?_setAll`), for every destination that its entries are wide enough to name
(`ColourTable.Fits`).
-/

namespace PacketSteering

/-- What an entry of a width can say of a destination: of a stream number, the bits below the drop
marker. -/
def Colour.narrowed (bits : ℕ) : Colour → Colour
  | stream index => stream (UInt8.ofNat (index.toNat % 2 ^ (bits - 1)))
  | drop => drop

namespace ColourTable

/-! ## Shapes -/

/-- Tables of one shape have entries of one width, and as many. -/
def SameShape (a b : ColourTable) : Prop :=
  a.bits = b.bits ∧ a.entries = b.entries

lemma SameShape.refl (table : ColourTable) : table.SameShape table := ⟨rfl, rfl⟩

lemma SameShape.symm {a b : ColourTable} (h : a.SameShape b) : b.SameShape a :=
  ⟨h.1.symm, h.2.symm⟩

lemma SameShape.trans {a b c : ColourTable} (hab : a.SameShape b) (hbc : b.SameShape c) :
    a.SameShape c :=
  ⟨hab.1.trans hbc.1, hab.2.trans hbc.2⟩

lemma SameShape.size_rows {a b : ColourTable} (h : a.SameShape b) : a.rows.size = b.rows.size := by
  rw [a.size_rows, b.size_rows, h.1, h.2]

lemma SameShape.eq_of_rows {a b : ColourTable} (h : a.SameShape b) (hrows : a.rows = b.rows) :
    a = b := by
  obtain ⟨hbits, hentries⟩ := h
  cases a
  cases b
  simp_all

lemma rowCount_le {entries bits : ℕ} (hpos : 0 < bits) (hle : bits ≤ rowBits) :
    rowCount entries bits ≤ entries := by
  have hper := entriesPerRow_pos hpos hle
  have hmul : entries ≤ entries * entriesPerRow bits := Nat.le_mul_of_pos_right _ hper
  rw [rowCount]
  apply Nat.le_of_lt_succ
  rw [Nat.div_lt_iff_lt_mul hper, Nat.succ_mul]
  omega

lemma size_rows_le (table : ColourTable) : table.rows.size ≤ table.entries := by
  rw [table.size_rows]
  exact rowCount_le table.bits_pos table.bits_le

@[simp] lemma perRow_set (table : ColourTable) (index : ℕ) (colour : Colour) :
    (table.set index colour).perRow = table.perRow := rfl

lemma sameShape_set (table : ColourTable) (index : ℕ) (colour : Colour) :
    (table.set index colour).SameShape table := ⟨rfl, rfl⟩

lemma sameShape_setRow (table : ColourTable) (row : ℕ) (data : UInt16) :
    (table.setRow row data).SameShape table := ⟨rfl, rfl⟩

lemma getElem_setRow_self (table : ColourTable) {row : ℕ} (data : UInt16)
    (hrow : row < (table.setRow row data).rows.size) :
    (table.setRow row data).rows[row] = data :=
  Array.getElem_setIfInBounds_self hrow

/-! ## One entry -/

/-- An entry lies within the sixteen bits of its row. -/
lemma field_within_row (table : ColourTable) (index : ℕ) :
    (table.field index).low + (table.field index).width ≤ 16 := by
  have hper : 0 < table.perRow := entriesPerRow_pos table.bits_pos table.bits_le
  have hlast : index % table.perRow + 1 ≤ table.perRow := Nat.mod_lt _ hper
  calc (table.field index).low + (table.field index).width
      = (index % table.perRow + 1) * table.bits := by simp [field, Nat.add_mul]
    _ ≤ table.perRow * table.bits := Nat.mul_le_mul_right _ hlast
    _ ≤ 16 := Nat.div_mul_le_self rowBits table.bits

lemma field_disjoint (table : ColourTable) {i j : ℕ} (hne : i ≠ j)
    (hrow : i / table.perRow = j / table.perRow) : (table.field i).Disjoint (table.field j) := by
  have hi := Nat.div_add_mod i table.perRow
  have hj := Nat.div_add_mod j table.perRow
  have hmod : i % table.perRow ≠ j % table.perRow := by
    intro hmod
    rw [hrow, hmod] at hi
    omega
  rcases Nat.lt_or_gt_of_ne hmod with h | h
  · left
    calc (table.field i).low + (table.field i).width
        = (i % table.perRow + 1) * table.bits := by simp [field, Nat.add_mul]
      _ ≤ j % table.perRow * table.bits := Nat.mul_le_mul_right _ h
  · right
    calc (table.field j).low + (table.field j).width
        = (j % table.perRow + 1) * table.bits := by simp [field, Nat.add_mul]
      _ ≤ i % table.perRow * table.bits := Nat.mul_le_mul_right _ h

/-- What a store makes of one row. -/
def stored (table : ColourTable) (index : ℕ) (colour : Colour) (old : UInt16) : UInt16 :=
  UInt16.ofNat ((table.field index).set old.toNat (table.rawOf colour))

lemma toNat_stored (table : ColourTable) (index : ℕ) (colour : Colour) (old : UInt16) :
    (table.stored index colour old).toNat =
      (table.field index).set old.toNat (table.rawOf colour) := by
  rw [stored, UInt16.toNat_ofNat', BitField.set_mod_two_pow (table.field_within_row index),
    Nat.mod_eq_of_lt old.toNat_lt]

@[simp] lemma stored_set (table : ColourTable) (i j : ℕ) (atI atJ : Colour) :
    (table.set i atI).stored j atJ = table.stored j atJ := rfl

lemma rows_set (table : ColourTable) (index : ℕ) (colour : Colour) :
    (table.set index colour).rows =
      table.rows.modify (index / table.perRow) (table.stored index colour) := rfl

lemma getElem?_rows_set (table : ColourTable) (index : ℕ) (colour : Colour) (row : ℕ) :
    (table.set index colour).rows[row]? =
      if index / table.perRow = row then table.rows[row]?.map (table.stored index colour)
      else table.rows[row]? := by
  rw [rows_set, Array.getElem?_modify]

lemma set_set_self (table : ColourTable) (index : ℕ) (first second : Colour) :
    (table.set index first).set index second = table.set index second := by
  refine SameShape.eq_of_rows ⟨rfl, rfl⟩ (Array.ext_getElem? fun row => ?_)
  simp only [getElem?_rows_set, perRow_set, stored_set]
  split
  · rw [Option.map_map]
    congr 1
    funext old
    apply UInt16.toNat_inj.mp
    rw [Function.comp_apply, toNat_stored, toNat_stored, toNat_stored]
    exact BitField.set_set_self _ _ _ _
  · rfl

lemma set_comm (table : ColourTable) {i j : ℕ} (hne : i ≠ j) (atI atJ : Colour) :
    (table.set i atI).set j atJ = (table.set j atJ).set i atI := by
  refine SameShape.eq_of_rows ⟨rfl, rfl⟩ (Array.ext_getElem? fun row => ?_)
  simp only [getElem?_rows_set, perRow_set, stored_set]
  by_cases hi : i / table.perRow = row
  · by_cases hj : j / table.perRow = row
    · rw [if_pos hj, if_pos hi, if_pos hi, if_pos hj, Option.map_map, Option.map_map]
      congr 1
      funext old
      apply UInt16.toNat_inj.mp
      simp only [Function.comp_apply, toNat_stored]
      exact BitField.set_comm (table.field_disjoint hne (hi.trans hj.symm)) _ _ _
    · rw [if_neg hj, if_pos hi, if_pos hi, if_neg hj]
  · by_cases hj : j / table.perRow = row
    · rw [if_pos hj, if_neg hi, if_neg hi, if_pos hj]
    · rw [if_neg hj, if_neg hi, if_neg hi, if_neg hj]

/-! ## Reading entries back -/

/-- The destinations that the entries of a table are wide enough to name. -/
def Fits (table : ColourTable) : Colour → Prop
  | .stream index => index.toNat < table.dropMarker
  | .drop => True

lemma dropMarker_eq (table : ColourTable) : table.dropMarker = 2 ^ (table.bits - 1) := by
  rw [dropMarker, Nat.one_shiftLeft]

lemma rawOf_lt (table : ColourTable) (colour : Colour) :
    table.rawOf colour < 2 ^ table.bits := by
  have hbits := table.bits_pos
  have hpos : 0 < table.dropMarker := by
    rw [dropMarker_eq]
    exact Nat.two_pow_pos _
  have hlt : table.dropMarker < 2 ^ table.bits := by
    rw [dropMarker_eq]
    exact Nat.pow_lt_pow_right (by decide) (by omega)
  cases colour with
  | stream index => exact Nat.lt_trans (Nat.mod_lt _ hpos) hlt
  | drop => exact hlt

/-- What is read back of a raw entry is the destination, narrowed to the entry. -/
lemma colourOf_rawOf (table : ColourTable) (colour : Colour) :
    table.colourOf (table.rawOf colour) = colour.narrowed table.bits := by
  cases colour with
  | stream index =>
    have hpos : 0 < table.dropMarker := by
      rw [dropMarker_eq]
      exact Nat.two_pow_pos _
    have hmarker : ¬ table.dropMarker ≤ index.toNat % table.dropMarker :=
      Nat.not_le.mpr (Nat.mod_lt _ hpos)
    rw [rawOf, colourOf, if_neg hmarker, Colour.narrowed, dropMarker_eq]
  | drop => rw [rawOf, colourOf, if_pos (Nat.le_refl _), Colour.narrowed]

/-- A destination that an entry is wide enough to name is not narrowed. -/
lemma Fits.narrowed_eq {table : ColourTable} {colour : Colour} (h : table.Fits colour) :
    colour.narrowed table.bits = colour := by
  cases colour with
  | stream index =>
    have hlt : index.toNat < 2 ^ (table.bits - 1) := by
      rw [← dropMarker_eq]
      exact h
    rw [Colour.narrowed, Nat.mod_eq_of_lt hlt, UInt8.ofNat_toNat]
  | drop => rfl

/-- The raw entry of an index, as it stands in its row. -/
def rawAt? (table : ColourTable) (index : ℕ) : Option ℕ :=
  table.rows[index / table.perRow]?.map fun row => (table.field index).get row.toNat

/-- A store changes the raw entry that it names and no other. -/
lemma rawAt?_set (table : ColourTable) {index : ℕ} (hindex : index < table.entries)
    (colour : Colour) (i : ℕ) :
    (table.set index colour).rawAt? i =
      if index = i then some (table.rawOf colour) else table.rawAt? i := by
  have hfield : (table.set index colour).field i = table.field i := rfl
  rw [rawAt?, rawAt?, hfield, perRow_set, getElem?_rows_set]
  by_cases hsame : index = i
  · subst hsame
    obtain ⟨row, hrow⟩ : ∃ row, table.rows[index / table.perRow]? = some row :=
      ⟨_, Array.getElem?_eq_getElem (table.row_lt hindex)⟩
    rw [if_pos rfl, if_pos rfl, hrow, Option.map_some, Option.map_some, toNat_stored,
      BitField.get_set_self]
    change some (table.rawOf colour % 2 ^ table.bits) = some (table.rawOf colour)
    rw [Nat.mod_eq_of_lt (table.rawOf_lt colour)]
  · rw [if_neg hsame]
    split
    case isFalse => rfl
    case isTrue hshared =>
      rw [Option.map_map]
      congr 1
      funext row
      rw [Function.comp_apply, toNat_stored,
        BitField.get_set_of_disjoint (table.field_disjoint hsame hshared)]

lemma get?_eq (table : ColourTable) (index : ℕ) :
    table.get? index =
      if index < table.entries then (table.rawAt? index).map table.colourOf else none := by
  by_cases hindex : index < table.entries
  · have hrow := table.row_lt hindex
    rw [get?, dif_pos hindex, if_pos hindex, rawAt?, Array.getElem?_eq_getElem hrow]
    rfl
  · rw [get?, dif_neg hindex, if_neg hindex]

/-- A store changes the entry it names, and no other. -/
lemma get?_set (table : ColourTable) {index : ℕ} (hindex : index < table.entries)
    (colour : Colour) (i : ℕ) :
    (table.set index colour).get? i =
      if index = i then some (colour.narrowed table.bits) else table.get? i := by
  have hentries : (table.set index colour).entries = table.entries := rfl
  have hshown : (table.set index colour).colourOf = table.colourOf := rfl
  rw [get?_eq, get?_eq, rawAt?_set _ hindex, hentries, hshown]
  by_cases hsame : index = i
  · subst hsame
    simp [hindex, colourOf_rawOf]
  · simp [hsame]

/-! ## Filling a table -/

/-- The table with the first entries stored. -/
def setFirst (table : ColourTable) (colour : ℕ → Colour) : ℕ → ColourTable
  | 0 => table
  | n + 1 => (table.setFirst colour n).set n (colour n)

lemma setAll_eq_setFirst (table : ColourTable) (colour : ℕ → Colour) :
    table.setAll colour = table.setFirst colour table.entries := by
  have hfold (n : ℕ) :
      Nat.fold n (fun index _ filled => filled.set index (colour index)) table =
        table.setFirst colour n := by
    induction n with
    | zero => rfl
    | succ n ih => rw [Nat.fold_succ, ih, setFirst]
  exact hfold _

lemma sameShape_setFirst (table : ColourTable) (colour : ℕ → Colour) (n : ℕ) :
    (table.setFirst colour n).SameShape table := by
  induction n with
  | zero => exact SameShape.refl table
  | succ n ih => exact (sameShape_set _ n (colour n)).trans ih

lemma sameShape_setAll (table : ColourTable) (colour : ℕ → Colour) :
    (table.setAll colour).SameShape table := by
  rw [setAll_eq_setFirst]
  exact table.sameShape_setFirst colour _

/-- A store past the first entries can be made before them. -/
lemma setFirst_set_of_le (table : ColourTable) (colour : ℕ → Colour) {n index : ℕ}
    (h : n ≤ index) (at' : Colour) :
    (table.set index at').setFirst colour n = (table.setFirst colour n).set index at' := by
  induction n with
  | zero => rfl
  | succ n ih =>
    rw [setFirst, setFirst, ih (by omega)]
    exact set_comm _ (by omega) _ _

/-- A store among the first entries is lost. -/
lemma setFirst_set_of_lt (table : ColourTable) (colour : ℕ → Colour) {n index : ℕ}
    (h : index < n) (at' : Colour) :
    (table.set index at').setFirst colour n = table.setFirst colour n := by
  induction n with
  | zero => omega
  | succ n ih =>
    rw [setFirst, setFirst]
    by_cases hlast : index = n
    · subst hlast
      rw [setFirst_set_of_le _ _ (Nat.le_refl _), set_set_self]
    · rw [ih (by omega)]

theorem setAll_setAll (table : ColourTable) (first second : ℕ → Colour) :
    (table.setAll first).setAll second = table.setAll second := by
  have hforget (n : ℕ) (hn : n ≤ table.entries) :
      (table.setFirst first n).setFirst second table.entries =
        table.setFirst second table.entries := by
    induction n with
    | zero => rfl
    | succ n ih => rw [setFirst, setFirst_set_of_lt _ _ (by omega), ih (by omega)]
  rw [setAll_eq_setFirst, setAll_eq_setFirst table second,
    (table.sameShape_setAll first).2, setAll_eq_setFirst]
  exact hforget _ (Nat.le_refl _)

lemma get?_setFirst (table : ColourTable) {colour : ℕ → Colour}
    (hfits : ∀ index, table.Fits (colour index)) {n : ℕ} (hn : n ≤ table.entries) (i : ℕ) :
    (table.setFirst colour n).get? i = if i < n then some (colour i) else table.get? i := by
  induction n with
  | zero => rfl
  | succ n ih =>
    obtain ⟨hbits, hentries⟩ := table.sameShape_setFirst colour n
    have hindex : n < (table.setFirst colour n).entries := by omega
    rw [setFirst, get?_set _ hindex, hbits, (hfits n).narrowed_eq, ih (by omega)]
    by_cases hi : n = i
    · subst hi
      simp
    · have hiff : i < n + 1 ↔ i < n := by omega
      simp [hi, hiff]

theorem get?_setAll (table : ColourTable) {colour : ℕ → Colour}
    (hfits : ∀ index, table.Fits (colour index)) {i : ℕ} (hi : i < table.entries) :
    (table.setAll colour).get? i = some (colour i) := by
  rw [setAll_eq_setFirst, table.get?_setFirst hfits (Nat.le_refl _), if_pos hi]

end ColourTable

end PacketSteering
