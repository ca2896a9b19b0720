import PacketSteering.Configuration

/-!
# Colour tables

The packed table of destinations by which a card steers, and the one that a configuration needs.
-/

namespace PacketSteering

/-!
## Colour tables

A colour table holds one entry for every table index: the receive stream a packet goes to, or the
drop marker, which is the high bit of the entry. Entries are packed from the low end into rows of
sixteen bits, as many whole entries to a row as fit, so that no entry spans two rows.
-/

/-- The width of a row of a colour table. -/
def rowBits : Nat := 16

/-- The number of entries of a width that fit into one row. -/
def entriesPerRow (bits : Nat) : Nat :=
  rowBits / bits

/-- The number of rows that hold a number of entries of a width. -/
def rowCount (entries bits : Nat) : Nat :=
  (entries + entriesPerRow bits - 1) / entriesPerRow bits

/-- A packed table of destinations. -/
structure ColourTable where
  /-- The width of an entry. -/
  bits : Nat
  entries : Nat
  rows : Array UInt16
  bits_pos : 0 < bits
  bits_le : bits ≤ rowBits
  size_rows : rows.size = rowCount entries bits
  deriving DecidableEq

theorem entriesPerRow_pos {bits : Nat} (pos : 0 < bits) (le : bits ≤ rowBits) :
    0 < entriesPerRow bits :=
  Nat.div_pos le pos

/-- Every entry lies in one of the rows. -/
theorem div_entriesPerRow_lt_rowCount {entries bits index : Nat} (pos : 0 < bits)
    (le : bits ≤ rowBits) (h : index < entries) :
    index / entriesPerRow bits < rowCount entries bits := by
  have per := entriesPerRow_pos pos le
  rw [rowCount, Nat.div_lt_iff_lt_mul per]
  have bound := Nat.div_add_mod (entries + entriesPerRow bits - 1) (entriesPerRow bits)
  have small := Nat.mod_lt (entries + entriesPerRow bits - 1) per
  rw [Nat.mul_comm]
  omega

namespace ColourTable

/-- The table with every bit of every row clear. -/
def zero (entries bits : Nat) (pos : 0 < bits) (le : bits ≤ rowBits) : ColourTable where
  bits
  entries
  rows := Array.replicate (rowCount entries bits) 0
  bits_pos := pos
  bits_le := le
  size_rows := by simp

/-- Allocates a table with every entry zero. An impossible width is refused before memory is
asked for; the report of a refused request counts its bytes in 64-bit arithmetic. -/
def alloc (memory : Memory) (entries bits : Nat) : Except Failure ColourTable :=
  if h : 0 < bits ∧ bits ≤ rowBits then
    let bytes := 2 * rowCount entries bits
    if memory.grants bytes then .ok (zero entries bits h.1 h.2)
    else if bytes < UInt64.size then .error (.fault (.noMemory bytes))
    else .error .sizeOverflow
  else .error (.fault (.badValue "bits per entry" bits))

/-- The number of entries in one row. -/
def perRow (table : ColourTable) : Nat :=
  entriesPerRow table.bits

/-- The raw entry that means drop. -/
def dropMarker (table : ColourTable) : Nat :=
  1 <<< (table.bits - 1)

/-- The field of an entry in its row. -/
def field (table : ColourTable) (index : Nat) : BitField :=
  ⟨index % table.perRow * table.bits, table.bits⟩

/-- The destination that a raw entry stands for. -/
def colourOf (table : ColourTable) (raw : Nat) : Colour :=
  if table.dropMarker ≤ raw then .drop else .stream (UInt8.ofNat raw)

/-- The raw entry of a destination. A stream number loses the bits that do not fit below the drop
marker. -/
def rawOf (table : ColourTable) : Colour → Nat
  | .stream index => index.toNat % table.dropMarker
  | .drop => table.dropMarker

theorem row_lt (table : ColourTable) {index : Nat} (h : index < table.entries) :
    index / table.perRow < table.rows.size := by
  rw [table.size_rows]
  exact div_entriesPerRow_lt_rowCount table.bits_pos table.bits_le h

/-- The destination of an entry of the table. -/
def get (table : ColourTable) (index : Nat) (h : index < table.entries) : Colour :=
  have := table.row_lt h
  let row := table.rows[index / table.perRow]
  table.colourOf ((table.field index).get row.toNat)

/-- The destination of an entry, if the table has it. -/
def get? (table : ColourTable) (index : Nat) : Option Colour :=
  if h : index < table.entries then some (table.get index h) else none

/-- The wording for an entry that a table does not have. -/
def outOfRangeMessage (index : Nat) : String :=
  s!"colour index {index} out of range"

/-- Replaces a row; a row that the table does not have is left out. -/
def setRow (table : ColourTable) (row : Nat) (data : UInt16) : ColourTable where
  bits := table.bits
  entries := table.entries
  rows := table.rows.setIfInBounds row data
  bits_pos := table.bits_pos
  bits_le := table.bits_le
  size_rows := by simp [table.size_rows]

/-- Stores the destination of an entry. -/
def set (table : ColourTable) (index : Nat) (colour : Colour) : ColourTable :=
  let row := index / table.perRow
  let field := table.field index
  let raw := table.rawOf colour
  { table with
    rows := table.rows.modify row fun old => UInt16.ofNat (field.set old.toNat raw)
    size_rows := by simp [table.size_rows] }

/-- Stores the destination of every entry. -/
def setAll (table : ColourTable) (colour : Nat → Colour) : ColourTable :=
  Nat.fold table.entries (fun index _ filled => filled.set index (colour index)) table

/-- Marks every entry as drop. -/
def fillDrop (table : ColourTable) : ColourTable :=
  table.setAll fun _ => .drop

/-- The destinations of all entries in order. -/
def toList (table : ColourTable) : List Colour :=
  (List.range table.entries).filterMap table.get?

/-- The number of entries of each place in summaries. -/
def tally (table : ColourTable) : Array Nat :=
  Nat.fold table.entries
    (fun index h counts => counts.modify (table.get index h).rank (· + 1))
    (Array.replicate 257 0)

/-- The destinations that occur, streams in increasing order and drop last, each with its number
of entries. -/
def summary (table : ColourTable) : List (Colour × Nat) :=
  let counts := table.tally
  (List.range 257).filterMap fun rank =>
    let n := counts.getD rank 0
    if n = 0 then none else some (Colour.ofRank rank, n)

end ColourTable

/-!
## Building colour tables

The table of a configuration holds, for every index, where the configuration steers a packet with
the key that the index stands for.
-/

namespace Configuration

/-- Where a packet goes whose key, numbered by physical slot, an index stands for. -/
def colourAt (config : Configuration) (slots : SlotMap) (index : Nat) : Colour :=
  .ofStream? (config.steer slots (config.layout.decode index))

end Configuration

namespace ColourTable

/-- Allocates a table of the shape that a configuration needs. -/
def forConfiguration (memory : Memory) (config : Configuration) : Except Failure ColourTable :=
  alloc memory config.layout.entries config.entryBits

/-- Stores where a configuration steers for every index of the table. -/
def fill (table : ColourTable) (config : Configuration) : ColourTable :=
  let slots := config.slotMap
  table.setAll (config.colourAt slots)

/-- The table of a configuration. -/
def build (memory : Memory) (config : Configuration) : Except Failure ColourTable := do
  let table ← forConfiguration memory config
  return table.fill config

end ColourTable

end PacketSteering
