import Mathlib.Tactic.Common
import PacketSteering.Proofs.Card.RoundTrip
import PacketSteering.Proofs.Card.Traffic

/-!
# Tables there and back

A table that is written to a bank is read back as it was written, as a whole and row by row, whether
or not the bank is active, and the other bank, the slots and the control word are not touched by it.

Reading a row writes its address to the very register that rows are written by, and the two differ
in one bit.  No part of the address can reach that bit (`Register.get_readWord`), so a read only
latches, and rows of both banks can be read in any order (`Card.run_readRows`).  A whole table is
put together from rows that are read one after the other: what was read so far, followed by what is
still to come, is the table (`ColourTable.WrittenSoFar`).
-/

namespace PacketSteering

open Program Register Channel

namespace CardState

variable (state : CardState)

/-! ## Reading a row -/

/-- The row of a bank that a number names: as many bits of the number count as the address has, and
past the end of the bank a row reads as zero. -/
def rowAt (bank : Bank) (row : ℕ) : UInt16 :=
  (state.bank bank).rows.getD (row % 2 ^ 14) 0

lemma rowAt_eq_getD {bank : Bank} {row : ℕ} (hrow : row < 2 ^ 14) :
    state.rowAt bank row = (state.bank bank).rows.getD row 0 := by
  rw [rowAt, Nat.mod_eq_of_lt hrow]

/-- The answer to a read of a row depends on the banks alone. -/
lemma Latching.rowAt_eq {state now : CardState} (h : state.Latching now) :
    now.rowAt = state.rowAt := by
  obtain ⟨_, _, _, rfl⟩ := h
  rfl

/-- What a word that asks for a row comes to. -/
lemma writeColour_readWord (bank : Bank) (row : ℕ) :
    state.writeColour (colourReadBit ||| rowAddress bank row) =
      ({ state with latchedBank := bank, latchedRow := row % 2 ^ 14 }, []) := by
  obtain ⟨hgetBank, hgetRead, hgetRow⟩ := get_readWord bank row
  simp only [writeColour, hgetBank, hgetRead, hgetRow, Bank.ofBit_bit, if_true]

@[simp] lemma run_readRow_result (bank : Bank) (row : ℕ) :
    ((readRow bank row).run device state).result = state.rowAt bank row := by
  rw [readRow, run_bind_result, run_writeSettled, write_colour, writeColour_readWord]
  exact rowData_toUInt32 _

@[simp] lemma run_readRow_state (bank : Bank) (row : ℕ) :
    ((readRow bank row).run device state).state =
      { state with latchedBank := bank, latchedRow := row % 2 ^ 14 } := by
  rw [readRow, run_bind_state, run_writeSettled, write_colour, writeColour_readWord]
  rfl

/-! ## Reading a table -/

/-- Reading a row into a table of any shape only latches addresses. -/
lemma latches_readRowInto (bank : Bank) (shown : ColourTable) (row : ℕ) :
    ∀ step ∈ (readRowInto bank shown row).writeSteps device state, step.Latches := by
  rw [readRowInto, writeSteps_bind, writeSteps_pure, List.append_nil]
  exact state.latches_readRow bank row

/-- Reading a row into a table reads on. -/
lemma run_readRowInto {now : CardState} (hnow : state.Latching now) {bank : Bank}
    (hsize : (state.bank bank).rows.size ≤ 2 ^ 14) {row : ℕ} {rest : List ℕ} {shown : ColourTable}
    (hshown : (state.bank bank).WrittenSoFar (row :: rest) shown) :
    (state.Latching ((readRowInto bank shown row).run device now).state ∧
      (state.bank bank).WrittenSoFar rest ((readRowInto bank shown row).run device now).result) ∧
        ∀ step ∈ (readRowInto bank shown row).writeSteps device now, step.Latches := by
  have hrow : row < 2 ^ 14 :=
    Nat.lt_of_lt_of_le (hshown.rest_lt row List.mem_cons_self) hsize
  refine ⟨?_, now.latches_readRowInto bank shown row⟩
  rw [readRowInto]
  simp only [run_bind_result, run_bind_state, run_readRow_result, run_readRow_state, run_pure,
    hnow.rowAt_eq, state.rowAt_eq_getD hrow]
  exact ⟨hnow.trans ⟨now.filterAddress, bank, _, rfl⟩, hshown.setRow⟩

/-- Reading a whole bank gives what the bank holds, if there is memory for a table of its shape. -/
theorem run_readTable {bank : Bank} (hsize : (state.bank bank).rows.size ≤ 2 ^ 14)
    {memory : Memory} {blank : ColourTable}
    (halloc : ColourTable.alloc memory (state.bank bank).entries (state.bank bank).bits =
      .ok blank) :
    ((readTable memory bank (state.bank bank).entries (state.bank bank).bits).run device
        state).result = .ok (state.bank bank) := by
  obtain ⟨hentries, hbits⟩ := ColourTable.alloc_shape halloc
  have hblank : blank.SameShape (state.bank bank) := ⟨hbits, hentries⟩
  obtain ⟨⟨-, hshown⟩, -⟩ := fold_induction device (readRowInto bank)
    (fun rest shown now => state.Latching now ∧ (state.bank bank).WrittenSoFar rest shown)
    (fun _ _ _ _ hinv => state.run_readRowInto hinv.1 hsize hinv.2)
    (List.range blank.rows.size) blank state
    ⟨.refl state, by rw [hblank.size_rows]; exact .start hblank⟩
  rw [readTable, halloc]
  simp only [run_bind_result, run_pure]
  rw [hshown.eq]

/-- Reading a table of any shape only latches addresses, whether or not there is memory for it. -/
lemma latches_readTable (memory : Memory) (bank : Bank) (entries bits : ℕ) :
    ∀ step ∈ (readTable memory bank entries bits).writeSteps device state, step.Latches := by
  unfold readTable
  split
  case h_1 => exact fun step hstep => absurd hstep List.not_mem_nil
  case h_2 table _ =>
    obtain ⟨-, hfold⟩ := fold_induction device (readRowInto bank) (fun _ _ _ => True)
      (fun row _ shown now _ => ⟨trivial, now.latches_readRowInto bank shown row⟩)
      (List.range table.rows.size) table state trivial
    rw [writeSteps_bind, writeSteps_pure, List.append_nil]
    exact hfold

end CardState

/-! ## Reading rows in any order -/

/-- Reads rows of banks one after the other, and gives the answers in order. -/
def Channel.readRows (places : List (Bank × ℕ)) : Program (List UInt16) :=
  places.mapM fun place => readRow place.1 place.2

namespace Card

/-- Rows of both banks that are read in any order are those of the banks, and reading them only
latches addresses. -/
theorem run_readRows (places : List (Bank × ℕ)) (card : Card) :
    ((readRows places).run device card).result =
        places.map (fun place => card.state.rowAt place.1 place.2) ∧
      card.state.Latching ((readRows places).run device card).state.state ∧
        ((readRows places).run device card).state.journal = card.journal := by
  induction places generalizing card with
  | nil => exact ⟨rfl, .refl _, rfl⟩
  | cons place rest ih =>
    obtain ⟨hlatching, hjournal⟩ := card.run_of_latches (readRow place.1 place.2)
      (card.state.latches_readRow place.1 place.2)
    have hrow : ((readRow place.1 place.2).run device card).result =
        card.state.rowAt place.1 place.2 := by
      rw [← Card.projects.run_result, CardState.run_readRow_result]
    obtain ⟨hresult, hrest, hrestJournal⟩ := ih ((readRow place.1 place.2).run device card).state
    rw [readRows] at hresult hrest hrestJournal ⊢
    simp only [List.mapM_cons, run_bind_result, run_bind_state, run_pure, hresult, hrow,
      hlatching.rowAt_eq, List.map_cons, true_and]
    exact ⟨hlatching.trans hrest, hrestJournal.trans hjournal⟩

variable {memory : Memory} {layout : TableLayout} {bits : ℕ} {card : Card}

/-- There was memory for a bank of a card, and there is for a table of the same shape. -/
lemma InUse.exists_alloc (h : InUse memory layout bits card) :
    ∃ blank, ColourTable.alloc memory layout.entries bits = .ok blank := by
  induction h with
  | fresh h =>
    obtain ⟨table, htable, -⟩ := new_eq_ok_iff.mp h
    exact ⟨table, htable⟩
  | read _ _ ih => exact ih
  | write _ _ _ ih => exact ih
  | watch _ _ ih => exact ih
  | clearEvents _ ih => exact ih

/-- The rows of a table for the banks of a card can all be addressed. -/
lemma size_rows_le_of_entries_eq {table : ColourTable} (h : table.entries = layout.entries) :
    table.rows.size ≤ 2 ^ 14 := by
  have hrows := table.size_rows_le
  have hentries := layout.entries_le
  omega

lemma run_readTable_result {bank : Bank} {table blank : ColourTable}
    (hbank : card.state.bank bank = table) (hsize : table.rows.size ≤ 2 ^ 14)
    (halloc : ColourTable.alloc memory table.entries table.bits = .ok blank) :
    ((readTable memory bank table.entries table.bits).run device card).result = .ok table := by
  subst hbank
  rw [← Card.projects.run_result]
  exact card.state.run_readTable hsize halloc

lemma run_readRow_result {bank : Bank} {table : ColourTable}
    (hbank : card.state.bank bank = table) (hsize : table.rows.size ≤ 2 ^ 14) {row : ℕ}
    (hrow : row < table.rows.size) :
    ((readRow bank row).run device card).result = table.rows[row] := by
  subst hbank
  rw [← Card.projects.run_result, CardState.run_readRow_result,
    card.state.rowAt_eq_getD (Nat.lt_of_lt_of_le hrow hsize), Array.getD_eq_getD_getElem?,
    Array.getElem?_eq_getElem hrow, Option.getD_some]

/-- **A table that is written to a bank is read back, and stays.** Whatever has been done to a card,
once a table of the shape of its banks is written to one of them, active or not, and any rows of
both banks have been read in any order, the whole bank reads back as that table, and each of its
rows as that row; the other bank, the slots and the control word are as they were before.  Reading
rows of any card gives the rows of its banks, reading a table gives nothing but a table, and neither
changes anything but the latched addresses, nor adds an event or an observation.  The memory is
that of the card, which granted two tables of this shape when the card was made. -/
theorem writeTable_kept (h : InUse memory layout bits card) (bank : Bank) {table : ColourTable}
    (hentries : table.entries = layout.entries) (hbits : table.bits = bits) :
    (∀ places : List (Bank × ℕ),
      let written := ((writeTable bank table).run device card).state
      let later := ((readRows places).run device written).state
      ((readTable memory bank table.entries table.bits).run device later).result = .ok table ∧
        (∀ (row : ℕ) (hrow : row < table.rows.size),
          ((readRow bank row).run device later).result = table.rows[row]) ∧
        later.state.bank bank = table ∧ later.state.bank bank.other = card.state.bank bank.other ∧
        later.state.slots = card.state.slots ∧ later.state.control = card.state.control) ∧
      (∀ (card : Card) (places : List (Bank × ℕ)),
        let reading := (readRows places).run device card
        reading.result = places.map (fun place => card.state.rowAt place.1 place.2) ∧
          card.state.Latching reading.state.state ∧ reading.state.journal = card.journal) ∧
      ∀ (card : Card) (memory : Memory) (bank : Bank) (entries bits : ℕ),
        let reading := (readTable memory bank entries bits).run device card
        card.state.Latching reading.state.state ∧ reading.state.journal = card.journal := by
  obtain ⟨hbankEntries, hbankBits⟩ := h.complete.shape bank
  obtain ⟨blank, halloc⟩ := h.exists_alloc
  rw [← hentries, ← hbits] at halloc
  have hshape : table.SameShape (card.state.bank bank) :=
    ⟨hbits.trans hbankBits.symm, hentries.trans hbankEntries.symm⟩
  have hsize := size_rows_le_of_entries_eq hentries
  refine ⟨?_, fun card places => card.run_readRows places,
    fun card memory bank entries bits => card.run_of_latches _
      (card.state.latches_readTable memory bank entries bits)⟩
  intro places written later
  -- The write replaces the bank, and the reads after it only latch addresses.
  have hwritten : written.state = card.state.putBank bank table := by
    rw [← (card.state.run_writeTable hshape hsize).1, Card.projects.run_state]
  obtain ⟨-, ⟨_, _, _, hlatching⟩, -⟩ := written.run_readRows places
  have hlater : later.state = _ := hlatching
  rw [hwritten] at hlater
  have hbank : later.state.bank bank = table := by
    rw [hlater]
    exact card.state.bank_putBank_self bank table
  refine ⟨later.run_readTable_result hbank hsize halloc,
    fun row hrow => later.run_readRow_result hbank hsize hrow, hbank, ?_, ?_, ?_⟩
  · rw [hlater]
    exact (card.state.bank_putBank bank bank.other table).trans (if_neg (Bank.other_ne bank))
  · rw [hlater]
    exact card.state.slots_putBank bank table
  · rw [hlater]
    exact card.state.control_putBank bank table

/-- The largest table, with every row zero. -/
def largestTable : ColourTable :=
  .zero TableLayout.hashedEight.entries 16 (by decide) (by decide)

/-- The highest address and the highest data, written to the active bank of a card with the largest
table, next to a row of the other bank. -/
theorem writeTable_kept_highestRow :
    ∃ card table, InUse .addressSpace .hashedEight 16 card ∧ card.state.activeBank = .a ∧
      table.rows.size = 8192 ∧
        let written := ((writeTable .a table).run device card).state
        let later := ((readRows [(.a, 8191), (.b, 8191)]).run device written).state
        ((readRow .a 8191).run device later).result = 0xffff ∧
          later.state.bank .b = card.state.bank .b := by
  have halloc : ColourTable.alloc .addressSpace TableLayout.hashedEight.entries 16 = .ok _ :=
    ColourTable.alloc_eq_ok (by decide) (by decide) (by decide)
  have hused : InUse .addressSpace .hashedEight 16 _ :=
    .fresh (new_eq_ok_iff.mpr ⟨_, halloc, rfl⟩)
  have hcount : rowCount TableLayout.hashedEight.entries 16 = 8192 := by decide
  have hsize : (largestTable.setRow 8191 0xffff).rows.size = 8192 :=
    (ColourTable.size_rows _).trans hcount
  have hkept :=
    writeTable_kept hused .a (show (largestTable.setRow 8191 0xffff).entries = _ from rfl) rfl
  obtain ⟨-, hrow, -, hother, -⟩ := hkept.1 [(.a, 8191), (.b, 8191)]
  refine ⟨_, _, hused, rfl, hsize, ?_, hother⟩
  rw [hrow 8191 (by omega)]
  exact largestTable.getElem_setRow_self 0xffff _

end Card

end PacketSteering
