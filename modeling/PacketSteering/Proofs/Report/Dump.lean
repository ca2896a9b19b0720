import PacketSteering.Proofs.Loader.Dump
import PacketSteering.Proofs.Loader.Written
import PacketSteering.Proofs.Rule.Termination
import PacketSteering.Proofs.Text
import PacketSteering.Report

/-!
# What a printed dump tells

The line of a slot has its value and its mask cut off after the last byte of the mask that is not
zero.  Of the mask nothing is lost by that: filled up with zeros, it is what it was
(`Bytes.filled_take`).  Of the value every byte is kept that the mask compares, and what comes after
them is lost in general.  It is not where a rule was written, since a rule has no bit in its value
that its mask does not claim (`Rule.extent_value_le`).

A dump that was not read from a card may have a value that ends before its mask does.  Exactly then
there is nothing to print (`CardDump.report?_eq_none_iff`), and a card never gives such a dump.
-/

namespace PacketSteering

/-! ## Bytes cut off and filled up -/

namespace Bytes

/-- Bytes filled up with zeros to a length. -/
def filled (length : ℕ) (bytes : List UInt8) : List UInt8 :=
  bytes ++ List.replicate (length - bytes.length) 0

/-- A byte that is not cut off. -/
lemma getElem?_filled_take {bytes : List UInt8} {length n i : ℕ} (hn : n ≤ bytes.length)
    (hi : i < n) : (filled length (bytes.take n))[i]? = bytes[i]? := by
  have hlength : i < (bytes.take n).length := by
    rw [List.length_take]
    omega
  rw [filled, List.getElem?_append_left hlength, List.getElem?_take_of_lt hi]

/-- Nothing is lost where nothing but zeros is cut off. -/
lemma filled_take {bytes : List UInt8} {n : ℕ} (h : extent bytes ≤ n) :
    filled bytes.length (bytes.take n) = bytes := by
  have hcut : bytes.drop n = List.replicate (bytes.length - (bytes.take n).length) 0 := by
    rw [List.eq_replicate_iff, List.length_drop, List.length_take]
    refine ⟨by omega, fun byte hbyte => ?_⟩
    obtain ⟨i, hi, rfl⟩ := List.getElem_of_mem hbyte
    rw [List.getElem_drop, ← List.getD_eq_getElem bytes 0]
    exact (extent_le_iff bytes n).mp h _ (Nat.le_add_right n i)
  rw [filled, ← hcut, List.take_append_drop]

end Bytes

/-- The bytes of the match depth that a text of digits stands for, if the zeros at the end were left
out. -/
def Hex.readFilled? (text : String) : Option (List UInt8) :=
  (Hex.read? text).map (Bytes.filled matchDepth)

lemma Hex.readFilled?_text (bytes : List UInt8) :
    Hex.readFilled? (Hex.text bytes) = some (Bytes.filled matchDepth bytes) := by
  rw [readFilled?, read?_text, Option.map_some]

/-! ## Values of rules -/

namespace Pattern

/-- A pattern without a bit in its value that its mask does not claim. -/
def Claimed (pattern : Pattern) : Prop :=
  ∀ i (hi : i < matchDepth), pattern.value[i] &&& pattern.mask[i] = pattern.value[i]

lemma claimed_blank (termination : UInt8) : (blank termination).Claimed := by
  intro i hi
  simp [blank]

/-- A byte of a patch brings only bits that its mask claims. -/
lemma and_or_claimed {value mask v m : UInt8} (h : value &&& mask = value) :
    ((value &&& ~~~m) ||| (v &&& m)) &&& (mask ||| m) = (value &&& ~~~m) ||| (v &&& m) := by
  apply UInt8.toBitVec_inj.mp
  apply BitVec.eq_of_getLsbD_eq
  intro i hi
  have hbit := congrArg (fun byte : UInt8 => byte.toBitVec.getLsbD i) h
  simp only [UInt8.toBitVec_and, UInt8.toBitVec_or, UInt8.toBitVec_not, BitVec.getLsbD_and,
    BitVec.getLsbD_or, BitVec.getLsbD_not, hi, decide_true, Bool.true_and] at hbit ⊢
  cases hm : m.toBitVec.getLsbD i <;> simp_all

lemma Claimed.merge {pattern : Pattern} (h : pattern.Claimed) (patch : Patch) :
    (pattern.merge patch).Claimed := by
  intro i hi
  simp only [Pattern.merge, Vector.getElem_ofFn]
  cases patch.at? i with
  | none => exact h i hi
  | some byte => exact and_or_claimed (h i hi)

lemma claimed_ofPatches (termination : UInt8) (patches : List Patch) :
    (ofPatches termination patches).Claimed :=
  List.foldlRecOn patches Pattern.merge (claimed_blank termination)
    fun _ h patch _ => h.merge patch

end Pattern

/-- The value of a rule ends where its mask does, or before. -/
lemma Rule.extent_value_le (rule : Rule) :
    Bytes.extent rule.pattern.value.toList ≤ rule.pattern.extent := by
  rw [Bytes.extent_le_iff]
  intro i hle
  by_cases hi : i < matchDepth
  · have hmask : rule.pattern.mask[i] = 0 :=
      (rule.pattern.extent_le_iff _).mp (Nat.le_refl _) i hi hle
    have hclaimed := Pattern.claimed_ofPatches rule.termination rule.patches i hi
    rw [← pattern, hmask, UInt8.and_zero] at hclaimed
    simp [hi, ← hclaimed]
  · simp [hi]

/-! ## Lines -/

namespace SlotDump

lemma line?_eq_none_iff {slot : SlotDump} :
    slot.line? = none ↔ slot.value.length < slot.compareLength := by
  rw [line?]
  split
  case isTrue h => simpa using h
  case isFalse h => simpa using h

end SlotDump

namespace CardDump

lemma slotLines?_cons {slot : SlotDump} {line : Report.Line} (hline : slot.line? = some line)
    (rest : List SlotDump) :
    slotLines? (slot :: rest) = (slotLines? rest).map (line :: ·) := by
  rw [slotLines?, hline]
  cases slotLines? rest <;> rfl

lemma slotLines?_eq_none_iff {slots : List SlotDump} :
    slotLines? slots = none ↔ ∃ slot ∈ slots, slot.value.length < slot.compareLength := by
  simp only [← SlotDump.line?_eq_none_iff]
  induction slots with
  | nil => simp [slotLines?]
  | cons slot rest ih =>
    cases hline : slot.line? with
    | none => simp [slotLines?, hline]
    | some line => simp [slotLines?_cons hline, hline, ih]

/-- There is nothing to print of a dump exactly if it has a slot whose value ends before its
mask. -/
theorem report?_eq_none_iff (dump : CardDump) (render : Report.Renderer) :
    dump.report? render = none ↔ ∃ slot ∈ dump.slots, slot.value.length < slot.compareLength := by
  rw [← slotLines?_eq_none_iff, report?, Option.map_eq_none_iff, lines?]
  cases slotLines? dump.slots with
  | none => simp
  | some lines => simp

/-- The lines above those of the slots. -/
def heading (bank : Bank) : List Report.Line :=
  [.plain ("Active colour bank: " ++ bank.text), Report.boldRule,
    .ofCells ["SLOT", "ENABLED", "TERM", "VALUE", "MASK"]]

lemma lines?_of_slotLines? {dump : CardDump} {lines : List Report.Line}
    (h : slotLines? dump.slots = some lines) :
    dump.lines? = some (heading dump.activeBank ++ lines) := by
  simp [lines?, h, heading]

end CardDump

/-! ## The dump of a card -/

/-- Texts that a slot can be read from: the mask byte for byte, once the zeros at its end are filled
up, and in the same way every byte of the value up to the last one compared, and all of them if the
slot was programmed with a rule. -/
structure CardSlot.ReadFrom (held : CardSlot) (value mask : String) : Prop where
  mask_eq : Hex.readFilled? mask = some (bytes held.mask)
  value_eq : ∃ shown, Hex.readFilled? value = some shown ∧
    ∀ i last, i ≤ last → (bytes held.mask).getD last 0 ≠ 0 → shown[i]? = (bytes held.value)[i]?
  value_eq_of_programmed : held.Programmed → Hex.readFilled? value = some (bytes held.value)

/-- A line tells what is on a slot of a card: its number, its enable bit, its termination, and texts
that its value and its mask can be read from. -/
def Report.Line.TellsOf (line : Report.Line) (state : CardState) (slot : Fin filterCount) : Prop :=
  ∃ value mask, (state.slots.get slot).ReadFrom value mask ∧
    line = .ofCells [toString slot.val, Report.flagText (state.isEnabled slot),
      toString (state.slots.get slot).termination.toNat, value, mask]

/-- A slot can be read from its bytes up to the last one compared. -/
lemma CardSlot.readFrom_take (held : CardSlot) :
    held.ReadFrom (Hex.text ((bytes held.value).take (Bytes.extent (bytes held.mask))))
      (Hex.text ((bytes held.mask).take (Bytes.extent (bytes held.mask)))) := by
  have hextent : Bytes.extent (bytes held.mask) ≤ (bytes held.value).length := by
    rw [length_bytes, ← length_bytes held.mask]
    exact Rule.extent_le_length _
  refine ⟨?_, ⟨_, Hex.readFilled?_text _, ?_⟩, ?_⟩
  · rw [Hex.readFilled?_text, ← length_bytes held.mask, Bytes.filled_take (Nat.le_refl _)]
  · intro i last hle hmask
    refine Bytes.getElem?_filled_take hextent (Nat.lt_of_le_of_lt hle ?_)
    by_contra hlast
    exact hmask ((Bytes.extent_le_iff _ last).mp (Nat.not_lt.mp hlast) last (Nat.le_refl last))
  · rintro ⟨rule, rfl⟩
    have hvalue := rule.extent_value_le
    rw [Pattern.extent, ← bytes_value_ofPattern, ← bytes_mask_ofPattern] at hvalue
    rw [Hex.readFilled?_text, ← length_bytes (ofPattern rule.pattern).value,
      Bytes.filled_take hvalue]

/-- A dump that shows a slot has a line for it that tells of it. -/
lemma SlotDump.Shows.exists_line {shown : SlotDump} {state : CardState} {slot : Fin filterCount}
    (h : shown.Shows state slot) : ∃ line, shown.line? = some line ∧ line.TellsOf state slot := by
  have hlength : shown.compareLength ≤ shown.value.length := by
    rw [compareLength, h.value_eq, h.mask_eq, CardSlot.length_bytes,
      ← CardSlot.length_bytes (state.slots.get slot).mask]
    exact Rule.extent_le_length _
  refine ⟨_, if_pos hlength, _, _, (state.slots.get slot).readFrom_take, ?_⟩
  rw [compareLength, h.slot_eq, h.enabled_eq, h.termination_eq, h.value_eq, h.mask_eq]

/-- Slots that are shown have lines that tell of them. -/
lemma CardDump.exists_slotLines {state : CardState} (hfit : state.TerminationsFit)
    (slots : List (Fin filterCount)) :
    ∃ lines, slotLines? (slots.map state.slotDump) = some lines ∧
      List.Forall₂ (fun line slot => line.TellsOf state slot) lines slots := by
  induction slots with
  | nil => exact ⟨[], rfl, .nil⟩
  | cons slot rest ih =>
    obtain ⟨line, hline, htells⟩ := (CardState.shows_slotDump hfit slot).exists_line
    obtain ⟨lines, hlines, hrest⟩ := ih
    refine ⟨line :: lines, ?_, .cons htells hrest⟩
    rw [List.map_cons, slotLines?_cons hline, hlines]
    rfl

/-- A dump is printed with a line for each slot of a card in order, below the heading, however the
lines are laid out. -/
def CardDump.PrintsLinesOf (shown : CardDump) (state : CardState) : Prop :=
  ∃ lines, shown.lines? = some (heading state.activeBank ++ lines) ∧
    (∀ render, shown.report? render = some (render (heading state.activeBank ++ lines))) ∧
      List.Forall₂ (fun line slot => Report.Line.TellsOf line state slot) lines
        (List.finRange filterCount)

/-- A rule that compares twelve bits of the first two bytes. -/
def Rule.twoBytes : Rule :=
  { any with raw := some ⟨[0xA5, 0x5A], [0xFF, 0x0F]⟩ }

namespace Loader

open Program

lemma dump_printsLines {card : Card} (hfit : card.state.TerminationsFit) :
    (dump.run Card.device card).result.PrintsLinesOf card.state := by
  obtain ⟨lines, hslots, htell⟩ := CardDump.exists_slotLines hfit (List.finRange filterCount)
  have hlines : (dump.run Card.device card).result.lines? =
      some (CardDump.heading card.state.activeBank ++ lines) := by
    rw [run_dump_result]
    exact CardDump.lines?_of_slotLines? hslots
  refine ⟨lines, hlines, fun render => ?_, htell⟩
  rw [CardDump.report?, hlines, Option.map_some]

/-- **A printed dump loses nothing.** Of a card whose terminations fit a byte, a dump shows the
active bank and every slot in order, as they are, and changes no slot, control bit or bank and adds
neither an event nor an observation.  It is printed, and of each slot there is a line that tells its
number, its enable bit and its termination, and from which its mask can be read byte for byte and
its value up to the last byte compared, or as a whole if the slot was programmed with a rule; which
is so for every slot that a load or a replacement writes to.  Of dumps in general, those cannot be
printed that have a slot whose value ends before its mask does.  All of it holds for every way of
laying out lines as text. -/
theorem dump_lossless {card : Card} (hfit : card.state.TerminationsFit) :
    (dump.run Card.device card).result.Shows card.state ∧
      card.Keeps (dump.run Card.device card).state ∧
      (dump.run Card.device card).result.PrintsLinesOf card.state ∧
      (∀ config : Configuration, config.Reachable → ∀ memory,
        (load memory config).WritesRules ∧
          ∀ target, (swapFilter memory config target).WritesRules) ∧
      ∀ (other : CardDump) (render : Report.Renderer), other.report? render = none ↔
        ∃ slot ∈ other.slots, slot.value.length < slot.compareLength := by
  refine ⟨shows_dump hfit, keeps_dump card, dump_printsLines hfit, ?_, CardDump.report?_eq_none_iff⟩
  intro config hreachable memory
  exact ⟨writesRules_load memory hreachable.slotted,
    writesRules_swapFilter memory hreachable.slotted⟩

/-- A card with two raw bytes on slot 3 is printed, and the line of this slot has both of them. -/
theorem dump_lossless_twoBytes :
    ∃ (card : Card) (lines : List Report.Line) (line : Report.Line) (value mask : String),
      (dump.run Card.device card).result.lines? = some lines ∧ line ∈ lines ∧
        line = .ofCells ["3", "true", "11", value, mask] ∧
        Hex.readFilled? value = some (0xA5 :: 0x0A :: List.replicate 94 0) ∧
        Hex.readFilled? mask = some (0xFF :: 0x0F :: List.replicate 94 0) := by
  have hheld := Card.get_carrying ⟨3, by decide⟩ .twoBytes
  have hon := Card.isEnabled_carrying ⟨3, by decide⟩ .twoBytes
  have htermination : Rule.twoBytes.pattern.termination = 11 := Rule.twoBytes.termination_pattern
  obtain ⟨hvalue, hmask⟩ :
      Rule.twoBytes.pattern.value.toList = 0xA5 :: 0x0A :: List.replicate 94 0 ∧
        Rule.twoBytes.pattern.mask.toList = 0xFF :: 0x0F :: List.replicate 94 0 := by
    decide +kernel
  obtain ⟨-, -, ⟨lines, hlines, -, htell⟩, -, -⟩ :=
    dump_lossless (Card.terminationsFit_carrying ⟨3, by decide⟩ .twoBytes)
  have hlength : 3 < lines.length := by
    rw [htell.length_eq]
    decide
  have htells := htell.get hlength (by decide : 3 < (List.finRange filterCount).length)
  have hlist : (List.finRange filterCount).get ⟨3, by decide⟩ = ⟨3, by decide⟩ := by decide
  rw [hlist] at htells
  obtain ⟨value, mask, hread, hline⟩ := htells
  refine ⟨_, _, lines.get ⟨3, hlength⟩, value, mask, hlines,
    List.mem_append_right _ (List.get_mem _ _), ?_, ?_, ?_⟩
  · have hnumber : toString 3 = "3" := by decide
    have heleven : toString (11 : UInt8).toUInt32.toNat = "11" := by decide
    rw [hline, hheld, hon, hnumber, CardSlot.ofPattern, htermination, heleven]
    rfl
  · rw [hread.value_eq_of_programmed ⟨.twoBytes, hheld⟩, hheld,
      CardSlot.bytes_value_ofPattern, hvalue]
  · rw [hread.mask_eq, hheld, CardSlot.bytes_mask_ofPattern, hmask]

end Loader

end PacketSteering
