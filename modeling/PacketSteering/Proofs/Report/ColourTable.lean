import Mathlib.Algebra.BigOperators.Group.Finset.Basic
import Mathlib.Data.Set.Card
import PacketSteering.Proofs.Card.Indexing
import PacketSteering.Proofs.Configuration.SlotMap
import PacketSteering.Proofs.Numeral
import PacketSteering.Report

/-!
# What the report of a table counts

A tally is kept of the places of all destinations, one entry of the table after the other
(`ColourTable.getD_tallyFirst`), and the destinations that occur are listed from it in order.  So
the report of any table splits its entries up by destination (`ColourTable.Summarised`): whatever
is in the rows beside the entries is not counted.

The entries of the table of a configuration are as many as its keys, each of which is decoded from
its own index.  A stream is thus given as many entries as there are keys that are steered to it, and
since hits are only renumbered, this number is the same for every permutation of the slots
(`Configuration.encard_keysTo`).
-/

namespace PacketSteering

namespace Colour

/-! ## The order of destinations -/

/-- A destination comes before another one in summaries: streams by their numbers, and all of them
before a drop. -/
def Before : Colour → Colour → Prop
  | stream i, stream j => i < j
  | stream _, drop => True
  | drop, _ => False

lemma Before.ne {colour other : Colour} (h : colour.Before other) : colour ≠ other := by
  rintro rfl
  cases colour with
  | stream i => exact UInt8.lt_irrefl i h
  | drop => exact h

lemma rank_ofRank {rank : ℕ} (h : rank < 257) : (ofRank rank).rank = rank := by
  unfold ofRank
  split
  case isTrue hlt => exact UInt8.toNat_ofNat_of_lt' hlt
  case isFalse hge =>
    change 256 = rank
    omega

lemma rank_injective : Function.Injective rank :=
  Function.LeftInverse.injective ofRank_rank

lemma before_of_rank_lt {colour other : Colour} (h : colour.rank < other.rank) :
    colour.Before other := by
  cases colour with
  | stream i =>
    cases other with
    | stream j => exact UInt8.lt_iff_toNat_lt.mpr h
    | drop => trivial
  | drop => exact absurd h (Nat.not_lt.mpr (Nat.le_of_lt_succ other.rank_lt))

/-- All destinations, in their order in summaries. -/
def all : List Colour :=
  (List.range 257).map ofRank

lemma mem_all (colour : Colour) : colour ∈ all :=
  List.mem_map.mpr ⟨colour.rank, List.mem_range.mpr colour.rank_lt, colour.ofRank_rank⟩

lemma pairwise_all : all.Pairwise Before := by
  rw [all, List.pairwise_map]
  refine List.pairwise_lt_range.imp_of_mem fun {a b} ha hb hlt => ?_
  apply before_of_rank_lt
  rwa [rank_ofRank (List.mem_range.mp ha), rank_ofRank (List.mem_range.mp hb)]

lemma text_injective : Function.Injective text := by
  intro colour other heq
  have hchars := congrArg String.toList heq
  cases colour with
  | stream i =>
    cases other with
    | stream j =>
      simp only [text, String.toList_append, List.append_cancel_left_eq] at hchars
      have hread (octet : UInt8) :
          Numeral.readOctet 10 (toString octet.toNat).toList = .ok octet :=
        (Numeral.readOctet_eq_ok_iff (by decide)).mpr (Numeral.standsFor_toString octet)
      have hsame := hread i
      rw [hchars, hread j] at hsame
      rw [Except.ok.inj hsame]
    | drop => simp [text] at hchars
  | drop =>
    cases other with
    | stream j => simp [text] at hchars
    | drop => rfl

end Colour

namespace ColourTable

variable (table : ColourTable)

/-! ## Counting entries -/

/-- The number of the first entries that have a destination. -/
def occurrencesAmong (n : ℕ) (colour : Colour) : ℕ :=
  ((Finset.range n).filter fun index => table.get? index = some colour).card

/-- The number of entries that have a destination. -/
def occurrences (colour : Colour) : ℕ :=
  table.occurrencesAmong table.entries colour

lemma occurrencesAmong_succ {n : ℕ} (hn : n < table.entries) (colour : Colour) :
    table.occurrencesAmong (n + 1) colour =
      table.occurrencesAmong n colour + if table.get n hn = colour then 1 else 0 := by
  have hget : table.get? n = some colour ↔ table.get n hn = colour := by
    rw [get?, dif_pos hn, Option.some.injEq]
  rw [occurrencesAmong, Finset.range_add_one, Finset.filter_insert]
  by_cases h : table.get n hn = colour
  · rw [if_pos (hget.mpr h), if_pos h]
    exact Finset.card_insert_of_notMem (by simp)
  · rw [if_neg (mt hget.mp h), if_neg h]
    rfl

/-- The tally of the first entries. -/
def tallyFirst (n : ℕ) (hn : n ≤ table.entries) : Array ℕ :=
  Nat.fold n (fun index h counts =>
    counts.modify (table.get index (Nat.lt_of_lt_of_le h hn)).rank (· + 1)) (Array.replicate 257 0)

lemma tallyFirst_succ {n : ℕ} (hn : n < table.entries) :
    table.tallyFirst (n + 1) hn =
      (table.tallyFirst n (Nat.le_of_lt hn)).modify (table.get n hn).rank (· + 1) :=
  Nat.fold_succ _ _ _

lemma size_tallyFirst (n : ℕ) (hn : n ≤ table.entries) : (table.tallyFirst n hn).size = 257 := by
  induction n with
  | zero => exact Array.size_replicate
  | succ n ih => rw [tallyFirst_succ, Array.size_modify, ih]

/-- In the place of a destination stands the number of its entries so far. -/
lemma getD_tallyFirst (n : ℕ) (hn : n ≤ table.entries) (colour : Colour) :
    (table.tallyFirst n hn).getD colour.rank 0 = table.occurrencesAmong n colour := by
  have hrank := colour.rank_lt
  induction n with
  | zero => simp [tallyFirst, occurrencesAmong, hrank]
  | succ n ih =>
    have hsize := table.size_tallyFirst n (Nat.le_of_lt hn)
    have hsame : (table.get n hn).rank = colour.rank ↔ table.get n hn = colour :=
      Colour.rank_injective.eq_iff
    rw [occurrencesAmong_succ _ hn, ← ih (Nat.le_of_lt hn), tallyFirst_succ,
      Array.getD_eq_getD_getElem?, Array.getD_eq_getD_getElem?, Array.getElem?_modify]
    by_cases h : table.get n hn = colour
    · simp [h, hsize, hrank]
    · simp [h, hsame]

lemma getD_tally (colour : Colour) :
    table.tally.getD colour.rank 0 = table.occurrences colour :=
  table.getD_tallyFirst table.entries (Nat.le_refl _) colour

/-! ## The summary -/

/-- Rows that split the entries of a table up by destination: they are in order, each has the number
of entries with its destination, every destination that occurs has one row and the others none, and
together they have all entries. -/
structure Summarised (table : ColourTable) (rows : List (Colour × ℕ)) : Prop where
  ordered : rows.Pairwise fun row later => row.1.Before later.1
  counted : ∀ row ∈ rows, row.2 = table.occurrences row.1
  once : ∀ colour, (rows.map Prod.fst).count colour = if table.occurrences colour = 0 then 0 else 1
  sum_eq : (rows.map Prod.snd).sum = table.entries

/-- The destinations that occur, in order. -/
def occurring : List Colour :=
  Colour.all.filter fun colour => table.occurrences colour ≠ 0

lemma mem_occurring {colour : Colour} :
    colour ∈ table.occurring ↔ table.occurrences colour ≠ 0 := by
  simp [occurring, Colour.mem_all]

lemma pairwise_occurring : table.occurring.Pairwise Colour.Before :=
  Colour.pairwise_all.filter _

lemma nodup_occurring : table.occurring.Nodup :=
  table.pairwise_occurring.imp Colour.Before.ne

/-- The summary lists the destinations that occur, each with the number of its entries. -/
lemma summary_eq :
    table.summary = table.occurring.map fun colour => (colour, table.occurrences colour) := by
  rw [summary, occurring, Colour.all, List.filter_map, List.map_map, ← List.filterMap_eq_map,
    List.filterMap_filter]
  apply List.filterMap_congr
  intro rank hrank
  have hcount := table.getD_tally (Colour.ofRank rank)
  rw [Colour.rank_ofRank (List.mem_range.mp hrank)] at hcount
  rw [hcount]
  by_cases h : table.occurrences (Colour.ofRank rank) = 0 <;> simp [h]

/-- Every entry has one of the destinations that occur. -/
lemma sum_occurring : (table.occurring.map table.occurrences).sum = table.entries := by
  let destination (index : ℕ) : Colour := (table.get? index).getD .drop
  have hget {index : ℕ} (hindex : index ∈ Finset.range table.entries) :
      table.get? index = some (destination index) := by
    simp [destination, get?, Finset.mem_range.mp hindex]
  have hmaps : ∀ index ∈ Finset.range table.entries,
      destination index ∈ table.occurring.toFinset := by
    intro index hindex
    rw [List.mem_toFinset, mem_occurring]
    exact Finset.card_ne_zero_of_mem (Finset.mem_filter.mpr ⟨hindex, hget hindex⟩)
  rw [← List.sum_toFinset _ table.nodup_occurring]
  calc ∑ colour ∈ table.occurring.toFinset, table.occurrences colour
      = ∑ colour ∈ table.occurring.toFinset,
          ((Finset.range table.entries).filter fun index => destination index = colour).card := by
        refine Finset.sum_congr rfl fun colour _ => ?_
        rw [occurrences, occurrencesAmong]
        congr 1
        refine Finset.filter_congr fun index hindex => ?_
        rw [hget hindex, Option.some.injEq]
    _ = (Finset.range table.entries).card := (Finset.card_eq_sum_card_fiberwise hmaps).symm
    _ = table.entries := Finset.card_range _

lemma summarised_summary : table.Summarised table.summary := by
  have hcolours : table.summary.map Prod.fst = table.occurring := by
    rw [summary_eq, List.map_map]
    exact List.map_id _
  refine ⟨?_, fun row hrow => ?_, fun colour => ?_, ?_⟩
  · rw [summary_eq, List.pairwise_map]
    exact table.pairwise_occurring
  · rw [summary_eq] at hrow
    obtain ⟨colour, -, rfl⟩ := List.mem_map.mp hrow
    rfl
  · rw [hcolours, table.nodup_occurring.count]
    simp only [mem_occurring, ne_eq, ite_not]
  · rw [summary_eq, List.map_map]
    exact table.sum_occurring

end ColourTable

/-! ## Keys -/

/-- The keys that a card of a layout can look up, whatever filters they hit. -/
def TableLayout.keys (layout : TableLayout) : Set TableKey :=
  {key | key.interface.toNat < interfaceCount ∧ layout.Reports key.hlb}

lemma TableLayout.injOn_encode (layout : TableLayout) : Set.InjOn layout.encode layout.keys := by
  intro key hkey other hother heq
  rw [← (layout.decode_encode_iff key).mpr hkey, heq, (layout.decode_encode_iff other).mpr hother]

namespace Configuration

variable {config : Configuration}

/-- The keys, with hits by physical slot, that are steered to a stream, or to none. -/
def keysTo (config : Configuration) (slots : SlotMap) (stream? : Option ℕ) : Set TableKey :=
  {key | key ∈ config.layout.keys ∧ config.steer slots key = stream?}

/-- How many keys are steered somewhere does not depend on how hits are renumbered, as long as none
of them is merged with another or lost. -/
lemma encard_keysTo {slots : SlotMap} (h : Function.Bijective slots.toVirtual)
    (stream? : Option ℕ) : (config.keysTo slots stream?).encard =
      {key | key ∈ config.layout.keys ∧ config.steerVirtual key = stream?}.encard := by
  have hinjective : Function.Injective slots.renumber := by
    rintro ⟨hits, interface, hlb⟩ ⟨hits', interface', hlb'⟩ heq
    simp only [SlotMap.renumber, TableKey.mk.injEq] at heq ⊢
    exact ⟨h.injective heq.1, heq.2⟩
  rw [← hinjective.encard_image]
  congr 1
  ext key
  constructor
  · rintro ⟨physical, hphysical, rfl⟩
    exact hphysical
  · rintro ⟨hkey, hsteer⟩
    obtain ⟨hits, hhits⟩ := h.surjective key.filters
    have hback : slots.renumber { key with filters := hits } = key := by
      rw [SlotMap.renumber, hhits]
    refine ⟨{ key with filters := hits }, ⟨hkey, ?_⟩, hback⟩
    rw [steer, hback, hsteer]

lemma Slotted.bijective_toVirtual (h : config.Slotted) :
    Function.Bijective config.slotMap.toVirtual :=
  ⟨h.toVirtual_injective, h.toVirtual_surjective⟩

/-- A colour in the table of a configuration names a stream. -/
lemma Slotted.colourAt_eq_stream_iff (h : config.Slotted) (slots : SlotMap) (index : ℕ)
    (stream : UInt8) : config.colourAt slots index = .stream stream ↔
      config.steer slots (config.layout.decode index) = some stream.toNat := by
  rw [colourAt, steer, h.ofStream?_eq_stream_iff, steerVirtual_eq_some_iff]

lemma colourAt_eq_drop_iff (config : Configuration) (slots : SlotMap) (index : ℕ) :
    config.colourAt slots index = .drop ↔
      config.steer slots (config.layout.decode index) = none := by
  rw [colourAt]
  cases config.steer slots (config.layout.decode index) <;> simp [Colour.ofStream?]

end Configuration

namespace ColourTable

/-- The entries of a built table that have a colour are as many as the keys that are steered
there. -/
lemma occurrences_eq_encard {config : Configuration} (h : config.Slotted) {memory : Memory}
    {table : ColourTable} (hbuilt : build memory config = .ok table) {colour : Colour}
    {stream? : Option ℕ} (hcolour : ∀ index, config.colourAt config.slotMap index = colour ↔
      config.steer config.slotMap (config.layout.decode index) = stream?) :
    (table.occurrences colour : ℕ∞) = (config.keysTo config.slotMap stream?).encard := by
  have hentries : table.entries = config.layout.entries := by
    obtain ⟨fresh, hfresh, rfl⟩ := build_eq_ok_iff.mp hbuilt
    exact (fresh.sameShape_setAll _).2.trans (forConfiguration_shape hfresh).1
  have hindex {index : ℕ} (hlt : index < config.layout.entries) :
      table.get? index = some colour ↔
        config.steer config.slotMap (config.layout.decode index) = stream? := by
    rw [get?_build h hbuilt hlt, Option.some.injEq, hcolour]
  have hinjective : Set.InjOn config.layout.encode (config.keysTo config.slotMap stream?) :=
    config.layout.injOn_encode.mono fun key hkey => hkey.1
  rw [occurrences, occurrencesAmong, hentries, ← Set.encard_coe_eq_coe_finsetCard,
    ← hinjective.encard_image]
  congr 1
  ext index
  rw [Finset.mem_coe, Finset.mem_filter, Finset.mem_range]
  constructor
  · rintro ⟨hlt, hget⟩
    have hback := config.layout.encode_decode index
    rw [Nat.mod_eq_of_lt hlt] at hback
    refine ⟨config.layout.decode index, ⟨?_, (hindex hlt).mp hget⟩, hback⟩
    exact (config.layout.decode_encode_iff _).mp (by rw [hback])
  · rintro ⟨key, ⟨hkey, hsteer⟩, rfl⟩
    have hlt := config.layout.encode_lt_entries key
    rw [← (config.layout.decode_encode_iff key).mpr hkey] at hsteer
    exact ⟨hlt, (hindex hlt).mpr hsteer⟩

/-- **The report of a table splits its entries up.** For every table the report has, below a heading
of three lines, one row for each destination that occurs, streams by increasing number and drop
last, each with the text of the destination, by which it is known, and the number of entries that
have it, and together these numbers make up all entries.  In the table that is built for a reachable
configuration, the entries of a stream are as many as the keys that the configuration steers to it,
be it by its own slot map or by any other that is a permutation of the slots, and so are the entries
of a drop and the keys that are steered nowhere. -/
theorem report_partitions (table : ColourTable) :
    Function.Injective Colour.text ∧
      (∃ rows, table.Summarised rows ∧ table.reportLines = table.reportLines.take 3 ++
        rows.map fun row => .ofCells [row.1.text, toString row.2]) ∧
      ∀ {config : Configuration} {memory : Memory}, config.Reachable →
        build memory config = .ok table →
          Function.Bijective config.slotMap.toVirtual ∧
          ∀ slots : SlotMap, Function.Bijective slots.toVirtual →
            (∀ stream : UInt8, (table.occurrences (.stream stream) : ℕ∞) =
              (config.keysTo slots (some stream.toNat)).encard) ∧
            (table.occurrences .drop : ℕ∞) = (config.keysTo slots none).encard := by
  refine ⟨Colour.text_injective, ⟨_, table.summarised_summary, rfl⟩, fun hreachable hbuilt => ?_⟩
  have h := hreachable.slotted
  refine ⟨h.bijective_toVirtual, fun slots hslots => ⟨fun stream => ?_, ?_⟩⟩
  · rw [occurrences_eq_encard h hbuilt fun index => h.colourAt_eq_stream_iff _ index stream,
      Configuration.encard_keysTo h.bijective_toVirtual, Configuration.encard_keysTo hslots]
  · rw [occurrences_eq_encard h hbuilt (Configuration.colourAt_eq_drop_iff _ _),
      Configuration.encard_keysTo h.bijective_toVirtual, Configuration.encard_keysTo hslots]

/-- In the report of a table built to try things on, the only stream has a row, with the number of
the keys that are steered to it. -/
theorem report_partitions_firstFilter :
    ∃ (table : ColourTable) (rows : List (Colour × ℕ)) (n : ℕ),
      build .addressSpace .firstFilter = .ok table ∧ table.Summarised rows ∧
        (.stream 0, n) ∈ rows ∧
        n = (Configuration.firstFilter.keysTo Configuration.firstFilter.slotMap
          (some 0)).encard := by
  obtain ⟨fresh, hfresh⟩ := exists_forConfiguration_firstFilter
  have hbuilt : build .addressSpace .firstFilter = .ok (fresh.fill .firstFilter) :=
    build_eq_ok_iff.mpr ⟨fresh, hfresh, rfl⟩
  obtain ⟨-, ⟨rows, hrows, -⟩, hkeys⟩ := report_partitions (fresh.fill .firstFilter)
  obtain ⟨hslots, hcounts⟩ := hkeys Configuration.reachable_firstFilter hbuilt
  have hstream := (hcounts _ hslots).1 0
  have hkey : (⟨1, 0, .bits 0⟩ : TableKey) ∈
      Configuration.firstFilter.keysTo Configuration.firstFilter.slotMap (some 0) :=
    ⟨⟨by decide, rfl, by decide⟩, by decide +kernel⟩
  have hoccurs : (fresh.fill .firstFilter).occurrences (.stream 0) ≠ 0 := by
    intro hzero
    rw [hzero] at hstream
    exact Set.encard_ne_zero_of_mem hkey hstream.symm
  have honce := hrows.once (.stream 0)
  rw [if_neg hoccurs] at honce
  obtain ⟨row, hrow, hcolour⟩ := List.mem_map.mp (List.count_pos_iff.mp (Nat.lt_of_lt_of_eq
    Nat.zero_lt_one honce.symm))
  refine ⟨_, rows, row.2, hbuilt, hrows, ?_, ?_⟩
  · rwa [← hcolour]
  · rw [hrows.counted row hrow, hcolour, hstream]
    rfl

end ColourTable

end PacketSteering
