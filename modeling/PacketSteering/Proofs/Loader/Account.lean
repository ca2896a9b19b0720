import PacketSteering.Proofs.Configuration.SlotMap
import PacketSteering.Proofs.Loader.Unrelated
import PacketSteering.Proofs.Register.Messages

/-!
# What a load reports

A load leaves three accounts of what it did to the slots: the counts of its summary, the events in
the journal of the card, and its messages.  What really happened to a slot is told by its enable bit
and its content at the start and at the end (`CardState.fate`), and all three accounts are functions
of that alone: `LoadSummary.count`, `Fate.events` and `Fate.message?`.

Bringing one filter in line accounts for the fate of its slot (`CardState.account_syncFilter`).  As
no other filter touches this slot, its fate between the start and the end of the whole load is the
same, and so the accounts of the filters add up (`CardState.account_syncFilters`).  The fates in
turn are the least that brings the card in step with the configuration (`Loader.fate_load`).
-/

namespace PacketSteering

open Program Channel

/-! ## Fates -/

/-- What becomes of a slot. -/
inductive Fate
  /-- The slot was on, and is off with the same content. -/
  | disabled
  /-- The content of the slot, which was on or was not, has changed. -/
  | rewritten (live : Bool)
  /-- The slot was off, and is on with the same content. -/
  | enabled
  | untouched
  deriving DecidableEq

namespace Fate

/-- The events that a slot meets its fate by. -/
def events (slot : ℕ) : Fate → List Event
  | disabled => [.filterDisable slot]
  | rewritten live =>
    (if live then [.filterDisable slot] else []) ++ [.filterWrite slot false, .filterEnable slot]
  | enabled => [.filterEnable slot]
  | untouched => []

/-- The message about the slot of a filter that meets its fate. -/
def message? (filter : Filter) : Fate → Option Log.Message
  | disabled => some ⟨.warn, s!"disabled {filter.text}"⟩
  | rewritten _ => some ⟨.note, s!"rewrote {filter.text}"⟩
  | enabled => some ⟨.note, s!"enabled {filter.text}"⟩
  | untouched => none

end Fate

/-- The summary with one more slot that has met its fate. -/
def LoadSummary.count (summary : LoadSummary) : Fate → LoadSummary
  | .disabled => { summary with disabled := summary.disabled + 1 }
  | .rewritten _ => { summary with rewritten := summary.rewritten + 1 }
  | .enabled => { summary with enabled := summary.enabled + 1 }
  | .untouched => { summary with untouched := summary.untouched + 1 }

/-! ## Counts -/

/-- Whether a slot got other content. -/
def Fate.isRewritten : Fate → Bool
  | rewritten _ => true
  | _ => false

namespace LoadSummary

/-- The number of slots in a summary. -/
def total (summary : LoadSummary) : ℕ :=
  summary.disabled + summary.rewritten + summary.enabled + summary.untouched

lemma total_count (summary : LoadSummary) (fate : Fate) :
    (summary.count fate).total = summary.total + 1 := by
  cases fate <;> simp only [count, total] <;> omega

lemma total_foldl_count (fates : List Fate) (summary : LoadSummary) :
    (fates.foldl count summary).total = summary.total + fates.length := by
  induction fates generalizing summary with
  | nil => rfl
  | cons fate rest ih =>
    rw [List.foldl_cons, ih, total_count, List.length_cons]
    omega

/-- A summary counts each fate. -/
lemma foldl_count (fates : List Fate) (summary : LoadSummary) :
    fates.foldl count summary =
      ⟨summary.disabled + fates.countP (· = .disabled),
        summary.rewritten + fates.countP Fate.isRewritten,
        summary.enabled + fates.countP (· = .enabled),
        summary.untouched + fates.countP (· = .untouched), summary.bank⟩ := by
  induction fates generalizing summary with
  | nil => rfl
  | cons fate rest ih =>
    rw [List.foldl_cons, ih]
    cases fate <;>
      simp [count, Fate.isRewritten, List.countP_cons, Nat.add_assoc, Nat.add_comm 1]

end LoadSummary

namespace CardState

/-- What becomes of a slot between two states. -/
def fate (start final : CardState) (slot : ℕ) : Fate :=
  if final.slots[slot]? ≠ start.slots[slot]? then .rewritten (start.isEnabled slot)
  else if start.isEnabled slot = final.isEnabled slot then .untouched
  else if final.isEnabled slot then .enabled
  else .disabled

/-- The fate of a slot is told by how it is programmed at the start and at the end. -/
lemma fate_congr {start start' final final' : CardState} {slot : ℕ}
    (hstart : start'.programmed slot = start.programmed slot)
    (hfinal : final'.programmed slot = final.programmed slot) :
    start'.fate final' slot = start.fate final slot := by
  obtain ⟨hstartOn, hstartHeld⟩ := Prod.mk.inj hstart
  obtain ⟨hfinalOn, hfinalHeld⟩ := Prod.mk.inj hfinal
  rw [fate, fate, hstartOn, hstartHeld, hfinalOn, hfinalHeld]

variable {start final : CardState} {slot : ℕ}

lemma fate_eq_untouched (hheld : final.slots[slot]? = start.slots[slot]?)
    (hsame : start.isEnabled slot = final.isEnabled slot) : start.fate final slot = .untouched := by
  rw [fate, if_neg (not_not.mpr hheld), if_pos hsame]

lemma fate_eq_enabled (hheld : final.slots[slot]? = start.slots[slot]?)
    (hoff : start.isEnabled slot = false) (hon : final.isEnabled slot = true) :
    start.fate final slot = .enabled := by
  rw [fate, if_neg (not_not.mpr hheld), hoff, hon, if_neg Bool.false_ne_true, if_pos rfl]

lemma fate_eq_disabled (hheld : final.slots[slot]? = start.slots[slot]?)
    (hon : start.isEnabled slot = true) (hoff : final.isEnabled slot = false) :
    start.fate final slot = .disabled := by
  rw [fate, if_neg (not_not.mpr hheld), hoff, hon, if_neg Bool.false_ne_true.symm,
    if_neg Bool.false_ne_true]

lemma fate_eq_rewritten (hheld : final.slots[slot]? ≠ start.slots[slot]?) :
    start.fate final slot = .rewritten (start.isEnabled slot) :=
  if_pos hheld

/-- The fates, told by the enable bit and the content of a slot that is on if its content has
changed. -/
lemma fate_kinds (hon : final.slots[slot]? ≠ start.slots[slot]? → final.isEnabled slot = true) :
    decide (start.fate final slot = .disabled) =
        (start.isEnabled slot && !final.isEnabled slot) ∧
      (start.fate final slot).isRewritten = decide (final.slots[slot]? ≠ start.slots[slot]?) ∧
      decide (start.fate final slot = .enabled) =
        (decide (final.slots[slot]? = start.slots[slot]?) &&
          (!start.isEnabled slot && final.isEnabled slot)) ∧
      decide (start.fate final slot = .untouched) =
        decide (final.programmed slot = start.programmed slot) := by
  by_cases hheld : final.slots[slot]? = start.slots[slot]?
  · cases hstart : start.isEnabled slot <;> cases hfinal : final.isEnabled slot <;>
      simp [fate, programmed, Fate.isRewritten, hheld, hstart, hfinal]
  · simp [fate, programmed, Fate.isRewritten, hheld, hon hheld]

/-! ## Events -/

/-- Writing a slot anew is recorded as its fate says. -/
lemma records_rewrite (state : CardState) (hslot : slot < filterCount) (pattern : Pattern) :
    Journal.Records (((rewrite slot pattern).writeSteps device state).flatMap WriteStep.events)
      ((Fate.rewritten (state.isEnabled slot)).events slot) := by
  have hoff := state.isEnabled_off_self hslot
  obtain ⟨⟨address, hwritten⟩, -⟩ := (state.off slot).run_writeFilter hslot pattern
  obtain ⟨n, hn, hwrites⟩ := (state.off slot).events_writeFilter hslot pattern
  have henable := events_enable (((state.off slot).putSlot slot (.ofPattern pattern)).latch address)
    hslot hoff
  have hevents : ((rewrite slot pattern).writeSteps device state).flatMap WriteStep.events =
      (if state.isEnabled slot then [.filterDisable slot] else []) ++
        (List.replicate n (.filterWrite slot false) ++ [.filterEnable slot]) := by
    rw [rewrite]
    simp only [writeSteps_bind, run_disable, hwritten, List.flatMap_append, hwrites, henable,
      state.events_disable hslot, hoff]
  rw [hevents, Fate.events]
  refine .append ?_ (.burst rfl rfl hn)
  split
  · exact .single rfl
  · exact .nil

/-! ## One filter -/

/-- The result, the messages and the events of bringing a filter in line, which takes a card from
one state to another, account for what becomes of the slot of the filter. -/
structure Accounts (start : CardState) (filter : Filter) (summary : LoadSummary)
    (final : CardState) (result : LoadSummary) (log : Array Log.Message) (events : List Event) :
    Prop where
  result_eq : result = summary.count (start.fate final filter.physicalSlot)
  log_eq : log.toList = ((start.fate final filter.physicalSlot).message? filter).toList
  records : Journal.Records events
    ((start.fate final filter.physicalSlot).events filter.physicalSlot)
  on_of_rewritten : ∀ live, start.fate final filter.physicalSlot = .rewritten live →
    final.isEnabled filter.physicalSlot = true

section

variable {state : CardState} {filter : Filter} {summary : LoadSummary}

lemma Accounts.untouched {now : CardState} (hnow : state.Addressing now) :
    state.Accounts filter summary now (summary.count .untouched) #[] [] := by
  have hfate : state.fate now filter.physicalSlot = .untouched := by
    obtain ⟨address, rfl⟩ := hnow
    exact fate_eq_untouched rfl rfl
  constructor <;> rw [hfate]
  · rfl
  · exact .nil
  · nofun

variable (hslot : filter.physicalSlot < filterCount)

include hslot

lemma Accounts.disabled (hlive : state.isEnabled filter.physicalSlot = true) :
    state.Accounts filter summary (state.off filter.physicalSlot) (summary.count .disabled)
      #[⟨.warn, s!"disabled {filter.text}"⟩]
      (((disable filter.physicalSlot).writeSteps device state).flatMap WriteStep.events) := by
  have hfate : state.fate (state.off filter.physicalSlot) filter.physicalSlot = .disabled :=
    fate_eq_disabled rfl hlive (state.isEnabled_off_self hslot)
  constructor <;> rw [hfate]
  · rfl
  · rw [state.events_disable hslot, if_pos hlive]
    exact .single rfl
  · nofun

lemma Accounts.enabled (hoff : state.isEnabled filter.physicalSlot = false) (address : UInt32) :
    let read := state.latch address
    state.Accounts filter summary (read.on filter.physicalSlot) (summary.count .enabled)
      #[⟨.note, s!"enabled {filter.text}"⟩]
      (((enable filter.physicalSlot).writeSteps device read).flatMap WriteStep.events) := by
  intro read
  have hfate : state.fate (read.on filter.physicalSlot) filter.physicalSlot = .enabled :=
    fate_eq_enabled rfl hoff (read.isEnabled_on_self hslot)
  constructor <;> rw [hfate]
  · rfl
  · rw [read.events_enable hslot hoff]
    exact .single rfl
  · nofun

lemma Accounts.rewritten (hdiffers : filter.rule.pattern ≠
      state.slots[filter.physicalSlot].toPattern) (address : UInt32) :
    state.Accounts filter summary
      ((rewrite filter.physicalSlot filter.rule.pattern).run device (state.latch address)).state
      (summary.count (.rewritten (state.isEnabled filter.physicalSlot)))
      #[⟨.note, s!"rewrote {filter.text}"⟩]
      (((rewrite filter.physicalSlot filter.rule.pattern).writeSteps device
        (state.latch address)).flatMap WriteStep.events) := by
  obtain ⟨-, hon, -, -⟩ := (state.latch address).run_rewrite hslot filter.rule.pattern
  have hrecords := (state.latch address).records_rewrite hslot filter.rule.pattern
  rw [isEnabled_latch] at hrecords
  have hfate := fate_eq_rewritten (state.slots_rewrite_ne (state.latch address) hslot hdiffers)
  constructor <;> rw [hfate]
  · rfl
  · exact hrecords
  · exact fun _ _ => hon

/-- Whichever way is taken, what is counted, told and recorded accounts for what becomes of the
slot. -/
lemma SyncWay.accounts {result : LoadSummary} {log : Array Log.Message} {done : Program Unit}
    (way : state.SyncWay summary filter hslot result log done) :
    state.Accounts filter summary (done.run device state).state result log
      ((done.writeSteps device state).flatMap WriteStep.events) := by
  obtain ⟨-, ⟨address, hread⟩, -⟩ := state.run_readFilter hslot
  have hreads := state.events_readFilter filter.physicalSlot
  cases way with
  | idle _ _ =>
    rw [run_pure, writeSteps_pure]
    exact .untouched ⟨state.filterAddress, rfl⟩
  | disabled _ hlive =>
    rw [run_disable]
    exact .disabled hslot hlive
  | untouched _ _ _ =>
    simp only [run_bind_state, run_pure, writeSteps_bind, writeSteps_pure, List.append_nil, hread,
      hreads]
    exact .untouched ⟨address, rfl⟩
  | enabled _ _ hoff =>
    rw [run_bind_state, run_enable, writeSteps_bind, List.flatMap_append, hreads, List.nil_append,
      hread]
    exact .enabled hslot hoff address
  | rewritten _ hdiffers =>
    rw [run_bind_state, writeSteps_bind, List.flatMap_append, hreads, List.nil_append, hread]
    exact .rewritten hslot hdiffers address

/-- Bringing a filter in line accounts for what becomes of its slot. -/
theorem account_syncFilter (state : CardState) (summary : LoadSummary) :
    state.Accounts filter summary ((Loader.syncFilter summary filter).run device state).state
      ((Loader.syncFilter summary filter).run device state).result
      ((Loader.syncFilter summary filter).run device state).log
      (((Loader.syncFilter summary filter).writeSteps device state).flatMap WriteStep.events) := by
  obtain ⟨result, log, done, way, hrun, hsteps⟩ := state.syncFilter_way summary hslot
  rw [hrun, hsteps]
  exact way.accounts hslot

end

/-! ## All filters -/

/-- The filters, each with what becomes of its slot. -/
def account (start final : CardState) (filters : List Filter) : List (Filter × Fate) :=
  filters.map fun filter => (filter, start.fate final filter.physicalSlot)

lemma account_congr {start start' final final' : CardState} {filters : List Filter}
    (hstart : ∀ filter ∈ filters,
      start'.programmed filter.physicalSlot = start.programmed filter.physicalSlot)
    (hfinal : ∀ filter ∈ filters,
      final'.programmed filter.physicalSlot = final.programmed filter.physicalSlot) :
    start'.account final' filters = start.account final filters :=
  List.map_congr_left fun filter hfilter => by
    rw [fate_congr (hstart filter hfilter) (hfinal filter hfilter)]

/-- Bringing filters in line accounts for what becomes of their slots between the start and the end
of it all. -/
theorem account_syncFilters {filters : List Filter}
    (hslots : ∀ filter ∈ filters, filter.physicalSlot < filterCount)
    (hdistinct : (filters.map Filter.physicalSlot).Nodup) (start : CardState)
    (summary : LoadSummary) :
    let program := fold Loader.syncFilter summary filters
    let run := program.run device start
    let entries := start.account run.state filters
    run.result = (entries.map Prod.snd).foldl LoadSummary.count summary ∧
      run.log.toList = entries.flatMap (fun entry => (entry.2.message? entry.1).toList) ∧
      Journal.Records ((program.writeSteps device start).flatMap WriteStep.events)
        (entries.flatMap fun entry => entry.2.events entry.1.physicalSlot) ∧
      ∀ entry ∈ entries, ∀ live, entry.2 = .rewritten live →
        run.state.isEnabled entry.1.physicalSlot = true := by
  intro program run entries
  induction filters generalizing start summary with
  | nil => exact ⟨rfl, rfl, .nil, fun entry hentry => absurd hentry List.not_mem_nil⟩
  | cons filter rest ih =>
    have hfold : program =
      Loader.syncFilter summary filter >>= fun summary => fold Loader.syncFilter summary rest := rfl
    rw [List.map_cons, List.nodup_cons] at hdistinct
    obtain ⟨hfirst, hdistinct⟩ := hdistinct
    have hslot := hslots filter List.mem_cons_self
    have hrest : ∀ other ∈ rest, other.physicalSlot < filterCount :=
      fun other hother => hslots other (List.mem_cons_of_mem _ hother)
    have hline := start.run_syncFilter summary hslot
    have haccounts := start.account_syncFilter hslot summary
    simp only [entries, run, hfold, run_bind_result, run_bind_state, run_bind_log, writeSteps_bind,
      List.flatMap_append, Array.toList_append]
    generalize (Loader.syncFilter summary filter).writeSteps device start = steps at *
    generalize (Loader.syncFilter summary filter).run device start = middle at *
    obtain ⟨hresult, hlog, hrecords, hon⟩ := ih hrest hdistinct middle.state middle.result
    obtain ⟨hsettled, -⟩ := between_syncFilters hrest hdistinct middle.state middle.result
    generalize (fold Loader.syncFilter middle.result rest).writeSteps device middle.state = later
      at *
    generalize (fold Loader.syncFilter middle.result rest).run device middle.state = final at *
    -- The slot of the first filter is settled in the middle, and the others have not changed.
    have hfinal := hsettled filter.physicalSlot hslot hfirst
    have hunchanged : ∀ other ∈ rest, middle.state.programmed other.physicalSlot =
        start.programmed other.physicalSlot := fun other hother =>
      hline.updating.programmed_eq (hrest other hother) fun heq =>
        hfirst (heq ▸ List.mem_map_of_mem hother)
    have hentries : start.account final.state (filter :: rest) =
        (filter, start.fate middle.state filter.physicalSlot) ::
          middle.state.account final.state rest := by
      rw [account_congr hunchanged fun _ _ => rfl, account, List.map_cons, fate_congr rfl hfinal]
      rfl
    rw [hentries, List.map_cons, List.foldl_cons, List.flatMap_cons, List.flatMap_cons,
      ← haccounts.result_eq, ← haccounts.log_eq, hlog]
    refine ⟨hresult, rfl, haccounts.records.append hrecords, ?_⟩
    intro entry hentry live hlive
    rcases List.mem_cons.mp hentry with rfl | hlater
    · rw [(Prod.mk.inj hfinal).1]
      exact haccounts.on_of_rewritten live hlive
    · exact hon entry hlater live hlive

lemma log_publish (state : CardState) (table : ColourTable) :
    ((Loader.publish table).run device state).log =
      #[⟨.note, s!"colour table live in bank {state.activeBank.other.text}"⟩] := by
  simp only [Loader.publish, run_bind_log, run_activeBank_result, run_pure,
    silent_activeBank.run_log, (silent_writeTable _ _).run_log, (silent_setActiveBank _).run_log,
    run_log_log, Array.empty_append, Array.append_empty]

end CardState

/-! ## The load -/

namespace Loader

open CardState

variable {memory : Memory} {config : Configuration} {table : ColourTable} {state : CardState}

lemma log_load (state : CardState) (htable : ColourTable.forConfiguration memory config = .ok table)
    {sync : Run CardState LoadSummary}
    (hsync : (fold syncFilter (.start state.activeBank) config.filters.toList).run
      CardState.device state = sync) :
    ((load memory config).run CardState.device state).log =
      sync.log ++ #[⟨.note, s!"colour table live in bank {sync.state.activeBank.other.text}"⟩] := by
  simp only [← hsync, load, htable, run_bind_log, run_activeBank_result, run_activeBank_state,
    run_pure, silent_activeBank.run_log, log_publish, Array.empty_append, Array.append_empty]

/-- A load whose memory is granted accounts for what becomes of the slots. -/
theorem account_load (h : config.Slotted) (hshape : state.Shaped config)
    (htable : ColourTable.forConfiguration memory config = .ok table) :
    let program := load memory config
    let run := program.run CardState.device state
    let entries := state.account run.state config.filters.toList
    let bank := state.activeBank.other
    run.result = .ok
        { (entries.map Prod.snd).foldl LoadSummary.count (.start state.activeBank) with bank } ∧
      run.log.toList = entries.flatMap (fun entry => (entry.2.message? entry.1).toList) ++
        [⟨.note, s!"colour table live in bank {bank.text}"⟩] ∧
      Journal.Records ((program.writeSteps CardState.device state).flatMap WriteStep.events)
        (entries.flatMap (fun entry => entry.2.events entry.1.physicalSlot) ++
          [.colourWrite bank false, .bankFlip bank]) ∧
      (∀ slot < filterCount, run.state.slots[slot]? ≠ state.slots[slot]? →
        run.state.isEnabled slot = true) ∧
      run.state.activeBank = bank ∧
      run.state.bank state.activeBank = state.bank state.activeBank := by
  intro program run entries bank
  obtain ⟨hresult, hstate, hsteps, hfits, hsize⟩ := run_load_eq h hshape htable
  have hlog := log_load state htable rfl
  obtain ⟨hsynced, -⟩ := run_syncFilters h.placed state (.start state.activeBank)
  obtain ⟨hcounts, hmessages, hrecords, hon⟩ :=
    account_syncFilters h.placed.slot_lt h.nodup_physical state (.start state.activeBank)
  generalize (fold syncFilter (.start state.activeBank) config.filters.toList).writeSteps
    CardState.device state = syncs at *
  generalize (fold syncFilter (.start state.activeBank) config.filters.toList).run
    CardState.device state = sync at *
  have hactive := hsynced.activeBank_eq
  have hpublish := sync.state.events_publish hfits hsize
  have hentries : entries = state.account sync.state config.filters.toList := by
    refine account_congr (fun _ _ => rfl) fun filter hfilter => ?_
    rw [hstate, programmed_published _ _ (h.placed.slot_lt filter hfilter)]
  rw [hactive] at hresult hlog hpublish
  rw [← hentries] at hcounts hmessages hrecords hon
  refine ⟨?_, ?_, ?_, ?_, ?_, ?_⟩
  · rw [hresult, hcounts]
  · rw [hlog, Array.toList_append, hmessages]
  · rw [hsteps, List.flatMap_append, hpublish]
    exact hrecords.append (.burst rfl rfl (size_rows_fill_pos htable))
  · intro slot hslot hheld
    obtain ⟨v, rfl⟩ := h.exists_physical hslot
    have hentry : (config.filters.get v, state.fate run.state (config.physical v)) ∈ entries :=
      List.mem_map_of_mem (Configuration.mem_filters.mpr ⟨v, rfl⟩)
    have hsyncedOn := hon _ hentry _ (fate_eq_rewritten hheld)
    rw [hstate, isEnabled_published _ _ hslot]
    exact hsyncedOn
  · rw [hstate, activeBank_published, hactive]
  · rw [hstate, bank_published, hactive, if_neg (Ne.symm (Bank.other_ne _)), hsynced.bank_eq]

/-- The fates of the filters' slots are those of the slots of the card. -/
lemma countP_account (h : config.Slotted) (start final : CardState) (kind : Fate → Bool) :
    ((start.account final config.filters.toList).map Prod.snd).countP kind =
      (List.range filterCount).countP fun slot => kind (start.fate final slot) := by
  have hslots : (start.account final config.filters.toList).map Prod.snd =
      (config.filters.toList.map Filter.physicalSlot).map (start.fate final) := by
    rw [account, List.map_map, List.map_map]
    rfl
  rw [hslots, List.countP_map]
  exact h.map_physicalSlot_perm.countP_eq _

/-- A load does to a slot the least that brings it in step with its filter. -/
lemma fate_load (h : config.Slotted) (hshape : state.Shaped config) (hfit : state.TerminationsFit)
    {summary : LoadSummary}
    (hok : ((load memory config).run CardState.device state).result = .ok summary)
    (v : Fin filterCount) :
    let filter := config.filters.get v
    let final := ((load memory config).run CardState.device state).state
    state.fate final filter.physicalSlot =
      if filter.enabled then
        if state.slots[filter.physicalSlot]? ≠ some (.ofPattern filter.rule.pattern) then
          .rewritten (state.isEnabled filter.physicalSlot)
        else if state.isEnabled filter.physicalSlot then .untouched
        else .enabled
      else if state.isEnabled filter.physicalSlot then .disabled
      else .untouched := by
  intro filter final
  obtain ⟨table, htable⟩ := exists_forConfiguration_of_load hok
  obtain ⟨-, -, -, hchanged, -, -⟩ := account_load h hshape htable
  obtain ⟨-, -, hstep⟩ := load_inStep h hshape hfit hok
  have hsame : final.isEnabled filter.physicalSlot = filter.enabled := (hstep v).isEnabled_eq
  cases henabled : filter.enabled with
  | true =>
    have hheld : final.slots[filter.physicalSlot]? = some (.ofPattern filter.rule.pattern) :=
      (hstep v).holds henabled
    rw [fate, hheld, hsame, henabled, if_pos rfl, if_pos rfl]
    simp only [ne_comm]
  | false =>
    have hheld : final.slots[filter.physicalSlot]? = state.slots[filter.physicalSlot]? := by
      by_contra hdiffers
      have hon := hchanged _ (h.physical_lt v) hdiffers
      exact Bool.false_ne_true (henabled.symm.trans (hsame.symm.trans hon))
    rw [fate, if_neg (not_not.mpr hheld), hsame, henabled, if_neg Bool.false_ne_true,
      if_neg Bool.false_ne_true]
    cases state.isEnabled filter.physicalSlot <;> rfl

/-- **A load reports what it did, and does no more.** After a load that succeeds, of a card in
whatever state, the summary counts the slots that were on and are off, those of which the content
has changed, those that were off and are on with the same content, and those that are as they were,
which are all; it names the bank that was not active and now is, and the other bank is as it was.
From an empty log the events are those of the fates of the slots, in the order of the filters that
they carry, and then one burst of writes to the bank and the flip; and the messages tell the same
fates in the same order, and then the bank. -/
theorem load_reports (hreachable : config.Reachable) {card : Card}
    (hshape : card.state.Shaped config) {summary : LoadSummary}
    (hok : ((load memory config).run Card.device card).result = .ok summary) :
    let start := card.state
    let run := (load memory config).run Card.device card
    let cleared := (load memory config).run Card.device card.clearEvents
    let final := run.state.state
    let slots := List.range filterCount
    let filters := config.filters.toList
    summary.disabled =
        slots.countP (fun slot => start.isEnabled slot && !final.isEnabled slot) ∧
      summary.rewritten =
        slots.countP (fun slot => final.slots[slot]? ≠ start.slots[slot]?) ∧
      summary.enabled =
        slots.countP (fun slot => decide (final.slots[slot]? = start.slots[slot]?) &&
          (!start.isEnabled slot && final.isEnabled slot)) ∧
      summary.untouched =
        slots.countP (fun slot => final.programmed slot = start.programmed slot) ∧
      summary.disabled + summary.rewritten + summary.enabled + summary.untouched = filterCount ∧
      summary.bank = start.activeBank.other ∧ final.activeBank = summary.bank ∧
      final.bank start.activeBank = start.bank start.activeBank ∧
      filters.map Filter.virtualSlot = slots ∧
      cleared.state.journal.events.toList =
        filters.flatMap (fun filter =>
            (start.fate final filter.physicalSlot).events filter.physicalSlot) ++
          [.colourWrite summary.bank false, .bankFlip summary.bank] ∧
      run.log.toList =
        filters.flatMap (fun filter =>
            ((start.fate final filter.physicalSlot).message? filter).toList) ++
          [⟨.note, s!"colour table live in bank {summary.bank.text}"⟩] := by
  have h := hreachable.slotted
  rw [← Card.projects.run_result] at hok
  obtain ⟨table, htable⟩ := exists_forConfiguration_of_load hok
  obtain ⟨hresult, hlog, hrecords, hon, hactive, hother⟩ := account_load h hshape htable
  intro start run cleared final slots filters
  have hfinal : ((load memory config).run CardState.device card.state).state = final :=
    Card.projects.run_state _ _
  have hrunLog : ((load memory config).run CardState.device card.state).log = run.log :=
    Card.projects.run_log _ _
  rw [hfinal] at hresult hlog hrecords hon hactive hother
  rw [hrunLog] at hlog
  have hsummary := Except.ok.inj (hok.symm.trans hresult)
  have hbank : summary.bank = start.activeBank.other := by rw [hsummary]
  have htotal : summary.total = filterCount := by
    have hlength : ((start.account final filters).map Prod.snd).length = filterCount := by
      simp [account, filters]
    rw [← hlength, hsummary]
    exact (LoadSummary.total_foldl_count _ _).trans (Nat.zero_add _)
  have hkinds : ∀ slot ∈ slots, _ := fun slot hslot =>
    fate_kinds (hon slot (List.mem_range.mp hslot))
  rw [LoadSummary.foldl_count] at hsummary
  simp only [LoadSummary.start, Nat.zero_add, countP_account h] at hsummary
  refine ⟨?_, ?_, ?_, ?_, htotal, hbank, ?_, hother, h.map_virtualSlot, ?_, ?_⟩
  · rw [hsummary]
    exact List.countP_congr fun slot hslot => by rw [(hkinds slot hslot).1]
  · rw [hsummary]
    exact List.countP_congr fun slot hslot => by rw [(hkinds slot hslot).2.1]
  · rw [hsummary]
    exact List.countP_congr fun slot hslot => by rw [(hkinds slot hslot).2.2.1]
  · rw [hsummary]
    exact List.countP_congr fun slot hslot => by rw [(hkinds slot hslot).2.2.2]
  · rw [hactive, hbank]
  · have hcleared : card.clearEvents.journal.events = #[] := Journal.events_observe _ _ _
    have hevents := Card.events_run (load memory config) card.clearEvents
    have hrecorded := (hrecords #[] Journal.closed_empty).1
    rw [hcleared] at hevents
    rw [Array.empty_append, account, List.flatMap_map] at hrecorded
    rw [hbank]
    exact congrArg Array.toList (hevents.trans hrecorded)
  · rw [hlog, hbank, account, List.flatMap_map]

/-- The card with slots 0 and 3 on, every slot zero and the first bank active. -/
def withTwoSlotsOn (card : Card) : Card :=
  { card with state := { card.state with slots := Vector.replicate _ .zero, control := 9 } }

/-- Slots 0 and 3 of a card are on and every slot is zero: the first filter needs slot 0 rewritten,
and slot 3 is switched off. -/
theorem load_reports_firstFilter :
    ∃ (card : Card) (summary : LoadSummary),
      let run := (load .addressSpace .firstFilter).run Card.device card
      let cleared := (load .addressSpace .firstFilter).run Card.device card.clearEvents
      run.result = .ok summary ∧ summary.bank = .b ∧
        summary.disabled + summary.rewritten + summary.enabled + summary.untouched = 8 ∧
        cleared.state.journal.events.toList =
          [.filterDisable 0, .filterWrite 0 false, .filterEnable 0, .filterDisable 3,
            .colourWrite .b false, .bankFlip .b] ∧
        run.log.toList =
          [⟨.note, "rewrote filter 0 (hw 0) on: any"⟩, ⟨.warn, "disabled filter 3 (hw 3) off: any"⟩,
            ⟨.note, "colour table live in bank B"⟩] := by
  have h := Configuration.reachable_firstFilter.slotted
  obtain ⟨table, htable⟩ := ColourTable.exists_forConfiguration_firstFilter
  obtain ⟨fresh, -, -, hfresh, -, -⟩ := exists_loaded_firstFilter
  set card := withTwoSlotsOn fresh with hcard
  have hshape : card.state.Shaped .firstFilter := hfresh.of_bank_eq rfl rfl
  have hzero : ∀ slot < filterCount, card.state.slots[slot]? = some .zero := fun slot hslot => by
    rw [Vector.getElem?_eq_getElem hslot]
    exact congrArg some (Vector.getElem_replicate hslot)
  have hon : ∀ slot < filterCount, card.state.isEnabled slot = decide (slot = 0 ∨ slot = 3) :=
    (by decide : ∀ slot < filterCount,
      ((9 : UInt32) &&& Register.bitOn slot != 0) = decide (slot = 0 ∨ slot = 3))
  have hother : card.state.activeBank.other = .b :=
    (by decide : (Bank.ofBit ((9 : UInt32) &&& Register.controlBankBit != 0)).other = .b)
  have hfit : card.state.TerminationsFit := fun slot hslot => by
    simp [hcard, withTwoSlotsOn, CardSlot.zero]
  obtain ⟨⟨summary, hok⟩, -⟩ := run_load h hshape htable
  have hfate := fate_load h hshape hfit hok
  rw [Card.projects.run_result] at hok
  rw [Card.projects.run_state] at hfate
  obtain ⟨-, -, -, -, htotal, hbank, -, -, -, hevents, hlog⟩ :=
    load_reports Configuration.reachable_firstFilter hshape hok
  generalize ((load .addressSpace .firstFilter).run Card.device card).state.state = final at *
  have hfilters : ∀ v, Configuration.firstFilter.filters.get v =
      { Filter.blank v with enabled := decide (v.val = 0) } := by decide
  have hany : CardSlot.zero ≠ .ofPattern Rule.any.pattern := fun heq =>
    absurd (congrArg CardSlot.termination heq) (by decide)
  have hfates : ∀ filter ∈ Configuration.firstFilter.filters.toList,
      card.state.fate final filter.physicalSlot =
        if filter.physicalSlot = 0 then .rewritten true
        else if filter.physicalSlot = 3 then .disabled else .untouched := fun filter hfilter => by
    have hslot := h.placed.slot_lt filter hfilter
    obtain ⟨v, rfl⟩ := Configuration.mem_filters.mp hfilter
    rw [hfate v, hzero _ hslot, hon _ hslot, hfilters v]
    by_cases hv : v.val = 0
    · simp [Filter.blank, hv, hany]
    · by_cases hthree : v.val = 3 <;> simp [Filter.blank, hv, hthree]
  refine ⟨card, summary, hok, hbank.trans hother, htotal, ?_, ?_⟩
  · rw [hevents, hbank, hother,
      List.flatMap_congr fun filter hfilter => by rw [hfates filter hfilter]]
    rfl
  · rw [hlog, hbank, hother,
      List.flatMap_congr fun filter hfilter => by rw [hfates filter hfilter]]
    rfl

end Loader

end PacketSteering
