import Mathlib.Tactic.Common
import PacketSteering.Proofs.Loader.Exchange

/-!
# Calls that are refused

A load can only be refused the memory for its table, and a replacement that or the slot that it is
asked to replace.  All of it is known before the card is touched: a call that is refused has made
no access, left no message and changed no configuration, and once a call has made its first access
it succeeds (`Loader.AllOrNothing`).

A replacement looks filters up again and changes the configuration in the middle of its work, where
being refused would leave the card half way.  `Loader.Attempt.swapFilter` spells these steps out as
ones that can fail.  None of them does, so that it is the same program as `Loader.swapFilter`
(`Loader.Attempt.perform_swapFilter`).
-/

namespace PacketSteering

/-! ## Allocating the table -/

namespace Configuration

variable {config : Configuration}

/-- The width of an entry is always one that a table can have. -/
lemma Slotted.entryBits_mem (h : config.Slotted) : 2 ≤ config.entryBits ∧ config.entryBits ≤ 8 :=
  ⟨config.layout.two_le_entryBits _, config.layout.entryBits_le h.streams_le⟩

/-- The bytes of a table for the configuration. -/
def tableBytes (config : Configuration) : ℕ :=
  2 * rowCount config.layout.entries config.entryBits

/-- The memory refuses a table for the configuration, and the failure says so. -/
def NoMemory (config : Configuration) (memory : Memory) (failure : Failure) : Prop :=
  memory.grants config.tableBytes = false ∧ failure = .fault (.noMemory config.tableBytes)

lemma Slotted.tableBytes_lt (h : config.Slotted) : config.tableBytes < UInt64.size := by
  obtain ⟨htwo, height⟩ := h.entryBits_mem
  have hrows : rowCount config.layout.entries config.entryBits ≤ config.layout.entries :=
    ColourTable.rowCount_le (Nat.lt_of_lt_of_le (by decide) htwo) (Nat.le_trans height (by decide))
  have hentries := config.layout.entries_le
  have hsize : UInt64.size = 2 ^ 64 := rfl
  rw [tableBytes]
  omega

/-- The table of a configuration is refused only for want of memory, and the bytes that are
reported are those of the table. -/
lemma Slotted.forConfiguration_eq_error_iff (h : config.Slotted) {memory : Memory}
    {failure : Failure} :
    ColourTable.forConfiguration memory config = .error failure ↔
      config.NoMemory memory failure := by
  obtain ⟨htwo, height⟩ := h.entryBits_mem
  exact ColourTable.alloc_eq_error_iff (Nat.lt_of_lt_of_le (by decide) htwo)
    (Nat.le_trans height (by decide)) h.tableBytes_lt

end Configuration

namespace Loader

open Program Channel

variable {memory : Memory} {config : Configuration} {target : ℕ}

/-! ## Replacements step by step -/

/-- Steps that access the card, work on a configuration, and can fail at any point. -/
abbrev Attempt : Type → Type :=
  ExceptT Failure (StateT Configuration Program)

namespace Attempt

variable {α β : Type}

/-- The program of an attempt that starts from a configuration.  One that fails leaves the
configuration as it is at that point. -/
def perform (attempt : Attempt α) (config : Configuration) :
    Program (Except Failure α × Configuration) :=
  attempt.run.run config

/-- Looks up the filter of a virtual slot. -/
def lookup (slot : ℕ) : Attempt Filter := do
  match (← get).filter slot with
  | .ok filter => return filter
  | .error fault => throw (.fault fault)

/-- Allocates a table of the shape that the configuration needs. -/
def allocate (memory : Memory) : Attempt ColourTable := do
  match ColourTable.forConfiguration memory (← get) with
  | .ok table => return table
  | .error failure => throw failure

/-- Chooses whether the filter of a virtual slot should be enabled. -/
def setEnabled (slot : ℕ) (enabled : Bool) : Attempt Unit := do
  match (← get).setEnabled slot enabled with
  | .ok changed => set changed
  | .error fault => throw (.fault fault)

/-- Exchanges something between the swap slot and another slot. -/
def exchange (change : Configuration → Fin filterCount → Fin filterCount → Configuration)
    (target : ℕ) : Attempt Unit :=
  modify fun config =>
    if h : target < filterCount then change config swapFin ⟨target, h⟩ else config

/-- Replaces the rule of a slot by the staged one, looking filters up and changing the configuration
where the work calls for it. -/
def swapFilter (memory : Memory) (target : ℕ) : Attempt LoadSummary := do
  if target = swapSlot then throw (.fault (.swapTarget target))
  let _ ← lookup target
  let table ← allocate memory
  let active ← activeBank
  let summary := LoadSummary.start active
  let current := table.fill (← get)
  let _ ← publish current
  let staged ← lookup swapSlot
  let staging := staged.physicalSlot
  disable staging
  writeFilter staging staged.rule.pattern
  enable staging
  log .note s!"swap: staged {staged.text}"
  exchange Configuration.swapPhysical target
  let bank ← publish (current.fill (← get))
  let retired := (← lookup swapSlot).physicalSlot
  disable retired
  exchange Configuration.exchangeRules target
  setEnabled target true
  setEnabled swapSlot false
  log .note s!"swap: filter {target} now on hw {staging}, hw {retired} retired"
  return { summary with rewritten := 1, disabled := 1, untouched := filterCount - 2, bank }

/-! ### What the steps do -/

lemma perform_bind (attempt : Attempt α) (following : α → Attempt β) (config : Configuration) :
    (attempt >>= following).perform config = attempt.perform config >>= fun outcome =>
      match outcome with
      | (.ok result, config) => (following result).perform config
      | (.error failure, config) => pure (.error failure, config) := by
  refine congrArg (attempt.perform config >>= ·) (funext fun outcome => ?_)
  obtain ⟨result | failure, config⟩ := outcome <;> rfl

lemma perform_pure (result : α) (config : Configuration) :
    (pure result : Attempt α).perform config = pure (.ok result, config) := rfl

lemma perform_throw (failure : Failure) (config : Configuration) :
    (throw failure : Attempt α).perform config = pure (.error failure, config) := rfl

lemma perform_get (config : Configuration) :
    (get : Attempt Configuration).perform config = pure (.ok config, config) := rfl

lemma perform_lift (program : Program α) (config : Configuration) :
    (liftM program : Attempt α).perform config =
      program >>= fun result => pure (.ok result, config) :=
  LawfulMonad.bind_assoc program _ _

/-- The slots of the card can be looked up in every configuration. -/
lemma perform_lookup {slot : ℕ} (hslot : slot < filterCount) (config : Configuration) :
    (lookup slot).perform config = pure (.ok (config.filters.get ⟨slot, hslot⟩), config) := by
  simp only [lookup, perform_bind, perform_get, Configuration.filter, dif_pos hslot, pure_bind]
  rfl

lemma perform_allocate (memory : Memory) (config : Configuration) :
    (allocate memory).perform config =
      pure (ColourTable.forConfiguration memory config, config) := by
  simp only [allocate, perform_bind, perform_get, pure_bind]
  cases ColourTable.forConfiguration memory config <;> rfl

lemma perform_exchange
    (change : Configuration → Fin filterCount → Fin filterCount → Configuration)
    (htarget : target < filterCount) (config : Configuration) :
    (exchange change target).perform config =
      pure (.ok (), change config swapFin ⟨target, htarget⟩) := by
  have hmodify : (exchange change target).perform config = pure (.ok (),
      if h : target < filterCount then change config swapFin ⟨target, h⟩ else config) := rfl
  rw [hmodify, dif_pos htarget]

lemma perform_setEnabled {slot : ℕ} {enabled : Bool} {config changed : Configuration}
    (hok : config.setEnabled slot enabled = .ok changed) :
    (setEnabled slot enabled).perform config = pure (.ok (), changed) := by
  simp only [setEnabled, perform_bind, perform_get, pure_bind, hok]
  rfl

/-- Once the exchanges are made, the target can be enabled and the swap slot disabled. -/
lemma exists_setEnabled (config : Configuration) {target : Fin filterCount}
    (htarget : target ≠ swapFin) :
    ∃ enabled, ((config.swapPhysical swapFin target).exchangeRules swapFin target).setEnabled
        target true = .ok enabled ∧
      enabled.setEnabled swapSlot false = .ok (config.replaced target) := by
  have hne : target.val ≠ swapSlot := fun heq => htarget (Fin.ext heq)
  have hswap : swapSlot < filterCount := swapFin.isLt
  refine ⟨_, dif_pos target.isLt, ?_⟩
  rw [Configuration.setEnabled, Configuration.modifyFilter, dif_pos hswap]
  simp only [Vector.getElem_set_ne target.isLt hswap hne]
  rfl

/-- **A replacement never fails half way.** Looking filters up again and changing the configuration
between the accesses always succeeds. -/
theorem perform_swapFilter (memory : Memory) (config : Configuration) (target : ℕ) :
    (swapFilter memory target).perform config = Loader.swapFilter memory config target := by
  rw [swapFilter, Loader.swapFilter]
  by_cases hswap : target = swapSlot
  · rw [if_pos hswap, if_pos hswap]
    rfl
  rw [if_neg hswap, if_neg hswap]
  by_cases htarget : target < filterCount
  · rw [dif_pos htarget]
    cases htable : ColourTable.forConfiguration memory config with
    | error failure =>
      simp only [perform_bind, perform_pure, perform_lookup htarget, perform_allocate, htable,
        pure_bind]
    | ok table =>
      have hne : (⟨target, htarget⟩ : Fin filterCount) ≠ swapFin := fun heq =>
        hswap (congrArg Fin.val heq)
      have hstaged : swapSlot < filterCount := swapFin.isLt
      obtain ⟨_, hon, hoff⟩ := exists_setEnabled config hne
      simp only [perform_bind, perform_pure, perform_lookup htarget, perform_lookup hstaged,
        perform_allocate, htable, perform_get, perform_lift, perform_exchange _ htarget,
        perform_setEnabled hon, perform_setEnabled hoff, performSwap, pure_bind,
        LawfulMonad.bind_assoc]
      rfl
  · rw [dif_neg htarget]
    simp only [perform_bind, perform_pure, perform_get, perform_throw, lookup, Configuration.filter,
      dif_neg htarget, pure_bind]

end Attempt

/-! ## All or nothing -/

/-- A call on a watched device either fails, for one of the reasons that there are and before it has
done anything, or succeeds. -/
structure AllOrNothing {σ α : Type} (start : σ) (run : Run (σ × Trace) α)
    (outcome : Except Failure LoadSummary) (reason : Failure → Prop) : Prop where
  fails_iff : ∀ failure, outcome = .error failure ↔ reason failure
  untouched : ∀ failure, outcome = .error failure → run.state = (start, #[]) ∧ run.log = #[]
  succeeds : run.state.2 ≠ #[] → ∃ summary, outcome = .ok summary

section

variable {σ α : Type} {start : σ} {run : Run (σ × Trace) α} {outcome : Except Failure LoadSummary}
  {reason : Failure → Prop}

/-- A call that does nothing but fail, for the one reason that there is. -/
lemma AllOrNothing.refused {value : α} {cause : Failure} (hrun : run = ⟨value, (start, #[]), #[]⟩)
    (houtcome : outcome = .error cause) (hreason : ∀ failure, reason failure ↔ failure = cause) :
    AllOrNothing start run outcome reason where
  fails_iff failure := by
    rw [houtcome, hreason, Except.error.injEq, eq_comm]
  untouched _ _ := by
    rw [hrun]
    exact ⟨rfl, rfl⟩
  succeeds htouched := by
    rw [hrun] at htouched
    exact absurd rfl htouched

/-- A call that succeeds, and has no reason to fail. -/
lemma AllOrNothing.granted {summary : LoadSummary} (houtcome : outcome = .ok summary)
    (hreason : ∀ failure, ¬ reason failure) : AllOrNothing start run outcome reason where
  fails_iff failure := by
    rw [houtcome]
    exact iff_of_false (fun herror => by cases herror) (hreason failure)
  untouched failure herror := by
    rw [houtcome] at herror
    cases herror
  succeeds _ := ⟨summary, houtcome⟩

end

/-- Why a replacement can fail: its target is the swap slot, its target is no slot of the card, or
the memory for the table is refused. -/
inductive SwapRefused (memory : Memory) (config : Configuration) (target : ℕ) : Failure → Prop
  | swapSlot (htarget : target = swapSlot) :
      SwapRefused memory config target (.fault (.swapTarget target))
  | noSlot (htarget : filterCount ≤ target) :
      SwapRefused memory config target (.fault (.filterSlot target))
  | noMemory {failure : Failure} (htarget : target < PacketSteering.swapSlot)
      (hmemory : config.NoMemory memory failure) : SwapRefused memory config target failure

lemma load_of_noMemory (h : config.Slotted) {failure : Failure}
    (hmemory : config.NoMemory memory failure) : load memory config = pure (.error failure) := by
  rw [load, h.forConfiguration_eq_error_iff.mpr hmemory]

lemma swapFilter_of_refused (h : config.Slotted) {failure : Failure}
    (hrefused : SwapRefused memory config target failure) :
    swapFilter memory config target = pure (.error failure, config) := by
  cases hrefused with
  | swapSlot htarget => exact if_pos htarget
  | noSlot htarget =>
    have hne : target ≠ swapSlot := Nat.ne_of_gt (Nat.lt_of_lt_of_le swapFin.isLt htarget)
    rw [swapFilter, if_neg hne, dif_neg (Nat.not_lt.mpr htarget)]
  | noMemory htarget hmemory =>
    have hslot : target < filterCount := Nat.lt_succ_of_lt htarget
    rw [swapFilter, if_neg (Nat.ne_of_lt htarget), dif_pos hslot,
      h.forConfiguration_eq_error_iff.mpr hmemory]

/-- There is at most one reason to refuse a replacement. -/
lemma SwapRefused.unique (h : config.Slotted) {failure failure' : Failure}
    (hrefused : SwapRefused memory config target failure)
    (hrefused' : SwapRefused memory config target failure') : failure = failure' := by
  have heq := (swapFilter_of_refused h hrefused).symm.trans (swapFilter_of_refused h hrefused')
  exact Except.error.inj (congrArg Prod.fst (Program.done.inj heq))

/-- A replacement that nothing refuses has a slot to replace and the memory for its table. -/
lemma granted_of_not_refused (hgranted : ∀ failure, ¬ SwapRefused memory config target failure) :
    target < swapSlot ∧ memory.grants config.tableBytes = true := by
  rcases Nat.lt_trichotomy target swapSlot with hlt | heq | hgt
  · refine ⟨hlt, ?_⟩
    by_contra hrefused
    exact hgranted _ (.noMemory hlt ⟨Bool.eq_false_of_not_eq_true hrefused, rfl⟩)
  · exact absurd (.swapSlot heq) (hgranted _)
  · exact absurd (.noSlot hgt) (hgranted _)

section

variable {σ : Type} (h : config.Slotted) (device : Device σ) (start : σ)

include h

lemma load_allOrNothing (memory : Memory) :
    let run := (load memory config).run device.watched (start, #[])
    AllOrNothing start run run.result (config.NoMemory memory) := by
  intro run
  cases hgrants : memory.grants config.tableBytes with
  | false =>
    have hmemory : config.NoMemory memory (.fault (.noMemory config.tableBytes)) := ⟨hgrants, rfl⟩
    have hrun : run = ⟨.error (.fault (.noMemory config.tableBytes)), (start, #[]), #[]⟩ := by
      simp only [run, load_of_noMemory h hmemory, run_pure]
    refine .refused hrun (congrArg Run.result hrun) fun failure => ?_
    exact and_iff_right hgrants
  | true =>
    obtain ⟨table, htable⟩ := ColourTable.exists_forConfiguration h hgrants
    have hok : ∃ summary, run.result = .ok summary := by
      simp only [run, load, htable, run_bind_result, run_pure]
      exact ⟨_, rfl⟩
    obtain ⟨summary, hsummary⟩ := hok
    refine .granted hsummary fun failure hmemory => ?_
    exact absurd hmemory.1 (by rw [hgrants]; decide)

lemma swapFilter_allOrNothing (memory : Memory) (target : ℕ) :
    let run := (swapFilter memory config target).run device.watched (start, #[])
    AllOrNothing start run run.result.1 (SwapRefused memory config target) ∧
      ∀ failure, run.result.1 = .error failure → run.result.2 = config := by
  intro run
  by_cases hrefused : ∃ failure, SwapRefused memory config target failure
  · obtain ⟨cause, hcause⟩ := hrefused
    have hrun : run = ⟨(.error cause, config), (start, #[]), #[]⟩ := by
      simp only [run, swapFilter_of_refused h hcause, run_pure]
    refine ⟨.refused hrun (congrArg (Prod.fst ∘ Run.result) hrun) fun failure => ?_, fun _ _ => ?_⟩
    · exact ⟨fun hfailure => hfailure.unique h hcause, fun heq => heq ▸ hcause⟩
    · rw [hrun]
  · obtain ⟨htarget, hgrants⟩ := granted_of_not_refused (not_exists.mp hrefused)
    obtain ⟨summary, after, hok⟩ :=
      exists_swapFilter h memory hgrants device.watched (start, #[]) htarget
    have hsummary : run.result.1 = .ok summary := congrArg Prod.fst hok
    refine ⟨.granted hsummary (not_exists.mp hrefused), fun failure herror => ?_⟩
    rw [hsummary] at herror
    cases herror

end

/-- **A call fails before it has done anything, or not at all.** Whatever the device answers, a load
fails exactly if the memory refuses its table, and a replacement exactly if it does so or the target
is the swap slot or no slot of the card; the width of an entry is never in the way.  A call that
fails has read and written no register, left no message and changed no configuration, and one that
has made an access succeeds.  In particular nothing in the middle of a replacement that could fail
ever does. -/
theorem fails_only_untouched (h : config.Reachable) {σ : Type} (device : Device σ) (start : σ)
    (memory : Memory) :
    2 ≤ config.entryBits ∧ config.entryBits ≤ 8 ∧
      (let run := (load memory config).run device.watched (start, #[])
       AllOrNothing start run run.result (config.NoMemory memory)) ∧
      ∀ target : ℕ,
        let run := (swapFilter memory config target).run device.watched (start, #[])
        AllOrNothing start run run.result.1 (SwapRefused memory config target) ∧
          (∀ failure, run.result.1 = .error failure → run.result.2 = config) ∧
            (Attempt.swapFilter memory target).perform config =
              swapFilter memory config target := by
  have hslotted := h.slotted
  obtain ⟨htwo, height⟩ := hslotted.entryBits_mem
  refine ⟨htwo, height, load_allOrNothing hslotted device start memory, fun target => ?_⟩
  obtain ⟨hall, hconfig⟩ := swapFilter_allOrNothing hslotted device start memory target
  exact ⟨hall, hconfig, Attempt.perform_swapFilter memory config target⟩

/-- Memory for one byte less than the table of the first filter takes. -/
def oneByteShort : Memory :=
  .ofLimit 1023 (by decide)

/-- With memory for one byte less than the table of the first filter takes, a load and a replacement
of a slot are refused before they access the card. -/
theorem fails_only_untouched_firstFilter :
    ∃ memory : Memory, memory.grants 1023 = true ∧
      (let run := (load memory .firstFilter).run Device.silent.watched ((), #[])
       run.result = .error (.fault (.noMemory 1024)) ∧ run.state = ((), #[]) ∧ run.log = #[]) ∧
      (let run := (swapFilter memory .firstFilter 2).run Device.silent.watched ((), #[])
       run.result = (.error (.fault (.noMemory 1024)), .firstFilter) ∧ run.state = ((), #[])) ∧
      ((swapFilter memory .firstFilter 7).run Device.silent.watched ((), #[])).result.1 =
        .error (.fault (.swapTarget 7)) ∧
      ((swapFilter memory .firstFilter 8).run Device.silent.watched ((), #[])).result.1 =
        .error (.fault (.filterSlot 8)) := by
  obtain ⟨-, -, hload, hswap⟩ :=
    fails_only_untouched Configuration.reachable_firstFilter Device.silent () oneByteShort
  have hbytes : Configuration.firstFilter.tableBytes = 1024 := by decide
  have hmemory : Configuration.firstFilter.NoMemory oneByteShort (.fault (.noMemory 1024)) := by
    rw [Configuration.NoMemory, hbytes]
    exact ⟨by decide, rfl⟩
  have hloadError := (hload.fails_iff _).mpr hmemory
  obtain ⟨hstate, hlog⟩ := hload.untouched _ hloadError
  obtain ⟨hall, hconfig, -⟩ := hswap 2
  have hswapError := (hall.fails_iff _).mpr (.noMemory (by decide) hmemory)
  exact ⟨oneByteShort, by decide, ⟨hloadError, hstate, hlog⟩,
    ⟨Prod.ext hswapError (hconfig _ hswapError), (hall.untouched _ hswapError).1⟩,
    ((hswap 7).1.fails_iff _).mpr (.swapSlot rfl),
    ((hswap 8).1.fails_iff _).mpr (.noSlot (Nat.le_refl _))⟩

end Loader

end PacketSteering
