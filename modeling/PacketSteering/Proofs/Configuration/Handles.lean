import Mathlib.Tactic.Common
import PacketSteering.Proofs.Configuration.InPlace
import PacketSteering.Proofs.Loader.Refusal

/-!
# Handles

A configuration hands out partial expressions by handle, and takes handles back from callers that
may have got them elsewhere.  A history (`Configuration.History`) keeps count of the handles that
were issued, through edits with any handles at all and through replacements on a card, whatever the
card answers.

Along every history the handles are in order (`Configuration.Handled`): those that were issued are
the places of the partial expressions, and the streams hold no others.  So no stream ever meets a
handle without a partial expression, which it would read as one that does not hold.  Edits are
refused for handles, streams and values that there are not, and for no other reason
(`Configuration.apply_eq_error_iff`).
-/

namespace PacketSteering

namespace Configuration

/-! ## Histories -/

/-- The handles that an edit of a configuration issues. -/
def Edit.issued (config : Configuration) : Edit → List PartialId
  | .addPartial => [config.addPartial.1]
  | _ => []

/-- The configurations that edits and replacements lead to from a new one with a layout and a number
of streams, with the handles issued on the way, the newest first. -/
inductive History (layout : TableLayout) (streams : ℕ) : List PartialId → Configuration → Prop
  | new {config : Configuration} (h : Configuration.new layout streams = .ok config) :
      History layout streams [] config
  | edit {issued : List PartialId} {config : Configuration}
      (h : History layout streams issued config) (edit : Edit) :
      History layout streams (edit.issued config ++ issued) (config.attempt edit)
  | swap {issued : List PartialId} {config : Configuration}
      (h : History layout streams issued config) {σ : Type} (device : Device σ) (state : σ)
      (memory : Memory) (target : ℕ) :
      History layout streams issued
        ((Loader.swapFilter memory config target).run device state).result.2

variable {layout : TableLayout} {streams : ℕ} {issued : List PartialId} {config : Configuration}

/-- The layout and the number of streams are those that the configuration began with, the handles
that were issued are the places of the partial expressions, none was issued twice, and the streams
hold no others. -/
structure Handled (layout : TableLayout) (streams : ℕ) (issued : List PartialId)
    (config : Configuration) : Prop where
  layout_eq : config.layout = layout
  size_streams : config.streams.size = streams
  mem_issued_iff : ∀ id, id ∈ issued ↔ id.index < config.partials.size
  nodup_issued : issued.Nodup
  member_lt : ∀ expression ∈ config.streams, ∀ id ∈ expression.positive ++ expression.negated,
    id.index < config.partials.size

/-- Handles stay in order in a configuration with partial expressions in the same places and the
same streams. -/
lemma Handled.of_same_places {config' : Configuration} (h : Handled layout streams issued config)
    (hlayout : config'.layout = config.layout)
    (hpartials : config'.partials.size = config.partials.size)
    (hstreams : config'.streams = config.streams) : Handled layout streams issued config' where
  layout_eq := hlayout.trans h.layout_eq
  size_streams := by rw [hstreams, h.size_streams]
  mem_issued_iff id := by rw [hpartials, h.mem_issued_iff]
  nodup_issued := h.nodup_issued
  member_lt := by
    rw [hstreams, hpartials]
    exact h.member_lt

/-- Handles stay in order if one stream is given an expression that holds only handles that were
issued. -/
lemma Handled.setStream (h : Handled layout streams issued config) (index : ℕ)
    {expression : StreamExpression}
    (hmember : ∀ id ∈ expression.positive ++ expression.negated, id.index < config.partials.size) :
    Handled layout streams issued
      { config with streams := config.streams.setIfInBounds index expression } where
  layout_eq := h.layout_eq
  size_streams := by rw [Array.size_setIfInBounds, h.size_streams]
  mem_issued_iff := h.mem_issued_iff
  nodup_issued := h.nodup_issued
  member_lt other hother := by
    rcases Array.mem_or_eq_of_mem_setIfInBounds hother with hold | rfl
    · exact h.member_lt other hold
    · exact hmember

lemma handled_new (h : Configuration.new layout streams = .ok config) :
    Handled layout streams [] config := by
  unfold Configuration.new at h
  split at h
  · cases h
  · cases h
    refine ⟨rfl, Array.size_replicate, fun id => ?_, List.nodup_nil, fun expression hmem => ?_⟩
    · exact iff_of_false List.not_mem_nil (Nat.not_lt_zero _)
    · rw [Array.eq_of_mem_replicate hmem]
      exact fun id hid => absurd hid List.not_mem_nil

/-! ## Edits and replacements -/

lemma Handled.next_notMem (h : Handled layout streams issued config) :
    config.addPartial.1 ∉ issued := by
  rw [h.mem_issued_iff]
  exact Nat.lt_irrefl _

lemma size_addPartial :
    config.addPartial.2.partials.size = config.partials.size + 1 :=
  Array.size_push _

lemma Handled.addPartial (h : Handled layout streams issued config) :
    Handled layout streams (config.addPartial.1 :: issued) config.addPartial.2 where
  layout_eq := h.layout_eq
  size_streams := h.size_streams
  mem_issued_iff id := by
    obtain ⟨place⟩ := id
    have hid : (⟨place⟩ : PartialId) = config.addPartial.1 ↔ place = config.partials.size :=
      iff_of_eq (PartialId.mk.injEq _ _)
    rw [List.mem_cons, hid, h.mem_issued_iff, size_addPartial, Nat.lt_succ_iff_lt_or_eq, or_comm]
  nodup_issued := List.nodup_cons.mpr ⟨h.next_notMem, h.nodup_issued⟩
  member_lt expression hexpression id hid := by
    rw [size_addPartial]
    exact Nat.lt_succ_of_lt (h.member_lt expression hexpression id hid)

/-- A handle with a partial expression is added to a stream with handles that have theirs. -/
lemma Handled.addToStream (h : Handled layout streams issued config) {index : ℕ} {id : PartialId}
    {member : PartialExpression} {expression : StreamExpression}
    (hmember : config.partials[id.index]? = some member)
    (hexpression : config.streams[index]? = some expression) (invert : Bool) :
    Handled layout streams issued
      { config with
        streams := config.streams.setIfInBounds index (expression.add id invert) } := by
  have hid : id.index < config.partials.size := (Array.getElem?_eq_some_iff.mp hmember).1
  have hold := h.member_lt expression (Array.mem_of_getElem? hexpression)
  refine h.setStream index fun other hother => ?_
  have hcases : other ∈ expression.positive ++ expression.negated ∨ other = id := by
    cases invert <;> simpa [StreamExpression.add, or_assoc, or_comm, or_left_comm] using hother
  rcases hcases with hmem | rfl
  · exact hold other hmem
  · exact hid

lemma Handled.edited {config' : Configuration} {edit : Edit}
    (h : Handled layout streams issued config) (hedited : config.Edited edit config') :
    Handled layout streams (edit.issued config ++ issued) config' := by
  cases hedited with
  | enable _ _ | rule _ _ => exact h.of_same_places rfl rfl rfl
  | addPartial => exact h.addPartial
  | term _ _ => exact h.of_same_places rfl Array.size_setIfInBounds rfl
  | addToStream hmember hexpression invert => exact h.addToStream hmember hexpression invert
  | @clearStream index _ _ => exact h.setStream index fun id hid => absurd hid List.not_mem_nil

lemma Handled.attempt (h : Handled layout streams issued config) (edit : Edit) :
    Handled layout streams (edit.issued config ++ issued) (config.attempt edit) := by
  unfold Configuration.attempt
  split
  case h_1 edited hok => exact h.edited (edited_of_apply hok)
  case h_2 fault herror =>
    cases edit with
    | addPartial => cases herror
    | _ => exact h

/-- A replacement moves filters about, and leaves partial expressions and streams alone. -/
lemma Handled.swap (h : Handled layout streams issued config) {σ : Type} (device : Device σ)
    (state : σ) (memory : Memory) (target : ℕ) :
    Handled layout streams issued
      ((Loader.swapFilter memory config target).run device state).result.2 := by
  rcases swapFilter_configuration device state memory config target with heq | ⟨_, _, heq⟩
  · rw [heq]
    exact h
  · rw [heq]
    exact h.of_same_places rfl rfl rfl

/-- **Along every history the handles stay in order.** -/
theorem History.handled (h : History layout streams issued config) :
    Handled layout streams issued config := by
  induction h with
  | new hnew => exact handled_new hnew
  | edit _ edit ih => exact ih.attempt edit
  | swap _ device state memory target ih => exact ih.swap device state memory target

/-! ## Refusals -/

/-- Why an edit is refused: the filter, the partial expression, the value or the stream that it is
about is not there, or the rule of the filter refuses the step.  A handle is looked at before the
value or the stream that comes with it. -/
def Refuses (config : Configuration) : Edit → Fault → Prop
  | .enable slot _, fault => filterCount ≤ slot ∧ fault = .filterSlot slot
  | .rule slot edit, fault =>
    (filterCount ≤ slot ∧ fault = .filterSlot slot) ∨
      ∃ h : slot < filterCount, config.filters[slot].rule.apply edit = .error fault
  | .addPartial, _ => False
  | .term id dim index _, fault =>
    (config.partials.size ≤ id.index ∧ fault = .partialMissing id.index) ∨
      id.index < config.partials.size ∧ dim.size ≤ index ∧ fault = dim.outOfRange index
  | .addToStream index id _, fault =>
    (config.partials.size ≤ id.index ∧ fault = .partialMissing id.index) ∨
      id.index < config.partials.size ∧ config.streams.size ≤ index ∧ fault = .stream index
  | .clearStream index, fault => config.streams.size ≤ index ∧ fault = .stream index

variable {fault : Fault}

/-- A step that is followed by one that always succeeds is refused on its own account. -/
lemma bind_pure_eq_error_iff {α β : Type} {first : Except Fault α} {next : α → β} :
    (first >>= fun value => pure (next value)) = .error fault ↔ first = .error fault := by
  cases first <;> simp [bind, Except.bind, pure, Except.pure]

lemma filter_eq_error_iff {slot : ℕ} :
    config.filter slot = .error fault ↔ filterCount ≤ slot ∧ fault = .filterSlot slot := by
  unfold filter
  by_cases hslot : slot < filterCount
  · simp [hslot, Nat.not_le.mpr hslot]
  · simp [hslot, Nat.not_lt.mp hslot, eq_comm]

lemma modifyFilter_eq_error_iff {slot : ℕ} {change : Filter → Except Fault Filter} :
    config.modifyFilter slot change = .error fault ↔
      (filterCount ≤ slot ∧ fault = .filterSlot slot) ∨
        ∃ h : slot < filterCount, change config.filters[slot] = .error fault := by
  unfold modifyFilter
  by_cases hslot : slot < filterCount
  · rw [dif_pos hslot, bind_pure_eq_error_iff]
    simp [hslot, Nat.not_le.mpr hslot]
  · simp [hslot, Nat.not_lt.mp hslot, eq_comm]

/-- What starts from the partial expression of a handle is refused if there is none, or after it has
been found. -/
lemma partialOf_bind_eq_error_iff {α : Type} {id : PartialId}
    {next : PartialExpression → Except Fault α} :
    config.partialOf id >>= next = .error fault ↔
      (config.partials.size ≤ id.index ∧ fault = .partialMissing id.index) ∨
        ∃ h : id.index < config.partials.size, next config.partials[id.index] = .error fault := by
  rw [partialOf]
  by_cases hid : id.index < config.partials.size
  · simp [hid, Nat.not_le.mpr hid, bind, Except.bind]
  · simp [hid, Nat.not_lt.mp hid, bind, Except.bind, eq_comm]

lemma stream_eq_error_iff {index : ℕ} :
    config.stream index = .error fault ↔ config.streams.size ≤ index ∧ fault = .stream index := by
  rw [stream]
  by_cases hindex : index < config.streams.size
  · simp [hindex, Nat.not_le.mpr hindex]
  · simp [Nat.not_lt.mp hindex, eq_comm]

lemma setTerm_eq_error_iff {expression : PartialExpression} {dim : Dimension} {index : ℕ}
    {term : Term} :
    expression.setTerm dim index term = .error fault ↔
      dim.size ≤ index ∧ fault = dim.outOfRange index := by
  unfold PartialExpression.setTerm
  by_cases hindex : index < dim.size
  · simp [hindex, Nat.not_le.mpr hindex]
  · simp [hindex, Nat.not_lt.mp hindex, eq_comm]

/-- **Edits are refused for what is not there, and for no other reason.** -/
theorem apply_eq_error_iff (config : Configuration) (edit : Edit) (fault : Fault) :
    config.apply edit = .error fault ↔ config.Refuses edit fault := by
  cases edit with
  | enable slot enabled =>
    rw [Configuration.apply, setEnabled, modifyFilter_eq_error_iff, Refuses]
    refine or_iff_left fun hok => ?_
    obtain ⟨_, hok⟩ := hok
    cases hok
  | rule slot edit =>
    rw [Configuration.apply, editRule, modifyFilter_eq_error_iff, Refuses]
    simp only [bind_pure_eq_error_iff]
  | addPartial => exact iff_of_false (fun hok => by cases hok) id
  | term id dim index term =>
    rw [Configuration.apply, setTerm, partialOf_bind_eq_error_iff, Refuses]
    simp only [bind_pure_eq_error_iff, setTerm_eq_error_iff, exists_prop]
  | addToStream index id invert =>
    rw [Configuration.apply, addToStream, partialOf_bind_eq_error_iff, Refuses]
    simp only [bind_pure_eq_error_iff, stream_eq_error_iff, exists_prop]
  | clearStream index =>
    rw [Configuration.apply, clearStream, bind_pure_eq_error_iff, stream_eq_error_iff, Refuses]

/-! ## Handles and refusals along a history -/

/-- A handle that is in range is looked up as it was once there is one more. -/
lemma partialOf_addPartial {id : PartialId} (hid : id.index < config.partials.size) :
    config.addPartial.2.partialOf id = config.partialOf id := by
  have hpush : config.addPartial.2.partials[id.index]? = config.partials[id.index]? :=
    Array.getElem?_push_lt .. |>.trans (Array.getElem?_eq_getElem hid).symm
  rw [partialOf, partialOf, hpush]

lemma partialOf_next : config.addPartial.2.partialOf config.addPartial.1 = .ok .blank :=
  partialOf_eq_ok_iff.mpr Array.getElem?_push_size

/-- A member of a stream is a partial expression that is there, and holds if that does. -/
lemma Handled.exists_member (h : Handled layout streams issued config)
    {expression : StreamExpression} (hexpression : expression ∈ config.streams) {id : PartialId}
    (hid : id ∈ expression.positive ++ expression.negated) :
    ∃ member, config.partials[id.index]? = some member ∧
      ∀ key, StreamExpression.memberHolds config.partials key id = member.holds key := by
  have hmember := Array.getElem?_eq_getElem (h.member_lt expression hexpression id hid)
  refine ⟨_, hmember, fun key => ?_⟩
  rw [StreamExpression.memberHolds, hmember]

/-- An edit that is made in place and refused is refused for what is not there, and leaves the
configuration as it was. -/
lemma InPlace.perform_eq_error_iff (config : Configuration) (edit : Edit) (fault : Fault) :
    (perform (apply edit) config).1 = .error fault ↔ config.Refuses edit fault := by
  rw [perform_apply, settled_eq_error_iff, apply_eq_error_iff]

lemma InPlace.perform_of_refuses {edit : Edit} (h : config.Refuses edit fault) :
    perform (apply edit) config = (.error fault, config) := by
  rw [perform_apply, (apply_eq_error_iff config edit fault).mpr h, settled]

lemma swapFilter_of_error {σ : Type} (device : Device σ) (state : σ) (memory : Memory) {target : ℕ}
    {failure : Failure}
    (h : ((Loader.swapFilter memory config target).run device state).result.1 = .error failure) :
    ((Loader.swapFilter memory config target).run device state).result.2 = config := by
  rcases swapFilter_result device state memory config target with
    ⟨_, hresult⟩ | ⟨_, _, summary, hresult⟩
  · rw [hresult]
  · rw [hresult] at h
    cases h

/-- **Handles stay valid, and what is refused changes nothing.** Along every history the layout and
the number of streams stay what they were, every handle that a stream holds has its partial
expression, and a new handle is one that was never issued and leaves the others what they stand for.
A filter is looked up if there is such a slot.  An edit made in place is refused exactly for what is
not there, and an edit or a replacement that is refused leaves the whole configuration as it was. -/
theorem handles_stay_valid (h : History layout streams issued config) :
    (config.layout = layout ∧ config.streams.size = streams) ∧
      (∀ expression ∈ config.streams, ∀ id ∈ expression.positive ++ expression.negated,
        id.index < config.partials.size ∧
          ∃ member, config.partials[id.index]? = some member ∧
            ∀ key, StreamExpression.memberHolds config.partials key id = member.holds key) ∧
      (issued.Nodup ∧ (∀ id, id ∈ issued ↔ id.index < config.partials.size) ∧
        InPlace.perform InPlace.issue config = (.ok config.addPartial.1, config.addPartial.2) ∧
        config.addPartial.1 ∉ issued ∧
        config.addPartial.2.partialOf config.addPartial.1 = .ok .blank ∧
        ∀ id ∈ issued, config.addPartial.2.partialOf id = config.partialOf id) ∧
      (∀ slot fault, config.filter slot = .error fault ↔
        filterCount ≤ slot ∧ fault = .filterSlot slot) ∧
      (∀ edit fault,
        let left := InPlace.perform (InPlace.apply edit) config
        left.2 = config.attempt edit ∧
          (left.1 = .error fault ↔ config.Refuses edit fault) ∧
          (left.1 = .error fault → left.2 = config)) ∧
      ∀ {σ : Type} (device : Device σ) (state : σ) (memory : Memory) (target : ℕ),
        let run := ((Loader.Attempt.swapFilter memory target).perform config).run device state
        run = (Loader.swapFilter memory config target).run device state ∧
          ∀ failure, run.result.1 = .error failure → run.result.2 = config := by
  have hhandled := h.handled
  refine ⟨⟨hhandled.layout_eq, hhandled.size_streams⟩, fun expression hexpression id hid => ?_,
    ⟨hhandled.nodup_issued, hhandled.mem_issued_iff, InPlace.perform_issue config,
      hhandled.next_notMem, partialOf_next, fun id hid => ?_⟩,
    fun slot fault => filter_eq_error_iff, fun edit fault => ?_, ?_⟩
  · exact ⟨hhandled.member_lt expression hexpression id hid,
      hhandled.exists_member hexpression hid⟩
  · exact partialOf_addPartial ((hhandled.mem_issued_iff id).mp hid)
  · refine ⟨?_, InPlace.perform_eq_error_iff config edit fault, fun herror => ?_⟩
    · rw [InPlace.perform_apply, InPlace.settled_apply]
    · rw [InPlace.perform_of_refuses ((InPlace.perform_eq_error_iff config edit fault).mp herror)]
  · intro σ device state memory target
    rw [Loader.Attempt.perform_swapFilter]
    exact ⟨rfl, fun failure => swapFilter_of_error device state memory⟩

/-! ## A history with strange handles -/

/-- Edits that invert the first partial expression in a stream, with attempts in between to do so
with a handle that was never issued and in a stream that there is not. -/
def Edit.inverted : List Edit :=
  [.addToStream 7 ⟨9⟩ true, .addPartial, .addToStream 0 ⟨9⟩ true, .addToStream 7 ⟨0⟩ true,
    .term ⟨0⟩ .filter 8 .assert, .addToStream 0 ⟨0⟩ true, .clearStream 7]

/-- A classic configuration whose only stream excludes a partial expression that never holds, and so
gets everything. -/
def inverted : Configuration :=
  Edit.inverted.foldl attempt
    ⟨.classic, Vector.ofFn fun slot => Filter.blank slot, #[], Array.replicate 1 .never⟩

lemma history_inverted : History .classic 1 [⟨0⟩] inverted := by
  have hnew : Configuration.new .classic 1 = .ok _ := rfl
  exact (((((((History.new hnew).edit (.addToStream 7 ⟨9⟩ true)).edit .addPartial).edit
    (.addToStream 0 ⟨9⟩ true)).edit (.addToStream 7 ⟨0⟩ true)).edit
      (.term ⟨0⟩ .filter 8 .assert)).edit (.addToStream 0 ⟨0⟩ true)).edit (.clearStream 7)

/-- After a history with strange handles a stream holds the one handle that was issued, and another
one is still refused before the stream is looked at. -/
theorem handles_stay_valid_foreignHandle :
    History .classic 1 [⟨0⟩] inverted ∧ inverted.streams = #[⟨[], [⟨0⟩]⟩] ∧
      (∃ member, inverted.partials[0]? = some member ∧
        ∀ key, StreamExpression.memberHolds inverted.partials key ⟨0⟩ = member.holds key) ∧
      inverted.addPartial.1 = ⟨1⟩ ∧
      InPlace.perform (InPlace.apply (.addToStream 7 ⟨9⟩ true)) inverted =
        (.error (.partialMissing 9), inverted) ∧
      InPlace.perform (InPlace.apply (.addToStream 7 ⟨0⟩ true)) inverted =
        (.error (.stream 7), inverted) ∧
      InPlace.perform (InPlace.apply (.term ⟨0⟩ .filter 8 .assert)) inverted =
        (.error (.filterSlot 8), inverted) := by
  obtain ⟨-, hmembers, -, -, hedits, -⟩ := handles_stay_valid history_inverted
  have hstreams : inverted.streams = #[⟨[], [⟨0⟩]⟩] := by decide
  have hstream : ⟨[], [⟨0⟩]⟩ ∈ inverted.streams := by
    rw [hstreams]
    exact Array.mem_singleton_self _
  have hrefused {edit : Edit} {fault : Fault} (h : inverted.Refuses edit fault) :
      InPlace.perform (InPlace.apply edit) inverted = (.error fault, inverted) := by
    obtain ⟨-, hiff, hkept⟩ := hedits edit fault
    exact Prod.ext (hiff.mpr h) (hkept (hiff.mpr h))
  have hforeign : inverted.partials.size ≤ 9 := by decide
  have hissued : 0 < inverted.partials.size := by decide
  have hseven : inverted.streams.size ≤ 7 := by decide
  exact ⟨history_inverted, hstreams, (hmembers _ hstream ⟨0⟩ (List.mem_singleton_self _)).2, rfl,
    hrefused (Or.inl ⟨hforeign, rfl⟩), hrefused (Or.inr ⟨hissued, hseven, rfl⟩),
    hrefused (Or.inr ⟨hissued, Nat.le_refl _, rfl⟩)⟩

end Configuration

end PacketSteering
