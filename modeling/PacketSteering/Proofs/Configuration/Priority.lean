import PacketSteering.Proofs.Configuration.Steering

/-!
# Priority of streams

The first stream that accepts a packet gets it, so a change of one stream's expression cannot be
felt by the streams before it.  It need not be felt behind it either: a stream that has members
accepts less once another one is added, required or excluded, and a stream that is cleared accepts
nothing, so in both cases a packet of another stream stays where it is and a packet that leaves goes
to a later stream or is dropped (`edits_confined_by_priority`).  An empty expression never holds,
which makes the first member the one exception: it widens its stream (`steer_of_first_member`).

All of this is read off what the streams accept before and after.  An edit of one stream leaves the
others as they are (`SameElsewhere`), and if in addition the stream itself accepts no more than
before (`NarrowedAt`), every packet is accounted for (`NarrowedAt.givesWay`).  Both relations hold
along any number of edits.
-/

namespace PacketSteering

/-! ## Members -/

lemma StreamExpression.isEmpty_add (expression : StreamExpression) (id : PartialId)
    (invert : Bool) : (expression.add id invert).isEmpty = false := by
  cases invert <;> simp [add, isEmpty]

/-- Adding a member narrows an expression by the verdict on the member; an empty expression, which
does not hold, takes the verdict for its own. -/
lemma StreamExpression.holdsVirtual_add (expression : StreamExpression) (id : PartialId)
    (invert : Bool) (partials : Array PartialExpression) (key : TableKey) :
    (expression.add id invert).holdsVirtual partials key =
      ((expression.isEmpty || expression.holdsVirtual partials key) &&
        (memberHolds partials key id != invert)) := by
  have hverdict : (expression.isEmpty || expression.holdsVirtual partials key) =
      (expression.positive.all (memberHolds partials key) &&
        !expression.negated.any (memberHolds partials key)) := by
    obtain ⟨positive, negated⟩ := expression
    cases positive <;> cases negated <;> simp [isEmpty, holdsVirtual]
  rw [hverdict, holdsVirtual, isEmpty_add]
  cases invert with
  | false => simp [add, Bool.and_right_comm]
  | true => simp [add, Bool.and_assoc]

namespace Configuration

variable {config edited : Configuration} {j : ℕ}

/-! ## What an edit of a stream does -/

/-- The edits that change the expression of a stream. -/
def Edit.OnStream (j : ℕ) : Edit → Prop
  | addToStream stream _ _ => stream = j
  | clearStream stream => stream = j
  | _ => False

/-- The configuration with the expression of a stream replaced. -/
def withStream (config : Configuration) (j : ℕ) (expression : StreamExpression) : Configuration :=
  { config with streams := config.streams.setIfInBounds j expression }

lemma accepts_withStream_of_ne {expression : StreamExpression} {key : TableKey} {i : ℕ}
    (hne : i ≠ j) : (config.withStream j expression).Accepts key i ↔ config.Accepts key i := by
  rw [Accepts, Accepts, withStream, Array.getElem?_setIfInBounds_ne hne.symm]

lemma accepts_withStream_self {expression old : StreamExpression} {key : TableKey}
    (hj : config.streams[j]? = some old) :
    (config.withStream j expression).Accepts key j ↔
      expression.holdsVirtual config.partials key = true := by
  obtain ⟨hlt, -⟩ := Array.getElem?_eq_some_iff.mp hj
  simp [Accepts, withStream, hlt]

/-- A member that there is is added to a stream that there is. -/
lemma attempt_addToStream {id : PartialId} {member : PartialExpression}
    (hmember : config.partials[id.index]? = some member) {expression : StreamExpression}
    (hexpression : config.streams[j]? = some expression) (invert : Bool) :
    config.attempt (.addToStream j id invert) =
      config.withStream j (expression.add id invert) := by
  simp only [Configuration.attempt, Configuration.apply, addToStream, partialOf, stream, hmember,
    hexpression]
  rfl

/-- Without the member or the stream nothing changes. -/
lemma attempt_addToStream_of_missing {id : PartialId}
    (hmissing : config.partials[id.index]? = none ∨ config.streams[j]? = none) (invert : Bool) :
    config.attempt (.addToStream j id invert) = config := by
  simp only [Configuration.attempt, Configuration.apply, addToStream, partialOf, stream]
  cases hmember : config.partials[id.index]? with
  | none => rfl
  | some member =>
    rw [hmember] at hmissing
    rw [hmissing.resolve_left (by simp)]
    rfl

/-- Clearing a stream leaves it without members; one that there is not is left out. -/
lemma attempt_clearStream (config : Configuration) (j : ℕ) :
    config.attempt (.clearStream j) = config.withStream j .never := by
  simp only [Configuration.attempt, Configuration.apply, clearStream, stream]
  cases hexpression : config.streams[j]? with
  | none =>
    have hsize : config.streams.size ≤ j := Array.getElem?_eq_none_iff.mp hexpression
    rw [withStream, Array.setIfInBounds_eq_of_size_le hsize]
    rfl
  | some expression => rfl

/-- An edit of a stream changes nothing or replaces the expression. -/
lemma attempt_of_onStream {edit : Edit} (hedit : edit.OnStream j) :
    config.attempt edit = config ∨
      ∃ expression, config.attempt edit = config.withStream j expression := by
  cases edit with
  | addToStream stream id invert =>
    obtain rfl : stream = j := hedit
    cases hmember : config.partials[id.index]? with
    | none => exact Or.inl (attempt_addToStream_of_missing (Or.inl hmember) invert)
    | some member =>
      cases hexpression : config.streams[stream]? with
      | none => exact Or.inl (attempt_addToStream_of_missing (Or.inr hexpression) invert)
      | some expression => exact Or.inr ⟨_, attempt_addToStream hmember hexpression invert⟩
  | clearStream stream =>
    obtain rfl : stream = j := hedit
    exact Or.inr ⟨_, config.attempt_clearStream stream⟩
  | _ => cases hedit

/-! ## What the other streams notice -/

/-- Two configurations that differ at most in what one stream accepts. -/
def SameElsewhere (config : Configuration) (j : ℕ) (edited : Configuration) : Prop :=
  ∀ key i, i ≠ j → (edited.Accepts key i ↔ config.Accepts key i)

/-- An edit of a stream leaves the other streams as they are. -/
lemma sameElsewhere_attempt {edit : Edit} (hedit : edit.OnStream j) :
    config.SameElsewhere j (config.attempt edit) := by
  intro key i hne
  rcases attempt_of_onStream hedit with hsame | ⟨expression, hreplaced⟩
  · rw [hsame]
  · rw [hreplaced, accepts_withStream_of_ne hne]

/-- What goes to an earlier stream goes there still, and nothing else does. -/
lemma SameElsewhere.steerVirtual_eq_some_iff (h : config.SameElsewhere j edited) {key : TableKey}
    {i : ℕ} (hi : i < j) :
    edited.steerVirtual key = some i ↔ config.steerVirtual key = some i := by
  rw [steerVirtual_eq_some_iff_accepts, steerVirtual_eq_some_iff_accepts,
    h key i (Nat.ne_of_lt hi)]
  refine and_congr_right fun _ => forall₂_congr fun k hk => ?_
  rw [h key k (Nat.ne_of_lt (Nat.lt_trans hk hi))]

/-- Any number of edits of later streams leaves what goes to a stream as it is. -/
theorem steer_foldl_attempt_eq_some_iff (config : Configuration) {edits : List Edit} {i : ℕ}
    (hedits : ∀ edit ∈ edits, ∃ j > i, edit.OnStream j) (slots : SlotMap) (key : TableKey) :
    (edits.foldl attempt config).steer slots key = some i ↔ config.steer slots key = some i := by
  induction edits generalizing config with
  | nil => rfl
  | cons edit rest ih =>
    obtain ⟨⟨j, hj, hedit⟩, hrest⟩ := List.forall_mem_cons.mp hedits
    rw [List.foldl_cons, ih _ hrest]
    exact (sameElsewhere_attempt hedit).steerVirtual_eq_some_iff hj

/-! ## Streams that accept less -/

/-- Two configurations that differ at most in one stream, which accepts no more than before. -/
structure NarrowedAt (config : Configuration) (j : ℕ) (edited : Configuration) : Prop where
  elsewhere : config.SameElsewhere j edited
  narrowed : ∀ key, edited.Accepts key j → config.Accepts key j

lemma NarrowedAt.refl (config : Configuration) (j : ℕ) : config.NarrowedAt j config :=
  ⟨fun _ _ _ => Iff.rfl, fun _ => id⟩

lemma NarrowedAt.trans {later : Configuration} (h : config.NarrowedAt j edited)
    (hlater : edited.NarrowedAt j later) : config.NarrowedAt j later where
  elsewhere key i hi := (hlater.elsewhere key i hi).trans (h.elsewhere key i hi)
  narrowed key haccepts := h.narrowed key (hlater.narrowed key haccepts)

/-- Where a key goes before and after a stream accepts less. -/
structure GivesWay (j : ℕ) (before after : Option ℕ) : Prop where
  /-- What did not go to the stream goes where it went. -/
  kept : before ≠ some j → after = before
  /-- What leaves the stream is dropped or goes to a later one. -/
  later : before = some j → after ≠ some j → ∀ i, after = some i → j < i

/-- A key that a stream accepts goes there or to an earlier one. -/
lemma exists_steerVirtual_of_accepts {key : TableKey} (h : config.Accepts key j) :
    ∃ i ≤ j, config.steerVirtual key = some i := by
  classical
  have hsome : ∃ i, config.Accepts key i := ⟨j, h⟩
  refine ⟨Nat.find hsome, Nat.find_min' hsome h, steerVirtual_eq_some_iff_accepts.mpr ?_⟩
  exact ⟨Nat.find_spec hsome, fun k hk => Nat.find_min hsome hk⟩

/-- If a stream accepts less, what did not go there goes where it went. -/
lemma NarrowedAt.steerVirtual_eq (h : config.NarrowedAt j edited) {key : TableKey}
    (hbefore : config.steerVirtual key ≠ some j) :
    edited.steerVirtual key = config.steerVirtual key := by
  by_cases haccepts : config.Accepts key j
  · -- An earlier stream gets the key, and keeps it.
    obtain ⟨i, hi, hsteer⟩ := exists_steerVirtual_of_accepts haccepts
    have hlt : i < j := Nat.lt_of_le_of_ne hi fun heq => hbefore (heq ▸ hsteer)
    rw [hsteer]
    exact (h.elsewhere.steerVirtual_eq_some_iff hlt).mpr hsteer
  · -- The stream wants the key neither before nor after.
    apply steerVirtual_congr
    intro i
    by_cases hi : i = j
    · subst hi
      exact iff_of_false (fun hnow => haccepts (h.narrowed key hnow)) haccepts
    · exact h.elsewhere key i hi

/-- If a stream accepts less, every key is accounted for. -/
lemma NarrowedAt.givesWay (h : config.NarrowedAt j edited) (key : TableKey) :
    GivesWay j (config.steerVirtual key) (edited.steerVirtual key) where
  kept := h.steerVirtual_eq
  later hbefore hafter i hi := by
    rcases Nat.lt_trichotomy i j with hlt | rfl | hgt
    · have hearlier := (h.elsewhere.steerVirtual_eq_some_iff hlt).mp hi
      rw [hbefore, Option.some.injEq] at hearlier
      omega
    · exact absurd hi hafter
    · exact hgt

/-- A key that goes to the stream stays if the stream still accepts it. -/
lemma SameElsewhere.steerVirtual_self_iff (h : config.SameElsewhere j edited) {key : TableKey}
    (hbefore : config.steerVirtual key = some j) :
    edited.steerVirtual key = some j ↔ edited.Accepts key j := by
  obtain ⟨-, hearlier⟩ := steerVirtual_eq_some_iff_accepts.mp hbefore
  rw [steerVirtual_eq_some_iff_accepts, and_iff_left_iff_imp]
  intro _ i hi haccepts
  exact hearlier i hi ((h key i (Nat.ne_of_lt hi)).mp haccepts)

/-! ## Adding and clearing -/

/-- A stream that has a member, required or excluded. -/
def HasMembers (config : Configuration) (j : ℕ) : Prop :=
  ∃ expression, config.streams[j]? = some expression ∧ expression.isEmpty = false

lemma Accepts.hasMembers {key : TableKey} (h : config.Accepts key j) : config.HasMembers j := by
  obtain ⟨expression, hexpression, hholds⟩ := h
  refine ⟨expression, hexpression, ?_⟩
  rw [StreamExpression.holdsVirtual, Bool.and_eq_true, Bool.and_eq_true] at hholds
  simpa using hholds.1.1

/-- A stream that has members keeps, of what it accepts, what another one does not speak against. -/
lemma HasMembers.accepts_addToStream (h : config.HasMembers j) {id : PartialId}
    {member : PartialExpression} (hmember : config.partials[id.index]? = some member)
    (invert : Bool) (key : TableKey) :
    (config.attempt (.addToStream j id invert)).Accepts key j ↔
      config.Accepts key j ∧ member.holds key ≠ invert := by
  obtain ⟨expression, hexpression, hempty⟩ := h
  rw [attempt_addToStream hmember hexpression, accepts_withStream_self hexpression,
    StreamExpression.holdsVirtual_add, hempty, StreamExpression.memberHolds, hmember]
  simp [Accepts, hexpression]

lemma HasMembers.narrowedAt (h : config.HasMembers j) (id : PartialId) (invert : Bool) :
    config.NarrowedAt j (config.attempt (.addToStream j id invert)) where
  elsewhere := sameElsewhere_attempt rfl
  narrowed key haccepts := by
    cases hmember : config.partials[id.index]? with
    | none => rwa [attempt_addToStream_of_missing (Or.inl hmember)] at haccepts
    | some member => exact ((h.accepts_addToStream hmember invert key).mp haccepts).1

lemma HasMembers.attempt_addToStream (h : config.HasMembers j) (id : PartialId) (invert : Bool) :
    (config.attempt (.addToStream j id invert)).HasMembers j := by
  cases hmember : config.partials[id.index]? with
  | none => rwa [attempt_addToStream_of_missing (Or.inl hmember)]
  | some member =>
    obtain ⟨expression, hexpression, -⟩ := h
    obtain ⟨hlt, -⟩ := Array.getElem?_eq_some_iff.mp hexpression
    rw [Configuration.attempt_addToStream hmember hexpression]
    exact ⟨_, Array.getElem?_setIfInBounds_self_of_lt hlt, expression.isEmpty_add id invert⟩

/-- Any number of further members makes a stream accept less. -/
lemma HasMembers.narrowedAt_foldl (h : config.HasMembers j) (members : List (PartialId × Bool)) :
    config.NarrowedAt j
      (members.foldl (fun now member => now.attempt (.addToStream j member.1 member.2))
        config) := by
  induction members generalizing config with
  | nil => exact NarrowedAt.refl config j
  | cons member rest ih =>
    exact (h.narrowedAt member.1 member.2).trans (ih (h.attempt_addToStream member.1 member.2))

lemma not_accepts_clearStream (config : Configuration) (j : ℕ) (key : TableKey) :
    ¬ (config.attempt (.clearStream j)).Accepts key j := by
  rw [attempt_clearStream]
  rintro ⟨expression, hexpression, hholds⟩
  obtain rfl : expression = .never := by
    rw [withStream, Array.getElem?_setIfInBounds_self] at hexpression
    split at hexpression
    · exact (Option.some.inj hexpression).symm
    · cases hexpression
  cases hholds

lemma narrowedAt_clearStream (config : Configuration) (j : ℕ) :
    config.NarrowedAt j (config.attempt (.clearStream j)) where
  elsewhere := sameElsewhere_attempt rfl
  narrowed key haccepts := absurd haccepts (config.not_accepts_clearStream j key)

/-- **Priority confines edits.** In every configuration, for every slot map and key: an edit of a
stream leaves what goes to an earlier stream where it is, and sends nothing there.  Adding a member
to a stream that has some leaves what did not go to the stream where it is, keeps what the member
does not speak against, and gives the rest to a later stream or to none.  Clearing a stream does so
with all that went to it. -/
theorem edits_confined_by_priority (config : Configuration) (j : ℕ) (slots : SlotMap)
    (key : TableKey) :
    (∀ edit : Edit, edit.OnStream j → ∀ i < j,
      ((config.attempt edit).steer slots key = some i ↔ config.steer slots key = some i)) ∧
    (config.HasMembers j → ∀ (id : PartialId) (invert : Bool),
      GivesWay j (config.steer slots key)
        ((config.attempt (.addToStream j id invert)).steer slots key) ∧
      ∀ member, config.partials[id.index]? = some member → config.steer slots key = some j →
        ((config.attempt (.addToStream j id invert)).steer slots key = some j ↔
          member.holds (slots.renumber key) ≠ invert)) ∧
    GivesWay j (config.steer slots key) ((config.attempt (.clearStream j)).steer slots key) ∧
      (config.attempt (.clearStream j)).steer slots key ≠ some j := by
  refine ⟨fun edit hedit i hi => (sameElsewhere_attempt hedit).steerVirtual_eq_some_iff hi,
    fun hmembers id invert => ⟨(hmembers.narrowedAt id invert).givesWay _,
      fun member hmember hsteer => ?_⟩,
    (narrowedAt_clearStream config j).givesWay _, fun hsteer => ?_⟩
  · have haccepts := (steerVirtual_eq_some_iff_accepts.mp hsteer).1
    have hself := (hmembers.narrowedAt id invert).elsewhere.steerVirtual_self_iff hsteer
    exact hself.trans ((hmembers.accepts_addToStream hmember invert _).trans
      (and_iff_right haccepts))
  · exact config.not_accepts_clearStream j _ (steerVirtual_eq_some_iff_accepts.mp hsteer).1

/-- The edits that make a stream of what hits the first filter, and a second one of what hits the
second filter. -/
def Edit.overlapping : List Edit :=
  [.addPartial, .term ⟨0⟩ .filter 0 .assert, .addToStream 0 ⟨0⟩ false,
    .addPartial, .term ⟨1⟩ .filter 1 .assert, .addToStream 1 ⟨1⟩ false]

/-- A classic configuration with two streams that want some packets both. -/
def overlapping : Configuration :=
  Edit.overlapping.foldl attempt
    ⟨.classic, Vector.ofFn fun slot => Filter.blank slot, #[], Array.replicate 2 .never⟩

lemma reachable_overlapping : overlapping.Reachable := by
  have hnew : Configuration.new .classic 2 = .ok _ := rfl
  exact (Reachable.new hnew).foldl_attempt Edit.overlapping

/-- Once the first stream excludes what hits the second filter, it keeps a packet that hits the
first filter only and loses one that hits both to the second stream, which keeps its own. -/
theorem edits_confined_by_priority_overlapping :
    overlapping.Reachable ∧
      (overlapping.attempt (.addToStream 0 ⟨1⟩ true)).steer .identity ⟨1, 0, .bits 0⟩ = some 0 ∧
      (overlapping.attempt (.addToStream 0 ⟨1⟩ true)).steer .identity ⟨2, 0, .bits 0⟩ = some 1 ∧
      (overlapping.attempt (.addToStream 0 ⟨1⟩ true)).steer .identity ⟨3, 0, .bits 0⟩ ≠ some 0 ∧
      (overlapping.attempt (.clearStream 1)).steer .identity ⟨3, 0, .bits 0⟩ = some 0 := by
  have hmembers : overlapping.HasMembers 0 := ⟨_, rfl, rfl⟩
  obtain ⟨member, hmember, honly, hboth⟩ : ∃ member, overlapping.partials[1]? = some member ∧
      member.holds (SlotMap.identity.renumber ⟨1, 0, .bits 0⟩) = false ∧
      member.holds (SlotMap.identity.renumber ⟨3, 0, .bits 0⟩) = true :=
    ⟨_, rfl, by decide +kernel, by decide +kernel⟩
  have hfirst : overlapping.steer .identity ⟨1, 0, .bits 0⟩ = some 0 := by decide +kernel
  have hsecond : overlapping.steer .identity ⟨2, 0, .bits 0⟩ = some 1 := by decide +kernel
  have hshared : overlapping.steer .identity ⟨3, 0, .bits 0⟩ = some 0 := by decide +kernel
  have hconfined := edits_confined_by_priority overlapping
  refine ⟨reachable_overlapping, ?_, ?_, fun hstays => ?_, ?_⟩
  · have hadded := (hconfined 0 .identity ⟨1, 0, .bits 0⟩).2.1 hmembers ⟨1⟩ true
    exact (hadded.2 member hmember hfirst).mpr (by simp [honly])
  · have hadded := (hconfined 0 .identity ⟨2, 0, .bits 0⟩).2.1 hmembers ⟨1⟩ true
    exact (hadded.1.kept (by simp [hsecond])).trans hsecond
  · have hadded := (hconfined 0 .identity ⟨3, 0, .bits 0⟩).2.1 hmembers ⟨1⟩ true
    exact (hadded.2 member hmember hshared).mp hstays hboth
  · have hcleared := (hconfined 1 .identity ⟨3, 0, .bits 0⟩).1 (.clearStream 1) rfl 0 (by decide)
    exact hcleared.mpr hshared

/-- Adding any number of members to a stream that has some, the streams before it and those that
did not get a packet notice as little as with one. -/
theorem givesWay_foldl_addToStream (hmembers : config.HasMembers j)
    (members : List (PartialId × Bool)) (slots : SlotMap) (key : TableKey) :
    GivesWay j (config.steer slots key)
      ((members.foldl (fun now member => now.attempt (.addToStream j member.1 member.2))
        config).steer slots key) :=
  (hmembers.narrowedAt_foldl members).givesWay _

/-- The first member is the exception: it widens the stream, and a key that does not go there
afterwards goes where it went. -/
theorem steer_of_first_member (hmembers : ¬ config.HasMembers j) (id : PartialId) (invert : Bool)
    (slots : SlotMap) (key : TableKey)
    (hafter : (config.attempt (.addToStream j id invert)).steer slots key ≠ some j) :
    (config.attempt (.addToStream j id invert)).steer slots key = config.steer slots key := by
  have hedit : Edit.OnStream j (.addToStream j id invert) := rfl
  have hnarrowed : (config.attempt (.addToStream j id invert)).NarrowedAt j config :=
    ⟨fun key i hi => (sameElsewhere_attempt hedit key i hi).symm,
      fun _ haccepts => absurd haccepts.hasMembers hmembers⟩
  exact (hnarrowed.steerVirtual_eq hafter).symm

end Configuration

end PacketSteering
