import Mathlib.Data.List.Forall2
import Mathlib.Data.Nat.Digits.Defs
import Mathlib.Tactic.Common
import PacketSteering.Text

/-!
# Octets and the texts that stand for them

A text stands for an octet if, less a plus sign in front, it is one or more digits whose value the
octet is (`Numeral.StandsFor`).  Every other text is faulty for one reason, which is found from left
to right (`Numeral.Faulty`).  Reading tells the two apart and gives the octet or the reason
(`Numeral.readOctet_eq_ok_iff`, `Numeral.readOctet_eq_error_iff`), and what is printed of an octet
stands for it (`Numeral.standsFor_toString`, `Numeral.standsFor_upperText`).
-/

namespace PacketSteering

namespace Numeral

/-! ## Digits -/

/-- A character that writes a digit, a letter in either case. -/
def IsDigit (radix : ℕ) (c : Char) (d : ℕ) : Prop :=
  d < radix ∧ (c = d.digitChar ∨ c = d.digitChar.toUpper)

lemma toNat_digitChar : ∀ d < 16, d.digitChar.toNat = if d < 10 then 48 + d else 87 + d := by
  decide

lemma toNat_toUpper_digitChar :
    ∀ d < 16, d.digitChar.toUpper.toNat = if d < 10 then 48 + d else 55 + d := by
  decide

variable {radix : ℕ}

/-- A digit is recognised by the place of its character among the digits and letters. -/
lemma isDigit_iff (hradix : radix ≤ 16) {c : Char} {d : ℕ} :
    IsDigit radix c d ↔ d < radix ∧
      (c.toNat = 48 + d ∧ d < 10 ∨ c.toNat = 87 + d ∧ 10 ≤ d ∨ c.toNat = 55 + d ∧ 10 ≤ d) := by
  refine and_congr_right fun hd => ?_
  rw [← Char.toNat_inj, ← Char.toNat_inj, toNat_digitChar d (by omega),
    toNat_toUpper_digitChar d (by omega)]
  split <;> omega

lemma digit?_eq_some_iff (hradix : radix ≤ 16) {c : Char} {d : ℕ} :
    digit? radix c = some d ↔ IsDigit radix c d := by
  have hle (a b : Char) : a ≤ b ↔ a.toNat ≤ b.toNat := Iff.rfl
  rw [isDigit_iff hradix, digit?]
  simp only [hle, Option.filter_eq_some_iff, decide_eq_true_eq, Char.reduceToNat]
  split_ifs <;> simp only [Option.some.injEq, false_and, false_iff] <;> omega

/-! ## Runs of digits -/

/-- The value of digits that go on from the value of those before them. -/
def valueFrom (radix soFar : ℕ) (digits : List ℕ) : ℕ :=
  digits.foldl (fun value d => value * radix + d) soFar

lemma valueFrom_zero (digits : List ℕ) :
    valueFrom radix 0 digits = Nat.ofDigits radix digits.reverse := by
  rw [Nat.ofDigits_eq_foldr, List.foldr_reverse, valueFrom]
  simp only [Nat.cast_id, Nat.add_comm, Nat.mul_comm]

lemma le_valueFrom (hpos : 0 < radix) (soFar : ℕ) (digits : List ℕ) :
    soFar ≤ valueFrom radix soFar digits := by
  induction digits generalizing soFar with
  | nil => exact Nat.le_refl _
  | cons d rest ih =>
    calc soFar ≤ soFar * radix := Nat.le_mul_of_pos_right soFar hpos
      _ ≤ soFar * radix + d := Nat.le_add_right _ _
      _ ≤ valueFrom radix soFar (d :: rest) := ih _

/-- What reading a text as digits that go on from a value comes to: their value, or whatever comes
first of a character that is no digit and a digit that takes the value past an octet. -/
inductive DigitsRead (radix soFar : ℕ) (text : List Char) : Except NumeralError ℕ → Prop
  | value {digits : List ℕ} (hdigits : List.Forall₂ (IsDigit radix) text digits)
      (hfits : valueFrom radix soFar digits ≤ 255) :
      DigitsRead radix soFar text (.ok (valueFrom radix soFar digits))
  | invalidDigit {run rest : List Char} {c : Char} {digits : List ℕ}
      (htext : text = run ++ c :: rest) (hdigits : List.Forall₂ (IsDigit radix) run digits)
      (hfits : valueFrom radix soFar digits ≤ 255) (hc : ∀ d, ¬ IsDigit radix c d) :
      DigitsRead radix soFar text (.error .invalidDigit)
  | tooLarge {run rest : List Char} {digits : List ℕ} (htext : text = run ++ rest)
      (hdigits : List.Forall₂ (IsDigit radix) run digits)
      (hlarge : 255 < valueFrom radix soFar digits) :
      DigitsRead radix soFar text (.error .tooLarge)

section

variable {soFar : ℕ} {text : List Char} {outcome : Except NumeralError ℕ}

lemma DigitsRead.cons {c : Char} {d : ℕ} (hd : IsDigit radix c d)
    (h : DigitsRead radix (soFar * radix + d) text outcome) :
    DigitsRead radix soFar (c :: text) outcome := by
  cases h with
  | value hdigits hfits => exact .value (.cons hd hdigits) hfits
  | invalidDigit htext hdigits hfits hc =>
    exact .invalidDigit (congrArg (c :: ·) htext) (.cons hd hdigits) hfits hc
  | tooLarge htext hdigits hlarge =>
    exact .tooLarge (congrArg (c :: ·) htext) (.cons hd hdigits) hlarge

lemma digitsRead_readDigits (hradix : radix ≤ 16) (hsoFar : soFar ≤ 255) (text : List Char) :
    DigitsRead radix soFar text (readDigits radix soFar text) := by
  induction text generalizing soFar with
  | nil => exact .value .nil hsoFar
  | cons c rest ih =>
    rw [readDigits]
    split
    case h_1 hnone =>
      have hc (d : ℕ) : ¬ IsDigit radix c d := by
        rw [← digit?_eq_some_iff hradix, hnone]
        exact nofun
      exact .invalidDigit (List.nil_append _).symm .nil hsoFar hc
    case h_2 d hsome =>
      have hd := (digit?_eq_some_iff hradix).mp hsome
      split
      case isTrue hlarge => exact .tooLarge (List.singleton_append).symm (.cons hd .nil) hlarge
      case isFalse hfits => exact (ih (Nat.le_of_not_lt hfits)).cons hd

lemma readDigits_cons (hradix : radix ≤ 16) {c : Char} {d : ℕ} (hd : IsDigit radix c d)
    (rest : List Char) :
    readDigits radix soFar (c :: rest) =
      if 255 < soFar * radix + d then .error .tooLarge
      else readDigits radix (soFar * radix + d) rest := by
  rw [readDigits, (digit?_eq_some_iff hradix).mpr hd]

/-- Digits that fit are read one after the other. -/
lemma readDigits_append (hradix : radix ≤ 16) {run : List Char} {digits : List ℕ}
    (hdigits : List.Forall₂ (IsDigit radix) run digits)
    (hfits : valueFrom radix soFar digits ≤ 255) (rest : List Char) :
    readDigits radix soFar (run ++ rest) =
      readDigits radix (valueFrom radix soFar digits) rest := by
  induction hdigits generalizing soFar with
  | nil => rfl
  | @cons c d run digits hd hdigits ih =>
    have hle : soFar * radix + d ≤ 255 :=
      (le_valueFrom (Nat.zero_lt_of_lt hd.1) _ digits).trans hfits
    rw [List.cons_append, readDigits_cons hradix hd, if_neg (Nat.not_lt.mpr hle)]
    exact ih hfits

/-- Reading stops at the digit that takes the value too far, whatever follows. -/
lemma readDigits_of_large (hradix : radix ≤ 16) (hsoFar : soFar ≤ 255) {run : List Char}
    {digits : List ℕ} (hdigits : List.Forall₂ (IsDigit radix) run digits)
    (hlarge : 255 < valueFrom radix soFar digits) (rest : List Char) :
    readDigits radix soFar (run ++ rest) = .error .tooLarge := by
  induction hdigits generalizing soFar with
  | nil => exact absurd hlarge (Nat.not_lt.mpr hsoFar)
  | cons hd hdigits ih =>
    rw [List.cons_append, readDigits_cons hradix hd]
    split
    case isTrue => rfl
    case isFalse hfits => exact ih (Nat.le_of_not_lt hfits) hlarge

lemma readDigits_eq_iff (hradix : radix ≤ 16) (hsoFar : soFar ≤ 255) :
    readDigits radix soFar text = outcome ↔ DigitsRead radix soFar text outcome := by
  constructor
  · rintro rfl
    exact digitsRead_readDigits hradix hsoFar text
  · intro h
    cases h with
    | value hdigits hfits =>
      have hread := readDigits_append hradix hdigits hfits []
      rwa [List.append_nil] at hread
    | @invalidDigit run rest c digits htext hdigits hfits hc =>
      have hnone : digit? radix c = none :=
        Option.eq_none_iff_forall_ne_some.mpr fun d hd => hc d ((digit?_eq_some_iff hradix).mp hd)
      rw [htext, readDigits_append hradix hdigits hfits, readDigits, hnone]
    | tooLarge htext hdigits hlarge =>
      rw [htext, readDigits_of_large hradix hsoFar hdigits hlarge]

end

/-! ## Octets -/

/-- A text less one plus sign in front. -/
def unsigned : List Char → List Char
  | '+' :: rest => rest
  | text => text

/-- A text stands for an octet: less one plus sign in front it is one or more digits, any number of
zeros first, whose value is the octet. -/
def StandsFor (radix : ℕ) (text : List Char) (octet : UInt8) : Prop :=
  ∃ digits : List ℕ, digits ≠ [] ∧ List.Forall₂ (IsDigit radix) (unsigned text) digits ∧
    Nat.ofDigits radix digits.reverse = octet.toNat

/-- What is wrong with a text that stands for no octet.  The text is judged from left to right, so
that digits beyond an octet are too large whatever follows them. -/
inductive Faulty (radix : ℕ) : List Char → NumeralError → Prop
  /-- There is nothing at all. -/
  | empty : Faulty radix [] .empty
  /-- There is nothing but a sign. -/
  | bareSign : Faulty radix ['+'] .invalidDigit
  /-- Some digits fit an octet, and what follows them is no digit. -/
  | invalidDigit {text run rest : List Char} {c : Char} {digits : List ℕ}
      (htext : unsigned text = run ++ c :: rest)
      (hdigits : List.Forall₂ (IsDigit radix) run digits)
      (hfits : Nat.ofDigits radix digits.reverse ≤ 255) (hc : ∀ d, ¬ IsDigit radix c d) :
      Faulty radix text .invalidDigit
  /-- The text begins with digits that do not fit an octet. -/
  | tooLarge {text run rest : List Char} {digits : List ℕ} (htext : unsigned text = run ++ rest)
      (hdigits : List.Forall₂ (IsDigit radix) run digits)
      (hlarge : 255 < Nat.ofDigits radix digits.reverse) :
      Faulty radix text .tooLarge

section

variable {text : List Char}

lemma unsigned_of_ne {c : Char} (hc : c ≠ '+') (rest : List Char) :
    unsigned (c :: rest) = c :: rest := by
  unfold unsigned
  split
  case h_1 heq => exact absurd (List.cons.inj heq).1 hc
  case h_2 => rfl

/-- There are two texts without anything that could be a digit. -/
lemma unsigned_eq_nil_iff : unsigned text = [] ↔ text = [] ∨ text = ['+'] := by
  unfold unsigned
  split
  case h_1 rest => simp
  case h_2 hsign =>
    refine ⟨Or.inl, fun h => h.resolve_right ?_⟩
    exact hsign []

lemma readOctet_of_unsigned (htext : unsigned text ≠ []) :
    readOctet radix text = (readDigits radix 0 (unsigned text)).map UInt8.ofNat := by
  unfold readOctet
  split
  case h_1 => exact absurd rfl htext
  case h_2 => exact absurd rfl htext
  case h_3 => rfl
  case h_4 hempty _ hsign =>
    cases text with
    | nil => exact absurd rfl hempty
    | cons c rest => rw [unsigned_of_ne (fun hc => hsign rest (hc ▸ rfl))]

/-- **The texts that are read as an octet are those that stand for it.** -/
theorem readOctet_eq_ok_iff (hradix : radix ≤ 16) {octet : UInt8} :
    readOctet radix text = .ok octet ↔ StandsFor radix text octet := by
  by_cases hnone : unsigned text = []
  · have hread : ∃ reason, readOctet radix text = .error reason := by
      rcases unsigned_eq_nil_iff.mp hnone with rfl | rfl
      · exact ⟨.empty, rfl⟩
      · exact ⟨.invalidDigit, rfl⟩
    obtain ⟨reason, hread⟩ := hread
    rw [hread]
    refine iff_of_false nofun fun ⟨digits, hdigits, hall, _⟩ => hdigits ?_
    rw [hnone] at hall
    exact List.forall₂_nil_left_iff.mp hall
  · rw [readOctet_of_unsigned hnone]
    constructor
    · intro hread
      have hdigits := digitsRead_readDigits hradix (Nat.zero_le 255) (unsigned text)
      cases houtcome : readDigits radix 0 (unsigned text) with
      | error reason =>
        rw [houtcome] at hread
        cases hread
      | ok n =>
        rw [houtcome] at hread hdigits
        obtain rfl := Except.ok.inj hread
        cases hdigits with
        | @value digits hall hfits =>
          refine ⟨digits, fun hnil => hnone ?_, hall, ?_⟩
          · rw [hnil] at hall
            exact List.forall₂_nil_right_iff.mp hall
          · rw [← valueFrom_zero, UInt8.toNat_ofNat_of_lt' (Nat.lt_succ_of_le hfits)]
    · rintro ⟨digits, -, hall, hvalue⟩
      rw [← valueFrom_zero] at hvalue
      have hfits : valueFrom radix 0 digits ≤ 255 := by
        rw [hvalue]
        exact Nat.le_of_lt_succ octet.toNat_lt
      have hread := (readDigits_eq_iff hradix (Nat.zero_le 255)).mpr (.value hall hfits)
      rw [hread, Except.map, hvalue, UInt8.ofNat_toNat]

/-- Apart from the texts without anything that could be a digit, a text is faulty for what its
digits are. -/
lemma faulty_iff {reason : NumeralError} :
    Faulty radix text reason ↔
      text = [] ∧ reason = .empty ∨ text = ['+'] ∧ reason = .invalidDigit ∨
        DigitsRead radix 0 (unsigned text) (.error reason) := by
  constructor
  · intro h
    cases h with
    | empty => exact Or.inl ⟨rfl, rfl⟩
    | bareSign => exact Or.inr (Or.inl ⟨rfl, rfl⟩)
    | invalidDigit htext hdigits hfits hc =>
      rw [← valueFrom_zero] at hfits
      exact Or.inr (Or.inr (.invalidDigit htext hdigits hfits hc))
    | tooLarge htext hdigits hlarge =>
      rw [← valueFrom_zero] at hlarge
      exact Or.inr (Or.inr (.tooLarge htext hdigits hlarge))
  · rintro (⟨rfl, rfl⟩ | ⟨rfl, rfl⟩ | h)
    · exact .empty
    · exact .bareSign
    · cases h with
      | invalidDigit htext hdigits hfits hc =>
        rw [valueFrom_zero] at hfits
        exact .invalidDigit htext hdigits hfits hc
      | tooLarge htext hdigits hlarge =>
        rw [valueFrom_zero] at hlarge
        exact .tooLarge htext hdigits hlarge

/-- **The texts that are refused are the faulty ones**, and what is wrong with them is reported. -/
theorem readOctet_eq_error_iff (hradix : radix ≤ 16) {reason : NumeralError} :
    readOctet radix text = .error reason ↔ Faulty radix text reason := by
  rw [faulty_iff, ← readDigits_eq_iff hradix (Nat.zero_le 255)]
  by_cases hnone : unsigned text = []
  · have hdigits : readDigits radix 0 (unsigned text) ≠ .error reason := by
      rw [hnone]
      exact nofun
    rcases unsigned_eq_nil_iff.mp hnone with rfl | rfl
    · simp [readOctet, hdigits, eq_comm]
    · simp [readOctet, hdigits, eq_comm]
  · have hempty : text ≠ [] := fun heq => hnone (unsigned_eq_nil_iff.mpr (Or.inl heq))
    have hbare : text ≠ ['+'] := fun heq => hnone (unsigned_eq_nil_iff.mpr (Or.inr heq))
    rw [readOctet_of_unsigned hnone, or_iff_right (fun h => hempty h.1),
      or_iff_right (fun h => hbare h.1)]
    cases readDigits radix 0 (unsigned text) with
    | ok n => exact iff_of_false nofun nofun
    | error other =>
      exact ⟨fun h => congrArg _ (Except.error.inj h), fun h => congrArg _ (Except.error.inj h)⟩

end

/-! ## Printed octets -/

section

variable {text : List Char} {digits : List ℕ}

/-- A character that is no hexadecimal digit is a digit of no radix up to that. -/
lemma IsDigit.ne (hradix : radix ≤ 16) {c other : Char} {d : ℕ} (h : IsDigit radix c d)
    (hother : digit? 16 other = none) : c ≠ other := by
  rintro rfl
  have hsome := (digit?_eq_some_iff (Nat.le_refl 16)).mpr ⟨Nat.lt_of_lt_of_le h.1 hradix, h.2⟩
  rw [hother] at hsome
  cases hsome

lemma notMem_of_digits (hradix : radix ≤ 16)
    (hdigits : List.Forall₂ (IsDigit radix) text digits) {other : Char}
    (hother : digit? 16 other = none) : other ∉ text := by
  induction hdigits with
  | nil => exact List.not_mem_nil
  | cons hd _ ih => exact List.not_mem_cons_of_ne_of_not_mem (hd.ne hradix hother).symm ih

/-- Digits alone stand for their value. -/
lemma standsFor_of_digits (hradix : radix ≤ 16) (htext : text ≠ [])
    (hdigits : List.Forall₂ (IsDigit radix) text digits) {octet : UInt8}
    (hvalue : Nat.ofDigits radix digits.reverse = octet.toNat) : StandsFor radix text octet := by
  cases hdigits with
  | nil => exact absurd rfl htext
  | @cons c d run digits hd hrun =>
    refine ⟨d :: digits, List.cons_ne_nil _ _, ?_, hvalue⟩
    rw [unsigned_of_ne (hd.ne hradix rfl)]
    exact .cons hd hrun

lemma isDigit_digitChar {d : ℕ} (hd : d < radix) : IsDigit radix d.digitChar d :=
  ⟨hd, Or.inl rfl⟩

/-- The digits of a number, as the standard library writes them, have its value. -/
lemma exists_digits_toDigits (hradix : 1 < radix) (n : ℕ) :
    ∃ digits, List.Forall₂ (IsDigit radix) (Nat.toDigits radix n) digits ∧
      Nat.ofDigits radix digits.reverse = n := by
  induction n using Nat.strong_induction_on with
  | _ n ih =>
    have hpos : 0 < radix := Nat.zero_lt_of_lt hradix
    rcases Nat.lt_or_ge n radix with hlt | hge
    · refine ⟨[n], ?_, Nat.ofDigits_singleton⟩
      rw [Nat.toDigits_of_lt_base hlt]
      exact .cons (isDigit_digitChar hlt) .nil
    · obtain ⟨digits, hdigits, hvalue⟩ :=
        ih (n / radix) (Nat.div_lt_self (Nat.lt_of_lt_of_le hpos hge) hradix)
      refine ⟨digits ++ [n % radix], ?_, ?_⟩
      · rw [Nat.toDigits_of_base_le hradix hge]
        exact List.rel_append hdigits (.cons (isDigit_digitChar (Nat.mod_lt n hpos)) .nil)
      · rw [List.reverse_append, List.reverse_singleton, List.singleton_append,
          Nat.ofDigits_cons, hvalue, Nat.mod_add_div]

/-- Upper-case digits of a fixed width have the value of the number as far as it fits. -/
lemma exists_digits_upperDigits (width n : ℕ) :
    ∃ digits, List.Forall₂ (IsDigit 16) (Hex.upperDigits width n) digits ∧
      Nat.ofDigits 16 digits.reverse = n % 16 ^ width := by
  induction width generalizing n with
  | zero => exact ⟨[], .nil, (Nat.mod_one n).symm⟩
  | succ width ih =>
    have hdigit : ∀ d < 16, Hex.upperDigit d = d.digitChar.toUpper := by decide
    have hlast : n % 16 < 16 := Nat.mod_lt n (by decide)
    obtain ⟨digits, hdigits, hvalue⟩ := ih (n / 16)
    refine ⟨digits ++ [n % 16], ?_, ?_⟩
    · exact List.rel_append hdigits (.cons ⟨hlast, Or.inr (hdigit _ hlast)⟩ .nil)
    · rw [List.reverse_append, List.reverse_singleton, List.singleton_append, Nat.ofDigits_cons,
        hvalue, Nat.pow_succ', Nat.mod_mul]

end

lemma notMem_toString (octet : UInt8) {other : Char} (hother : digit? 16 other = none) :
    other ∉ (toString octet.toNat).toList := by
  obtain ⟨digits, hdigits, -⟩ := exists_digits_toDigits (show 1 < 10 by decide) octet.toNat
  rw [Nat.toString_eq_ofList_toDigits, String.toList_ofList]
  exact notMem_of_digits (by decide) hdigits hother

lemma standsFor_toString (octet : UInt8) :
    StandsFor 10 (toString octet.toNat).toList octet := by
  obtain ⟨digits, hdigits, hvalue⟩ := exists_digits_toDigits (show 1 < 10 by decide) octet.toNat
  rw [Nat.toString_eq_ofList_toDigits, String.toList_ofList]
  exact standsFor_of_digits (by decide) Nat.toDigits_ne_nil hdigits hvalue

lemma notMem_upperText (octet : UInt8) {other : Char} (hother : digit? 16 other = none) :
    other ∉ (Hex.upperText 2 octet.toNat).toList := by
  obtain ⟨digits, hdigits, -⟩ := exists_digits_upperDigits 2 octet.toNat
  rw [Hex.upperText, String.toList_ofList]
  exact notMem_of_digits (Nat.le_refl 16) hdigits hother

lemma standsFor_upperText (octet : UInt8) :
    StandsFor 16 (Hex.upperText 2 octet.toNat).toList octet := by
  obtain ⟨digits, hdigits, hvalue⟩ := exists_digits_upperDigits 2 octet.toNat
  rw [Nat.mod_eq_of_lt (show octet.toNat < 16 ^ 2 from octet.toNat_lt)] at hvalue
  rw [Hex.upperText, String.toList_ofList]
  exact standsFor_of_digits (Nat.le_refl 16) (by simp [Hex.upperDigits]) hdigits hvalue

end Numeral

end PacketSteering
