import PacketSteering.Proofs.Numeral
import PacketSteering.Proofs.Text

/-!
# Addresses made of octets

A text that stands for an address is cut at a separator, every part is read as an octet, and the
octets are counted.  All of it succeeds exactly if the parts stand for the bytes of the address in
order (`Octets.read_eq_ok_iff`).  If it fails, it does so for the first part that is no octet or,
without such a part, for the number of parts (`Octets.read_eq_error_iff`).
-/

namespace PacketSteering.Octets

open Numeral Text

/-- A text that stands for some octet. -/
def IsOctet (radix : ℕ) (part : List Char) : Prop :=
  ∃ octet, StandsFor radix part octet

variable {α ε : Type} {n radix : ℕ}

/-- As many octets as an address has make one; any other number of them is refused. -/
def counted (make : Vector UInt8 n → α) (wrong : ℕ → ε) (octets : List UInt8) : Except ε α :=
  if h : octets.length = n then .ok (make ⟨octets.toArray, by simpa using h⟩)
  else .error (wrong octets.length)

variable {make : Vector UInt8 n → α} {wrong : ℕ → ε}

lemma counted_of_length {octets : List UInt8} (h : octets.length = n) :
    counted make wrong octets = .ok (make ⟨octets.toArray, by simpa using h⟩) :=
  dif_pos h

lemma counted_of_length_ne {octets : List UInt8} (h : octets.length ≠ n) :
    counted make wrong octets = .error (wrong octets.length) :=
  dif_neg h

/-- Octets make up an address exactly if they are its bytes. -/
lemma counted_eq_ok_iff (hmake : Function.Injective make) {octets : List UInt8}
    {bytes : Vector UInt8 n} :
    counted make wrong octets = .ok (make bytes) ↔ octets = bytes.toList := by
  by_cases h : octets.length = n
  · rw [counted_of_length h, Except.ok.injEq, hmake.eq_iff, ← Vector.toList_inj]
    rfl
  · rw [counted_of_length_ne h]
    refine iff_of_false nofun fun heq => h ?_
    rw [heq, Vector.length_toList]

lemma counted_eq_error_iff {octets : List UInt8} {reason : ε} :
    counted make wrong octets = .error reason ↔
      octets.length ≠ n ∧ reason = wrong octets.length := by
  by_cases h : octets.length = n
  · rw [counted_of_length h]
    exact iff_of_false nofun fun hne => hne.1 h
  · rw [counted_of_length_ne h, Except.error.injEq, eq_comm, and_iff_right h]

variable {readPart : List Char → Except ε UInt8}
  (hpart : ∀ part octet, readPart part = .ok octet ↔ StandsFor radix part octet)

include hpart

/-- The parts stand for the octets that are read from them. -/
lemma mapM_eq_ok_iff_standsFor {parts : List (List Char)} {octets : List UInt8} :
    parts.mapM readPart = .ok octets ↔ List.Forall₂ (StandsFor radix) parts octets := by
  rw [mapM_eq_ok_iff]
  simp only [hpart]

lemma exists_mapM_eq_ok_iff {parts : List (List Char)} :
    (∃ octets, parts.mapM readPart = .ok octets) ↔ ∀ part ∈ parts, IsOctet radix part := by
  simp only [mapM_eq_ok_iff_standsFor hpart]
  induction parts with
  | nil => simp
  | cons part parts ih =>
    rw [List.forall_mem_cons, ← ih]
    constructor
    · rintro ⟨_, _ | ⟨hfirst, hrest⟩⟩
      exact ⟨⟨_, hfirst⟩, _, hrest⟩
    · rintro ⟨⟨octet, hfirst⟩, octets, hrest⟩
      exact ⟨octet :: octets, .cons hfirst hrest⟩

/-- Parts are read as an address exactly if they stand for its bytes in order. -/
lemma read_eq_ok_iff (hmake : Function.Injective make) {parts : List (List Char)}
    {bytes : Vector UInt8 n} :
    (parts.mapM readPart >>= counted make wrong) = .ok (make bytes) ↔
      List.Forall₂ (StandsFor radix) parts bytes.toList := by
  rw [← mapM_eq_ok_iff_standsFor hpart]
  cases parts.mapM readPart with
  | error reason => exact iff_of_false nofun nofun
  | ok octets =>
    rw [Except.ok.injEq]
    exact counted_eq_ok_iff hmake

/-- Parts are refused for the first of them that is no octet or, without such a part, for their
number. -/
lemma read_eq_error_iff {parts : List (List Char)} {reason : ε} :
    (parts.mapM readPart >>= counted make wrong) = .error reason ↔
      (∃ earlier part later, parts = earlier ++ part :: later ∧
        (∀ other ∈ earlier, IsOctet radix other) ∧ readPart part = .error reason) ∨
      (∀ part ∈ parts, IsOctet radix part) ∧ parts.length ≠ n ∧ reason = wrong parts.length := by
  have hrefused : parts.mapM readPart = .error reason ↔
      ∃ earlier part later, parts = earlier ++ part :: later ∧
        (∀ other ∈ earlier, IsOctet radix other) ∧ readPart part = .error reason := by
    rw [mapM_eq_error_iff]
    simp only [hpart, IsOctet]
  rw [← hrefused, ← exists_mapM_eq_ok_iff hpart]
  cases hread : parts.mapM readPart with
  | error other =>
    have hnone : ¬ ∃ octets, (.error other : Except ε (List UInt8)) = .ok octets := nofun
    rw [or_iff_left fun h => hnone h.1]
    exact ⟨fun h => congrArg _ (Except.error.inj h), fun h => congrArg _ (Except.error.inj h)⟩
  | ok octets =>
    have hlength : parts.length = octets.length :=
      ((mapM_eq_ok_iff_standsFor hpart).mp hread).length_eq
    rw [or_iff_right nofun, and_iff_right ⟨octets, rfl⟩, hlength]
    exact counted_eq_error_iff

/-- An address is read back from its octets as they are written, with the separator between
them. -/
lemma read_written (hmake : Function.Injective make) {sep : Char} {write : UInt8 → String}
    (hwrite : ∀ octet, StandsFor radix (write octet).toList octet)
    (hsep : ∀ octet, sep ∉ (write octet).toList) (hn : n ≠ 0) (bytes : Vector UInt8 n) :
    ((((String.singleton sep).intercalate (bytes.toList.map write)).toList.splitOn sep).mapM
      readPart >>= counted make wrong) = .ok (make bytes) := by
  have hne : bytes.toList.map write ≠ [] := by
    rw [ne_eq, List.map_eq_nil_iff, ← List.length_eq_zero_iff, Vector.length_toList]
    exact hn
  have hfree : ∀ part ∈ bytes.toList.map write, sep ∉ part.toList := by
    simpa using fun octet _ => hsep octet
  rw [splitOn_intercalate hne hfree, read_eq_ok_iff hpart hmake, List.map_map,
    List.forall₂_map_left_iff]
  exact List.forall₂_same.mpr fun octet _ => hwrite octet

end PacketSteering.Octets
