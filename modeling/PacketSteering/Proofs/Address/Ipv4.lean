import PacketSteering.Proofs.Address.Octets
import PacketSteering.Wire

/-!
# Reading network addresses

A text is read as a network address exactly if it is four decimal octets between dots, and any
other text is refused for its first part that is no octet or, without such a part, for the number
of its parts (`Ipv4.Refused`).  The text that is printed of an address is one of those that are read
as it (`Ipv4.read_text`).
-/

namespace PacketSteering.Ipv4

open Numeral Octets

lemma read_eq (text : String) :
    read text = ((text.toList.splitOn '.').mapM readPart >>=
      counted Ipv4.mk fun _ => .malformed text) := rfl

lemma mk_injective : Function.Injective Ipv4.mk := fun _ _ h => Ipv4.mk.inj h

lemma readPart_eq_ok_iff (part : List Char) (octet : UInt8) :
    readPart part = .ok octet ↔ StandsFor 10 part octet := by
  rw [← readOctet_eq_ok_iff (by decide), readPart]
  cases readOctet 10 part with
  | ok other =>
    exact ⟨fun h => congrArg _ (Except.ok.inj h), fun h => congrArg _ (Except.ok.inj h)⟩
  | error cause => exact iff_of_false nofun nofun

lemma readPart_eq_error_iff {part : List Char} {reason : ReadError} :
    readPart part = .error reason ↔ ∃ cause, Faulty 10 part cause ∧ reason = .badOctet cause := by
  simp only [← readOctet_eq_error_iff (show 10 ≤ 16 by decide), readPart]
  cases readOctet 10 part with
  | ok other => exact iff_of_false nofun fun ⟨_, h, _⟩ => nomatch h
  | error cause =>
    constructor
    · rintro ⟨⟩
      exact ⟨cause, rfl, rfl⟩
    · rintro ⟨_, ⟨⟩, rfl⟩
      rfl

/-- Why a text is refused: for the first part between dots that is no decimal octet or, without
such a part, because there are not four. -/
inductive Refused (text : String) : ReadError → Prop
  | badOctet {earlier later : List (List Char)} {part : List Char} {cause : NumeralError}
      (hparts : text.toList.splitOn '.' = earlier ++ part :: later)
      (hearlier : ∀ other ∈ earlier, IsOctet 10 other) (hpart : Faulty 10 part cause) :
      Refused text (.badOctet cause)
  | malformed (hparts : ∀ part ∈ text.toList.splitOn '.', IsOctet 10 part)
      (hcount : (text.toList.splitOn '.').length ≠ 4) : Refused text (.malformed text)

variable {text : String}

lemma read_eq_ok_iff {address : Ipv4} :
    read text = .ok address ↔
      List.Forall₂ (StandsFor 10) (text.toList.splitOn '.') address.bytes.toList := by
  rw [read_eq]
  exact Octets.read_eq_ok_iff readPart_eq_ok_iff mk_injective

lemma read_eq_error_iff {reason : ReadError} :
    read text = .error reason ↔ Refused text reason := by
  rw [read_eq, Octets.read_eq_error_iff readPart_eq_ok_iff]
  simp only [readPart_eq_error_iff]
  constructor
  · rintro (⟨_, _, _, hparts, hearlier, _, hpart, rfl⟩ | ⟨hparts, hcount, rfl⟩)
    · exact .badOctet hparts hearlier hpart
    · exact .malformed hparts hcount
  · intro h
    cases h with
    | badOctet hparts hearlier hpart =>
      exact Or.inl ⟨_, _, _, hparts, hearlier, _, hpart, rfl⟩
    | malformed hparts hcount => exact Or.inr ⟨hparts, hcount, rfl⟩

lemma read_text (address : Ipv4) : read address.text = .ok address := by
  rw [read_eq, Ipv4.text]
  exact read_written readPart_eq_ok_iff mk_injective standsFor_toString
    (fun octet => notMem_toString octet rfl) (by decide) address.bytes

/-- **A network address is read from its four decimal octets and from nothing else.** Whatever the
text: it is read as an address exactly if its parts between dots stand for the bytes of the address
in order; it is refused exactly for its first part that is no octet, whatever the number of parts,
or because its parts are octets but not four, and is then named; and an address is read back from
its text, however it was written before. -/
theorem decimal_octets_read (text : String) :
    (∀ address, read text = .ok address ↔
        List.Forall₂ (StandsFor 10) (text.toList.splitOn '.') address.bytes.toList) ∧
      (∀ reason, read text = .error reason ↔ Refused text reason) ∧
      (ReadError.malformed text).message = "malformed ip: " ++ text ∧
      (∀ cause, (ReadError.badOctet cause).message = cause.message) ∧
      (∀ address, read address.text = .ok address) ∧
      ∀ address, read text = .ok address → read address.text = read text :=
  ⟨fun _ => read_eq_ok_iff, fun _ => read_eq_error_iff, rfl, fun _ => rfl, read_text,
    fun address hread => (read_text address).trans hread.symm⟩

/-- Zeros and a sign in front are read, and are no longer there when the address is printed. -/
theorem decimal_octets_read_padded :
    ∃ address, read "010.+20.0.255" = .ok address ∧ address.text = "10.20.0.255" ∧
      read address.text = .ok address := by
  have hread : read "010.+20.0.255" = .ok ⟨#v[10, 20, 0, 255]⟩ := by decide
  obtain ⟨-, -, -, -, -, hagain⟩ := decimal_octets_read "010.+20.0.255"
  exact ⟨_, hread, by decide, (hagain _ hread).trans hread⟩

end PacketSteering.Ipv4
