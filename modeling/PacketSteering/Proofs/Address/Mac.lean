import PacketSteering.Proofs.Address.Octets
import PacketSteering.Wire

/-!
# Reading link-layer addresses

A text is read as a link-layer address exactly if it is six hexadecimal octets between colons, and
any other text is refused for its first part that is no octet, which is named, or, without such a
part, for the number of its parts (`Mac.Refused`).  The text that is printed of an address, two
upper-case digits to an octet, is one of those that are read as it (`Mac.read_text`).
-/

namespace PacketSteering.Mac

open Numeral Octets

lemma read_eq (text : String) :
    read text = ((text.toList.splitOn ':').mapM readPart >>= counted Mac.mk .wrongCount) := rfl

lemma mk_injective : Function.Injective Mac.mk := fun _ _ h => Mac.mk.inj h

lemma readPart_eq_ok_iff (part : List Char) (octet : UInt8) :
    readPart part = .ok octet ↔ StandsFor 16 part octet := by
  rw [← readOctet_eq_ok_iff (Nat.le_refl 16), readPart]
  cases readOctet 16 part with
  | ok other =>
    exact ⟨fun h => congrArg _ (Except.ok.inj h), fun h => congrArg _ (Except.ok.inj h)⟩
  | error cause => exact iff_of_false nofun nofun

/-- Whatever is wrong with a part, it is named and not what is wrong with it. -/
lemma readPart_eq_error_iff {part : List Char} {reason : ReadError} :
    readPart part = .error reason ↔
      ¬ IsOctet 16 part ∧ reason = .badOctet (String.ofList part) := by
  simp only [IsOctet, ← readOctet_eq_ok_iff (Nat.le_refl 16), readPart]
  cases readOctet 16 part with
  | ok other => exact iff_of_false (fun h => by cases h) fun h => h.1 ⟨other, rfl⟩
  | error cause =>
    rw [Except.error.injEq, eq_comm, and_iff_right]
    rintro ⟨octet, hok⟩
    cases hok

/-- Why a text is refused: for the first part between colons that is no hexadecimal octet or,
without such a part, because there are not six. -/
inductive Refused (text : String) : ReadError → Prop
  | badOctet {earlier later : List (List Char)} {part : List Char}
      (hparts : text.toList.splitOn ':' = earlier ++ part :: later)
      (hearlier : ∀ other ∈ earlier, IsOctet 16 other) (hpart : ¬ IsOctet 16 part) :
      Refused text (.badOctet (String.ofList part))
  | wrongCount (hparts : ∀ part ∈ text.toList.splitOn ':', IsOctet 16 part)
      (hcount : (text.toList.splitOn ':').length ≠ 6) :
      Refused text (.wrongCount (text.toList.splitOn ':').length)

variable {text : String}

lemma read_eq_ok_iff {address : Mac} :
    read text = .ok address ↔
      List.Forall₂ (StandsFor 16) (text.toList.splitOn ':') address.bytes.toList := by
  rw [read_eq]
  exact Octets.read_eq_ok_iff readPart_eq_ok_iff mk_injective

lemma read_eq_error_iff {reason : ReadError} :
    read text = .error reason ↔ Refused text reason := by
  rw [read_eq, Octets.read_eq_error_iff readPart_eq_ok_iff]
  simp only [readPart_eq_error_iff]
  constructor
  · rintro (⟨_, _, _, hparts, hearlier, hpart, rfl⟩ | ⟨hparts, hcount, rfl⟩)
    · exact .badOctet hparts hearlier hpart
    · exact .wrongCount hparts hcount
  · intro h
    cases h with
    | badOctet hparts hearlier hpart =>
      exact Or.inl ⟨_, _, _, hparts, hearlier, hpart, rfl⟩
    | wrongCount hparts hcount => exact Or.inr ⟨hparts, hcount, rfl⟩

lemma read_text (address : Mac) : read address.text = .ok address := by
  rw [read_eq, Mac.text]
  exact read_written readPart_eq_ok_iff mk_injective standsFor_upperText
    (fun octet => notMem_upperText octet rfl) (by decide) address.bytes

/-- **A link-layer address is read from its six hexadecimal octets and from nothing else.** Whatever
the text: it is read as an address exactly if its parts between colons stand for the bytes of the
address in order; it is refused exactly for its first part that is no octet, which is named whatever
the number of parts, or because its parts are octets but not six, and then they are counted; and an
address is read back from its text, however it was written before. -/
theorem hexadecimal_octets_read (text : String) :
    (∀ address, read text = .ok address ↔
        List.Forall₂ (StandsFor 16) (text.toList.splitOn ':') address.bytes.toList) ∧
      (∀ reason, read text = .error reason ↔ Refused text reason) ∧
      (∀ part, (ReadError.badOctet part).message = "bad octet: " ++ part) ∧
      (∀ count, (ReadError.wrongCount count).message =
        "incorrect number of bytes: " ++ toString count) ∧
      (∀ address, read address.text = .ok address) ∧
      ∀ address, read text = .ok address → read address.text = read text :=
  ⟨fun _ => read_eq_ok_iff, fun _ => read_eq_error_iff, fun _ => rfl, fun _ => rfl, read_text,
    fun address hread => (read_text address).trans hread.symm⟩

/-- Lower case, a sign and zeros in front are read, and are no longer there when the address is
printed. -/
theorem hexadecimal_octets_read_lowerCase :
    ∃ address, read "a8:+40:025:fF:0:1" = .ok address ∧ address.text = "A8:40:25:FF:00:01" ∧
      read address.text = .ok address := by
  have hread : read "a8:+40:025:fF:0:1" = .ok ⟨#v[0xA8, 0x40, 0x25, 0xFF, 0x00, 0x01]⟩ := by
    decide
  obtain ⟨-, -, -, -, -, hagain⟩ := hexadecimal_octets_read "a8:+40:025:fF:0:1"
  exact ⟨_, hread, by decide, (hagain _ hread).trans hread⟩

end PacketSteering.Mac
