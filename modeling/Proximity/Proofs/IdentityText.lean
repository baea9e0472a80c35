import Proximity.Identity
import Proximity.Proofs.Numerals

/-! The texts of identifiers: the decimal of a number of 32 bits, and nothing else. -/

set_option autoImplicit false

namespace Proximity

structure Numbered {α : Type} (number : α → UInt32) (display : α → String)
    (encode : α → List Char) (parse : List Char → Except Json.ParseError α) : Prop where
  /-- Blanks may stand around a decimal, but nothing else. -/
  accepts : ∀ {text n}, (∃ id, parse text = .ok id ∧ (number id).toNat = n) ↔
    n < UInt32.size ∧ Json.Alone Json.Decimal n text
  refuses : ∀ {text}, (∀ n < UInt32.size, ¬ Json.Alone Json.Decimal n text) →
    ∃ error, parse text = .error error
  roundTrips : Json.RoundTrips encode parse
  displayed : ∀ id, encode id = (display id).toList

/-- A reader that takes every decimal of 32 bits and nothing else reads identifiers. -/
theorem numbered_of_exact {α : Type} {number : α → UInt32} {read : Json.Reader α}
    (accepts : Json.Accepts read fun id => Json.Decimal (number id).toNat)
    (demands : Json.Demands read fun id => Json.Decimal (number id).toNat)
    (every : ∀ word, ∃ id, number id = word) :
    Numbered number (fun id => toString (number id).toNat)
      (fun id => Json.writeNatural (number id).toNat) read.parse where
  accepts {text n} := by
    constructor
    · rintro ⟨id, parsed, rfl⟩
      exact ⟨(number id).toNat_lt_size, (accepts.parse_eq_ok_iff demands).1 parsed⟩
    · rintro ⟨below, alone⟩
      obtain ⟨id, same⟩ := every (UInt32.ofNat n)
      obtain rfl : (number id).toNat = n := by rw [same, UInt32.toNat_ofNat_of_lt' below]
      exact ⟨id, (accepts.parse_eq_ok_iff demands).2 alone, rfl⟩
  refuses {text} none := by
    cases parsed : read.parse text with
    | error error => exact ⟨error, rfl⟩
    | ok id =>
      have alone := (accepts.parse_eq_ok_iff demands).1 parsed
      exact absurd alone (none _ (number id).toNat_lt_size)
  roundTrips := .of_reads fun _ => accepts.reads (Json.decimal_writeNatural _)
  displayed _ := Json.decimal_writeNatural _

theorem ClientId.accepts : Json.Accepts ClientId.read fun c => Json.Decimal c.value.toNat :=
  Json.accepts_word32.map fun _ => rfl

theorem ClientId.demands : Json.Demands ClientId.read fun c => Json.Decimal c.value.toNat :=
  Json.demands_word32.map fun _ _ => id

theorem SessionId.accepts : Json.Accepts SessionId.read fun s => Json.Decimal s.value.toNat :=
  Json.accepts_word32.map fun _ => rfl

theorem SessionId.demands : Json.Demands SessionId.read fun s => Json.Decimal s.value.toNat :=
  Json.demands_word32.map fun _ _ => id

/-- A text is read as an identifier when it is the decimal of a number of 32 bits with nothing but
blanks around it, and as none otherwise; an identifier is written as it is displayed, and no two of
them have one text. -/
theorem identifiers_exactly_decimal :
    Numbered ClientId.value ClientId.display ClientId.write ClientId.read.parse ∧
    Numbered SessionId.value SessionId.display SessionId.write SessionId.read.parse :=
  ⟨numbered_of_exact ClientId.accepts ClientId.demands fun word => ⟨⟨word⟩, rfl⟩,
    numbered_of_exact SessionId.accepts SessionId.demands fun word => ⟨⟨word⟩, rfl⟩⟩

example : ClientId.read.parse "\t4294967295 \n".toList = .ok ⟨4294967295⟩ ∧
    (["4294967296", "-0", "01", "-1", "1 2", "\"1\""].all fun text =>
      (ClientId.read.parse text.toList).toOption.isNone) = true :=
  ⟨by rfl, by cbv⟩

end Proximity
