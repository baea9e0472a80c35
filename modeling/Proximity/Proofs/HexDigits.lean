import Proximity.Text.Hex

/-! Which texts are byte strings in hexadecimal: an even number of digits of either case, and
nothing else. The bytes are those whose lower-case digits are the same but for case. -/

set_option autoImplicit false

namespace Proximity.Hex

def IsDigit (c : Char) : Prop := c ∈ "0123456789abcdefABCDEF".toList

instance (c : Char) : Decidable (IsDigit c) := inferInstanceAs (Decidable (c ∈ _))

structure Paired (text : List Char) : Prop where
  even : text.length % 2 = 0
  digits : ∀ c ∈ text, IsDigit c

/-! ### Single digits -/

theorem value?_lt {octet : UInt8} {n : Nat} (value : value? octet = some n) : n < 16 := by
  simp only [value?] at value
  split at value
  · cases value
    omega
  · split at value
    · cases value
      omega
    · split at value
      · cases value
        omega
      · cases value

theorem IsDigit.value {c : Char} (d : IsDigit c) : ∃ n < 16,
    String.utf8EncodeChar c = [UInt8.ofNat c.toNat] ∧ value? (UInt8.ofNat c.toNat) = some n ∧
      c.toLower = digit n := by
  have all : ("0123456789abcdefABCDEF".toList.all fun c =>
      decide (String.utf8EncodeChar c = [UInt8.ofNat c.toNat] ∧
        (value? (UInt8.ofNat c.toNat)).map digit = some c.toLower)) = true := by decide
  obtain ⟨octet, lower⟩ := of_decide_eq_true (List.all_eq_true.1 all c d)
  obtain ⟨n, value, same⟩ := Option.map_eq_some_iff.1 lower
  exact ⟨n, value?_lt value, octet, value, same.symm⟩

theorem digit_injective {n m : Nat} (small : n < 16) (less : m < 16) (same : digit n = digit m) :
    n = m := by
  have all : ∀ n < 16, ∀ m < 16, digit n = digit m → n = m := by decide
  exact all n small m less same

theorem isDigit_of_toLower {c : Char} {n : Nat} (small : n < 16) (lower : c.toLower = digit n) :
    IsDigit c := by
  have ascii : c.toNat < 128 := by
    have low : ∀ n < 16, (digit n).toNat < 128 := by decide
    by_cases upper : c.val ≥ 'A'.val ∧ c.val ≤ 'Z'.val
    · exact Nat.lt_of_le_of_lt (UInt32.le_iff_toNat_le.1 upper.2) (by decide)
    · have same : c.toLower = c := dif_neg upper
      rw [← same, lower]
      exact low n small
  have all : ∀ n < 16, ∀ code < 128, (Char.ofNat code).toLower = digit n →
      IsDigit (Char.ofNat code) := by decide
  have found := all n small c.toNat ascii
  rw [Char.ofNat_toNat] at found
  exact found lower

theorem IsDigit.ascii {c : Char} (d : IsDigit c) : c.toNat < 128 := by
  have all : ("0123456789abcdefABCDEF".toList.all fun c => decide (c.toNat < 128)) = true := by
    decide
  exact of_decide_eq_true (List.all_eq_true.1 all c d)

/-- Characters beyond the first 128 are written with octets beyond the first 128. -/
theorem octet_of_large {c : Char} (large : 128 ≤ c.toNat) :
    ∃ octet ∈ String.utf8EncodeChar c, 128 ≤ octet.toNat := by
  change 128 ≤ c.val.toNat at large
  fun_cases String.utf8EncodeChar c with
  | case1 _ small => omega
  | case2 | case3 | case4 =>
    refine ⟨_, List.mem_cons_self, ?_⟩
    simp
    omega

theorem value?_of_large {octet : UInt8} (large : 128 ≤ octet.toNat) : value? octet = none := by
  simp only [value?]
  rw [if_neg (by omega), if_neg (by omega), if_neg (by omega)]

theorem isDigit_of_octets {c : Char}
    (octets : ∀ octet ∈ String.utf8EncodeChar c, (value? octet).isSome = true) : IsDigit c := by
  by_cases ascii : c.toNat < 128
  · have all : ∀ code < 128, ((String.utf8EncodeChar (Char.ofNat code)).all fun octet =>
        (value? octet).isSome) = true → IsDigit (Char.ofNat code) := by decide
    have found := all c.toNat ascii
    rw [Char.ofNat_toNat] at found
    exact found (List.all_eq_true.2 octets)
  · obtain ⟨octet, member, large⟩ := octet_of_large (Nat.le_of_not_lt ascii)
    have value := octets octet member
    rw [value?_of_large large] at value
    cases value

/-! ### Byte strings -/

theorem encode_cons_eq (byte : UInt8) (bytes : Bytes) : ∃ high < 16, ∃ low < 16,
    UInt8.ofNat (16 * high + low) = byte ∧
      encode (byte :: bytes) = digit high :: digit low :: encode bytes := by
  have small := byte.toNat_lt_size
  change byte.toNat < 256 at small
  refine ⟨byte.toNat / 16, by omega, byte.toNat % 16, by omega, ?_, rfl⟩
  rw [show 16 * (byte.toNat / 16) + byte.toNat % 16 = byte.toNat by omega, UInt8.ofNat_toNat]

theorem encode_ofNat {high low : Nat} (first : high < 16) (second : low < 16) (bytes : Bytes) :
    encode (UInt8.ofNat (16 * high + low) :: bytes) =
      digit high :: digit low :: encode bytes := by
  have whole : (UInt8.ofNat (16 * high + low)).toNat = 16 * high + low := by
    rw [UInt8.toNat_ofNat']
    omega
  rw [encode, whole, show (16 * high + low) / 16 = high by omega,
    show (16 * high + low) % 16 = low by omega]

theorem utf8_digits {text : List Char} (digits : ∀ c ∈ text, IsDigit c) :
    Text.utf8 text = text.map fun c => UInt8.ofNat c.toNat := by
  induction text with
  | nil => rfl
  | cons c text ih =>
    obtain ⟨first, others⟩ := List.forall_mem_cons.1 digits
    obtain ⟨_, _, octet, _⟩ := first.value
    have rest := ih others
    rw [Text.utf8] at rest ⊢
    rw [List.flatMap_cons, octet, rest]
    rfl

/-- The digits of a byte string are paired, whatever their case. -/
theorem paired_of_lower {text : List Char} {bytes : Bytes}
    (lower : text.map Char.toLower = encode bytes) : Paired text := by
  induction bytes generalizing text with
  | nil =>
    obtain rfl := List.map_eq_nil_iff.1 lower
    exact ⟨rfl, by simp⟩
  | cons byte bytes ih =>
    obtain ⟨high, first, low, second, _, digits⟩ := encode_cons_eq byte bytes
    rw [digits] at lower
    obtain ⟨a, text, rfl, one, lower⟩ := List.map_eq_cons_iff.1 lower
    obtain ⟨b, text, rfl, two, lower⟩ := List.map_eq_cons_iff.1 lower
    have rest := ih lower
    refine ⟨?_, List.forall_mem_cons.2 ⟨isDigit_of_toLower first one,
      List.forall_mem_cons.2 ⟨isDigit_of_toLower second two, rest.digits⟩⟩⟩
    have even := rest.even
    simp only [List.length_cons]
    omega

theorem decodePairs_digits : ∀ {text : List Char}, Paired text → ∀ index, ∃ bytes,
    decodePairs index (text.map fun c => UInt8.ofNat c.toNat) = .ok bytes ∧
      text.map Char.toLower = encode bytes
  | [], _, _ => ⟨[], rfl, rfl⟩
  | [_], paired, _ => by have even := paired.even; simp at even
  | a :: b :: rest, paired, index => by
    obtain ⟨first, digits⟩ := List.forall_mem_cons.1 paired.digits
    obtain ⟨second, others⟩ := List.forall_mem_cons.1 digits
    obtain ⟨high, below, _, one, upper⟩ := first.value
    obtain ⟨low, less, _, two, lower⟩ := second.value
    have even : rest.length % 2 = 0 := by
      have all := paired.even
      simp only [List.length_cons] at all
      omega
    -- Two digits make one byte, and what is left is paired again.
    obtain ⟨bytes, decoded, same⟩ := decodePairs_digits ⟨even, others⟩ (index + 2)
    refine ⟨UInt8.ofNat (16 * high + low) :: bytes, ?_, ?_⟩
    · simp only [List.map_cons, decodePairs, one, two, decoded]
      rfl
    · rw [List.map_cons, List.map_cons, upper, lower, same, encode_ofNat below less]

theorem Paired.decoded {text : List Char} (paired : Paired text) :
    ∃ bytes, decode text = .ok bytes ∧ text.map Char.toLower = encode bytes := by
  obtain ⟨bytes, decoded, same⟩ := decodePairs_digits paired 0
  refine ⟨bytes, ?_, same⟩
  have even : ¬ (text.map fun c => UInt8.ofNat c.toNat).length % 2 = 1 := by
    rw [List.length_map, paired.even]
    decide
  simp only [decode, utf8_digits paired.digits, if_neg even, decoded]

theorem decodePairs_ok {index : Nat} {octets bytes : Bytes}
    (decoded : decodePairs index octets = .ok bytes) :
    octets.length % 2 = 0 ∧ ∀ octet ∈ octets, (value? octet).isSome = true := by
  fun_induction decodePairs index octets generalizing bytes with
  | case1 => simp
  | case2 | case3 | case4 => cases decoded
  | case5 index high low rest h l first second ih =>
    cases others : decodePairs (index + 2) rest with
    | error fault =>
      rw [others] at decoded
      cases decoded
    | ok more =>
      obtain ⟨even, digits⟩ := ih others
      refine ⟨?_, ?_⟩
      · simp only [List.length_cons]
        omega
      · simp [first, second]
        exact digits

theorem paired_of_decode {text : List Char} {bytes : Bytes} (decoded : decode text = .ok bytes) :
    Paired text := by
  simp only [decode] at decoded
  split at decoded
  · cases decoded
  · -- The pairs are of octets; there are as many characters once each is known to be a digit.
    obtain ⟨even, octets⟩ := decodePairs_ok decoded
    have digits : ∀ c ∈ text, IsDigit c := fun c member =>
      isDigit_of_octets fun octet of => octets octet (List.mem_flatMap.2 ⟨c, member, of⟩)
    rw [utf8_digits digits, List.length_map] at even
    exact ⟨even, digits⟩

theorem encode_injective {bytes others : Bytes} (same : encode bytes = encode others) :
    bytes = others := by
  induction bytes generalizing others with
  | nil =>
    cases others with
    | nil => rfl
    | cons byte others => cases same
  | cons byte bytes ih =>
    cases others with
    | nil => cases same
    | cons other others =>
      obtain ⟨high, first, low, second, rfl, digits⟩ := encode_cons_eq byte bytes
      obtain ⟨high', first', low', second', rfl, digits'⟩ := encode_cons_eq other others
      rw [digits, digits'] at same
      simp only [List.cons.injEq] at same
      rw [digit_injective first first' same.1, digit_injective second second' same.2.1,
        ih same.2.2]

/-- A text is read as the bytes that it is the digits of, but for case. -/
theorem decode_eq_ok_iff {text : List Char} {bytes : Bytes} :
    decode text = .ok bytes ↔ text.map Char.toLower = encode bytes := by
  refine ⟨fun decoded => ?_, fun lower => ?_⟩
  · obtain ⟨found, same, lower⟩ := (paired_of_decode decoded).decoded
    rw [decoded] at same
    rw [lower, Except.ok.inj same]
  · obtain ⟨found, decoded, same⟩ := (paired_of_lower lower).decoded
    rw [decoded, encode_injective (same.symm.trans lower)]

theorem decode_error {text : List Char} (unpaired : ¬ Paired text) :
    ∃ fault, decode text = .error fault := by
  cases decoded : decode text with
  | ok bytes => exact absurd (paired_of_decode decoded) unpaired
  | error fault => exact ⟨fault, rfl⟩

end Proximity.Hex
