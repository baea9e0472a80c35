import Proximity.Proofs.Reading

/-! The other direction of reading: a text that is taken for a natural number began with the decimal
of that number. Neither a sign nor a leading zero, a fraction, an exponent or more digits than 64
bits hold can stand in it, since a number with one of them is negative, no number or a
floating-point one. -/

set_option autoImplicit false

namespace Proximity.Json

/-! ### Digits without a leading zero -/

theorem digitValue_lt {c : Char} (digit : c.isDigit = true) : digitValue c < 10 := by
  have bounds := Char.isDigit_iff_toNat.1 digit
  simp only [digitValue, show '9'.toNat = 57 from rfl] at bounds ⊢
  omega

theorem digitChar_digitValue {c : Char} (digit : c.isDigit = true) :
    Nat.digitChar (digitValue c) = c := by
  have bounds := Char.isDigit_iff_toNat.1 digit
  apply Char.toNat_inj.1
  rw [Nat.toNat_digitChar_of_lt_ten (digitValue_lt digit)]
  simp only [digitValue, show '0'.toNat = 48 from rfl] at bounds ⊢
  omega

theorem toDigits_append_digits {digits : List Char} (digital : ∀ c ∈ digits, c.isDigit = true)
    {value : Nat} (positive : 0 < value) : Nat.toDigits 10 value ++ digits =
      Nat.toDigits 10 (Nat.ofDigitChars 10 digits value) := by
  -- On the digits: what one more of them makes of the number is positive again.
  induction digits generalizing value with
  | nil => simp
  | cons c digits ih =>
    obtain ⟨digit, others⟩ := List.forall_mem_cons.1 digital
    have next := Nat.toDigits_append_toDigits (by decide : 1 < 10) positive (digitValue_lt digit)
    rw [Nat.toDigits_of_lt_base (digitValue_lt digit), digitChar_digitValue digit] at next
    calc Nat.toDigits 10 value ++ c :: digits
        = Nat.toDigits 10 (10 * value + digitValue c) ++ digits := by rw [← next]; simp
      _ = Nat.toDigits 10 (Nat.ofDigitChars 10 (c :: digits) value) := by
        rw [ih others (by omega), Nat.ofDigitChars_cons]
        rfl

theorem WholePart.eq_toDigits {digits : List Char} (whole : WholePart digits) :
    digits = Nat.toDigits 10 (Nat.ofDigitChars 10 digits 0) := by
  cases whole with
  | zero => rfl
  | @positive c others digit nonzero digital =>
    have first : Nat.toDigits 10 (digitValue c) = [c] := by
      rw [Nat.toDigits_of_lt_base (digitValue_lt digit), digitChar_digitValue digit]
    have positive : 0 < digitValue c := by
      refine Nat.pos_of_ne_zero fun none => nonzero ?_
      rw [← digitChar_digitValue digit, none]
      rfl
    calc c :: others = Nat.toDigits 10 (digitValue c) ++ others := by rw [first]; rfl
      _ = Nat.toDigits 10 (Nat.ofDigitChars 10 others (digitValue c)) :=
        toDigits_append_digits digital positive
      _ = Nat.toDigits 10 (Nat.ofDigitChars 10 (c :: others) 0) := by
        rw [Nat.ofDigitChars_cons, Nat.mul_zero, Nat.zero_add]
        rfl

theorem decimal_iff {n : Nat} {text : List Char} :
    Decimal n text ↔ WholePart text ∧ Nat.ofDigitChars 10 text 0 = n := by
  constructor
  · intro decimal
    rw [decimal.eq_write]
    exact ⟨wholePart_toDigits n, Nat.ofDigitChars_ten_toDigits⟩
  · rintro ⟨whole, rfl⟩
    exact whole.eq_toDigits.trans Nat.toList_repr.symm

/-! ### What was taken for a number -/

theorem gather_taken {limit value total count : Nat} {text left : List Char}
    (gathered : gather limit value text = (total, count, left)) :
    ∃ digits, text = digits ++ left ∧ (∀ c ∈ digits, c.isDigit = true) ∧
      Nat.ofDigitChars 10 digits value = total := by
  induction text generalizing value total count left with
  | nil =>
    obtain ⟨rfl, -, rfl⟩ : value = total ∧ 0 = count ∧ [] = left := by simpa [gather] using gathered
    exact ⟨[], rfl, by simp, rfl⟩
  | cons c text ih =>
    simp only [gather] at gathered
    split at gathered
    · rename_i more
      obtain ⟨digit, -⟩ := Bool.and_eq_true_iff.1 more
      obtain ⟨rfl, -, rfl⟩ := by simpa using gathered
      obtain ⟨digits, same, digital, made⟩ := ih rfl
      refine ⟨c :: digits, by rw [List.cons_append, ← same], List.forall_mem_cons.2
        ⟨digit, digital⟩,
        ?_⟩
      rw [← made, Nat.ofDigitChars_cons, Nat.mul_comm]
      rfl
    · obtain ⟨rfl, -, rfl⟩ : value = total ∧ 0 = count ∧ c :: text = left := by
        simpa using gathered
      exact ⟨[], rfl, by simp, rfl⟩

def Floats (result : Except Failure (Number × List Char)) : Prop :=
  ∀ value rest, result ≠ .ok (.integer value, rest)

theorem floats_error {failure : Failure} : Floats (.error failure) := by
  intro value rest
  simp

variable {negative : Bool} {significand : Nat} {power : Int} {text rest : List Char}

theorem floats_real : Floats (real negative significand power rest) := by
  intro value left
  unfold real
  split <;> simp

theorem floats_exponent : Floats (exponent negative significand power text) := by
  unfold exponent
  split
  split
  · exact floats_error
  · split
    · exact floats_error
    · split
      split
      · split
        · exact floats_error
        · intro value rest
          simp
      · exact floats_real

theorem floats_realTail : Floats (realTail negative significand power text) := by
  unfold realTail
  split
  · exact floats_exponent
  · exact floats_exponent
  · exact floats_real

theorem floats_fraction : Floats (fraction negative significand power text) := by
  unfold fraction
  split
  split
  · exact floats_realTail
  · split
    · split <;> exact floats_error
    · exact floats_realTail

theorem floats_wholeTail {leftOut : Nat} :
    Floats (wholeTail negative significand leftOut text) := by
  unfold wholeTail
  split
  · exact floats_fraction
  · exact floats_realTail

/-- Digits up to where they end are a whole part, unless more follow a leading zero. -/
theorem wholePart_of_digits {c : Char} {behind digits left : List Char} (digit : c.isDigit = true)
    (single : ¬ (c = '0' ∧ startsWithDigit behind = true)) (same : c :: behind = digits ++ left)
    (digital : ∀ d ∈ digits, d.isDigit = true) (stops : startsWithDigit left = false) :
    WholePart digits := by
  cases digits with
  | nil =>
    -- Nothing was gathered though the text starts with a digit.
    obtain rfl : c :: behind = left := same
    rw [startsWithDigit, digit] at stops
    cases stops
  | cons d others =>
    obtain ⟨rfl, rfl⟩ := List.cons.inj same
    by_cases zero : c = '0'
    · subst zero
      cases others with
      | nil => exact .zero
      | cons d others => exact absurd ⟨rfl, digital d (by simp)⟩ single
    · exact .positive digit zero fun d member => digital d (List.mem_cons_of_mem c member)

/-- An integer is read from a whole part and nothing else, and it ends there. -/
theorem magnitude_taken {value : Int}
    (taken : magnitude negative text = .ok (.integer value, rest)) :
    ∃ digits, WholePart digits ∧ text = digits ++ rest ∧ Bounds rest ∧
      whole negative (Nat.ofDigitChars 10 digits 0) = .integer value := by
  cases text with
  | nil => simp [magnitude] at taken
  | cons c behind =>
    by_cases digit : c.isDigit = true
    · by_cases single : c = '0' ∧ startsWithDigit behind = true
      · simp [magnitude, single] at taken
      · rcases gathered : gather UInt64.size 0 (c :: behind) with ⟨total, count, left⟩
        obtain ⟨digits, same, digital, rfl⟩ := gather_taken gathered
        simp only [magnitude, digit, Bool.not_true, Bool.false_eq_true, if_false, if_neg single,
          gathered] at taken
        -- More digits than 64 bits hold, a fraction and an exponent all lead to floating point.
        split at taken
        · exact absurd taken (floats_wholeTail _ _)
        · rename_i stops
          split at taken
          · exact absurd taken (floats_wholeTail _ _)
          · exact absurd taken (floats_wholeTail _ _)
          · exact absurd taken (floats_wholeTail _ _)
          · rename_i noPoint noSmall noCapital
            obtain ⟨integer, rfl⟩ := Prod.mk.inj (Except.ok.inj taken)
            have stops : startsWithDigit left = false := by simpa using stops
            have ends : Bounds left := by
              cases left with
              | nil => simp
              | cons d left =>
                refine bounds_cons.2 ⟨stops, ?_, ?_, ?_⟩
                · rintro rfl
                  exact noPoint left rfl
                · rintro rfl
                  exact noSmall left rfl
                · rintro rfl
                  exact noCapital left rfl
            exact ⟨digits, wholePart_of_digits digit single same digital stops, same, ends, integer⟩
    · simp [magnitude, digit] at taken

theorem whole_negative {value : Int} (integer : whole true significand = .integer value) :
    value < 0 := by
  simp only [whole, Bool.not_true, Bool.false_eq_true, if_false] at integer
  split at integer
  · cases integer
  · rename_i inside
    have signed := Number.integer.inj integer
    omega

theorem number_taken {n : Nat} (taken : number text = .ok (.integer n, rest)) :
    ∃ digits, Decimal n digits ∧ text = digits ++ rest ∧ Bounds rest := by
  unfold number at taken
  split at taken
  · -- `-0` is no integer either: it is the floating-point zero.
    obtain ⟨_, _, _, _, integer⟩ := magnitude_taken taken
    have below := whole_negative integer
    omega
  · obtain ⟨digits, part, same, ends, integer⟩ := magnitude_taken taken
    have made := Int.ofNat_inj.1 (Number.integer.inj integer)
    exact ⟨digits, decimal_iff.2 ⟨part, made⟩, same, ends⟩

/-! ### Readers that take nothing else -/

/-- A natural number is read from its digits, behind blanks, up to where they end. -/
theorem natural_taken {limit : Nat} {expected : String} {n : Nat}
    (taken : natural limit expected text = .ok (n, rest)) :
    ∃ before : Blanks, ∃ digits, n < limit ∧ Decimal n digits ∧
      text = before.text ++ (digits ++ rest) ∧ Bounds rest := by
  obtain ⟨before, same⟩ := exists_blanks text
  unfold natural at taken
  split at taken
  · cases taken
  · rename_i c behind front
    split at taken
    · split at taken
      · cases taken
      · rename_i value left numbered
        split at taken
        · rename_i within
          obtain ⟨rfl, rfl⟩ := Prod.mk.inj (Except.ok.inj taken)
          obtain ⟨n, rfl⟩ := Int.eq_ofNat_of_zero_le within.1
          obtain ⟨digits, decimal, cut, ends⟩ := number_taken numbered
          refine ⟨before, digits, by simpa using within.2, decimal, ?_, ends⟩
          rw [same, front, cut]
        · cases taken
      · cases taken
    · cases taken

/-- Nothing but a text of this form, maybe behind blanks, is taken for a value. -/
structure Demands {α : Type} (read : Reader α) (form : Form α) : Prop where
  taken : ∀ {text rest value}, read text = .ok (value, rest) →
    ∃ before : Blanks, ∃ inner, form value inner ∧ text = before.text ++ (inner ++ rest)

theorem demands_natural (limit : Nat) (expected : String) :
    Demands (natural limit expected) (DecimalBelow limit) where
  taken read :=
    let ⟨before, digits, below, decimal, same, _⟩ := natural_taken read
    ⟨before, digits, ⟨below, decimal⟩, same⟩

theorem Demands.map {α β : Type} {read : Reader α} {form : Form α} (demands : Demands read form)
    {other : Form β} {f : α → β} (keeps : ∀ value text, form value text → other (f value) text) :
    Demands (fun input => (read input).map fun result => (f result.1, result.2)) other := by
  refine ⟨fun {text rest value} taken => ?_⟩
  rcases found : read text with failure | ⟨first, left⟩
  · simp [found, Except.map] at taken
  · simp only [found, Except.map] at taken
    obtain ⟨rfl, rfl⟩ := Prod.mk.inj (Except.ok.inj taken)
    obtain ⟨before, inner, form, same⟩ := demands.taken found
    exact ⟨before, inner, keeps first inner form, same⟩

theorem demands_word32 : Demands word32 fun word => Decimal word.toNat :=
  (demands_natural UInt32.size "u32").map fun n text ⟨below, decimal⟩ => by
    rwa [UInt32.toNat_ofNat_of_lt' below]

/-- A reader that takes every text of a form and nothing else accepts the texts of this form that
stand alone. -/
theorem Accepts.parse_eq_ok_iff {α : Type} {read : Reader α} {form : Form α}
    (accepts : Accepts read form) (demands : Demands read form) {text : List Char} {value : α} :
    read.parse text = .ok value ↔ Alone form value text := by
  refine ⟨fun parsed => ?_, accepts.parse_alone⟩
  unfold Reader.parse at parsed
  split at parsed
  · cases parsed
  · rename_i taken
    split at parsed
    · rename_i none
      cases parsed
      obtain ⟨before, inner, form, rfl⟩ := demands.taken taken
      obtain ⟨after, rfl⟩ := skipBlank_eq_nil_iff.1 none
      exact ⟨before, after, inner, form, rfl⟩
    · cases parsed

end Proximity.Json
