import Mathlib.Data.List.DropRight
import Proximity.Proofs.Grammar

/-! Readers take the text of a value off the front of whatever it stands before, unless digits or a
fraction would go on with it. Every reader of a plain type or of a list has its law here, for each
way to spell a string and for any blanks between elements; what the writers write is one of these
texts. -/

set_option autoImplicit false

namespace Proximity.Json

/-- Whether a number that stands before a text ends there. -/
def Bounds (rest : List Char) : Prop :=
  ∀ c ∈ rest.head?, c.isDigit = false ∧ c ≠ '.' ∧ c ≠ 'e' ∧ c ≠ 'E'

@[simp] theorem bounds_nil : Bounds [] := by simp [Bounds]

@[simp] theorem bounds_cons {c : Char} {rest : List Char} :
    Bounds (c :: rest) ↔ c.isDigit = false ∧ c ≠ '.' ∧ c ≠ 'e' ∧ c ≠ 'E' := by
  simp [Bounds]

theorem Bounds.startsWithDigit {rest : List Char} (bounds : Bounds rest) :
    startsWithDigit rest = false := by
  cases rest with
  | nil => rfl
  | cons c rest => exact (bounds_cons.1 bounds).1

/-- The reader takes `text` for `value`, whatever comes behind it. -/
structure Reads {α : Type} (read : Reader α) (text : List Char) (value : α) : Prop where
  /-- A text that begins so can stand as an element of a list. -/
  opens : ∃ c rest, text = c :: rest ∧ isBlank c = false ∧ c ≠ ']'
  takes : ∀ rest, Bounds rest → read (text ++ rest) = .ok (value, rest)

theorem skipBlank_cons {c : Char} (rest : List Char) (solid : isBlank c = false) :
    skipBlank (c :: rest) = c :: rest :=
  List.dropWhile_cons_of_neg (by simp [solid])

namespace Reads

variable {α β : Type} {read : Reader α} {text : List Char} {value : α}

theorem map (reads : Reads read text value) (f : α → β) :
    Reads (fun input => (read input).map fun result => (f result.1, result.2)) text (f value) := by
  refine ⟨reads.opens, fun rest bounds => ?_⟩
  simp only [reads.takes rest bounds]
  rfl

theorem unique {other : α} (first : Reads read text value) (second : Reads read text other) :
    value = other := by
  have taken := first.takes [] bounds_nil
  rw [second.takes [] bounds_nil] at taken
  exact (Prod.mk.inj (Except.ok.inj taken)).1.symm

theorem parse (reads : Reads read text value) : read.parse text = .ok value := by
  have taken := reads.takes [] bounds_nil
  rw [List.append_nil] at taken
  simp [Reader.parse, taken, skipBlank]

end Reads

/-- What holds of an encoding that keeps everything: each value is read back, values with one text
are one value, and what was read is written as it stood. -/
structure RoundTrips {α : Type} (encode : α → List Char)
    (parse : List Char → Except ParseError α) : Prop where
  reads : ∀ value, parse (encode value) = .ok value
  injective : ∀ {value other}, encode value = encode other → value = other
  again : ∀ {value found}, parse (encode value) = .ok found → encode found = encode value

theorem RoundTrips.of_reads {α : Type} {read : Reader α} {write : α → List Char}
    (reads : ∀ value, Reads read (write value) value) : RoundTrips write read.parse where
  reads value := (reads value).parse
  injective {value other} same := by
    have found := (reads value).parse
    rw [same, (reads other).parse] at found
    exact (Except.ok.inj found).symm
  again {value found} parsed := by
    rw [(reads value).parse] at parsed
    rw [Except.ok.inj parsed]

/-! ### Blanks -/

theorem isBlank_iff {c : Char} : isBlank c = true ↔ c = ' ' ∨ c = '\n' ∨ c = '\t' ∨ c = '\r' := by
  simp [isBlank, or_assoc]

theorem skipBlank_skipBlank (text : List Char) : skipBlank (skipBlank text) = skipBlank text :=
  List.dropWhile_idempotent ..

@[simp] theorem Blanks.skip (b : Blanks) (rest : List Char) :
    skipBlank (b.text ++ rest) = skipBlank rest :=
  List.dropWhile_append_of_pos fun c member => isBlank_iff.2 (b.blank c member)

/-- Nothing depends on blanks in front. -/
def Skips {β : Type} (f : List Char → β) : Prop := ∀ text, f (skipBlank text) = f text

theorem Skips.blanks {β : Type} {f : List Char → β} (skips : Skips f) (b : Blanks)
    (text : List Char) : f (b.text ++ text) = f text := by
  rw [← skips, b.skip, skips]

theorem Blanks.skip_all (b : Blanks) : skipBlank b.text = [] := by
  simpa [skipBlank] using b.skip []

theorem exists_blanks (text : List Char) : ∃ b : Blanks, text = b.text ++ skipBlank text :=
  ⟨⟨text.takeWhile isBlank, fun _ member => isBlank_iff.1 (List.mem_takeWhile_imp member)⟩,
    (List.takeWhile_append_dropWhile ..).symm⟩

theorem skipBlank_eq_nil_iff {text : List Char} :
    skipBlank text = [] ↔ ∃ b : Blanks, text = b.text := by
  constructor
  · intro none
    obtain ⟨b, same⟩ := exists_blanks text
    exact ⟨b, by rw [same, none, List.append_nil]⟩
  · rintro ⟨b, rfl⟩
    exact b.skip_all

/-- Blanks are no digits, so a number before them ends there. -/
theorem Blanks.bounds (b : Blanks) {rest : List Char} (bounds : Bounds rest) :
    Bounds (b.text ++ rest) := by
  cases same : b.text with
  | nil => exact bounds
  | cons c others =>
    have blank := b.blank c (by simp [same])
    rw [List.cons_append, bounds_cons]
    rcases blank with rfl | rfl | rfl | rfl <;> decide

/-! ### Numbers -/

theorem le_ofDigitChars (digits : List Char) (value : Nat) :
    value ≤ Nat.ofDigitChars 10 digits value := by
  induction digits generalizing value with
  | nil => simp
  | cons c digits ih =>
    rw [Nat.ofDigitChars_cons]
    have more := ih (10 * value + (c.toNat - '0'.toNat))
    omega

/-- All digits are gathered as long as their number is not too large. -/
theorem gather_digits {limit : Nat} {digits rest : List Char} {value : Nat}
    (digital : ∀ c ∈ digits, c.isDigit = true) (fits : Nat.ofDigitChars 10 digits value < limit)
    (stops : startsWithDigit rest = false) : gather limit value (digits ++ rest) =
      (Nat.ofDigitChars 10 digits value, digits.length, rest) := by
  induction digits generalizing value with
  | nil =>
    cases rest with
    | nil => simp [gather]
    | cons c rest =>
      have plain : c.isDigit = false := stops
      simp [gather, plain]
  | cons c digits ih =>
    obtain ⟨digit, others⟩ := List.forall_mem_cons.1 digital
    rw [Nat.ofDigitChars_cons] at fits
    have here : 10 * value + (c.toNat - '0'.toNat) = value * 10 + digitValue c := by
      rw [Nat.mul_comm]
      rfl
    rw [here] at fits
    -- The number only grows with further digits, so it fits at each of them.
    have below : value * 10 + digitValue c < limit :=
      Nat.lt_of_le_of_lt (le_ofDigitChars ..) fits
    rw [Nat.ofDigitChars_cons, here]
    simp [gather, digit, below, ih others fits]

theorem toDigits_head_ne_zero {n : Nat} (positive : 0 < n) :
    (Nat.toDigits 10 n).head? ≠ some '0' := by
  induction n using Nat.strongRecOn with
  | ind n ih =>
    rcases Nat.lt_or_ge n 10 with small | large
    · rw [Nat.toDigits_of_lt_base small]
      simp
      omega
    · rw [Nat.toDigits_of_base_le (by decide) large, List.head?_append]
      have tenths := ih (n / 10) (by omega) (by omega)
      cases digits : Nat.toDigits 10 (n / 10) with
      | nil => exact absurd digits Nat.toDigits_ne_nil
      | cons c tail => simpa [digits] using tenths

theorem magnitude_digits {n : Nat} {rest : List Char} (fits : n < UInt64.size)
    (bounds : Bounds rest) :
    magnitude false (Nat.toDigits 10 n ++ rest) = .ok (.integer n, rest) := by
  have digital : ∀ c ∈ Nat.toDigits 10 n, c.isDigit = true := fun c member =>
    Nat.isDigit_of_mem_toDigits (by decide) (by decide) member
  have gathered : gather UInt64.size 0 (Nat.toDigits 10 n ++ rest) =
      (n, (Nat.toDigits 10 n).length, rest) := by
    rw [gather_digits digital (by simpa using fits) bounds.startsWithDigit]
    simp
  have leading : ¬ ((Nat.toDigits 10 n).head? = some '0' ∧
      startsWithDigit ((Nat.toDigits 10 n).tail ++ rest) = true) := by
    rintro ⟨zero, digit⟩
    rcases Nat.eq_zero_or_pos n with rfl | positive
    · rw [Nat.toDigits_zero, List.tail_cons, List.nil_append, bounds.startsWithDigit] at digit
      cases digit
    · exact toDigits_head_ne_zero positive zero
  cases digits : Nat.toDigits 10 n with
  | nil => exact absurd digits Nat.toDigits_ne_nil
  | cons c tail =>
    rw [digits] at gathered digital leading
    have digit : c.isDigit = true := digital c List.mem_cons_self
    have single : ¬ (c = '0' ∧ startsWithDigit (tail ++ rest) = true) := by simpa using leading
    rw [List.cons_append] at gathered ⊢
    simp only [magnitude, digit, Bool.not_true, Bool.false_eq_true, if_false, if_neg single,
      gathered, bounds.startsWithDigit]
    -- Neither a fraction nor an exponent goes on with the digits.
    split
    · simp at bounds
    · simp at bounds
    · simp at bounds
    · simp [whole]

theorem number_digits {n : Nat} {rest : List Char} (fits : n < UInt64.size)
    (bounds : Bounds rest) : number (Nat.toDigits 10 n ++ rest) = .ok (.integer n, rest) := by
  have plain := magnitude_digits fits bounds
  unfold number
  split
  · rename_i signed
    have minus : '-' ∈ Nat.toDigits 10 n := by
      cases digits : Nat.toDigits 10 n with
      | nil => exact absurd digits Nat.toDigits_ne_nil
      | cons c tail =>
        rw [digits, List.cons_append, List.cons.injEq] at signed
        simp [signed.1]
    have digit : '-'.isDigit = true :=
      Nat.isDigit_of_mem_toDigits (by decide) (by decide) minus
    exact absurd digit (by decide)
  · exact plain

theorem not_blank_of_isDigit {c : Char} (digit : c.isDigit = true) : isBlank c = false := by
  cases blank : isBlank c with
  | false => rfl
  | true =>
    simp only [isBlank, Bool.or_eq_true, decide_eq_true_eq] at blank
    rcases blank with ((rfl | rfl) | rfl) | rfl <;> exact absurd digit (by decide)

theorem reads_natural {limit n : Nat} (expected : String) (fits : n < UInt64.size)
    (below : n < limit) : Reads (natural limit expected) (writeNatural n) n := by
  unfold writeNatural
  have digital : ∀ c ∈ Nat.toDigits 10 n, c.isDigit = true := fun c member =>
    Nat.isDigit_of_mem_toDigits (by decide) (by decide) member
  have taken (rest : List Char) (bounds : Bounds rest) := number_digits fits bounds
  cases digits : Nat.toDigits 10 n with
  | nil => exact absurd digits Nat.toDigits_ne_nil
  | cons c tail =>
    rw [digits] at digital
    have digit : c.isDigit = true := digital c List.mem_cons_self
    have solid := not_blank_of_isDigit digit
    refine ⟨⟨c, tail, rfl, solid, ?_⟩, fun rest bounds => ?_⟩
    · rintro rfl
      exact absurd digit (by decide)
    · have number := taken rest bounds
      rw [digits, List.cons_append] at number
      simp [natural, skipBlank_cons _ solid, digit, number, below]

/-! ### Strings -/

theorem HexDigit.lt {c : Char} {value : Nat} (digit : HexDigit c value) : value < 16 := by
  rcases digit with lower | upper
  · exact (List.getElem?_eq_some_iff.1 lower).1
  · exact (List.getElem?_eq_some_iff.1 upper).1

theorem hexValue?_of_hexDigit {c : Char} {value : Nat} (digit : HexDigit c value) :
    hexValue? c = some value := by
  have small := digit.lt
  have lowers : ∀ n < 16, "0123456789abcdef".toList[n]?.bind hexValue? = some n := by decide
  have uppers : ∀ n < 16, "0123456789ABCDEF".toList[n]?.bind hexValue? = some n := by decide
  rcases digit with lower | upper
  · have found := lowers value small
    rwa [lower] at found
  · have found := uppers value small
    rwa [upper] at found

theorem CodeUnit.unit_eq {digits : List Char} {code : Nat} (made : CodeUnit digits code)
    (rest : List Char) : unit (digits ++ rest) = .ok code := by
  cases made with
  | @digits a b c d i j k l first second third fourth =>
    have size (c : Char) : 1 ≤ c.utf8Size := c.utf8Size_pos
    have enough : ¬ octets [a, b, c, d] < 4 := by
      have := size a; have := size b; have := size c; have := size d
      simp only [octets, List.foldr]
      omega
    simp [unit, enough, hexValue?_of_hexDigit first, hexValue?_of_hexDigit second,
      hexValue?_of_hexDigit third, hexValue?_of_hexDigit fourth]

theorem CodeUnit.length_eq {digits : List Char} {code : Nat} (made : CodeUnit digits code) :
    digits.length = 4 := by
  cases made
  rfl

theorem shortEscape?_of_listed {letter c : Char} (listed : (letter, c) ∈ letterEscapes) :
    shortEscape? letter = some c := by
  have all : ∀ entry ∈ letterEscapes, shortEscape? entry.1 = some entry.2 := by decide
  exact all _ listed

/-- The characters of an escape are left out once the escape has been read. -/
theorem textFrom_taken (taken rest : List Char) :
    textFrom taken.length (taken ++ rest) = textFrom 0 rest := by
  induction taken with
  | nil => rfl
  | cons c taken ih => rw [List.length_cons, List.cons_append, textFrom, ih]

theorem escape_unit {digits : List Char} {code : Nat} (made : CodeUnit digits code)
    (scalar : code < 0xD800 ∨ 0xDFFF < code) (rest : List Char) :
    escape ('u' :: (digits ++ rest)) = .ok (Char.ofNat code, 5) := by
  have low : isLowSurrogate code = false := by simp [isLowSurrogate]; omega
  have high : isHighSurrogate code = false := by simp [isHighSurrogate]; omega
  simp [escape, shortEscape?, made.unit_eq, low, high, bind, Except.bind]

theorem escape_pair {first second : List Char} {high low : Nat} (made : CodeUnit first high)
    (from_high : 0xD800 ≤ high) (to_high : high ≤ 0xDBFF) (follows : CodeUnit second low)
    (from_low : 0xDC00 ≤ low) (to_low : low ≤ 0xDFFF) (rest : List Char) :
    escape ('u' :: (first ++ '\\' :: 'u' :: (second ++ rest))) =
      .ok (Char.ofNat (0x10000 + (high - 0xD800) * 0x400 + (low - 0xDC00)), 11) := by
  have isLow : isLowSurrogate high = false := by simp [isLowSurrogate]; omega
  have isHigh : isHighSurrogate high = true := by simp [isHighSurrogate]; omega
  have paired : isLowSurrogate low = true := by simp [isLowSurrogate]; omega
  have behind (more : List Char) : (first ++ more).drop 4 = more := by
    rw [← made.length_eq, List.drop_left]
  have code : (high - 0xD800) * 0x400 + (low - 0xDC00) + 0x10000 =
      0x10000 + (high - 0xD800) * 0x400 + (low - 0xDC00) := by omega
  simp [escape, shortEscape?, made.unit_eq, isLow, isHigh, behind, secondHalf, follows.unit_eq,
    paired, pairChar, code, bind, Except.bind]

theorem textFrom_unit {digits : List Char} {code : Nat} (made : CodeUnit digits code)
    (scalar : code < 0xD800 ∨ 0xDFFF < code) (rest : List Char) :
    textFrom 0 ('\\' :: 'u' :: (digits ++ rest)) =
      (textFrom 0 rest).map fun result => (Char.ofNat code :: result.1, result.2) := by
  have taken := textFrom_taken ('u' :: digits) rest
  simp only [List.length_cons, made.length_eq, List.cons_append] at taken
  rw [textFrom, if_neg (by decide), if_pos rfl, escape_unit made scalar]
  simp only [taken]

theorem textFrom_pair {first second : List Char} {high low : Nat} (made : CodeUnit first high)
    (from_high : 0xD800 ≤ high) (to_high : high ≤ 0xDBFF) (follows : CodeUnit second low)
    (from_low : 0xDC00 ≤ low) (to_low : low ≤ 0xDFFF) (rest : List Char) :
    textFrom 0 ('\\' :: 'u' :: (first ++ '\\' :: 'u' :: (second ++ rest))) =
      (textFrom 0 rest).map fun result =>
        (Char.ofNat (0x10000 + (high - 0xD800) * 0x400 + (low - 0xDC00)) :: result.1,
          result.2) := by
  have taken := textFrom_taken ('u' :: (first ++ '\\' :: 'u' :: second)) rest
  simp only [List.length_cons, List.length_append, made.length_eq, follows.length_eq,
    List.cons_append, List.append_assoc] at taken
  rw [textFrom, if_neg (by decide), if_pos rfl,
    escape_pair made from_high to_high follows from_low to_low]
  simp only [taken]

theorem Spells.textFrom_eq {body chars : List Char} (spells : Spells body chars)
    (rest : List Char) : textFrom 0 (body ++ '"' :: rest) = .ok (chars, rest) := by
  induction spells with
  | done => simp [textFrom]
  | @plain c body chars plain _ ih =>
    simp [textFrom, plain.notQuote, plain.notBackslash, Nat.not_lt.2 plain.visible, ih, Except.map]
  | @letter letter c body chars listed _ ih =>
    simp [textFrom, escape, shortEscape?_of_listed listed, ih, Except.map]
  | unit made scalar _ ih =>
    simp only [List.cons_append, List.append_assoc, textFrom_unit made scalar, ih]
    rfl
  | pair made from_high to_high follows from_low to_low _ ih =>
    simp only [List.cons_append, List.append_assoc,
      textFrom_pair made from_high to_high follows from_low to_low, ih]
    rfl

theorem hexDigit_digit {n : Nat} (below : n < 16) : HexDigit (Hex.digit n) n := by
  refine .inl ?_
  revert n
  decide

theorem spells_writeChar (c : Char) {body chars : List Char} (spells : Spells body chars) :
    Spells (writeChar c ++ body) (c :: chars) := by
  unfold writeChar
  -- The short escapes come first.
  iterate 7
    split
    · rename_i short
      rw [short]
      exact .letter (by decide) spells
  split
  · rename_i control
    have code : ((0 * 16 + 0) * 16 + c.toNat / 16) * 16 + c.toNat % 16 = c.toNat := by omega
    have zero : HexDigit '0' 0 := .inl rfl
    have made := CodeUnit.digits zero zero (hexDigit_digit (n := c.toNat / 16) (by omega))
      (hexDigit_digit (n := c.toNat % 16) (by omega))
    rw [code] at made
    have unit := Spells.unit made (.inl (by omega)) spells
    rwa [Char.ofNat_toNat] at unit
  · rename_i quote backslash _ _ _ _ _ control
    exact .plain ⟨by omega, quote, backslash⟩ spells

theorem spells_written (chars : List Char) : Spells (chars.flatMap writeChar) chars := by
  induction chars with
  | nil => exact .done
  | cons c chars ih => exact spells_writeChar c ih

theorem writeText_eq (chars : List Char) : writeText chars = quoted (chars.flatMap writeChar) := by
  simp [writeText, quoted]

theorem reads_text {body chars : List Char} (spells : Spells body chars) :
    Reads text (quoted body) chars := by
  refine ⟨⟨'"', _, rfl, rfl, by decide⟩, fun rest _ => ?_⟩
  simp [text, quoted, skipBlank_cons, isBlank, spells.textFrom_eq]

/-! ### Words, names and values that may be absent -/

theorem word_letters (letters rest : List Char) : word letters (letters ++ rest) = .ok rest := by
  induction letters with
  | nil => rfl
  | cons c letters ih => simp [word, ih]

theorem reads_boolean (b : Bool) : Reads boolean (writeBoolean b) b := by
  cases b with
  | true =>
    refine ⟨⟨'t', _, rfl, rfl, by decide⟩, fun rest _ => ?_⟩
    have rue := word_letters ['r', 'u', 'e'] rest
    rw [writeBoolean, if_pos rfl, List.cons_append]
    simp only [boolean, skipBlank_cons _ (show isBlank 't' = false from rfl), if_pos, rue]
    rfl
  | false =>
    refine ⟨⟨'f', _, rfl, rfl, by decide⟩, fun rest _ => ?_⟩
    have alse := word_letters ['a', 'l', 's', 'e'] rest
    rw [writeBoolean, if_neg (by decide), List.cons_append]
    simp only [boolean, skipBlank_cons _ (show isBlank 'f' = false from rfl), alse]
    rfl

theorem reads_variant {α : Type} {cases : List (String × α)} {name : String} {value : α}
    (listed : cases.find? (fun entry => entry.1.toList = name.toList) = some (name, value))
    {body : List Char} (spells : Spells body name.toList) :
    Reads (variant cases) (quoted body) value := by
  refine ⟨⟨'"', _, rfl, rfl, by decide⟩, fun rest _ => ?_⟩
  simp only [variant, quoted, List.cons_append, List.append_assoc, List.nil_append,
    skipBlank_cons _ (show isBlank '"' = false from rfl), if_pos, spells.textFrom_eq]
  change named cases name.toList rest = _
  simp only [named, listed]

theorem reads_absent {α : Type} (read : Reader α) :
    Reads (optional read) writeNull (none : Option α) := by
  refine ⟨⟨'n', _, rfl, rfl, by decide⟩, fun rest _ => ?_⟩
  have ull := word_letters ['u', 'l', 'l'] rest
  rw [writeNull, List.cons_append]
  simp only [optional, skipBlank_cons _ (show isBlank 'n' = false from rfl), ull]
  rfl

/-- A text that cannot be taken for `null` is left to the reader of what may be absent. -/
theorem optional_cons {α : Type} (read : Reader α) {c : Char} (rest : List Char)
    (solid : isBlank c = false) (other : c ≠ 'n') : optional read (c :: rest) =
      (read (c :: rest)).map fun result => (some result.1, result.2) := by
  simp only [optional, skipBlank_cons _ solid]
  split
  · rename_i null
    exact absurd (List.cons.inj null).1 other
  · rfl

theorem Reads.present {α : Type} {read : Reader α} {text : List Char} {value : α}
    (reads : Reads read text value) (other : text.head? ≠ some 'n') :
    Reads (optional read) text (some value) := by
  refine ⟨reads.opens, fun rest bounds => ?_⟩
  have taken := reads.takes rest bounds
  obtain ⟨c, tail, rfl, solid, _⟩ := reads.opens
  rw [List.cons_append] at taken ⊢
  rw [optional_cons read _ solid (by simpa using other), taken]
  rfl

/-! ### Texts with commas between them -/

theorem separated_cons (first : List Char) (others : List (List Char)) :
    separated (first :: others) = first ++ others.flatMap (',' :: ·) := by
  induction others generalizing first with
  | nil => simp [separated]
  | cons second others ih => simp [separated, ih]

theorem infix_separated {text : List Char} {texts : List (List Char)} (among : text ∈ texts) :
    text <:+: separated texts := by
  obtain ⟨front, back, rfl⟩ := List.append_of_mem among
  cases front with
  | nil => exact ⟨[], back.flatMap (',' :: ·), by simp [separated_cons]⟩
  | cons first front =>
    exact ⟨first ++ front.flatMap (',' :: ·) ++ [','], back.flatMap (',' :: ·), by
      simp [separated_cons]⟩

def apart (first : Bool) (text : List Char) : List Char := if first then text else ',' :: text

/-- Texts one after another, and behind them what depends on whether there were any. -/
def chain (ending : Bool → List Char) : Bool → List (List Char) → List Char
  | first, [] => ending first
  | first, text :: texts => apart first (text ++ chain ending false texts)

theorem chain_later (ending : Bool → List Char) (texts : List (List Char)) :
    chain ending false texts = texts.flatMap (',' :: ·) ++ ending false := by
  induction texts with
  | nil => rfl
  | cons text texts ih => simp [chain, apart, ih]

theorem separated_eq_chain (texts : List (List Char)) (rest : List Char) :
    separated texts ++ rest = chain (fun _ => rest) true texts := by
  cases texts with
  | nil => rfl
  | cons text texts => simp [separated_cons, chain, apart, chain_later]

theorem chain_append (ending : Bool → List Char) (first : Bool) (texts others : List (List Char)) :
    chain ending first (texts ++ others) =
      chain (fun first => chain ending first others) first texts := by
  induction texts generalizing first with
  | nil => rfl
  | cons text texts ih => simp [chain, ih]

/-- There is at least a comma for each text but the first, and something at the end. -/
theorem length_le_chain (ending : Bool → List Char) (ends : ∀ first, 1 ≤ (ending first).length)
    (first : Bool) (texts : List (List Char)) :
    texts.length ≤ (chain ending first texts).length := by
  cases texts with
  | nil => exact Nat.zero_le _
  | cons text texts =>
    have last := ends false
    have commas : texts.length ≤ (texts.flatMap (',' :: ·)).length := by
      clear last
      induction texts with
      | nil => exact Nat.zero_le _
      | cons second texts ih =>
        simp only [List.length_cons, List.flatMap_cons, List.length_append]
        omega
    cases first <;>
      simp only [chain, apart, chain_later, List.length_cons, List.length_append, if_true,
        Bool.false_eq_true, if_false] <;>
      omega

theorem bounds_chain {ending : Bool → List Char} (bounds : Bounds (ending false))
    (texts : List (List Char)) : Bounds (chain ending false texts) := by
  cases texts with
  | nil => exact bounds
  | cons text texts => simp [chain, apart]

/-! ### Lists -/

variable {α : Type} {read : Reader α}

theorem skips_elements (rounds : Nat) (first : Bool) : Skips (elements read rounds first) := by
  intro text
  cases rounds with
  | zero => rfl
  | succ rounds => simp only [elements, nextElement, skipBlank_skipBlank]

theorem nextElement_end (first : Bool) (rest : List Char) :
    nextElement first (']' :: rest) = .ok (false, ']' :: rest) := by
  simp [nextElement, skipBlank_cons _ (show isBlank ']' = false from rfl)]

theorem nextElement_apart {text : List Char}
    (opens : ∃ c rest, text = c :: rest ∧ isBlank c = false ∧ c ≠ ']')
    (first : Bool) (b : Blanks) (rest : List Char) :
    nextElement first (apart first (b.text ++ (text ++ rest))) = .ok (true, text ++ rest) := by
  obtain ⟨c, tail, rfl, solid, other⟩ := opens
  rw [List.cons_append]
  cases first <;> simp [apart, nextElement, skipBlank_cons _ (show isBlank ',' = false from rfl),
    skipBlank_cons _ solid, other]

theorem elements_end {first : Bool} {text rest : List Char} (rounds : Nat)
    (last : nextElement first text = .ok (false, rest)) :
    elements read (rounds + 1) first text = .ok ([], rest) := by
  simp [elements, last, bind, Except.bind]

theorem elements_more {first : Bool} {text rest after left : List Char} {value : α}
    {values : List α} {rounds : Nat} (more : nextElement first text = .ok (true, rest))
    (taken : read rest = .ok (value, after))
    (others : elements read rounds false after = .ok (values, left)) :
    elements read (rounds + 1) first text = .ok (value :: values, left) := by
  simp [elements, more, taken, others, bind, Except.bind]

abbrev Lists (read : Reader α) (values : List α) (items : List Padded) : Prop :=
  List.Forall₂ (fun value item => Reads read item.value value) values items

theorem Lists.elements_eq {values : List α} {items : List Padded} (lists : Lists read values items)
    (rest : List Char) {rounds : Nat} (first : Bool) (enough : items.length < rounds) :
    elements read rounds first (chain (fun _ => ']' :: rest) first (items.map Padded.text)) =
      .ok (values, ']' :: rest) := by
  induction lists generalizing rounds first with
  | nil =>
    obtain ⟨rounds, rfl⟩ := Nat.exists_eq_add_one_of_ne_zero (Nat.ne_zero_of_lt enough)
    exact elements_end rounds (nextElement_end first rest)
  | @cons value item values items reads _ ih =>
    obtain ⟨rounds, rfl⟩ := Nat.exists_eq_add_one_of_ne_zero (Nat.ne_zero_of_lt enough)
    simp only [List.map_cons, chain, List.append_assoc, Padded.text]
    refine elements_more (nextElement_apart reads.opens first _ _)
      (reads.takes _ (item.after.bounds (bounds_chain (by simp) _))) ?_
    rw [(skips_elements _ _).blanks]
    exact ih false (Nat.lt_of_succ_lt_succ enough)

theorem listText_eq_chain (lead : Blanks) (items : List Padded) (rest : List Char) :
    listText lead items ++ rest =
      '[' :: (lead.text ++ chain (fun _ => ']' :: rest) true (items.map Padded.text)) := by
  rw [← separated_eq_chain]
  simp [listText]

theorem Lists.reads {values : List α} {items : List Padded} (lists : Lists read values items)
    (lead : Blanks) : Reads (list read) (listText lead items) values := by
  refine ⟨⟨'[', _, rfl, rfl, by decide⟩, fun rest _ => ?_⟩
  -- There is a round for each character, and no element is without one.
  have enough : items.length <
      (lead.text ++ chain (fun _ => ']' :: rest) true (items.map Padded.text)).length + 1 := by
    have commas := length_le_chain (fun _ => ']' :: rest) (fun _ => by simp) true
      (items.map Padded.text)
    rw [List.length_map] at commas
    rw [List.length_append]
    exact Nat.lt_succ_of_le (Nat.le_trans commas (Nat.le_add_left _ _))
  simp only [listText_eq_chain, list, skipBlank_cons _ (show isBlank '[' = false from rfl),
    if_pos, (skips_elements _ _).blanks, lists.elements_eq rest true enough]
  simp [close, listEnd, skipBlank_cons _ (show isBlank ']' = false from rfl)]

/-! ### Every text that stands for a value -/

/-- The reader takes every text of this form for the value that it stands for. -/
structure Accepts {α : Type} (read : Reader α) (form : Form α) : Prop where
  skips : Skips read
  reads : ∀ {value text}, form value text → Reads read text value
  wellFormed : ∀ {value text}, form value text → WellFormed text

def Alone (form : Form α) : Form α := fun value text =>
  ∃ before after : Blanks, ∃ inner, form value inner ∧ text = before.text ++ (inner ++ after.text)

theorem Accepts.parse_alone {form : Form α} (accepts : Accepts read form) {value : α}
    {text : List Char} (alone : Alone form value text) : read.parse text = .ok value := by
  obtain ⟨before, after, inner, stands, rfl⟩ := alone
  have bounds : Bounds after.text := by simpa using after.bounds bounds_nil
  have taken := (accepts.reads stands).takes after.text bounds
  rw [← accepts.skips.blanks before] at taken
  simp [Reader.parse, taken, after.skip_all]

theorem Accepts.map {β : Type} {form : Form α} (accepts : Accepts read form) {f : α → β}
    {g : β → α} (inverse : ∀ value, f (g value) = value) :
    Accepts (fun input => (read input).map fun result => (f result.1, result.2))
      fun value => form (g value) where
  skips input := by simp only [accepts.skips input]
  reads {value text} stands := by
    have taken := (accepts.reads stands).map f
    rwa [inverse] at taken
  wellFormed stands := accepts.wellFormed stands

theorem Accepts.of_form {form other : Form α} (accepts : Accepts read form)
    (fewer : ∀ value text, other value text → form value text) : Accepts read other where
  skips := accepts.skips
  reads stands := accepts.reads (fewer _ _ stands)
  wellFormed stands := accepts.wellFormed (fewer _ _ stands)

theorem wholePart_toDigits (n : Nat) : WholePart (Nat.toDigits 10 n) := by
  rcases Nat.eq_zero_or_pos n with rfl | positive
  · exact .zero
  · have digital : ∀ c ∈ Nat.toDigits 10 n, c.isDigit = true := fun c member =>
      Nat.isDigit_of_mem_toDigits (by decide) (by decide) member
    have leading := toDigits_head_ne_zero positive
    cases digits : Nat.toDigits 10 n with
    | nil => exact absurd digits Nat.toDigits_ne_nil
    | cons c tail =>
      rw [digits] at digital leading
      obtain ⟨first, others⟩ := List.forall_mem_cons.1 digital
      exact .positive first (by simpa using leading) others

theorem Decimal.wellFormed {n : Nat} {text : List Char} (decimal : Decimal n text) :
    WellFormed text := by
  have number := NumberText.parts (.inl rfl) (wholePart_toDigits n) .absent .absent
  rw [List.nil_append, List.append_nil, List.append_nil, ← Nat.toList_repr] at number
  rw [decimal]
  exact .number number

theorem decimal_writeNatural (n : Nat) : Decimal n (writeNatural n) := Nat.toList_repr.symm

theorem Decimal.eq_write {n : Nat} {text : List Char} (decimal : Decimal n text) :
    text = writeNatural n :=
  decimal.trans Nat.toList_repr

theorem accepts_natural {limit : Nat} (expected : String) (small : limit ≤ UInt64.size) :
    Accepts (natural limit expected) (DecimalBelow limit) where
  skips input := by simp only [natural, skipBlank_skipBlank]
  reads {n text} stands := by
    rw [stands.2.eq_write]
    exact reads_natural expected (Nat.lt_of_lt_of_le stands.1 small) stands.1
  wellFormed stands := stands.2.wellFormed

theorem accepts_octet : Accepts octet fun byte => Decimal byte.toNat :=
  ((accepts_natural "u8" (by decide)).map fun _ => UInt8.ofNat_toNat).of_form
    fun byte _ decimal => ⟨byte.toNat_lt_size, decimal⟩

theorem accepts_word32 : Accepts word32 fun word => Decimal word.toNat :=
  ((accepts_natural "u32" (by decide)).map fun _ => UInt32.ofNat_toNat).of_form
    fun word _ decimal => ⟨word.toNat_lt_size, decimal⟩

theorem Quotes.wellFormed {chars text : List Char} (quotes : Quotes chars text) :
    WellFormed text := by
  obtain ⟨body, spells, rfl⟩ := quotes
  exact .text spells.quotable

theorem quotes_writeText (chars : List Char) : Quotes chars (writeText chars) :=
  ⟨_, spells_written chars, writeText_eq chars⟩

theorem accepts_text : Accepts text Quotes where
  skips input := by simp only [text, skipBlank_skipBlank]
  reads := by
    rintro chars text ⟨body, spells, rfl⟩
    exact reads_text spells
  wellFormed quotes := quotes.wellFormed

theorem booleanForm_writeBoolean (b : Bool) : BooleanForm b (writeBoolean b) := by
  cases b <;> rfl

theorem accepts_boolean : Accepts boolean BooleanForm where
  skips input := by simp only [boolean, skipBlank_skipBlank]
  reads := by
    rintro b text rfl
    cases b with
    | false => exact reads_boolean false
    | true => exact reads_boolean true
  wellFormed := by
    rintro b text rfl
    cases b with
    | false => exact .falsehood
    | true => exact .truth

theorem accepts_variant {cases : List (String × α)} {name : α → String}
    (listed : ∀ value, cases.find? (fun entry => entry.1.toList = (name value).toList) =
      some (name value, value)) :
    Accepts (variant cases) fun value => Quotes (name value).toList where
  skips input := by simp only [variant, skipBlank_skipBlank]
  reads := by
    rintro value text ⟨body, spells, rfl⟩
    exact reads_variant (listed value) spells
  wellFormed quotes := quotes.wellFormed

theorem accepts_list {form : Form α} (accepts : Accepts read form) :
    Accepts (list read) (ListForm form) where
  skips input := by simp only [list, skipBlank_skipBlank]
  reads := by
    rintro values text ⟨lead, items, rfl, each⟩
    exact Lists.reads (each.imp fun _ _ stands => accepts.reads stands) lead
  wellFormed := by
    rintro values text ⟨lead, items, rfl, each⟩
    refine .list lead ?_
    induction each with
    | nil => simp
    | cons stands _ ih => exact List.forall_mem_cons.2 ⟨accepts.wellFormed stands, ih⟩

theorem listForm_writeList {form : Form α} (write : α → List Char)
    (written : ∀ value, form value (write value)) (values : List α) :
    ListForm form values (writeList (values.map write)) := by
  refine ⟨.none, values.map fun value => ⟨.none, write value, .none⟩, ?_, ?_⟩
  · simp [writeList, listText, Blanks.none, Padded.text, Function.comp_def]
  · exact List.forall₂_map_right_iff.2 (List.forall₂_same.2 fun value _ => written value)

theorem accepts_optional {form : Form α} (accepts : Accepts read form)
    (other : ∀ {value text}, form value text → text.head? ≠ some 'n') :
    Accepts (optional read) (OptionForm form) where
  skips input := by simp only [optional, skipBlank_skipBlank]
  reads {value text} stands := by
    cases value with
    | none =>
      obtain rfl := stands
      exact reads_absent read
    | some value => exact (accepts.reads stands).present (other stands)
  wellFormed {value text} stands := by
    cases value with
    | none =>
      obtain rfl := stands
      exact .null
    | some value => exact accepts.wellFormed stands

end Proximity.Json
