import Proximity.Proofs.Numerals
import Proximity.Proofs.Passing

/-! Some readers take for a value just what would have been passed over as one. Such a reader cannot
be led astray by a value of another type: it refuses the value or leaves what stands behind it. -/

set_option autoImplicit false

namespace Proximity.Json

/-- What is taken for a value would have been passed over as one. -/
structure Whole {α : Type} (read : Reader α) : Prop where
  passed : ∀ {text value rest}, read text = .ok (value, rest) → skipValue text = .ok rest

theorem Whole.left {α : Type} {read : Reader α} (whole : Whole read) {text rest left : List Char}
    {value : α} (wellFormed : WellFormed text) (b : Blanks) (bounds : Bounds rest)
    (taken : read (b.text ++ (text ++ rest)) = .ok (value, left)) : left = rest := by
  have passed := wellFormed.skipValue_eq b fun _ => bounds
  rw [whole.passed taken] at passed
  exact Except.ok.inj passed

theorem bind_taken {ε α β : Type} {first : Except ε α} {next : α → Except ε β} {value : β}
    (taken : first.bind next = .ok value) : ∃ found, first = .ok found ∧ next found = .ok value := by
  cases first with
  | error => cases taken
  | ok found => exact ⟨found, rfl, taken⟩

theorem map_taken {ε α β : Type} {first : Except ε α} {f : α → β} {value : β}
    (taken : first.map f = .ok value) : ∃ found, first = .ok found ∧ f found = value := by
  cases first with
  | error => cases taken
  | ok found => exact ⟨found, rfl, Except.ok.inj taken⟩

theorem close_taken {α : Type} {rule : EndRule} {result : Except Failure (α × List Char)}
    {value : α} {rest : List Char} (taken : close rule result = .ok (value, rest)) :
    ∃ left, result = .ok (value, left) := by
  unfold close at taken
  split at taken
  · split at taken
    · cases taken
      exact ⟨_, rfl⟩
    · cases taken
  · cases taken
  · cases taken

theorem parse_taken {α : Type} {read : Reader α} {text : List Char} {value : α}
    (parsed : read.parse text = .ok value) : ∃ left, read text = .ok (value, left) := by
  unfold Reader.parse at parsed
  split at parsed
  · cases parsed
  · rename_i taken
    split at parsed
    · cases parsed
      exact ⟨_, taken⟩
    · cases parsed

/-! ### Strings -/

theorem textFrom_drop (taken : Nat) (text : List Char) :
    textFrom taken text = textFrom 0 (text.drop taken) := by
  induction text generalizing taken with
  | nil => cases taken <;> rfl
  | cons c rest ih =>
    cases taken with
    | zero => rfl
    | succ taken => exact ih taken

theorem passTextFrom_drop (taken : Nat) (text : List Char) :
    passTextFrom taken text = passTextFrom 0 (text.drop taken) := by
  induction text generalizing taken with
  | nil => cases taken <;> rfl
  | cons c rest ih =>
    cases taken with
    | zero => rfl
    | succ taken => exact ih taken

theorem passTextFrom_unit {text : List Char} {code : Nat} (made : unit text = .ok code) :
    passTextFrom 0 ('\\' :: 'u' :: text) = passTextFrom 0 (text.drop 4) := by
  have passed : passTextFrom 0 ('\\' :: 'u' :: text) = passTextFrom 5 ('u' :: text) := by
    simp [passTextFrom, passEscape, shortEscape?, made, bind, Except.bind]
  rw [passed, passTextFrom_drop]
  rfl

theorem secondHalf_taken {high : Nat} {text : List Char} {c : Char}
    (read : secondHalf high text = .ok c) :
    ∃ behind low, text = '\\' :: 'u' :: behind ∧ unit behind = .ok low := by
  unfold secondHalf at read
  split at read
  · cases read
  · split at read
    · cases read
    · rename_i backslash
      split at read
      · cases read
      · split at read
        · cases read
        · rename_i letter
          obtain ⟨low, made, _⟩ := bind_taken read
          exact ⟨_, low, by rw [not_not.1 backslash, not_not.1 letter], made⟩

/-- An escape that is read is passed over; a pair of surrogates is passed over in two halves. -/
theorem escape_passed {text : List Char} {plain : Char} {length : Nat}
    (read : escape text = .ok (plain, length)) :
    passTextFrom 0 ('\\' :: text) = passTextFrom 0 (text.drop length) := by
  unfold escape at read
  split at read
  · cases read
  · rename_i c rest
    split at read
    · rename_i stands
      cases read
      simp [passTextFrom, passEscape, stands]
    · split at read
      · cases read
      · rename_i letter
        obtain rfl : c = 'u' := not_not.1 letter
        obtain ⟨first, made, read⟩ := bind_taken read
        rw [passTextFrom_unit made]
        split at read
        · cases read
        · split at read
          · obtain ⟨paired, half, read⟩ := bind_taken read
            obtain ⟨behind, low, second, made⟩ := secondHalf_taken half
            cases read
            have left : rest.drop 10 = behind.drop 4 := by
              rw [← List.drop_drop (i := 6) (j := 4), second]
              rfl
            rw [second, passTextFrom_unit made, ← left]
            rfl
          · cases read
            rfl

/-- By induction on the length, since an escape is taken as a whole. -/
theorem passTextFrom_of_textFrom {text chars rest : List Char}
    (read : textFrom 0 text = .ok (chars, rest)) : passTextFrom 0 text = .ok rest := by
  generalize size : text.length = n
  induction n using Nat.strongRecOn generalizing text chars with
  | ind n ih =>
    cases text with
    | nil => cases read
    | cons c behind =>
      have shorter (taken : Nat) : (behind.drop taken).length < n := by
        rw [← size, List.length_drop, List.length_cons]
        omega
      unfold textFrom at read
      split at read
      · rename_i quote
        cases read
        simp [passTextFrom, quote]
      · rename_i open_
        split at read
        · rename_i backslash
          split at read
          · cases read
          · rename_i plain length escaped
            obtain ⟨⟨chars, left⟩, found, same⟩ := map_taken read
            cases same
            rw [textFrom_drop] at found
            rw [backslash, escape_passed escaped]
            exact ih _ (shorter length) found rfl
        · rename_i plain
          split at read
          · cases read
          · rename_i visible
            obtain ⟨⟨chars, left⟩, found, same⟩ := map_taken read
            cases same
            rw [passTextFrom, if_neg open_, if_neg plain, if_neg visible]
            exact ih _ (shorter 0) found rfl

/-! ### Readers of single values -/

theorem whole_natural (limit : Nat) (expected : String) : Whole (natural limit expected) := by
  refine ⟨fun taken => ?_⟩
  obtain ⟨before, digits, _, decimal, same, ends⟩ := natural_taken taken
  rw [same]
  exact decimal.wellFormed.skipValue_eq before fun _ => ends

theorem Whole.map {α β : Type} {read : Reader α} (whole : Whole read) (f : α → β) :
    Whole fun input => (read input).map fun result => (f result.1, result.2) := by
  refine ⟨fun taken => ?_⟩
  obtain ⟨found, read, same⟩ := map_taken taken
  cases same
  exact whole.passed read

theorem whole_word32 : Whole word32 := (whole_natural UInt32.size "u32").map UInt32.ofNat

theorem named_taken {α : Type} {cases : List (String × α)} {name rest left : List Char} {value : α}
    (taken : named cases name rest = .ok (value, left)) : left = rest := by
  unfold named at taken
  split at taken
  · cases taken
    rfl
  · cases taken

theorem unitValue_passed {text rest : List Char} {value : Unit}
    (taken : unitValue text = .ok (value, rest)) : passOpening text = .ok (none, rest) := by
  unfold unitValue at taken
  split at taken
  · cases taken
  · rename_i c behind front
    split at taken
    · rename_i letter
      obtain ⟨left, read, same⟩ := map_taken taken
      cases same
      simp [passOpening, front, letter, read, Except.map]
    · cases taken

theorem skipValue_single {text behind inner key value last rest : List Char}
    (opened : skipBlank text = '{' :: behind) (quote : skipBlank behind = '"' :: inner)
    (named : passTextFrom 0 inner = .ok key) (parted : colon key = .ok value)
    (plain : passOpening value = .ok (none, last)) (closed : skipBlank last = '}' :: rest) :
    skipValue text = .ok rest := by
  obtain ⟨rounds, size⟩ : ∃ rounds, text.length = rounds + 1 := by
    cases text with
    | nil => cases opened
    | cons c text => exact ⟨_, rfl⟩
  have brace : passOpening text = .ok (some .object, behind) := by simp [passOpening, opened]
  simp [skipValue, size, passWithin, brace, passClosings, passKey, Bracket.closer, quote,
    skipBlank_cons _ (show isBlank '"' = false from rfl), named, parted, plain, closed, bind,
    Except.bind]

theorem whole_variant {α : Type} (cases : List (String × α)) : Whole (variant cases) := by
  refine ⟨fun {text value rest} taken => ?_⟩
  unfold variant at taken
  split at taken
  · cases taken
  · rename_i c behind front
    split at taken
    · rename_i quote
      obtain ⟨⟨name, left⟩, read, taken⟩ := bind_taken taken
      obtain rfl := named_taken taken
      have passed := passTextFrom_of_textFrom read
      simp [skipValue, passWithin, passOpening, front, quote, passed, Except.map, bind, Except.bind]
    · split at taken
      · rename_i brace
        split at taken
        · cases taken
        · rename_i d inner first
          split at taken
          · rename_i quote
            obtain ⟨⟨name, left⟩, read, behindKey⟩ := bind_taken taken
            obtain ⟨⟨found, same⟩, stands, behindName⟩ := bind_taken behindKey
            obtain rfl := named_taken stands
            obtain ⟨inside, parted, behindColon⟩ := bind_taken behindName
            obtain ⟨⟨_, left⟩, null, behindNull⟩ := bind_taken behindColon
            dsimp only at behindNull
            split at behindNull
            · cases behindNull
            · rename_i last
              split at behindNull
              · rename_i closes
                cases behindNull
                exact skipValue_single (brace ▸ front) (quote ▸ first)
                  (passTextFrom_of_textFrom read) parted (unitValue_passed null) (closes ▸ last)
              · cases behindNull
          · split at taken <;> cases taken
      · cases taken

end Proximity.Json
