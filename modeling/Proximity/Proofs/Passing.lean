import Proximity.Proofs.Reading

/-! Passing over a value takes all of it and nothing else. The brackets that were open before are
open again behind it, so values within values are passed by induction on how they are built. -/

set_option autoImplicit false

namespace Proximity.Json

/-! ### Strings -/

/-- The characters of an escape are passed once the escape has been read. -/
theorem passTextFrom_taken (taken rest : List Char) :
    passTextFrom taken.length (taken ++ rest) = passTextFrom 0 rest := by
  induction taken with
  | nil => rfl
  | cons c taken ih => rw [List.length_cons, List.cons_append, passTextFrom, ih]

theorem Quotable.passed {body : List Char} (quotable : Quotable body) (rest : List Char) :
    passTextFrom 0 (body ++ '"' :: rest) = .ok rest := by
  induction quotable with
  | done => simp [passTextFrom]
  | @plain c body plain _ ih =>
    simp [passTextFrom, plain.notQuote, plain.notBackslash, Nat.not_lt.2 plain.visible, ih]
  | @letter letter c body listed _ ih =>
    simp [passTextFrom, passEscape, shortEscape?_of_listed listed, ih]
  | @unit digits body code made _ ih =>
    have taken := passTextFrom_taken digits (body ++ '"' :: rest)
    rw [made.length_eq] at taken
    simp [passTextFrom, passEscape, shortEscape?, made.unit_eq, taken, ih, bind, Except.bind]

/-! ### Numbers -/

theorem skipDigits_digits {digits rest : List Char} (digital : ∀ c ∈ digits, c.isDigit = true)
    (stops : startsWithDigit rest = false) : skipDigits (digits ++ rest) = rest := by
  rw [skipDigits, List.dropWhile_append_of_pos digital]
  cases rest with
  | nil => rfl
  | cons c rest => exact List.dropWhile_cons_of_neg (by simpa [startsWithDigit] using stops)

theorem Digits.starts {digits : List Char} (d : Digits digits) (rest : List Char) :
    startsWithDigit (digits ++ rest) = true := by
  obtain ⟨c, others, rfl⟩ := List.exists_cons_of_ne_nil d.1
  exact d.2 c List.mem_cons_self

theorem ExponentPart.stops {exponent rest : List Char} (part : ExponentPart exponent)
    (bounds : Bounds rest) : startsWithDigit (exponent ++ rest) = false := by
  cases part with
  | absent => exact bounds.startsWithDigit
  | present letter _ _ => rcases letter with rfl | rfl <;> rfl

theorem passExponent_digits {sign digits rest : List Char}
    (signed : sign = [] ∨ sign = ['+'] ∨ sign = ['-']) (d : Digits digits) (bounds : Bounds rest) :
    passExponent (sign ++ (digits ++ rest)) = .ok rest := by
  have starts := d.starts rest
  have skipped := skipDigits_digits d.2 bounds.startsWithDigit
  obtain ⟨c, others, rfl⟩ := List.exists_cons_of_ne_nil d.1
  have digit : c.isDigit = true := d.2 c List.mem_cons_self
  have plus : c ≠ '+' := fun same => by simp [same] at digit
  have minus : c ≠ '-' := fun same => by simp [same] at digit
  rw [List.cons_append] at starts skipped ⊢
  rcases signed with rfl | rfl | rfl <;> simp [passExponent, plus, minus, starts, skipped]

theorem ExponentPart.passed {exponent rest : List Char} (part : ExponentPart exponent)
    (bounds : Bounds rest) : passTail (exponent ++ rest) = .ok rest := by
  cases part with
  | absent =>
    cases rest with
    | nil => rfl
    | cons c rest =>
      obtain ⟨_, point, small, large⟩ := bounds_cons.1 bounds
      simp [passTail, point, small, large]
  | present letter signed digits =>
    have taken := passExponent_digits signed digits bounds
    rw [← List.append_assoc] at taken
    rcases letter with rfl | rfl <;> simpa [passTail] using taken

theorem FractionPart.passed {fraction exponent rest : List Char} (part : FractionPart fraction)
    (scaled : ExponentPart exponent) (bounds : Bounds rest) :
    passTail (fraction ++ (exponent ++ rest)) = .ok rest := by
  cases part with
  | absent => exact scaled.passed bounds
  | @present digits d =>
    have starts := d.starts (exponent ++ rest)
    have skipped := skipDigits_digits d.2 (scaled.stops bounds)
    have passed := scaled.passed bounds
    simp only [List.cons_append, passTail, starts, Bool.not_true, Bool.false_eq_true, if_false,
      skipped]
    cases scaled with
    | absent =>
      cases rest with
      | nil => rfl
      | cons c rest =>
        obtain ⟨_, _, small, large⟩ := bounds_cons.1 bounds
        simp [small, large]
    | present letter signed digits =>
      rcases letter with rfl | rfl <;> exact passed

theorem FractionPart.stops {fraction exponent rest : List Char} (part : FractionPart fraction)
    (scaled : ExponentPart exponent) (bounds : Bounds rest) :
    startsWithDigit (fraction ++ (exponent ++ rest)) = false := by
  cases part with
  | absent => exact scaled.stops bounds
  | present _ => rfl

theorem WholePart.passed {whole tail rest : List Char} (part : WholePart whole)
    (stops : startsWithDigit tail = false) (passed : passTail tail = .ok rest) :
    passMagnitude (whole ++ tail) = .ok rest := by
  cases part with
  | zero => simp [passMagnitude, stops, passed]
  | @positive c others digit nonzero digital =>
    have starts : startsWithDigit (c :: (others ++ tail)) = true := digit
    have skipped : skipDigits (c :: (others ++ tail)) = tail :=
      skipDigits_digits (List.forall_mem_cons.2 ⟨digit, digital⟩) stops
    simp [passMagnitude, nonzero, starts, skipped, passed]

theorem WholePart.digit {whole : List Char} (part : WholePart whole) :
    ∃ c others, whole = c :: others ∧ c.isDigit = true := by
  cases part with
  | zero => exact ⟨'0', [], rfl, rfl⟩
  | positive digit _ _ => exact ⟨_, _, rfl, digit⟩

theorem passOpening_digit {c : Char} (digit : c.isDigit = true) (rest : List Char) :
    passOpening (c :: rest) = (passMagnitude (c :: rest)).map (none, ·) := by
  have other {d : Char} (letter : d.isDigit = false) : c ≠ d := by
    rintro rfl
    rw [digit] at letter
    cases letter
  simp [passOpening, skipBlank_cons _ (not_blank_of_isDigit digit), digit,
    other (d := 'n') rfl, other (d := 't') rfl, other (d := 'f') rfl, other (d := '-') rfl]

theorem NumberText.opened {text rest : List Char} (number : NumberText text)
    (bounds : Bounds rest) : passOpening (text ++ rest) = .ok (none, rest) := by
  cases number with
  | @parts sign whole fraction exponent signed digits point scaled =>
    have passed := digits.passed (point.stops scaled bounds) (point.passed scaled bounds)
    rcases signed with rfl | rfl
    · obtain ⟨c, others, rfl, digit⟩ := digits.digit
      simp only [List.nil_append, List.cons_append, List.append_assoc] at passed ⊢
      rw [passOpening_digit digit, passed]
      rfl
    · simp only [List.cons_append, List.nil_append, List.append_assoc] at passed ⊢
      simp [passOpening, skipBlank_cons _ (show isBlank '-' = false from rfl), passed,
        Except.map]

/-! ### Values inside open brackets -/

def passOn (rounds : Nat) : List Bracket → List Char → Except Failure (List Char)
  | [], text => .ok text
  | .list :: outer, text => passWithin rounds (.list :: outer) text
  | .object :: outer, text => do
    let rest ← passKey text
    passWithin rounds (.object :: outer) rest

/-- What passing comes to when a value inside the brackets `opened` has been passed. -/
def passAfter (rounds : Nat) : List Bracket → List Char → Except Failure (List Char)
  | [], text => .ok text
  | bracket :: outer, text => do
    let (opened, rest) ← passClosings bracket true outer text
    passOn rounds opened rest

theorem passWithin_plain {text rest : List Char} (opened : List Bracket) (rounds : Nat)
    (passed : passOpening text = .ok (none, rest)) :
    passWithin (rounds + 1) opened text = passAfter rounds opened rest := by
  cases opened with
  | nil => simp [passWithin, passed, passAfter, bind, Except.bind]
  | cons bracket outer =>
    simp only [passWithin, passed, passAfter, bind, Except.bind]
    cases passClosings bracket true outer rest with
    | error failure => rfl
    | ok found =>
      obtain ⟨opened, left⟩ := found
      cases opened with
      | nil => rfl
      | cons bracket outer => cases bracket <;> rfl

theorem passWithin_bracket {text rest : List Char} {bracket : Bracket} (opened : List Bracket)
    (rounds : Nat) (passed : passOpening text = .ok (some bracket, rest)) :
    passWithin (rounds + 1) opened text = (do
      let (opened, left) ← passClosings bracket false opened rest
      passOn rounds opened left) := by
  simp only [passWithin, passed, bind, Except.bind]
  cases passClosings bracket false opened rest with
  | error failure => rfl
  | ok found =>
    obtain ⟨opened, left⟩ := found
    cases opened with
    | nil => rfl
    | cons bracket outer => cases bracket <;> rfl

theorem skips_passWithin (rounds : Nat) (opened : List Bracket) :
    Skips (passWithin rounds opened) := by
  intro text
  cases rounds with
  | zero => rfl
  | succ rounds => simp only [passWithin, passOpening, skipBlank_skipBlank]

theorem skips_passOn (rounds : Nat) (bracket : Bracket) (outer : List Bracket) :
    Skips (passOn rounds (bracket :: outer)) := by
  intro text
  cases bracket with
  | list => exact skips_passWithin rounds _ text
  | object => simp only [passOn, passKey, skipBlank_skipBlank]

theorem skips_passAfter (rounds : Nat) (bracket : Bracket) (outer : List Bracket) :
    Skips (passAfter rounds (bracket :: outer)) := by
  intro text
  cases outer <;> simp only [passAfter, passClosings, skipBlank_skipBlank]

theorem closer_solid (bracket : Bracket) : isBlank bracket.closer = false := by
  cases bracket <;> rfl

theorem closer_ne_comma (bracket : Bracket) : bracket.closer ≠ ',' := by
  cases bracket <;> decide

theorem passClosings_closer (bracket : Bracket) (filled : Bool) (opened : List Bracket)
    (rounds : Nat) (rest : List Char) : (do
      let (opened, left) ← passClosings bracket filled opened (bracket.closer :: rest)
      passOn rounds opened left) = passAfter rounds opened rest := by
  cases opened with
  | nil =>
    simp [passClosings, skipBlank_cons _ (closer_solid bracket), closer_ne_comma, passAfter, bind,
      Except.bind, passOn]
  | cons outer others =>
    simp [passClosings, skipBlank_cons _ (closer_solid bracket), closer_ne_comma, passAfter, bind,
      Except.bind]

theorem passAfter_closer (bracket : Bracket) (opened : List Bracket) (rounds : Nat)
    (rest : List Char) : passAfter rounds (bracket :: opened) (bracket.closer :: rest) =
      passAfter rounds opened rest :=
  passClosings_closer bracket true opened rounds rest

theorem passAfter_comma (bracket : Bracket) (opened : List Bracket) (rounds : Nat)
    (rest : List Char) : passAfter rounds (bracket :: opened) (',' :: rest) =
      passOn rounds (bracket :: opened) rest := by
  cases opened <;>
    simp [passAfter, passClosings, skipBlank_cons _ (show isBlank ',' = false from rfl), bind,
      Except.bind]

structure Part (bracket : Bracket) (text : List Char) : Prop where
  /-- It does not begin like the end. -/
  opens : ∃ blank : Blanks, ∃ c tail, text = blank.text ++ c :: tail ∧ isBlank c = false ∧
    c ≠ bracket.closer
  passes : ∃ count ≤ text.length, ∀ rounds opened rest, Bounds rest →
    passOn (rounds + count) (bracket :: opened) (text ++ rest) =
      passAfter rounds (bracket :: opened) rest

theorem bounds_parts (bracket : Bracket) (parts : List (List Char)) (rest : List Char) :
    Bounds (parts.flatMap (',' :: ·) ++ bracket.closer :: rest) := by
  cases parts with
  | nil => cases bracket <;> simp [Bracket.closer]
  | cons text texts => simp

theorem parts_passed {bracket : Bracket} {parts : List (List Char)}
    (each : ∀ part ∈ parts, Part bracket part) :
    ∃ count ≤ (parts.flatMap (',' :: ·)).length, ∀ rounds opened rest,
      passAfter (rounds + count) (bracket :: opened)
          (parts.flatMap (',' :: ·) ++ bracket.closer :: rest) =
        passAfter rounds opened rest := by
  -- Each part uses rounds of its own and leaves the same brackets open.
  induction parts with
  | nil => exact ⟨0, Nat.le_refl _, fun rounds opened rest => passAfter_closer ..⟩
  | cons part parts ih =>
    obtain ⟨this, others⟩ := List.forall_mem_cons.1 each
    obtain ⟨first, few, passed⟩ := this.passes
    obtain ⟨count, enough, later⟩ := ih others
    refine ⟨count + first, ?_, fun rounds opened rest => ?_⟩
    · simp only [List.flatMap_cons, List.length_append, List.length_cons]
      omega
    · simp only [List.flatMap_cons, List.cons_append, List.append_assoc]
      rw [passAfter_comma, ← Nat.add_assoc, passed _ _ _ (bounds_parts bracket parts rest),
        later]

theorem bracket_passed {bracket : Bracket} {parts : List (List Char)}
    (each : ∀ part ∈ parts, Part bracket part) (lead : Blanks) :
    ∃ count ≤ (separated parts).length, ∀ rounds opened rest, (do
      let (opened, left) ← passClosings bracket false opened
        (lead.text ++ (separated parts ++ bracket.closer :: rest))
      passOn (rounds + count) opened left) = passAfter rounds opened rest := by
  cases parts with
  | nil =>
    refine ⟨0, Nat.le_refl _, fun rounds opened rest => ?_⟩
    rw [← passClosings_closer bracket false opened rounds rest]
    cases opened <;> simp [passClosings, separated, Blanks.skip]
  | cons part parts =>
    obtain ⟨this, others⟩ := List.forall_mem_cons.1 each
    obtain ⟨first, few, passed⟩ := this.passes
    obtain ⟨count, enough, later⟩ := parts_passed others
    refine ⟨count + first, ?_, fun rounds opened rest => ?_⟩
    · simp only [separated_cons, List.length_append]
      omega
    · obtain ⟨blank, c, tail, rfl, solid, other⟩ := this.opens
      have entered : ∀ more, passClosings bracket false opened
          (lead.text ++ (blank.text ++ c :: (tail ++ more))) =
            .ok (bracket :: opened, c :: (tail ++ more)) := by
        intro more
        cases opened <;> simp [passClosings, skipBlank_cons _ solid, other]
      simp only [separated_cons, List.append_assoc, List.cons_append] at passed ⊢
      rw [entered]
      have skipped (more : List Char) :=
        skips_passOn (rounds + (count + first)) bracket opened (blank.text ++ c :: (tail ++ more))
      simp only [Blanks.skip, skipBlank_cons _ solid] at skipped
      simp only [bind, Except.bind, skipped]
      rw [← Nat.add_assoc, passed _ _ _ (bounds_parts bracket parts rest), later]

/-! ### Values -/

/-- The value is passed wherever it stands; only a number has to be ended by what follows. -/
def Passes (text : List Char) : Prop :=
  ∃ count ≤ text.length, ∀ rounds opened rest, (NumberText text → Bounds rest) →
    passWithin (rounds + count) opened (text ++ rest) = passAfter rounds opened rest

theorem passes_plain {text : List Char} (nonempty : 1 ≤ text.length)
    (opened : ∀ rest, (NumberText text → Bounds rest) →
      passOpening (text ++ rest) = .ok (none, rest)) : Passes text :=
  ⟨1, nonempty, fun rounds brackets rest ends =>
    passWithin_plain brackets rounds (opened rest ends)⟩

theorem passes_word {c : Char} {letters : List Char}
    (opening : ∀ rest, passOpening (c :: rest) = (word letters rest).map (none, ·)) :
    Passes (c :: letters) := by
  refine passes_plain (by simp) fun rest _ => ?_
  rw [List.cons_append, opening, word_letters]
  rfl

theorem passes_bracket (bracket : Bracket) {parts : List (List Char)} {opener : Char}
    {lead : Blanks} (each : ∀ part ∈ parts, Part bracket part)
    (opened : ∀ rest, passOpening (opener :: rest) = .ok (some bracket, rest)) :
    Passes (opener :: (lead.text ++ (separated parts ++ [bracket.closer]))) := by
  obtain ⟨count, enough, passed⟩ := bracket_passed each lead
  refine ⟨count + 1, ?_, fun rounds brackets rest _ => ?_⟩
  · simp only [List.length_cons, List.length_append]
    omega
  · have whole := passed rounds brackets rest
    rw [← Nat.add_assoc, List.cons_append, passWithin_bracket _ _ (opened _)]
    simpa only [List.append_assoc, List.cons_append, List.nil_append] using whole

theorem WellFormed.opens {text : List Char} (value : WellFormed text) :
    ∃ c tail, text = c :: tail ∧ isBlank c = false ∧ c ≠ ']' := by
  cases value with
  | null | truth | falsehood => exact ⟨_, _, rfl, rfl, by decide⟩
  | text | list | object => exact ⟨_, _, rfl, rfl, by decide⟩
  | number number =>
    cases number with
    | parts signed digits _ _ =>
      rcases signed with rfl | rfl
      · obtain ⟨c, others, rfl, digit⟩ := digits.digit
        refine ⟨c, _, rfl, not_blank_of_isDigit digit, ?_⟩
        rintro rfl
        exact absurd digit (by decide)
      · exact ⟨_, _, rfl, rfl, by decide⟩

theorem Padded.part {item : Padded} (value : WellFormed item.value) (passes : Passes item.value) :
    Part .list item.text := by
  obtain ⟨count, enough, passed⟩ := passes
  refine ⟨?_, count, ?_, fun rounds opened rest bounds => ?_⟩
  · obtain ⟨c, tail, same, solid, other⟩ := value.opens
    exact ⟨item.before, c, tail ++ item.after.text, by simp [text, same], solid, other⟩
  · simp only [text, List.length_append]
    omega
  · simp only [passOn, text, List.append_assoc]
    rw [(skips_passWithin _ _).blanks, passed _ _ _ fun _ => item.after.bounds bounds,
      (skips_passAfter _ _ _).blanks]

theorem passKey_entry {e : Entry} (quotable : Quotable e.key) (rest : List Char) :
    passKey (e.text ++ rest) =
      .ok (e.beforeValue.text ++ (e.value ++ (e.after.text ++ rest))) := by
  simp only [passKey, Entry.text, Entry.tail, List.append_assoc, List.cons_append, Blanks.skip,
    skipBlank_cons _ (show isBlank '"' = false from rfl), if_pos, quotable.passed, bind,
    Except.bind]
  simp [colon, skipBlank_cons _ (show isBlank ':' = false from rfl)]

theorem Entry.part {e : Entry} (quotable : Quotable e.key) (passes : Passes e.value) :
    Part .object e.text := by
  obtain ⟨count, enough, passed⟩ := passes
  refine ⟨⟨e.before, '"', e.tail, rfl, rfl, by decide⟩, count, ?_,
    fun rounds opened rest bounds => ?_⟩
  · simp only [text, tail, List.length_append, List.length_cons]
    omega
  · simp only [passOn, passKey_entry quotable, bind, Except.bind]
    rw [(skips_passWithin _ _).blanks, passed _ _ _ fun _ => e.after.bounds bounds,
      (skips_passAfter _ _ _).blanks]

theorem WellFormed.passes {text : List Char} (value : WellFormed text) : Passes text := by
  induction value with
  | null =>
    change Passes ('n' :: ['u', 'l', 'l'])
    exact passes_word fun rest => by simp [passOpening, skipBlank_cons, isBlank]
  | truth =>
    change Passes ('t' :: ['r', 'u', 'e'])
    exact passes_word fun rest => by simp [passOpening, skipBlank_cons, isBlank]
  | falsehood =>
    change Passes ('f' :: ['a', 'l', 's', 'e'])
    exact passes_word fun rest => by simp [passOpening, skipBlank_cons, isBlank]
  | @number text number =>
    refine passes_plain ?_ fun rest ends => number.opened (ends number)
    obtain ⟨c, tail, rfl, _⟩ := (WellFormed.number number).opens
    simp
  | @text body quotable =>
    refine passes_plain (by simp [quoted]) fun rest _ => ?_
    have passed := quotable.passed rest
    simp [quoted, passOpening, skipBlank_cons _ (show isBlank '"' = false from rfl), passed,
      Except.map]
  | @list lead items each ih =>
    refine passes_bracket .list ?_ fun rest => rfl
    intro part member
    obtain ⟨item, among, rfl⟩ := List.mem_map.1 member
    exact Padded.part (each item among) (ih item among)
  | @object lead entries keys each ih =>
    refine passes_bracket .object ?_ fun rest => rfl
    intro part member
    obtain ⟨e, among, rfl⟩ := List.mem_map.1 member
    exact Entry.part (keys e among) (ih e among)

theorem WellFormed.skipValue_eq {text rest : List Char} (value : WellFormed text) (b : Blanks)
    (ends : NumberText text → Bounds rest) :
    skipValue (b.text ++ (text ++ rest)) = .ok rest := by
  obtain ⟨count, enough, passed⟩ := value.passes
  obtain ⟨spare, same⟩ : ∃ spare, (b.text ++ (text ++ rest)).length + 1 = spare + count :=
    ⟨(b.text ++ (text ++ rest)).length + 1 - count, by
      simp only [List.length_append]
      omega⟩
  rw [skipValue, same, (skips_passWithin _ _).blanks, passed _ _ _ ends]
  rfl

end Proximity.Json
