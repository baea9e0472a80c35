import Proximity.Proofs.Arrangement

/-! What becomes of a text that is cut off. Whatever was being read then wants more, in a string, a
word, a list or an object alike; only a number may have ended where it was cut, and the list or
object around it wants more instead. -/

set_option autoImplicit false

namespace Proximity.Json

/-- What is left of a text when something at its end is missing. -/
def Cut (front text : List Char) : Prop := ∃ c behind, text = front ++ c :: behind

theorem not_cut_nil {front : List Char} : ¬ Cut front [] := by
  rintro ⟨c, behind, same⟩
  simp at same

theorem cut_cons_iff {front text : List Char} {c : Char} :
    Cut front (c :: text) ↔ front = [] ∨ ∃ rest, front = c :: rest ∧ Cut rest text := by
  cases front with
  | nil => simp [Cut]
  | cons d front => simp [Cut, eq_comm]

theorem cut_append_iff {front text more : List Char} :
    Cut front (text ++ more) ↔
      Cut front text ∨ ∃ rest, front = text ++ rest ∧ Cut rest more := by
  induction text generalizing front with
  | nil => simp [not_cut_nil]
  | cons c text ih =>
    simp only [List.cons_append, cut_cons_iff, ih]
    constructor
    · rintro (none | ⟨rest, rfl, cut | ⟨left, rfl, cut⟩⟩)
      · exact .inl (.inl none)
      · exact .inl (.inr ⟨rest, rfl, cut⟩)
      · exact .inr ⟨left, rfl, cut⟩
    · rintro ((none | ⟨rest, rfl, cut⟩) | ⟨left, rfl, cut⟩)
      · exact .inl none
      · exact .inr ⟨rest, rfl, .inl cut⟩
      · exact .inr ⟨text ++ left, rfl, .inr ⟨left, rfl, cut⟩⟩

theorem prefix_iff_cut {front text : List Char} :
    front <+: text ↔ Cut front text ∨ front = text := by
  constructor
  · rintro ⟨behind, rfl⟩
    cases behind with
    | nil => exact .inr (List.append_nil front).symm
    | cons c behind => exact .inl ⟨c, behind, rfl⟩
  · rintro (⟨c, behind, rfl⟩ | rfl)
    · exact List.prefix_append front (c :: behind)
    · exact List.prefix_refl front

theorem prefix_append_iff {front text more : List Char} :
    front <+: text ++ more ↔ Cut front text ∨ ∃ rest, front = text ++ rest ∧ rest <+: more := by
  simp only [prefix_iff_cut, cut_append_iff, or_assoc]
  refine or_congr_right ⟨?_, ?_⟩
  · rintro (⟨rest, rfl, cut⟩ | rfl)
    · exact ⟨rest, rfl, .inl cut⟩
    · exact ⟨more, rfl, .inr rfl⟩
  · rintro ⟨rest, rfl, cut | rfl⟩
    · exact .inl ⟨rest, rfl, cut⟩
    · exact .inr rfl

theorem cut_mark_iff {front text more : List Char} {mark : Char} :
    Cut front (text ++ mark :: more) ↔
      front <+: text ∨ ∃ rest, front = text ++ mark :: rest ∧ Cut rest more := by
  rw [cut_append_iff, prefix_iff_cut, or_assoc]
  refine or_congr_right ⟨?_, ?_⟩
  · rintro ⟨rest, rfl, cut⟩
    rcases cut_cons_iff.1 cut with rfl | ⟨left, rfl, later⟩
    · exact .inl (List.append_nil text)
    · exact .inr ⟨left, rfl, later⟩
  · rintro (rfl | ⟨rest, rfl, cut⟩)
    · exact ⟨[], (List.append_nil front).symm, cut_cons_iff.2 (.inl rfl)⟩
    · exact ⟨mark :: rest, rfl, cut_cons_iff.2 (.inr ⟨rest, rfl, cut⟩)⟩

theorem Cut.bounds {front text : List Char} (cut : Cut front text) (bounds : Bounds text) :
    Bounds front := by
  obtain ⟨c, behind, rfl⟩ := cut
  cases front with
  | nil => exact bounds_nil
  | cons d front => exact bounds_cons.2 (bounds_cons.1 bounds)

/-! ### Running out of text -/

/-- The text ended where more was wanted. -/
def RunsOut {α : Type} (result : Except Failure α) : Prop := ∃ what, result = .error (ended what)

theorem runsOut_ended {α : Type} (what : Unfinished) :
    RunsOut (.error (ended what) : Except Failure α) := ⟨what, rfl⟩

theorem RunsOut.bind {α β : Type} {result : Except Failure α} (runsOut : RunsOut result)
    (f : α → Except Failure β) : RunsOut (result >>= f) := by
  obtain ⟨what, rfl⟩ := runsOut
  exact ⟨what, rfl⟩

theorem RunsOut.map {α β : Type} {result : Except Failure α} (runsOut : RunsOut result)
    (f : α → β) : RunsOut (result.map f) := by
  obtain ⟨what, rfl⟩ := runsOut
  exact ⟨what, rfl⟩

theorem RunsOut.close {α : Type} {result : Except Failure (α × List Char)}
    (runsOut : RunsOut result) (rule : EndRule) : RunsOut (close rule result) := by
  obtain ⟨what, rfl⟩ := runsOut
  exact ⟨what, rfl⟩

theorem RunsOut.parse {α : Type} {read : Reader α} {text : List Char}
    (runsOut : RunsOut (read text)) : Refused .unfinished (read.parse text) := by
  obtain ⟨what, failed⟩ := runsOut
  exact ⟨(ended what).locate text, by simp only [Reader.parse, failed], rfl⟩

/-- A text that is cut off is never taken for a whole one. -/
def Closed {α : Type} (read : Reader α) (text : List Char) : Prop :=
  ∀ front, Cut front text → RunsOut (read front)

/-- A text that is cut off is taken to its end if it is taken for a whole one. -/
def Open {α : Type} (read : Reader α) (text : List Char) : Prop :=
  ∀ front, Cut front text → RunsOut (read front) ∨ ∃ value, read front = .ok (value, [])

section

variable {α β : Type} {read : Reader α} {text : List Char}

theorem Closed.toOpen (closed : Closed read text) : Open read text :=
  fun front cut => .inl (closed front cut)

theorem Closed.map (closed : Closed read text) (f : α → β) :
    Closed (fun input => (read input).map fun result => (f result.1, result.2)) text :=
  fun front cut => (closed front cut).map _

theorem Open.map (opened : Open read text) (f : α → β) :
    Open (fun input => (read input).map fun result => (f result.1, result.2)) text := by
  intro front cut
  rcases opened front cut with runsOut | ⟨value, taken⟩
  · exact .inl (runsOut.map _)
  · exact .inr ⟨f value, by simp only [taken]; rfl⟩

end

/-! ### Strings -/

theorem HexDigit.utf8Size {c : Char} {value : Nat} (digit : HexDigit c value) : c.utf8Size = 1 := by
  have small := digit.lt
  have lowers : ∀ n < 16, "0123456789abcdef".toList[n]?.map Char.utf8Size = some 1 := by decide
  have uppers : ∀ n < 16, "0123456789ABCDEF".toList[n]?.map Char.utf8Size = some 1 := by decide
  rcases digit with lower | upper
  · have found := lowers value small
    rw [lower] at found
    exact Option.some.inj found
  · have found := uppers value small
    rw [upper] at found
    exact Option.some.inj found

theorem CodeUnit.unit_cut {digits front : List Char} {code : Nat} (made : CodeUnit digits code)
    (cut : Cut front digits) : unit front = .error (ended .text) := by
  cases made with
  | digits first second third _ =>
    simp only [cut_cons_iff, not_cut_nil, and_false, exists_false, or_false] at cut
    rcases cut with rfl | ⟨_, rfl, rfl | ⟨_, rfl, rfl | ⟨_, rfl, rfl⟩⟩⟩
    · rfl
    · simp [unit, octets, first.utf8Size]
    · simp [unit, octets, first.utf8Size, second.utf8Size]
    · simp [unit, octets, first.utf8Size, second.utf8Size, third.utf8Size]

theorem escape_cut {digits front : List Char} {code : Nat} (made : CodeUnit digits code)
    (cut : Cut front digits) : RunsOut (escape ('u' :: front)) := by
  simp only [escape, shortEscape?, made.unit_cut cut, ne_eq, not_true_eq_false, if_false]
  exact runsOut_ended _

theorem escape_pair_cut {first second front : List Char} {high low : Nat}
    (made : CodeUnit first high) (from_high : 0xD800 ≤ high) (to_high : high ≤ 0xDBFF)
    (follows : CodeUnit second low) (cut : Cut front ('\\' :: 'u' :: second)) :
    RunsOut (escape ('u' :: (first ++ front))) := by
  have isLow : isLowSurrogate high = false := by simp [isLowSurrogate]; omega
  have isHigh : isHighSurrogate high = true := by simp [isHighSurrogate]; omega
  have behind : (first ++ front).drop 4 = front := by rw [← made.length_eq, List.drop_left]
  have half : secondHalf high front = .error (ended .text) := by
    rcases cut_cons_iff.1 cut with rfl | ⟨_, rfl, behindSlash⟩
    · rfl
    · rcases cut_cons_iff.1 behindSlash with rfl | ⟨rest, rfl, digits⟩
      · rfl
      · simp [secondHalf, follows.unit_cut digits, bind, Except.bind]
  simp [escape, shortEscape?, made.unit_eq, isLow, isHigh, behind, half, bind, Except.bind,
    runsOut_ended]

theorem textFrom_backslash {rest : List Char} (runsOut : RunsOut (escape rest)) :
    RunsOut (textFrom 0 ('\\' :: rest)) := by
  obtain ⟨what, failed⟩ := runsOut
  exact ⟨what, by simp [textFrom, failed]⟩

theorem runsOut_or_escape {letter : Char} {text front : List Char}
    (initial : front <+: '\\' :: letter :: text) : RunsOut (textFrom 0 front) ∨
      ∃ rest, front = '\\' :: letter :: rest ∧ rest <+: text := by
  rcases List.prefix_cons_iff.1 initial with rfl | ⟨_, rfl, behindSlash⟩
  · exact .inl (runsOut_ended _)
  · rcases List.prefix_cons_iff.1 behindSlash with rfl | ⟨rest, rfl, behind⟩
    · exact .inl (textFrom_backslash (runsOut_ended _))
    · exact .inr ⟨rest, rfl, behind⟩

theorem Spells.runsOut {body chars front : List Char} (spells : Spells body chars)
    (initial : front <+: body) : RunsOut (textFrom 0 front) := by
  -- By the way it is spelled: the cut is in the first character, which may be an escape, or later.
  induction spells generalizing front with
  | done =>
    obtain rfl := List.prefix_nil.1 initial
    exact runsOut_ended _
  | plain plain _ ih =>
    rcases List.prefix_cons_iff.1 initial with rfl | ⟨rest, rfl, later⟩
    · exact runsOut_ended _
    · rw [textFrom, if_neg plain.notQuote, if_neg plain.notBackslash,
        if_neg (Nat.not_lt.2 plain.visible)]
      exact (ih later).map _
  | letter listed _ ih =>
    rcases runsOut_or_escape initial with runsOut | ⟨rest, rfl, later⟩
    · exact runsOut
    · rw [textFrom, if_neg (by decide), if_pos rfl]
      simp only [escape, shortEscape?_of_listed listed]
      exact (ih later).map _
  | unit made scalar _ ih =>
    rcases runsOut_or_escape initial with runsOut | ⟨_, rfl, behind⟩
    · exact runsOut
    · rcases prefix_append_iff.1 behind with digits | ⟨rest, rfl, later⟩
      · exact textFrom_backslash (escape_cut made digits)
      · rw [textFrom_unit made scalar]
        exact (ih later).map _
  | @pair first second _ _ _ _ made from_high to_high follows from_low to_low _ ih =>
    rcases runsOut_or_escape initial with runsOut | ⟨_, rfl, behind⟩
    · exact runsOut
    · rcases prefix_append_iff.1 behind with digits | ⟨_, rfl, second⟩
      · exact textFrom_backslash (escape_cut made digits)
      · rw [← List.cons_append, ← List.cons_append] at second
        rcases prefix_append_iff.1 second with half | ⟨rest, rfl, later⟩
        · exact textFrom_backslash (escape_pair_cut made from_high to_high follows half)
        · simp only [List.cons_append,
            textFrom_pair made from_high to_high follows from_low to_low]
          exact (ih later).map _

theorem closed_text {chars text : List Char} (quotes : Quotes chars text) :
    Closed Json.text text := by
  obtain ⟨body, spells, rfl⟩ := quotes
  intro front cut
  rcases cut_cons_iff.1 cut with rfl | ⟨rest, rfl, later⟩
  · exact runsOut_ended _
  · have initial : rest <+: body := by
      rcases cut_mark_iff.1 later with initial | ⟨_, _, nothing⟩
      · exact initial
      · exact absurd nothing not_cut_nil
    have runsOut := spells.runsOut initial
    simpa [Json.text, skipBlank_cons _ (show isBlank '"' = false from rfl)] using runsOut

/-! ### Words, names and values that may be absent -/

theorem word_cut {letters front : List Char} (cut : Cut front letters) :
    RunsOut (word letters front) := by
  induction letters generalizing front with
  | nil => exact absurd cut not_cut_nil
  | cons c letters ih =>
    rcases cut_cons_iff.1 cut with rfl | ⟨rest, rfl, later⟩
    · exact runsOut_ended _
    · simpa [word] using ih later

theorem closed_boolean (b : Bool) : Closed boolean (writeBoolean b) := by
  intro front cut
  cases b with
  | true =>
    rcases cut_cons_iff.1 cut with rfl | ⟨rest, rfl, later⟩
    · exact runsOut_ended _
    · simp only [boolean, skipBlank_cons _ (show isBlank 't' = false from rfl), if_pos]
      exact (word_cut later).map _
  | false =>
    rcases cut_cons_iff.1 cut with rfl | ⟨rest, rfl, later⟩
    · exact runsOut_ended _
    · simp only [boolean, skipBlank_cons _ (show isBlank 'f' = false from rfl),
        if_neg (show 'f' ≠ 't' by decide), if_pos]
      exact (word_cut later).map _

theorem closed_variant {α : Type} {cases : List (String × α)} {chars text : List Char}
    (quotes : Quotes chars text) : Closed (variant cases) text := by
  intro front cut
  have runsOut := closed_text quotes front cut
  obtain ⟨body, spells, rfl⟩ := quotes
  rcases cut_cons_iff.1 cut with rfl | ⟨rest, rfl, later⟩
  · exact runsOut_ended _
  · simp only [Json.text, variant, skipBlank_cons _ (show isBlank '"' = false from rfl),
      if_pos] at runsOut ⊢
    exact runsOut.bind _

theorem closed_absent {α : Type} {read : Reader α} (wants : RunsOut (read [])) :
    Closed (optional read) writeNull := by
  intro front cut
  rcases cut_cons_iff.1 cut with rfl | ⟨rest, rfl, later⟩
  · exact wants.map _
  · simp only [optional, skipBlank_cons _ (show isBlank 'n' = false from rfl)]
    exact (word_cut later).map _

theorem Closed.present {α : Type} {read : Reader α} {text : List Char} (closed : Closed read text)
    (opens : ∃ c rest, text = c :: rest ∧ isBlank c = false ∧ c ≠ 'n') :
    Closed (optional read) text := by
  intro front cut
  have runsOut := closed front cut
  obtain ⟨c, tail, rfl, solid, other⟩ := opens
  rcases cut_cons_iff.1 cut with rfl | ⟨rest, rfl, _⟩
  · exact runsOut.map _
  · rw [optional_cons read _ solid other]
    exact runsOut.map _

/-! ### Numbers -/

theorem toDigits_cut {n : Nat} {front : List Char} (cut : Cut front (Nat.toDigits 10 n))
    (nonempty : front ≠ []) : ∃ k ≤ n, front = Nat.toDigits 10 k := by
  induction n using Nat.strongRecOn with
  | ind n ih =>
    rcases Nat.lt_or_ge n 10 with small | large
    · rw [Nat.toDigits_of_lt_base small] at cut
      rcases cut_cons_iff.1 cut with nothing | ⟨_, _, nothing⟩
      · exact absurd nothing nonempty
      · exact absurd nothing not_cut_nil
    · -- The last digit is missing, and maybe more of the digits of a tenth of the number.
      rw [Nat.toDigits_of_base_le (by decide) large] at cut
      rcases cut_append_iff.1 cut with earlier | ⟨rest, rfl, last⟩
      · obtain ⟨k, below, same⟩ := ih (n / 10) (by omega) earlier
        exact ⟨k, by omega, same⟩
      · rcases cut_cons_iff.1 last with rfl | ⟨_, _, nothing⟩
        · exact ⟨n / 10, Nat.div_le_self n 10, List.append_nil _⟩
        · exact absurd nothing not_cut_nil

theorem open_natural {limit n : Nat} (expected : String) (small : limit ≤ UInt64.size)
    (below : n < limit) : Open (natural limit expected) (writeNatural n) := by
  intro front cut
  by_cases nothing : front = []
  · subst nothing
    exact .inl (runsOut_ended _)
  · obtain ⟨k, less, rfl⟩ := toDigits_cut cut nothing
    have fits : k < limit := Nat.lt_of_le_of_lt less below
    have taken := (reads_natural expected (Nat.lt_of_lt_of_le fits small) fits).takes [] bounds_nil
    rw [List.append_nil] at taken
    exact .inr ⟨k, taken⟩

theorem open_octet (byte : UInt8) : Open octet (writeNatural byte.toNat) :=
  (open_natural "u8" (by decide) byte.toNat_lt_size).map UInt8.ofNat

theorem open_word32 (word : UInt32) : Open word32 (writeNatural word.toNat) :=
  (open_natural "u32" (by decide) word.toNat_lt_size).map UInt32.ofNat

/-! ### One thing after another -/

/-- The text ended, or else what was read is as it should be and what is left is cut off `more`. -/
def CutOff {β : Type} (result : Except Failure (β × List Char)) (right : β → Prop)
    (more : List Char) : Prop :=
  RunsOut result ∨ ∃ value rest, result = .ok (value, rest) ∧ right value ∧ Cut rest more

theorem CutOff.bind {β γ : Type} {result : Except Failure (β × List Char)} {right : β → Prop}
    {more : List Char} (cutOff : CutOff result right more)
    {next : β × List Char → Except Failure γ}
    (wants : ∀ value rest, right value → Cut rest more → RunsOut (next (value, rest))) :
    RunsOut (result >>= next) := by
  rcases cutOff with runsOut | ⟨value, rest, rfl, true, cut⟩
  · exact runsOut.bind next
  · exact wants value rest true cut

theorem Open.cutOff {α : Type} {read : Reader α} {text more front : List Char} {value : α}
    (opened : Open read text) (reads : Reads read text value) (bounds : Bounds more)
    (nonempty : more ≠ []) (cut : Cut front (text ++ more)) :
    CutOff (read front) (fun _ => True) more := by
  rcases cut_append_iff.1 cut with inside | ⟨rest, rfl, behind⟩
  · rcases opened front inside with runsOut | ⟨other, taken⟩
    · exact .inl runsOut
    · -- What was read may not be the value, but nothing is left behind it.
      obtain ⟨c, tail, rfl⟩ := List.exists_cons_of_ne_nil nonempty
      exact .inr ⟨other, [], taken, trivial, cut_cons_iff.2 (.inl rfl)⟩
  · exact .inr ⟨value, rest, reads.takes rest (behind.bounds bounds), trivial, behind⟩

theorem Spells.cutOff {body chars front more : List Char} (spells : Spells body chars)
    (cut : Cut front (body ++ '"' :: more)) :
    CutOff (textFrom 0 front) (· = chars) more := by
  rcases cut_mark_iff.1 cut with inside | ⟨rest, rfl, behind⟩
  · exact .inl (spells.runsOut inside)
  · exact .inr ⟨chars, rest, spells.textFrom_eq rest, rfl, behind⟩

theorem chain_ne_nil {ending : Bool → List Char} (ends : ending false ≠ [])
    (texts : List (List Char)) : chain ending false texts ≠ [] := by
  cases texts with
  | nil => exact ends
  | cons text texts => simp [chain, apart]

/-! ### Lists -/

section

variable {α : Type} {read : Reader α} {write : α → List Char}

theorem nextElement_cutOff {text more front : List Char} {first : Bool}
    (opens : ∃ c rest, text = c :: rest ∧ isBlank c = false ∧ c ≠ ']')
    (cut : Cut front (apart first (text ++ more))) :
    CutOff (nextElement first front) (· = true) (text ++ more) := by
  obtain ⟨c, tail, rfl, solid, other⟩ := opens
  have element {rest : List Char} (behind : Cut rest (c :: (tail ++ more))) : rest = [] ∨
      skipBlank rest = rest ∧ ∃ left, rest = c :: left := by
    rcases cut_cons_iff.1 behind with rfl | ⟨left, rfl, _⟩
    · exact .inl rfl
    · exact .inr ⟨skipBlank_cons _ solid, left, rfl⟩
  cases first with
  | true =>
    rcases element cut with rfl | ⟨same, left, rfl⟩
    · exact .inl (runsOut_ended _)
    · exact .inr ⟨true, c :: left, by simp [nextElement, same, other], rfl, cut⟩
  | false =>
    rcases cut_cons_iff.1 cut with rfl | ⟨rest, rfl, behind⟩
    · exact .inl (runsOut_ended _)
    · rcases element behind with rfl | ⟨same, left, rfl⟩
      · exact .inl (runsOut_ended _)
      · refine .inr ⟨true, c :: left, ?_, rfl, behind⟩
        simp [nextElement, skipBlank_cons _ (show isBlank ',' = false from rfl), same, other]

theorem elements_runsOut (reads : ∀ value, Reads read (write value) value)
    (opened : ∀ value, Open read (write value)) {values : List α} {first : Bool}
    {front : List Char} (cut : Cut front (chain (fun _ => [']']) first (values.map write)))
    (rounds : Nat) : RunsOut (elements read rounds first front) := by
  -- Rounds that are used up want more as well, so there need not be enough of them.
  induction values generalizing first front rounds with
  | nil =>
    rcases cut_cons_iff.1 cut with rfl | ⟨_, _, nothing⟩
    · cases rounds <;> exact runsOut_ended _
    · exact absurd nothing not_cut_nil
  | cons value values ih =>
    cases rounds with
    | zero => exact runsOut_ended _
    | succ rounds =>
      refine (nextElement_cutOff (reads value).opens cut).bind ?_
      rintro _ left rfl element
      have bounds : Bounds (chain (fun _ => [']']) false (values.map write)) :=
        bounds_chain (by simp) _
      exact ((opened value).cutOff (reads value) bounds (chain_ne_nil (by simp) _) element).bind
        fun _ rest _ others => (ih others rounds).bind _

theorem closed_list (reads : ∀ value, Reads read (write value) value)
    (opened : ∀ value, Open read (write value)) (values : List α) :
    Closed (list read) (writeList (values.map write)) := by
  intro front cut
  rw [writeList, List.cons_append, separated_eq_chain] at cut
  rcases cut_cons_iff.1 cut with rfl | ⟨rest, rfl, behind⟩
  · exact runsOut_ended _
  · simp only [list, skipBlank_cons _ (show isBlank '[' = false from rfl), if_pos]
    exact (elements_runsOut reads opened behind _).close listEnd

end

/-! ### Objects -/

namespace Layout

variable {α : Type} {layout : Layout α} {forms : layout.Forms}

theorem nextMember_cutOff {text front : List Char} {first : Bool}
    (cut : Cut front (apart first ('"' :: text))) :
    CutOff (nextMember first front) (· = true) text := by
  cases first with
  | true =>
    rcases cut_cons_iff.1 cut with rfl | ⟨rest, rfl, behind⟩
    · exact .inl (runsOut_ended _)
    · exact .inr ⟨true, rest, nextMember_apart true .none rest, rfl, behind⟩
  | false =>
    rcases cut_cons_iff.1 cut with rfl | ⟨_, rfl, behindComma⟩
    · exact .inl (runsOut_ended _)
    · rcases cut_cons_iff.1 behindComma with rfl | ⟨rest, rfl, behind⟩
      · exact .inl (runsOut_ended _)
      · exact .inr ⟨true, rest, nextMember_apart false .none rest, rfl, behind⟩

theorem Faithful.takeMember_cutOff (faithful : layout.Faithful forms) {value : α}
    {m : layout.Member} {slots : layout.Slots} {front more : List Char}
    (opened : Open (layout.read m) (layout.write m (layout.get value m))) (new : slots m = none)
    (bounds : Bounds more) (nonempty : more ≠ [])
    (cut : Cut front (':' :: (layout.write m (layout.get value m) ++ more))) :
    CutOff (layout.takeMember slots (layout.label m).toList front)
      (fun kept => ∃ read, kept = slots.set m read) more := by
  simp only [takeMember, faithful.labels m, new]
  rcases cut_cons_iff.1 cut with rfl | ⟨rest, rfl, behind⟩
  · exact .inl (runsOut_ended _)
  · have taken := opened.cutOff (faithful.reads (faithful.written value m)) bounds nonempty behind
    simp only [colon, skipBlank_cons _ (show isBlank ':' = false from rfl)]
    rcases taken with runsOut | ⟨read, left, read_eq, _, later⟩
    · exact .inl (runsOut.bind _)
    · exact .inr ⟨slots.set m read, left, by simp [read_eq, bind, Except.bind], ⟨read, rfl⟩, later⟩

theorem Faithful.takeMembers_runsOut (faithful : layout.Faithful forms)
    (opened : ∀ value m, Open (layout.read m) (layout.write m (layout.get value m))) {value : α}
    {coming : List layout.Member} (distinct : coming.Nodup) (slots : layout.Slots)
    (new : ∀ m ∈ coming, slots m = none) {first : Bool} {front : List Char}
    (cut : Cut front (chain (fun _ => ['}']) first (coming.map (layout.writeMember value))))
    (rounds : Nat) : RunsOut (layout.takeMembers rounds first slots front) := by
  -- Nothing is kept yet for the members to come, so none is refused as a repetition before its end.
  induction coming generalizing first front rounds slots with
  | nil =>
    rcases cut_cons_iff.1 cut with rfl | ⟨_, _, nothing⟩
    · cases rounds <;> exact runsOut_ended _
    · exact absurd nothing not_cut_nil
  | cons m coming ih =>
    cases rounds with
    | zero => exact runsOut_ended _
    | succ rounds =>
      obtain ⟨single, others⟩ := List.nodup_cons.1 distinct
      obtain ⟨here, later⟩ := List.forall_mem_cons.1 new
      have bounds : Bounds (chain (fun _ => ['}']) false (coming.map (layout.writeMember value))) :=
        bounds_chain (by simp) _
      simp only [List.map_cons, chain, writeMember, writeText, List.cons_append,
        List.append_assoc, List.nil_append] at cut
      refine (nextMember_cutOff cut).bind ?_
      rintro _ key rfl inKey
      refine ((spells_written _).cutOff inKey).bind ?_
      rintro _ colon rfl behindKey
      refine (faithful.takeMember_cutOff (opened value m) here bounds (chain_ne_nil (by simp) _)
        behindKey).bind ?_
      rintro _ rest ⟨read, rfl⟩ behind
      refine ih others _ (fun other member => ?_) behind rounds
      rw [set_other]
      · exact later other member
      · rintro rfl
        exact single member

theorem Faithful.closed (faithful : layout.Faithful forms)
    (opened : ∀ value m, Open (layout.read m) (layout.write m (layout.get value m))) (value : α) :
    Closed layout.reader (layout.writer value) := by
  intro front cut
  rw [writer, List.cons_append, separated_eq_chain] at cut
  rcases cut_cons_iff.1 cut with rfl | ⟨rest, rfl, behind⟩
  · exact runsOut_ended _
  · have runsOut := faithful.takeMembers_runsOut opened faithful.distinct
      (Slots.empty layout) (fun _ _ => rfl) behind (rest.length + 1)
    obtain ⟨what, failed⟩ := runsOut
    simp only [reader, skipBlank_cons _ (show isBlank '{' = false from rfl), if_pos, failed,
      finish]
    exact (runsOut_ended what).close objectEnd

end Layout

/-! ### Where a text ends -/

/-- What holds of an encoding whose texts show where they end: what is missing at the end is asked
for, blanks behind it do not matter, and anything else behind it is objected to. -/
structure SelfDelimiting {α : Type} (encode : α → List Char)
    (parse : List Char → Except ParseError α) : Prop where
  truncated : ∀ value {front}, front <+: encode value → front ≠ encode value →
    Refused .unfinished (parse front)
  padded : ∀ value (blanks : Blanks), parse (encode value ++ blanks.text) = .ok value
  extended : ∀ value {rest}, (∀ blanks : Blanks, blanks.text ≠ rest) →
    Refused .malformed (parse (encode value ++ rest))

theorem Layout.Faithful.selfDelimiting {α : Type} {layout : Layout α} {forms : layout.Forms}
    (faithful : layout.Faithful forms)
    (opened : ∀ value m, Open (layout.read m) (layout.write m (layout.get value m))) :
    SelfDelimiting layout.writer layout.reader.parse where
  truncated value front initial proper :=
    (faithful.closed opened value front ((prefix_iff_cut.1 initial).resolve_right proper)).parse
  padded value blanks :=
    faithful.accepts.parse_alone ⟨.none, blanks, _, faithful.describes value, rfl⟩
  extended value rest other := by
    have taken : layout.reader (layout.writer value ++ rest) = .ok (value, rest) :=
      faithful.reader_described (faithful.describes value) .none rest
    have solid : skipBlank rest ≠ [] := fun none => by
      obtain ⟨blanks, same⟩ := skipBlank_eq_nil_iff.1 none
      exact other blanks same.symm
    obtain ⟨c, left, same⟩ := List.exists_cons_of_ne_nil solid
    exact ⟨(faultAt .trailingCharacters (c :: left)).locate (layout.writer value ++ rest),
      by simp only [Reader.parse, taken, same], rfl⟩

theorem not_numberText_objectText {lead : Blanks} {entries : List Entry} :
    ¬ NumberText (objectText lead entries) := by
  intro number
  generalize same : objectText lead entries = text at number
  cases number with
  | parts signed digits _ _ =>
    obtain ⟨c, others, rfl, digit⟩ := digits.digit
    rcases signed with rfl | rfl
    · obtain ⟨rfl, _⟩ := List.cons.inj same
      exact absurd digit (by decide)
    · exact absurd (List.cons.inj same).1 (by decide)

/-- An object is passed over as a whole, so its text is never the beginning of another's. -/
theorem prefix_objectText {lead lead' : Blanks} {entries entries' : List Entry}
    (object : WellFormed (objectText lead entries))
    (object' : WellFormed (objectText lead' entries'))
    (initial : objectText lead entries <+: objectText lead' entries') :
    objectText lead entries = objectText lead' entries' := by
  obtain ⟨rest, same⟩ := initial
  have passed : skipValue (objectText lead entries ++ rest) = .ok rest :=
    object.skipValue_eq .none fun number => absurd number not_numberText_objectText
  have whole : skipValue (objectText lead' entries' ++ []) = .ok [] :=
    object'.skipValue_eq .none fun number => absurd number not_numberText_objectText
  rw [List.append_nil, ← same, passed] at whole
  rw [← same, Except.ok.inj whole, List.append_nil]

end Proximity.Json
