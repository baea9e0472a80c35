import Proximity.Proofs.ConfigText

/-! Lifetimes at their limits. The nanoseconds of a lifetime may go beyond a second; they are
carried into its seconds, and a lifetime that does not fit in 64 bits of seconds then is refused.
Texts that say the same length in different parts are read alike, and what is written has less than
a second of nanoseconds. -/

set_option autoImplicit false

namespace Proximity

namespace Duration

/-- A span is made of parts exactly when it is as long as they are. -/
theorem ofParts?_eq_some_iff {secs nanos : Nat} {d : Duration} :
    ofParts? secs nanos = some d ↔ d.total = secs * nanosPerSecond + nanos := by
  obtain ⟨whole, part, whole_lt, part_lt⟩ := d
  -- With less than a second of nanoseconds the division has one quotient and one remainder.
  have same : whole * nanosPerSecond + part = secs * nanosPerSecond + nanos ↔
      secs + nanos / nanosPerSecond = whole ∧ nanos % nanosPerSecond = part := by
    simp only [nanosPerSecond] at part_lt ⊢
    omega
  rw [total, same]
  by_cases fits : secs + nanos / nanosPerSecond < UInt64.size
  · simp [ofParts?, fits]
  · simp only [ofParts?, dif_neg fits]
    constructor
    · simp
    · -- A span has its seconds in 64 bits, so none is as long as these parts.
      rintro ⟨rfl, -⟩
      exact absurd whole_lt fits

theorem ofParts?_eq_none_iff {secs nanos : Nat} :
    ofParts? secs nanos = none ↔ UInt64.size ≤ secs + nanos / nanosPerSecond := by
  simp [ofParts?]

theorem exists_ofParts?_iff {secs nanos : Nat} :
    (∃ d, ofParts? secs nanos = some d) ↔ secs + nanos / nanosPerSecond < UInt64.size := by
  rw [← Option.ne_none_iff_exists', ne_eq, ofParts?_eq_none_iff, Nat.not_le]

example : ofParts? 18446744073709551611 4294967295 =
      some ⟨18446744073709551615, 294967295, by decide, by decide⟩ ∧
    ofParts? 18446744073709551612 4294967295 = none := by
  decide

def parts (secs nanos : Nat) : layout.Parts
  | .secs => secs
  | .nanos => nanos

def plainText (secs nanos : Nat) : List Char :=
  ("\x7b\"secs\":" ++ toString secs ++ ",\"nanos\":" ++ toString nanos ++ "\x7d").toList

def entry (part : Part) (n : Nat) : Json.Named :=
  { layout.entry ⟨0, 0, by decide, by decide⟩ part with value := Json.writeNatural n }

theorem entry_text (part : Part) (n : Nat) :
    (entry part n).text = ("\"" ++ layout.label part ++ "\":" ++ toString n).toList := by
  cases part <;>
    simp [Json.Entry.text, Json.Entry.tail, entry, Json.Layout.entry, layout, Json.writeChar,
      Json.Blanks.none, Json.writeNatural]

theorem plainText_eq (secs nanos : Nat) : plainText secs nanos = Json.objectText .none
    ([entry .secs secs, entry .nanos nanos].map Json.Named.toEntry) := by
  simp [plainText, Json.objectText, Json.separated, Json.Blanks.none, entry_text, layout]

theorem writer_eq (d : Duration) : layout.writer d = plainText d.secs d.nanos := by
  rw [Json.Layout.writer_eq, plainText_eq]
  rfl

end Duration

/-- The text of a lifetime as an object of both parts, in either order and with blanks between
tokens; each part is within its width. -/
def LifetimeText (secs nanos : Nat) (text : List Char) : Prop :=
  Duration.layout.Comprises Duration.forms (Duration.parts secs nanos) text

namespace LifetimeText

variable {secs nanos : Nat} {text : List Char}

theorem plain (whole : secs < UInt64.size) (part : nanos < UInt32.size) :
    LifetimeText secs nanos (Duration.plainText secs nanos) := by
  refine ⟨.none, _, Duration.plainText_eq secs nanos, ?_, fun m => .inl (by cases m <;> rfl)⟩
  exact List.forall_mem_cons.2 ⟨.inl ⟨.secs, rfl, whole, Json.decimal_writeNatural _⟩,
    List.forall_mem_cons.2 ⟨.inl ⟨.nanos, rfl, part, Json.decimal_writeNatural _⟩, by simp⟩⟩

theorem wellFormed (written : LifetimeText secs nanos text) : Json.WellFormed text :=
  Duration.faithful.wellFormed_comprised written

theorem reads (written : LifetimeText secs nanos text) {d : Duration}
    (made : Duration.ofParts? secs nanos = some d) : Json.Reads readTtl text (some d) := by
  have built : Duration.layout.build (Duration.parts secs nanos) = .ok d := by
    simp only [Duration.layout, Duration.parts, made]
  refine (Duration.faithful.reads_comprised written built).present ?_
  obtain ⟨tail, rfl⟩ := written.opens
  simp

theorem misfits (written : LifetimeText secs nanos text)
    (long : Duration.ofParts? secs nanos = none) (rest : List Char) :
    Json.Layout.Misfits (readTtl (text ++ rest)) := by
  have failed : Duration.layout.build (Duration.parts secs nanos) = .error .durationOverflow := by
    simp only [Duration.layout, Duration.parts, long]
  have mismatches := Duration.faithful.mismatches_comprised written failed rest
  obtain ⟨tail, rfl⟩ := written.opens
  rw [List.cons_append] at mismatches ⊢
  rw [readTtl, Json.optional_cons _ _ rfl (by decide)]
  exact mismatches.misfits.map _

end LifetimeText

/-! ### Lifetimes in configs -/

section

variable {α : Type}

/-- The text is one for `c` in everything but the lifetime, which has these parts. -/
def Lasting (layout : Json.Layout α) (member : layout.Member) (c : α) (secs nanos : Nat)
    (text : List Char) : Prop :=
  ∃ inner, LifetimeText secs nanos inner ∧ layout.Placed layout.readable c member inner text

/-- What holds of a kind of config whose lifetime is in `member`, where `lasting` gives a config
another lifetime. -/
structure LifetimesExact (layout : Json.Layout α) (member : layout.Member)
    (lasting : α → Duration → α) (encode : α → List Char)
    (parse : List Char → Except Json.ParseError α) : Prop where
  /-- There are texts for all parts within their widths. -/
  spelled : ∀ c {secs nanos}, secs < UInt64.size → nanos < UInt32.size →
    ∃ text, Lasting layout member c secs nanos text
  accepts : ∀ {c secs nanos text}, Lasting layout member c secs nanos text →
    ((∃ found, parse text = .ok found) ↔ secs + nanos / nanosPerSecond < UInt64.size)
  refuses : ∀ {c secs nanos text}, Lasting layout member c secs nanos text →
    UInt64.size ≤ secs + nanos / nanosPerSecond → Json.Refused .mismatch (parse text)
  /-- Nothing but the lifetime is another one, and it is as long as its parts. -/
  denotes : ∀ {c secs nanos text found}, Lasting layout member c secs nanos text →
    parse text = .ok found →
    ∃ d, found = lasting c d ∧ d.total = secs * nanosPerSecond + nanos
  /-- The same length is written with less than a second of nanoseconds and read again. -/
  writes : ∀ {c secs nanos text found}, Lasting layout member c secs nanos text →
    parse text = .ok found → parse (encode found) = .ok found ∧
    ∃ whole part, part < nanosPerSecond ∧
      whole * nanosPerSecond + part = secs * nanosPerSecond + nanos ∧
      "\"ttl\":".toList ++ Duration.plainText whole part <:+: encode found
  /-- Texts that differ in the lifetime only give one config when they say one length that fits. -/
  agrees : ∀ {c secs nanos text secs' nanos' text'}, Lasting layout member c secs nanos text →
    Lasting layout member c secs' nanos' text' →
    ((∃ found, parse text = .ok found ∧ parse text' = .ok found) ↔
      secs * nanosPerSecond + nanos = secs' * nanosPerSecond + nanos' ∧
        secs + nanos / nanosPerSecond < UInt64.size)

structure KeepsLifetime (layout : Json.Layout α) (member : layout.Member)
    (lasting : α → Duration → α) : Prop where
  others : ∀ c d m, m ≠ member → layout.get (lasting c d) m = layout.get c m
  injective : ∀ {c d other}, lasting c d = lasting c other → d = other
  reads : ∀ {c d text}, Json.Reads readTtl text (some d) →
    Json.Reads (layout.read member) text (layout.get (lasting c d) member)
  misfits : ∀ {text}, Json.Layout.Misfits (readTtl text) →
    Json.Layout.Misfits (layout.read member text)
  written : ∀ c d, layout.writeMember (lasting c d) member =
    "\"ttl\":".toList ++ Duration.layout.writer d

variable {layout : Json.Layout α} {member : layout.Member} {lasting : α → Duration → α}
  {forms : layout.Forms} {c : α} {secs nanos : Nat} {text : List Char}

/-- Everything about a lifetime follows from what it is read as: the span of this length if there
is one, and a mismatch otherwise. -/
theorem Lasting.parse_eq (lasts : Lasting layout member c secs nanos text)
    (keeps : KeepsLifetime layout member lasting) (faithful : layout.Faithful forms) {d : Duration}
    (made : Duration.ofParts? secs nanos = some d) :
    layout.reader.parse text = .ok (lasting c d) := by
  obtain ⟨inner, written, placed⟩ := lasts
  exact placed.parse_eq faithful.toLegible.toReadable faithful.distinct (keeps.others c d)
    ⟨written.wellFormed, keeps.reads (written.reads made)⟩

theorem Lasting.refused (lasts : Lasting layout member c secs nanos text)
    (keeps : KeepsLifetime layout member lasting) (faithful : layout.Faithful forms)
    (long : Duration.ofParts? secs nanos = none) :
    Json.Refused .mismatch (layout.reader.parse text) := by
  obtain ⟨inner, written, placed⟩ := lasts
  refine placed.refused faithful.toLegible.toReadable ?_
    fun rest _ => keeps.misfits (written.misfits long rest)
  obtain ⟨tail, rfl⟩ := written.opens
  exact ⟨'{', tail, rfl, rfl, by decide⟩

theorem Lasting.made (lasts : Lasting layout member c secs nanos text)
    (keeps : KeepsLifetime layout member lasting) (faithful : layout.Faithful forms) {found : α}
    (parsed : layout.reader.parse text = .ok found) :
    ∃ d, Duration.ofParts? secs nanos = some d ∧ found = lasting c d := by
  cases made : Duration.ofParts? secs nanos with
  | none => exact absurd parsed (lasts.refused keeps faithful made).not_ok
  | some d =>
    rw [lasts.parse_eq keeps faithful made] at parsed
    exact ⟨d, rfl, (Except.ok.inj parsed).symm⟩

theorem KeepsLifetime.lifetimesExact (keeps : KeepsLifetime layout member lasting)
    (faithful : layout.Faithful forms) :
    LifetimesExact layout member lasting layout.writer layout.reader.parse where
  spelled c secs nanos whole part := by
    obtain ⟨text, placed⟩ := faithful.exists_placed c member (Duration.plainText secs nanos)
    exact ⟨text, _, LifetimeText.plain whole part, placed⟩
  accepts lasts := by
    constructor
    · rintro ⟨found, parsed⟩
      obtain ⟨d, made, _⟩ := lasts.made keeps faithful parsed
      exact Duration.exists_ofParts?_iff.1 ⟨d, made⟩
    · intro fits
      obtain ⟨d, made⟩ := Duration.exists_ofParts?_iff.2 fits
      exact ⟨_, lasts.parse_eq keeps faithful made⟩
  refuses lasts long :=
    lasts.refused keeps faithful (Duration.ofParts?_eq_none_iff.2 long)
  denotes lasts parsed := by
    obtain ⟨d, made, rfl⟩ := lasts.made keeps faithful parsed
    exact ⟨d, rfl, Duration.ofParts?_eq_some_iff.1 made⟩
  writes {c _ _ _ _} lasts parsed := by
    obtain ⟨d, made, rfl⟩ := lasts.made keeps faithful parsed
    refine ⟨(faithful.reads_writer _).parse, d.secs, d.nanos, d.nanos_lt,
      Duration.ofParts?_eq_some_iff.1 made, ?_⟩
    have within := Json.Layout.writeMember_infix (lasting c d) member
    rwa [keeps.written, Duration.writer_eq] at within
  agrees lasts lasts' := by
    constructor
    · -- One config has one lifetime, and both texts say how long it is.
      rintro ⟨found, parsed, parsed'⟩
      obtain ⟨d, made, rfl⟩ := lasts.made keeps faithful parsed
      obtain ⟨d', made', same⟩ := lasts'.made keeps faithful parsed'
      obtain rfl := keeps.injective same
      exact ⟨(Duration.ofParts?_eq_some_iff.1 made).symm.trans
        (Duration.ofParts?_eq_some_iff.1 made'), Duration.exists_ofParts?_iff.1 ⟨d, made⟩⟩
    · rintro ⟨same, fits⟩
      obtain ⟨d, made⟩ := Duration.exists_ofParts?_iff.2 fits
      -- The span of the first parts is one for the others as well, so these fit too.
      have made' := Duration.ofParts?_eq_some_iff.2
        ((Duration.ofParts?_eq_some_iff.1 made).trans same)
      exact ⟨_, lasts.parse_eq keeps faithful made,
        lasts'.parse_eq keeps faithful made'⟩

end

/-- Lifetimes of either kind of config are exact up to the limit: the parts of one may be any
numbers within their widths, what is read is as long as they are, and only a lifetime with too many
whole seconds is refused. -/
theorem lifetimes_exact :
    LifetimesExact PublishConfig.layout .ttl (fun c d => { c with ttl := some d })
      PublishConfig.encode PublishConfig.parse ∧
    LifetimesExact SubscribeConfig.layout .ttl (fun c d => { c with ttl := some d })
      SubscribeConfig.encode SubscribeConfig.parse := by
  refine ⟨KeepsLifetime.lifetimesExact ?_ PublishConfig.faithful,
    KeepsLifetime.lifetimesExact ?_ SubscribeConfig.faithful⟩
  · exact
    { others := fun c d m other => by cases m <;> first | rfl | exact absurd rfl other
      injective := fun same => by simpa using congrArg PublishConfig.ttl same
      reads := id
      misfits := id
      written := fun c d => rfl }
  · exact
    { others := fun c d m other => by cases m <;> first | rfl | exact absurd rfl other
      injective := fun same => by simpa using congrArg SubscribeConfig.ttl same
      reads := id
      misfits := id
      written := fun c d => rfl }

end Proximity
