import Proximity.Proofs.SpecifierText

/-! Which texts are read as a specifier. Its members may be arranged in any way, none of them may be
missing or repeated, and a byte field is an even number of hexadecimal digits or `null`. -/

set_option autoImplicit false

namespace Proximity.Specifier

open Json.Layout

/-- Members may come in any order, with foreign ones among them and blanks between tokens, and
digits may be in either case; but there has to be each member once, absent bytes being `null`. -/
theorem arranged_freely : layout.ArrangementFree forms (fun _ _ => False) parse :=
  faithful.arrangementFree rfl False.elim fun _ => rfl

example : parse ("\n\x7b \"token\" : \"aB\", \"note\":[1.5e3, \x7b\"\\ud83d\":null\x7d] ," ++
      "\"client_id\":7,\"peer_mac\":null,\"role\":\"responder\"," ++
      "\"t\\u0079pe\":\"client\"\x7d ").toList =
    .ok { role := .responder, clientId := ⟨7⟩, peer := none, token := some [0xab] } := by
  cbv

/-- The members in reverse behind a foreign one, and the same without the peer. -/
theorem arranged_freely_backwards :
    parse ("\x7b\"note\":[],\"token\":\"ab\",\"peer_mac\":null,\"client_id\":7," ++
        "\"role\":\"responder\",\"type\":\"client\"\x7d").toList =
      .ok { role := .responder, clientId := ⟨7⟩, peer := none, token := some [0xab] } ∧
    Json.Refused .mismatch
      (parse ("\x7b\"note\":[],\"token\":\"ab\",\"client_id\":7," ++
        "\"role\":\"responder\",\"type\":\"client\"\x7d").toList) := by
  let s : Specifier := { role := .responder, clientId := ⟨7⟩, peer := none, token := some [0xab] }
  let note : Json.Named := { layout.entry s Member.token with
    key := "note".toList, name := "note".toList, spells := Json.spells_written "note".toList
    value := "[]".toList }
  let entries (members : List Member) : List Json.Named := note :: members.map (layout.entry s)
  have foreign : Foreign layout note :=
    ⟨rfl, fun m => by cases m <;> decide, .list .none (List.forall_mem_nil _)⟩
  have holds (members : List Member) : ∀ e ∈ entries members, Holds forms s e :=
    List.forall_mem_cons.2 ⟨.inr foreign, faithful.holds s members⟩
  have whole : Json.Arranged (entries [.token, .peer, .clientId, .role, .type])
      ("\x7b\"note\":[],\"token\":\"ab\",\"peer_mac\":null,\"client_id\":7," ++
        "\"role\":\"responder\",\"type\":\"client\"\x7d").toList :=
    ⟨.none, .none, .none, by decide⟩
  have rest : Json.Arranged (entries [.token, .clientId, .role, .type])
      ("\x7b\"note\":[],\"token\":\"ab\",\"client_id\":7," ++
        "\"role\":\"responder\",\"type\":\"client\"\x7d").toList :=
    ⟨.none, .none, .none, by decide⟩
  exact ⟨arranged_freely.reads whole (holds _) fun m => .inl (by cases m <;> decide),
    arranged_freely.missing rest (m := Member.peer) (fun e member => (holds _ e member).fits)
      (by decide) fun _ => id⟩

/-! ### Byte fields -/

inductive ByteField where
  | peer
  | token
  deriving DecidableEq, Repr

namespace ByteField

def member : ByteField → Member
  | .peer => .peer
  | .token => .token

def fill (s : Specifier) (bytes : Bytes) : ByteField → Specifier
  | .peer => { s with peer := some bytes }
  | .token => { s with token := some bytes }

def text (field : ByteField) (digits : List Char) : List Char :=
  ("\"" ++ layout.label field.member ++ "\":\"").toList ++ digits ++ "\"".toList

theorem get_fill (field : ByteField) (s : Specifier) (bytes : Bytes) {m : Member}
    (other : m ≠ field.member) : layout.get (field.fill s bytes) m = layout.get s m := by
  cases field <;> cases m <;> first | rfl | exact absurd rfl other

theorem forms_fill (field : ByteField) {s : Specifier} {bytes : Bytes} {digits text : List Char}
    (lower : digits.map Char.toLower = Hex.encode bytes) (quotes : Json.Quotes digits text) :
    forms field.member (layout.get (field.fill s bytes) field.member) text := by
  cases field <;> exact ⟨digits, lower, quotes⟩

theorem writeMember_fill (field : ByteField) (s : Specifier) (bytes : Bytes) :
    layout.writeMember (field.fill s bytes) field.member = field.text (Hex.encode bytes) := by
  have digits : layout.writeMember (field.fill s bytes) field.member =
      Json.writeText (layout.label field.member).toList ++ ':' :: writeHex (some bytes) := by
    cases field <;> rfl
  have name : Json.writeText (layout.label field.member).toList =
      ("\"" ++ layout.label field.member ++ "\"").toList := by
    cases field <;> decide
  simp [digits, name, writeHex_some, text]

/-- A string of anything else is read as a whole before the field is found not to be bytes. -/
theorem read_unpaired (field : ByteField) {digits text : List Char}
    (unpaired : ¬ Hex.Paired digits) (quotes : Json.Quotes digits text) (rest : List Char)
    (bounds : Json.Bounds rest) : Misfits (layout.read field.member (text ++ rest)) := by
  obtain ⟨body, spells, rfl⟩ := quotes
  obtain ⟨fault, failed⟩ := Hex.decode_error unpaired
  have reads := (Json.reads_text spells).present (by simp [Json.quoted])
  have taken := reads.takes rest bounds
  have read : readHex (Json.quoted body ++ rest) = .error (.loose (.notHex fault) rest) := by
    simp only [readHex, taken, failed]
  have misfits : Misfits (readHex (Json.quoted body ++ rest)) := by
    rw [read]
    exact misfits_loose _ _
  cases field <;> exact misfits

/-- The text is one for `s`, but with a string for these characters in the byte field. -/
inductive Placed (field : ByteField) (s : Specifier) (digits text : List Char) : Prop where
  | among (front : List Json.Named) (e : Json.Named) (back : List Json.Named) :
    Json.Arranged (front ++ e :: back) text →
    (∀ m, Json.occurrences (front ++ e :: back) (layout.label m) = 1) →
    (∀ f ∈ front ++ back, Holds forms s f) → e.name = (layout.label field.member).toList →
    Json.Quotes digits e.value → Placed field s digits text

variable {field : ByteField} {s : Specifier} {digits text : List Char}

theorem Placed.inLayout (placed : field.Placed s digits text) :
    ∃ inner, Json.Quotes digits inner ∧ layout.Placed forms s field.member inner text := by
  obtain ⟨front, e, back, arranged, once, others, named, quotes⟩ := placed
  exact ⟨e.value, quotes, .member arranged once others named rfl⟩

theorem Placed.accepted (placed : field.Placed s digits text) (paired : Hex.Paired digits) :
    ∃ bytes, parse text = .ok (field.fill s bytes) ∧
      Hex.encode bytes = digits.map Char.toLower := by
  obtain ⟨inner, quotes, placed⟩ := placed.inLayout
  obtain ⟨bytes, _, lower⟩ := paired.decoded
  exact ⟨bytes, placed.parse_eq faithful.toLegible faithful.distinct
    (fun _ => field.get_fill s bytes) (field.forms_fill lower quotes), lower.symm⟩

theorem Placed.refused (placed : field.Placed s digits text) (unpaired : ¬ Hex.Paired digits) :
    Json.Refused .mismatch (parse text) := by
  obtain ⟨inner, quotes, placed⟩ := placed.inLayout
  refine Json.Layout.Placed.refused placed faithful.toLegible ?_
    (field.read_unpaired unpaired quotes)
  obtain ⟨body, _, rfl⟩ := quotes
  exact ⟨'"', _, rfl, rfl, by decide⟩

end ByteField

/-- A string in a byte field, in a text with nothing else to object to, is accepted when it is an
even number of hexadecimal digits, and then stands for the bytes with these digits in lower case;
otherwise, and whenever a sign, a space, an `x` or anything beyond ASCII occurs in it, the text is
refused as one of another type. -/
theorem byte_fields_exactly_hex (field : ByteField) {s : Specifier} {digits text : List Char}
    (placed : field.Placed s digits text) :
    ((∃ found, parse text = .ok found) ↔ Hex.Paired digits) ∧
    (∀ found, parse text = .ok found → ∃ bytes, found = field.fill s bytes ∧
      Hex.encode bytes = digits.map Char.toLower ∧
      field.text (digits.map Char.toLower) <:+: found.encode) ∧
    (¬ Hex.Paired digits → Json.Refused .mismatch (parse text)) ∧
    (∀ c ∈ digits, c ∈ "+- x".toList ∨ 128 ≤ c.toNat → Json.Refused .mismatch (parse text)) := by
  have only {found : Specifier} (parsed : parse text = .ok found) : Hex.Paired digits := by
    by_contra unpaired
    exact (placed.refused unpaired).not_ok parsed
  refine ⟨⟨fun ⟨_, parsed⟩ => only parsed, fun paired => ?_⟩, fun found parsed => ?_,
    placed.refused, fun c member odd => placed.refused fun paired => ?_⟩
  · obtain ⟨bytes, parsed, _⟩ := placed.accepted paired
    exact ⟨_, parsed⟩
  · obtain ⟨bytes, same, lower⟩ := placed.accepted (only parsed)
    rw [parsed] at same
    obtain rfl := Except.ok.inj same
    refine ⟨bytes, rfl, lower, ?_⟩
    rw [← lower, ← field.writeMember_fill s]
    exact writeMember_infix _ _
  · have digit := paired.digits c member
    rcases odd with mark | large
    · have others : ("+- x".toList.all fun c => decide (¬ Hex.IsDigit c)) = true := by decide
      exact of_decide_eq_true (List.all_eq_true.1 others c mark) digit
    · exact absurd digit.ascii (Nat.not_lt.2 large)

/-- Capitals in a token. -/
theorem byte_fields_exactly_hex_capital : ∃ found, parse
    ("\x7b\"type\":\"client\",\"role\":\"responder\",\"client_id\":7," ++
      "\"peer_mac\":null,\"token\":\"aB\"\x7d").toList = .ok found := by
  let s : Specifier := { role := .responder, clientId := ⟨7⟩, peer := none, token := none }
  let e : Json.Named := { layout.entry s Member.token with value := "\"aB\"".toList }
  have front := faithful.holds s [Member.type, .role, .clientId, .peer]
  have placed : ByteField.token.Placed s "aB".toList
      ("\x7b\"type\":\"client\",\"role\":\"responder\",\"client_id\":7," ++
        "\"peer_mac\":null,\"token\":\"aB\"\x7d").toList :=
    .among ([Member.type, .role, .clientId, .peer].map (layout.entry s)) e []
      ⟨.none, .none, .none, by decide⟩ (fun m => by cases m <;> decide)
      (by rwa [List.append_nil]) rfl
      (Json.quotes_writeText "aB".toList)
  have paired : Hex.Paired "aB".toList := ⟨rfl, List.forall_mem_cons.2 ⟨by decide,
    List.forall_mem_cons.2 ⟨by decide, by simp⟩⟩⟩
  exact (byte_fields_exactly_hex .token placed).1.2 paired

end Proximity.Specifier
