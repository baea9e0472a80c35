import Proximity.DataPath.Specifier
import Proximity.Proofs.Arrangement
import Proximity.Proofs.HexDigits
import Proximity.Proofs.IdentityText

/-! The text of a specifier: one text for each, with nothing left to choose, and every specifier is
read back from it. -/

set_option autoImplicit false

namespace Proximity

/-! ### Members of a specifier -/

def HexForm : Json.Form (Option Bytes) := Json.OptionForm fun bytes text =>
  ∃ digits, digits.map Char.toLower = Hex.encode bytes ∧ Json.Quotes digits text

theorem accepts_hex : Json.Accepts readHex HexForm where
  skips input := by simp only [readHex, Json.optional, Json.skipBlank_skipBlank]
  reads {bytes text} form := by
    cases bytes with
    | none =>
      obtain rfl := form
      have reads : Json.Reads (Json.optional Json.text) "null".toList none := Json.reads_absent _
      refine ⟨reads.opens, fun rest bounds => ?_⟩
      have taken := reads.takes rest bounds
      simp only [readHex, taken]
    | some bytes =>
      obtain ⟨digits, lower, body, spells, rfl⟩ := form
      have reads := (Json.reads_text spells).present (by simp [Json.quoted])
      refine ⟨reads.opens, fun rest bounds => ?_⟩
      have taken := reads.takes rest bounds
      simp only [readHex, taken, Hex.decode_eq_ok_iff.2 lower]
  wellFormed {bytes text} form := by
    cases bytes with
    | none =>
      obtain rfl := form
      exact .null
    | some bytes =>
      obtain ⟨digits, _, quotes⟩ := form
      exact quotes.wellFormed

theorem Hex.map_toLower_encode (bytes : Bytes) :
    (encode bytes).map Char.toLower = encode bytes := by
  have lower : ∀ n < 16, (digit n).toLower = digit n := by decide
  induction bytes with
  | nil => rfl
  | cons byte bytes ih =>
    obtain ⟨high, first, low, second, _, digits⟩ := encode_cons_eq byte bytes
    rw [digits, List.map_cons, List.map_cons, lower high first, lower low second, ih]

theorem hexForm_writeHex (bytes : Option Bytes) : HexForm bytes (writeHex bytes) := by
  cases bytes with
  | none => rfl
  | some bytes => exact ⟨_, Hex.map_toLower_encode bytes, Json.quotes_writeText _⟩

theorem Role.accepts : Json.Accepts Role.read fun r => Json.Quotes r.name.toList :=
  Json.accepts_variant fun r => by cases r <;> decide

theorem SpecifierType.accepts :
    Json.Accepts SpecifierType.read fun t => Json.Quotes t.name.toList :=
  Json.accepts_variant fun t => by cases t; decide

namespace Specifier

def forms : layout.Forms
  | .type => fun t => Json.Quotes t.name.toList
  | .role => fun r => Json.Quotes r.name.toList
  | .clientId => fun c => Json.Decimal c.value.toNat
  | .peer => HexForm
  | .token => HexForm

theorem faithful : layout.Faithful forms where
  labels m := by cases m <;> rfl
  members m := by
    cases m with
    | type => exact SpecifierType.accepts
    | role => exact Role.accepts
    | clientId => exact ClientId.accepts
    | peer | token => exact accepts_hex
  builds _ := rfl
  distinct := by simp [layout]
  written s m := by
    cases m with
    | type => exact Json.quotes_writeText _
    | role => exact Json.quotes_writeText _
    | clientId => exact Json.decimal_writeNatural _
    | peer => exact hexForm_writeHex s.peer
    | token => exact hexForm_writeHex s.token

theorem roundTrips : Json.RoundTrips encode parse := .of_reads faithful.reads_writer

/-! ### The text itself -/

def lowerDigits : List Char := "0123456789abcdef".toList

def bytePair (byte : UInt8) : List Char :=
  [lowerDigits.getD (byte.toNat / 16) '0', lowerDigits.getD (byte.toNat % 16) '0']

def bytesText : Option Bytes → String
  | none => "null"
  | some bytes => "\"" ++ String.ofList (bytes.flatMap bytePair) ++ "\""

def text (s : Specifier) : String :=
  "\x7b\"type\":\"client\",\"role\":\"" ++ s.role.name ++ "\",\"client_id\":" ++
    toString s.clientId.value.toNat ++ ",\"peer_mac\":" ++ bytesText s.peer ++ ",\"token\":" ++
    bytesText s.token ++ "\x7d"

theorem digit_eq {n : Nat} (below : n < 16) : Hex.digit n = lowerDigits.getD n '0' := by
  revert n
  decide

theorem encode_eq_flatMap (bytes : Bytes) : Hex.encode bytes = bytes.flatMap bytePair := by
  induction bytes with
  | nil => rfl
  | cons byte bytes ih =>
    have small := byte.toNat_lt_size
    change byte.toNat < 256 at small
    rw [Hex.encode, List.flatMap_cons, ← ih, digit_eq (by omega), digit_eq (by omega)]
    rfl

theorem flatMap_writeChar_encode (bytes : Bytes) :
    (Hex.encode bytes).flatMap Json.writeChar = Hex.encode bytes := by
  have plain {n : Nat} (below : n < 16) : Json.writeChar (Hex.digit n) = [Hex.digit n] := by
    revert n
    decide
  induction bytes with
  | nil => rfl
  | cons byte bytes ih =>
    have small := byte.toNat_lt_size
    change byte.toNat < 256 at small
    simp [Hex.encode, plain (show byte.toNat / 16 < 16 by omega),
      plain (show byte.toNat % 16 < 16 by omega), ih]

theorem writeHex_some (bytes : Bytes) :
    writeHex (some bytes) = '"' :: Hex.encode bytes ++ ['"'] := by
  rw [writeHex, Json.writeText, flatMap_writeChar_encode]

theorem writeHex_eq (bytes : Option Bytes) : writeHex bytes = (bytesText bytes).toList := by
  cases bytes with
  | none => rfl
  | some bytes =>
    rw [writeHex_some, encode_eq_flatMap]
    simp [bytesText]

theorem encode_eq (s : Specifier) : s.encode =
    "\x7b\"type\":".toList ++ s.type.write ++ ",\"role\":".toList ++ s.role.write ++
      ",\"client_id\":".toList ++ s.clientId.write ++ ",\"peer_mac\":".toList ++ writeHex s.peer ++
      ",\"token\":".toList ++ writeHex s.token ++ "\x7d".toList := by
  have members : s.encode = '{' :: Json.separated [layout.writeMember s Member.type,
      layout.writeMember s Member.role, layout.writeMember s Member.clientId,
      layout.writeMember s Member.peer, layout.writeMember s Member.token] ++ ['}'] := rfl
  rw [members]
  simp only [Json.separated, Json.Layout.writeMember, List.append_assoc, List.cons_append]
  rfl

theorem encode_eq_text (s : Specifier) : s.encode = s.text.toList := by
  have type : s.type.write = "\"client\"".toList := by
    cases s.type
    decide
  have role : s.role.write = ("\"" ++ s.role.name ++ "\"").toList := by
    cases s.role <;> decide
  have client : s.clientId.write = (toString s.clientId.value.toNat).toList :=
    Nat.toList_repr.symm
  unfold text
  simp [encode_eq, type, role, client, writeHex_eq]

example : encode { role := .responder, clientId := ⟨7⟩, peer := none, token := some [0xab] } =
    ("\x7b\"type\":\"client\",\"role\":\"responder\",\"client_id\":7," ++
      "\"peer_mac\":null,\"token\":\"ab\"\x7d").toList := by
  decide

/-- A specifier has one text, which names everything in it, and is read back from that text; no two
specifiers have the same text. -/
theorem encode_canonical (s : Specifier) : String.ofList s.encode = s.text ∧
    parse s.encode = .ok s ∧ ∀ other : Specifier, other.encode = s.encode → other = s :=
  ⟨by rw [encode_eq_text, String.ofList_toList], roundTrips.reads s, fun _ same =>
    roundTrips.injective same⟩

end Specifier

end Proximity
