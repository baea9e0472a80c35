import Proximity.Proofs.ConfigText
import Proximity.Proofs.SpecifierText
import Proximity.Proofs.Truncation

/-! The texts of specifiers and configs show where they end. -/

set_option autoImplicit false

namespace Proximity

/-! ### Members that are cut off -/

theorem closed_hex (bytes : Option Bytes) : Json.Closed readHex (writeHex bytes) := by
  have closed : Json.Closed (Json.optional Json.text) (writeHex bytes) := by
    cases bytes with
    | none => exact Json.closed_absent (Json.runsOut_ended _)
    | some bytes =>
      exact (Json.closed_text (Json.quotes_writeText _)).present ⟨'"', _, rfl, rfl, by decide⟩
  intro front cut
  obtain ⟨what, failed⟩ := closed front cut
  exact ⟨what, by simp only [readHex, failed]⟩

theorem Specifier.opened (s : Specifier) (m : layout.Member) :
    Json.Open (layout.read m) (layout.write m (layout.get s m)) := by
  cases m with
  | type => exact (Json.closed_variant (Json.quotes_writeText _)).toOpen
  | role => exact (Json.closed_variant (Json.quotes_writeText _)).toOpen
  | clientId => exact (Json.open_word32 _).map ClientId.mk
  | peer => exact (closed_hex s.peer).toOpen
  | token => exact (closed_hex s.token).toOpen

theorem Duration.opened (d : Duration) (m : layout.Member) :
    Json.Open (layout.read m) (layout.write m (layout.get d m)) := by
  cases m with
  | secs => exact Json.open_natural "u64" (Nat.le_refl _) d.secs_lt
  | nanos => exact Json.open_natural "u32" (by decide) (Nat.lt_trans d.nanos_lt (by decide))

theorem closed_ttl (ttl : Option Duration) : Json.Closed readTtl (writeTtl ttl) := by
  cases ttl with
  | none => exact Json.closed_absent (Json.runsOut_ended _)
  | some d =>
    exact (Duration.faithful.closed Duration.opened d).present ⟨'{', _, rfl, rfl, by decide⟩

theorem closed_bytes (bytes : Bytes) : Json.Closed readBytes (writeBytes bytes) :=
  Json.closed_list (fun byte => Json.accepts_octet.reads (Json.decimal_writeNatural byte.toNat))
    Json.open_octet bytes

theorem closed_filter (filter : List Bytes) : Json.Closed readFilter (writeFilter filter) :=
  Json.closed_list (fun bytes => accepts_bytes.reads (bytesForm_writeBytes bytes))
    (fun bytes => (closed_bytes bytes).toOpen) filter

theorem closed_name (name : String) : Json.Closed readName (Json.writeText name.toList) :=
  (Json.closed_text (Json.quotes_writeText _)).map String.ofList

theorem PublishConfig.opened (c : PublishConfig) (m : layout.Member) :
    Json.Open (layout.read m) (layout.write m (layout.get c m)) := by
  cases m with
  | serviceName => exact (closed_name c.serviceName).toOpen
  | serviceInfo => exact (closed_bytes c.serviceInfo).toOpen
  | matchFilter => exact (closed_filter c.matchFilter).toOpen
  | publishType => exact (Json.closed_variant (Json.quotes_writeText _)).toOpen
  | publishCount => exact Json.open_word32 c.publishCount
  | ttl => exact (closed_ttl c.ttl).toOpen
  | terminateNotification => exact (Json.closed_boolean c.terminateNotification).toOpen

theorem SubscribeConfig.opened (c : SubscribeConfig) (m : layout.Member) :
    Json.Open (layout.read m) (layout.write m (layout.get c m)) := by
  cases m with
  | serviceName => exact (closed_name c.serviceName).toOpen
  | serviceInfo => exact (closed_bytes c.serviceInfo).toOpen
  | matchFilter => exact (closed_filter c.matchFilter).toOpen
  | subscribeType => exact (Json.closed_variant (Json.quotes_writeText _)).toOpen
  | subscribeCount => exact Json.open_word32 c.subscribeCount
  | ttl => exact (closed_ttl c.ttl).toOpen
  | matchStyle => exact (Json.closed_variant (Json.quotes_writeText _)).toOpen
  | terminateNotification => exact (Json.closed_boolean c.terminateNotification).toOpen

/-! ### Whole texts -/

inductive Encoded : List Char → Prop where
  | specifier (s : Specifier) : Encoded s.encode
  | publish (c : PublishConfig) : Encoded c.encode
  | subscribe (c : SubscribeConfig) : Encoded c.encode

theorem Encoded.object {text : List Char} (encoded : Encoded text) :
    ∃ lead entries, text = Json.objectText lead entries ∧ Json.WellFormed text := by
  cases encoded with
  | specifier s =>
    exact ⟨_, _, Json.Layout.writer_eq s,
      Specifier.faithful.accepts.wellFormed (Specifier.faithful.describes s)⟩
  | publish c =>
    exact ⟨_, _, Json.Layout.writer_eq c,
      PublishConfig.faithful.accepts.wellFormed (PublishConfig.faithful.describes c)⟩
  | subscribe c =>
    exact ⟨_, _, Json.Layout.writer_eq c,
      SubscribeConfig.faithful.accepts.wellFormed (SubscribeConfig.faithful.describes c)⟩

/-- A text that is cut off wherever it may be is known to be incomplete, and nothing but blanks may
stand behind a whole one; so no text, of whichever of the three types, begins another. -/
theorem encoded_texts_end :
    Json.SelfDelimiting Specifier.encode Specifier.parse ∧
    Json.SelfDelimiting PublishConfig.encode PublishConfig.parse ∧
    Json.SelfDelimiting SubscribeConfig.encode SubscribeConfig.parse ∧
    ∀ text other, Encoded text → Encoded other → text <+: other → text = other := by
  refine ⟨Specifier.faithful.selfDelimiting Specifier.opened,
    PublishConfig.faithful.selfDelimiting PublishConfig.opened,
    SubscribeConfig.faithful.selfDelimiting SubscribeConfig.opened, ?_⟩
  intro text other encoded encoded' initial
  obtain ⟨_, _, rfl, object⟩ := encoded.object
  obtain ⟨_, _, rfl, object'⟩ := encoded'.object
  exact Json.prefix_objectText object object' initial

end Proximity
