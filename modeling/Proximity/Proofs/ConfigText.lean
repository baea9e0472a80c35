import Proximity.Discovery.Encoding
import Proximity.Proofs.Arrangement

/-! Configs are read back from their texts, whatever is asked for in them. Members may be arranged
in any way and none but a lifetime may be missing, so a config of one kind is taken for one of the
other only with the members of that one as well. -/

set_option autoImplicit false

namespace Proximity

/-! ### Spans of time -/

namespace Duration

theorem ofParts?_parts (d : Duration) : ofParts? d.secs d.nanos = some d := by
  have none : d.nanos / nanosPerSecond = 0 := Nat.div_eq_of_lt d.nanos_lt
  have all : d.nanos % nanosPerSecond = d.nanos := Nat.mod_eq_of_lt d.nanos_lt
  simp [ofParts?, none, all, d.secs_lt]

def forms : layout.Forms
  | .secs => Json.DecimalBelow UInt64.size
  | .nanos => Json.DecimalBelow UInt32.size

theorem faithful : layout.Faithful forms where
  labels m := by cases m <;> rfl
  members m := by
    cases m with
    | secs => exact Json.accepts_natural "u64" (Nat.le_refl _)
    | nanos => exact Json.accepts_natural "u32" (by decide)
  builds d := by
    have whole := ofParts?_parts d
    simp [layout, whole]
  distinct := by simp [layout]
  written d m := by
    cases m with
    | secs => exact ⟨d.secs_lt, Json.decimal_writeNatural _⟩
    | nanos => exact ⟨Nat.lt_trans d.nanos_lt (by decide), Json.decimal_writeNatural _⟩

def TtlForm : Json.Form (Option Duration) := Json.OptionForm (layout.Describes forms)

theorem accepts_ttl : Json.Accepts readTtl TtlForm :=
  Json.accepts_optional faithful.accepts fun describes => by
    obtain ⟨lead, entries, rfl, _⟩ := describes
    simp [Json.objectText]

theorem ttlForm_writeTtl (ttl : Option Duration) : TtlForm ttl (writeTtl ttl) := by
  cases ttl with
  | none => rfl
  | some d => exact faithful.describes d

end Duration

/-! ### The other members -/

def BytesForm : Json.Form Bytes := Json.ListForm fun byte => Json.Decimal byte.toNat

theorem accepts_bytes : Json.Accepts readBytes BytesForm := Json.accepts_list Json.accepts_octet

theorem bytesForm_writeBytes (bytes : Bytes) : BytesForm bytes (writeBytes bytes) := by
  have written (byte : UInt8) : Json.Decimal byte.toNat (Json.writeNatural byte.toNat) :=
    Json.decimal_writeNatural byte.toNat
  exact Json.listForm_writeList _ written bytes

def FilterForm : Json.Form (List Bytes) := Json.ListForm BytesForm

theorem accepts_filter : Json.Accepts readFilter FilterForm := Json.accepts_list accepts_bytes

theorem filterForm_writeFilter (filter : List Bytes) : FilterForm filter (writeFilter filter) :=
  Json.listForm_writeList writeBytes bytesForm_writeBytes filter

theorem accepts_name : Json.Accepts readName fun name => Json.Quotes name.toList :=
  Json.accepts_text.map fun _ => String.ofList_toList

theorem PublishType.accepts :
    Json.Accepts PublishType.read fun t => Json.Quotes t.name.toList :=
  Json.accepts_variant fun t => by cases t <;> decide

theorem SubscribeType.accepts :
    Json.Accepts SubscribeType.read fun t => Json.Quotes t.name.toList :=
  Json.accepts_variant fun t => by cases t <;> decide

theorem MatchStyle.accepts : Json.Accepts MatchStyle.read fun s => Json.Quotes s.name.toList :=
  Json.accepts_variant fun s => by cases s <;> decide

/-! ### Configs -/

def PublishConfig.forms : layout.Forms
  | .serviceName => fun name => Json.Quotes name.toList
  | .serviceInfo => BytesForm
  | .matchFilter => FilterForm
  | .publishType => fun t => Json.Quotes t.name.toList
  | .publishCount => fun count => Json.Decimal count.toNat
  | .ttl => Duration.TtlForm
  | .terminateNotification => Json.BooleanForm

theorem PublishConfig.faithful : layout.Faithful forms where
  labels m := by cases m <;> rfl
  members m := by
    cases m with
    | serviceName => exact accepts_name
    | serviceInfo => exact accepts_bytes
    | matchFilter => exact accepts_filter
    | publishType => exact PublishType.accepts
    | publishCount => exact Json.accepts_word32
    | ttl => exact Duration.accepts_ttl
    | terminateNotification => exact Json.accepts_boolean
  builds _ := rfl
  distinct := by simp [layout]
  written c m := by
    cases m with
    | serviceName => exact Json.quotes_writeText _
    | serviceInfo => exact bytesForm_writeBytes c.serviceInfo
    | matchFilter => exact filterForm_writeFilter c.matchFilter
    | publishType => exact Json.quotes_writeText _
    | publishCount => exact Json.decimal_writeNatural _
    | ttl => exact Duration.ttlForm_writeTtl c.ttl
    | terminateNotification => exact Json.booleanForm_writeBoolean c.terminateNotification

def SubscribeConfig.forms : layout.Forms
  | .serviceName => fun name => Json.Quotes name.toList
  | .serviceInfo => BytesForm
  | .matchFilter => FilterForm
  | .subscribeType => fun t => Json.Quotes t.name.toList
  | .subscribeCount => fun count => Json.Decimal count.toNat
  | .ttl => Duration.TtlForm
  | .matchStyle => fun s => Json.Quotes s.name.toList
  | .terminateNotification => Json.BooleanForm

theorem SubscribeConfig.faithful : layout.Faithful forms where
  labels m := by cases m <;> rfl
  members m := by
    cases m with
    | serviceName => exact accepts_name
    | serviceInfo => exact accepts_bytes
    | matchFilter => exact accepts_filter
    | subscribeType => exact SubscribeType.accepts
    | subscribeCount => exact Json.accepts_word32
    | ttl => exact Duration.accepts_ttl
    | matchStyle => exact MatchStyle.accepts
    | terminateNotification => exact Json.accepts_boolean
  builds _ := rfl
  distinct := by simp [layout]
  written c m := by
    cases m with
    | serviceName => exact Json.quotes_writeText _
    | serviceInfo => exact bytesForm_writeBytes c.serviceInfo
    | matchFilter => exact filterForm_writeFilter c.matchFilter
    | subscribeType => exact Json.quotes_writeText _
    | subscribeCount => exact Json.decimal_writeNatural _
    | ttl => exact Duration.ttlForm_writeTtl c.ttl
    | matchStyle => exact Json.quotes_writeText _
    | terminateNotification => exact Json.booleanForm_writeBoolean c.terminateNotification

/-- Configs of either kind are kept whole by their encoding, valid or not. -/
theorem Config.round_trips : Json.RoundTrips PublishConfig.encode PublishConfig.parse ∧
    Json.RoundTrips SubscribeConfig.encode SubscribeConfig.parse :=
  ⟨.of_reads PublishConfig.faithful.reads_writer, .of_reads SubscribeConfig.faithful.reads_writer⟩

/-! ### Other arrangements -/

open Json.Layout

theorem PublishConfig.agrees : Agrees PublishConfig.forms SubscribeConfig.forms := by
  intro m m' same value text form
  cases m <;> cases m' <;> first | exact ⟨value, form⟩ | exact absurd same (by decide)

theorem SubscribeConfig.agrees : Agrees SubscribeConfig.forms PublishConfig.forms := by
  intro m m' same value text form
  cases m <;> cases m' <;> first | exact ⟨value, form⟩ | exact absurd same (by decide)

theorem PublishConfig.sharedOrWhole (m : layout.Member) :
    (∃ m', SubscribeConfig.layout.label m' = layout.label m) ∨ Json.Whole (layout.read m) := by
  cases m with
  | serviceName => exact .inl ⟨.serviceName, rfl⟩
  | serviceInfo => exact .inl ⟨.serviceInfo, rfl⟩
  | matchFilter => exact .inl ⟨.matchFilter, rfl⟩
  | publishType => exact .inr (Json.whole_variant _)
  | publishCount => exact .inr Json.whole_word32
  | ttl => exact .inl ⟨.ttl, rfl⟩
  | terminateNotification => exact .inl ⟨.terminateNotification, rfl⟩

theorem SubscribeConfig.sharedOrWhole (m : layout.Member) :
    (∃ m', PublishConfig.layout.label m' = layout.label m) ∨ Json.Whole (layout.read m) := by
  cases m with
  | serviceName => exact .inl ⟨.serviceName, rfl⟩
  | serviceInfo => exact .inl ⟨.serviceInfo, rfl⟩
  | matchFilter => exact .inl ⟨.matchFilter, rfl⟩
  | subscribeType => exact .inr (Json.whole_variant _)
  | subscribeCount => exact .inr Json.whole_word32
  | ttl => exact .inl ⟨.ttl, rfl⟩
  | matchStyle => exact .inr (Json.whole_variant _)
  | terminateNotification => exact .inl ⟨.terminateNotification, rfl⟩

theorem PublishConfig.arrangementFree :
    layout.ArrangementFree forms (fun c m => m = .ttl ∧ c.ttl = none) parse := by
  apply faithful.arrangementFree rfl
  · rintro c m ⟨rfl, none⟩
    exact congrArg some none.symm
  · intro m needed
    cases m <;> first | rfl | exact absurd ⟨rfl, rfl⟩ (needed {})

theorem SubscribeConfig.arrangementFree :
    layout.ArrangementFree forms (fun c m => m = .ttl ∧ c.ttl = none) parse := by
  apply faithful.arrangementFree rfl
  · rintro c m ⟨rfl, none⟩
    exact congrArg some none.symm
  · intro m needed
    cases m <;> first | rfl | exact absurd ⟨rfl, rfl⟩ (needed {})

/-- Members may come in any order, with foreign ones among them and blanks between tokens; there has
to be each member once, but the absence of a lifetime may be left out. A text for a config of one
kind is read as a config of the other only if it has the members of that one as well. -/
theorem Config.arranged_by_kind :
    PublishConfig.layout.ArrangementFree PublishConfig.forms
      (fun c m => m = .ttl ∧ c.ttl = none) PublishConfig.parse ∧
    SubscribeConfig.layout.ArrangementFree SubscribeConfig.forms
      (fun c m => m = .ttl ∧ c.ttl = none) SubscribeConfig.parse ∧
    PublishConfig.layout.ToldApart PublishConfig.forms SubscribeConfig.layout
      SubscribeConfig.forms SubscribeConfig.parse ∧
    SubscribeConfig.layout.ToldApart SubscribeConfig.forms PublishConfig.layout
      PublishConfig.forms PublishConfig.parse :=
  ⟨PublishConfig.arrangementFree, SubscribeConfig.arrangementFree,
    PublishConfig.faithful.toldApart SubscribeConfig.faithful.toLegible
      PublishConfig.agrees rfl SubscribeConfig.sharedOrWhole,
    SubscribeConfig.faithful.toldApart PublishConfig.faithful.toLegible
      SubscribeConfig.agrees rfl PublishConfig.sharedOrWhole⟩

/-- One text with the members of both kinds is read as either. -/
theorem Config.read_as_both :
    let c : PublishConfig := { serviceName := "_a" }
    let d : SubscribeConfig := { serviceName := "_a" }
    let entries : List Json.Named :=
      [.serviceName, .serviceInfo, .matchFilter, .publishType, .publishCount, .ttl,
        .terminateNotification].map (PublishConfig.layout.entry c) ++
      [.subscribeType, .subscribeCount, .matchStyle].map (SubscribeConfig.layout.entry d)
    let text := ["\x7b\"service_name\":\"_a\",", "\"service_specific_info\":[],",
      "\"match_filter\":[],", "\"publish_type\":\"unsolicited\",", "\"publish_count\":0,",
      "\"ttl\":null,", "\"terminate_notification\":true,", "\"subscribe_type\":\"passive\",",
      "\"subscribe_count\":0,", "\"match_style\":\"all\"\x7d"].flatMap String.toList
    Json.Arranged entries text ∧ (∀ e ∈ entries, Holds PublishConfig.forms c e) ∧
      (∀ m, Json.occurrences entries (PublishConfig.layout.label m) = 1) ∧
      PublishConfig.parse text = .ok c ∧ SubscribeConfig.parse text = .ok d := by
  intro c d entries text
  have arranged : Json.Arranged entries text := ⟨.none, .none, .none, by decide +kernel⟩
  have published : ∀ e ∈ entries, Holds PublishConfig.forms c e := by
    refine List.forall_mem_append.2 ⟨PublishConfig.faithful.holds c _, List.forall_mem_map.2 ?_⟩
    intro m among
    exact .inr (SubscribeConfig.faithful.foreign d rfl (by revert m; decide))
  have subscribed : ∀ e ∈ entries, Holds SubscribeConfig.forms d e := by
    refine List.forall_mem_append.2 ⟨List.forall_mem_map.2 ?_, SubscribeConfig.faithful.holds d _⟩
    intro m _
    cases m with
    | publishType | publishCount => exact .inr (PublishConfig.faithful.foreign c rfl (by decide))
    | serviceName => exact SubscribeConfig.faithful.holds_entry d .serviceName
    | serviceInfo => exact SubscribeConfig.faithful.holds_entry d .serviceInfo
    | matchFilter => exact SubscribeConfig.faithful.holds_entry d .matchFilter
    | ttl => exact SubscribeConfig.faithful.holds_entry d .ttl
    | terminateNotification => exact SubscribeConfig.faithful.holds_entry d .terminateNotification
  have once : ∀ m, Json.occurrences entries (PublishConfig.layout.label m) = 1 := by
    intro m
    cases m <;> decide
  refine ⟨arranged, published, once,
    PublishConfig.arrangementFree.reads arranged published fun m => .inl (once m),
    SubscribeConfig.arrangementFree.reads arranged subscribed fun m => .inl ?_⟩
  cases m <;> decide

/-- A text without a lifetime and with one member that it does not know. It does not do for a
publish, whose type it lacks. -/
theorem Config.arranged_by_kind_backwards :
    let c : SubscribeConfig := { serviceName := "_a", matchFilter := [[1, 255], []],
                                 subscribeType := .active, subscribeCount := 3,
                                 terminateNotification := false }
    let text := ["\x7b\"terminate_notification\":false,", "\"match_filter\":[[1,255],[]],",
      "\"publish_count\":0,", "\"match_style\":\"all\",", "\"service_name\":\"_a\",",
      "\"subscribe_count\":3,", "\"service_specific_info\":[],",
      "\"subscribe_type\":\"active\"\x7d"].flatMap String.toList
    SubscribeConfig.parse text = .ok c ∧ Json.Refused .mismatch (PublishConfig.parse text) := by
  intro c text
  let known : List SubscribeConfig.Member := [.matchStyle, .serviceName, .subscribeCount,
    .serviceInfo, .subscribeType]
  let unknown : Json.Named := PublishConfig.layout.entry {} .publishCount
  let entries : List Json.Named :=
    [.terminateNotification, .matchFilter].map (SubscribeConfig.layout.entry c) ++
      unknown :: known.map (SubscribeConfig.layout.entry c)
  have arranged : Json.Arranged entries text := ⟨.none, .none, .none, by decide +kernel⟩
  have foreign : SubscribeConfig.layout.Foreign unknown :=
    PublishConfig.faithful.foreign {} rfl (by decide)
  have holds : ∀ e ∈ entries, Holds SubscribeConfig.forms c e := by
    rw [List.forall_mem_append, List.forall_mem_cons]
    exact ⟨SubscribeConfig.faithful.holds c _, .inr foreign, SubscribeConfig.faithful.holds c _⟩
  obtain ⟨_, reads, _, toldApart⟩ := Config.arranged_by_kind
  refine ⟨reads.reads arranged holds fun m => ?_, ?_⟩
  · cases m with
    | ttl => exact .inr ⟨by decide, rfl, rfl⟩
    | _ => exact .inl (by decide)
  · refine toldApart.refused arranged (fun e member => (holds e member).fits) ?_ .publishType rfl
      (by decide)
    have own (members : List SubscribeConfig.Member) :
        ∀ e ∈ members.map (SubscribeConfig.layout.entry c), PublishConfig.layout.Knows e.name →
          SubscribeConfig.layout.Knows e.name ∨ Fits PublishConfig.forms e := by
      intro e member _
      obtain ⟨m, _, rfl⟩ := List.mem_map.1 member
      exact .inl ⟨m, rfl⟩
    rw [List.forall_mem_append, List.forall_mem_cons]
    refine ⟨own _, fun _ => .inr (.inl ⟨.publishCount, (0 : UInt32), rfl, ?_⟩), own _⟩
    exact PublishConfig.faithful.written {} .publishCount

end Proximity
