import Mathlib.Data.List.Count
import Mathlib.Data.List.Nodup
import Proximity.Proofs.Elements
import Proximity.Proofs.Taking

/-! What a parser accepts and refuses when the arrangement of an object does not matter to it, for
every layout that reads what it writes. -/

set_option autoImplicit false

namespace Proximity.Json

namespace Layout

variable {α : Type} {layout : Layout α} {forms : layout.Forms}

/-! ### Members that are repeated or missing -/

theorem Legible.parse_repeated (legible : layout.Legible forms) {front back : List Named}
    {e : Named} {m : layout.Member} {text : List Char}
    (arranged : Arranged (front ++ e :: back) text) (fits : ∀ f ∈ front, Fits forms f)
    (named : e.name = (layout.label m).toList)
    (again : 0 < occurrences front (layout.label m)) :
    Refused .mismatch (layout.reader.parse text) := by
  obtain ⟨before, lead, after, rfl⟩ := arranged
  obtain ⟨start, f, rest, other, same, initial, once, twice, earlier⟩ :=
    exists_first_repeat named again back
  rw [same]
  exact Mismatches.refused (legible.mismatches_repeated
    (fun g member => fits g (initial.subset member)) once twice earlier rest before lead after.text)

theorem Legible.parse_missing (legible : layout.Legible forms) {entries : List Named}
    {m : layout.Member} {text : List Char} (arranged : Arranged entries text)
    (fits : ∀ e ∈ entries, Fits forms e) (gone : occurrences entries (layout.label m) = 0)
    (needed : layout.absent m = none) : Refused .mismatch (layout.reader.parse text) := by
  by_cases once : ∀ m, occurrences entries (layout.label m) ≤ 1
  · obtain ⟨before, lead, after, rfl⟩ := arranged
    exact Mismatches.refused
      (legible.mismatches_missing fits once gone needed before lead after.text)
  · -- Another member is repeated, which is noticed first.
    obtain ⟨other, twice⟩ := not_forall.1 once
    obtain ⟨front, e, back, rfl, named, again⟩ :=
      exists_repeat (show 2 ≤ occurrences entries (layout.label other) by omega)
    exact legible.parse_repeated arranged (fun f member => fits f (List.mem_append_left _ member))
      named again

/-- A value that its member cannot have is noticed before anything behind it. -/
theorem Legible.parse_unreadable (legible : layout.Legible forms) {front back : List Named}
    {e : Named} {m : layout.Member} {text : List Char}
    (arranged : Arranged (front ++ e :: back) text) (fits : ∀ f ∈ front, Fits forms f)
    (once : ∀ m, occurrences front (layout.label m) ≤ 1) (named : e.name = (layout.label m).toList)
    (new : occurrences front (layout.label m) = 0)
    (fails : ∀ rest, Bounds rest → Misfits (layout.read m (e.value ++ rest))) :
    Refused .mismatch (layout.reader.parse text) := by
  obtain ⟨before, lead, after, rfl⟩ := arranged
  exact Mismatches.refused
    (legible.mismatches_value fits once named new fails back before lead after.text)

theorem Legible.parse_arranged (legible : layout.Legible forms) {value : α} {entries : List Named}
    {text : List Char} (arranged : Arranged entries text)
    (holds : ∀ e ∈ entries, Holds forms value e)
    (counted : ∀ m, occurrences entries (layout.label m) = 1 ∨
      occurrences entries (layout.label m) = 0 ∧ layout.absent m = some (layout.get value m)) :
    layout.reader.parse text = .ok value := by
  obtain ⟨before, lead, after, rfl⟩ := arranged
  exact legible.accepts.parse_alone
    ⟨before, after, _, ⟨lead, entries, rfl, holds, counted⟩, rfl⟩

/-! ### Layouts that read what they write -/

structure Faithful (layout : Layout α) (forms : layout.Forms) : Prop
    extends Legible layout forms where
  distinct : layout.members.Nodup
  written : ∀ value m, forms m (layout.get value m) (layout.write m (layout.get value m))

variable (layout) in
/-- A member as it is written. -/
def entry (value : α) (m : layout.Member) : Named where
  before := .none
  key := (layout.label m).toList.flatMap writeChar
  afterKey := .none
  beforeValue := .none
  value := layout.write m (layout.get value m)
  after := .none
  name := (layout.label m).toList
  spells := spells_written _

theorem writeMember_eq (value : α) (m : layout.Member) :
    layout.writeMember value m = (layout.entry value m).text := by
  simp [writeMember, writeText, entry, Entry.text, Entry.tail, Blanks.none]

theorem writer_eq (value : α) : layout.writer value =
    objectText .none ((layout.members.map (layout.entry value)).map Named.toEntry) := by
  have members : layout.writeMember value = fun m => (layout.entry value m).text :=
    funext (writeMember_eq value)
  simp [writer, objectText, Blanks.none, Function.comp_def, members]

theorem writeMember_infix (value : α) (m : layout.Member) :
    layout.writeMember value m <:+: layout.writer value := by
  have among := List.mem_map_of_mem (f := layout.writeMember value) (layout.mem_members m)
  exact (infix_separated among).trans (List.infix_append ['{'] _ ['}'])

theorem Faithful.once (faithful : layout.Faithful forms) (value : α) (m : layout.Member) :
    occurrences (layout.members.map (layout.entry value)) (layout.label m) = 1 := by
  have injective : Function.Injective fun m => (layout.label m).toList :=
    fun _ _ same => faithful.label_injective same
  have := layout.memberEq
  have counted := List.count_map_of_injective layout.members _ injective m
  rw [List.count_eq_one_of_mem faithful.distinct (layout.mem_members m)] at counted
  simpa [occurrences, Function.comp_def, entry] using counted

theorem Faithful.holds_entry (faithful : layout.Faithful forms) (value : α) (m : layout.Member) :
    Holds forms value (layout.entry value m) :=
  .inl ⟨m, rfl, faithful.written value m⟩

theorem Faithful.holds (faithful : layout.Faithful forms) (value : α)
    (members : List layout.Member) :
    ∀ e ∈ members.map (layout.entry value), Holds forms value e :=
  List.forall_mem_map.2 fun m _ => faithful.holds_entry value m

/-- A member that is written for one layout is foreign to another that has no such name. -/
theorem Faithful.foreign {β : Type} {other : Layout β} (faithful : layout.Faithful forms)
    (value : α) {m : layout.Member} (passedOver : other.exclusive = false)
    (unknown : ∀ m' ∈ other.members, (layout.label m).toList ≠ (other.label m').toList) :
    other.Foreign (layout.entry value m) :=
  ⟨passedOver, fun m' => unknown m' (other.mem_members m'),
    (faithful.members m).wellFormed (faithful.written value m)⟩

theorem Faithful.describes (faithful : layout.Faithful forms) (value : α) :
    layout.Describes forms value (layout.writer value) :=
  ⟨.none, _, writer_eq value, faithful.holds value _, fun m => .inl (faithful.once value m)⟩

theorem Faithful.reads_writer (faithful : layout.Faithful forms) (value : α) :
    Reads layout.reader (layout.writer value) value :=
  faithful.accepts.reads (faithful.describes value)

/-! ### One value in a text that is right otherwise -/

variable (layout) in
def readable : layout.Forms := fun m value text =>
  WellFormed text ∧ Reads (layout.read m) text value

theorem Legible.toReadable (legible : layout.Legible forms) : layout.Legible layout.readable where
  labels := legible.labels
  members m :=
    { skips := legible.skips m
      reads := fun stands => stands.2
      wellFormed := fun stands => stands.1 }
  builds := legible.builds

theorem Legible.holds_readable (legible : layout.Legible forms) {value : α} {e : Named}
    (holds : Holds forms value e) : Holds layout.readable value e :=
  holds.imp_left fun ⟨m, named, form⟩ =>
    ⟨m, named, (legible.members m).wellFormed form, legible.reads form⟩

variable (layout) in
/-- The text is one for `whole`, as an object or as a list, but with `inner` as the value of the
member `m`. -/
inductive Placed (forms : layout.Forms) (whole : α) (m : layout.Member) (inner text : List Char) :
    Prop where
  | member {front back : List Named} {e : Named} : Arranged (front ++ e :: back) text →
      (∀ m, occurrences (front ++ e :: back) (layout.label m) = 1) →
      (∀ f ∈ front ++ back, Holds forms whole f) → e.name = (layout.label m).toList →
      e.value = inner → Placed forms whole m inner text
  | element {members others : List layout.Member} {front back : List Padded} {item : Padded}
      (before lead after : Blanks) : layout.members = members ++ m :: others →
      Aligned forms (layout.get whole) members front →
      Aligned forms (layout.get whole) others back → item.value = inner →
      text = before.text ++ (listText lead (front ++ item :: back) ++ after.text) →
      Placed forms whole m inner text

theorem Holds.of_get_eq {whole other : α} {m : layout.Member}
    (same : ∀ m', m' ≠ m → layout.get other m' = layout.get whole m') {f : Named}
    (holds : Holds forms whole f) (unlike : f.name ≠ (layout.label m).toList) :
    Holds forms other f := by
  rcases holds with ⟨m', named, form⟩ | foreign
  · refine .inl ⟨m', named, ?_⟩
    rwa [same m' fun member => unlike (member ▸ named)]
  · exact .inr foreign

theorem Aligned.of_get_eq {whole other : α} {members : List layout.Member} {items : List Padded}
    (same : ∀ m ∈ members, layout.get other m = layout.get whole m)
    (aligned : Aligned forms (layout.get whole) members items) :
    Aligned forms (layout.get other) members items := by
  induction aligned with
  | nil => exact .nil
  | cons form _ ih =>
    obtain ⟨here, later⟩ := List.forall_mem_cons.1 same
    exact .cons (by rwa [here]) (ih later)

theorem Placed.parse_eq {whole other : α} {m : layout.Member} {inner text : List Char}
    (placed : layout.Placed forms whole m inner text) (legible : layout.Legible forms)
    (distinct : layout.members.Nodup)
    (same : ∀ m', m' ≠ m → layout.get other m' = layout.get whole m')
    (form : forms m (layout.get other m) inner) : layout.reader.parse text = .ok other := by
  cases placed with
  | @member front back e arranged once others named value =>
    subst value
    obtain ⟨before, behind⟩ := occurrences_around (once m) named
    refine legible.parse_arranged arranged (fun f member => ?_) fun m => .inl (once m)
    rcases List.mem_append.1 member with early | late
    · exact (others f (List.mem_append_left _ early)).of_get_eq same
        (occurrences_eq_zero.1 before f early)
    · rcases List.mem_cons.1 late with rfl | late
      · exact .inl ⟨m, named, form⟩
      · exact (others f (List.mem_append_right _ late)).of_get_eq same
          (occurrences_eq_zero.1 behind f late)
  | @element members others front back item before lead after order early late value text =>
    subst value text
    rw [order, List.nodup_middle, List.nodup_cons, List.mem_append, not_or] at distinct
    have apart (m' : layout.Member) (member : m' ∈ members ∨ m' ∈ others) :
        layout.get other m' = layout.get whole m' :=
      same m' fun equal => not_or.2 distinct.1 (equal ▸ member)
    have aligned : Aligned forms (layout.get other) layout.members (front ++ item :: back) := by
      rw [order]
      exact List.rel_append (early.of_get_eq fun m' member => apart m' (.inl member))
        (.cons form (late.of_get_eq fun m' member => apart m' (.inr member)))
    have read := legible.reader_aligned aligned (legible.builds other) before lead after.text
    simp [Reader.parse, read, after.skip_all]

theorem Placed.refused {whole : α} {m : layout.Member} {inner text : List Char}
    (placed : layout.Placed forms whole m inner text) (legible : layout.Legible forms)
    (opens : ∃ c rest, inner = c :: rest ∧ isBlank c = false ∧ c ≠ ']')
    (fails : ∀ rest, Bounds rest → Misfits (layout.read m (inner ++ rest))) :
    Refused .mismatch (layout.reader.parse text) := by
  cases placed with
  | member arranged once others named value =>
    subst value
    obtain ⟨before, _⟩ := occurrences_around (once m) named
    refine legible.parse_unreadable arranged
      (fun f member => (others f (List.mem_append_left _ member)).fits) (fun m => ?_) named before
      fails
    have single := once m
    rw [occurrences_append] at single
    omega
  | element before lead after order early late value text =>
    subst value text
    exact Mismatches.refused
      (legible.mismatches_element order early opens fails _ before lead after.text)

theorem Faithful.exists_placed (faithful : layout.Faithful forms) (whole : α) (m : layout.Member)
    (inner : List Char) : ∃ text, layout.Placed layout.readable whole m inner text := by
  obtain ⟨members, others, order⟩ := List.append_of_mem (layout.mem_members m)
  let e : Named := { layout.entry whole m with value := inner }
  have arranged : Arranged (members.map (layout.entry whole) ++ e :: others.map
    (layout.entry whole))
      _ := ⟨.none, .none, .none, rfl⟩
  refine ⟨_, .member arranged (fun m' => ?_) (fun f member => ?_) rfl rfl⟩
  · have once := faithful.once whole m'
    rw [order] at once
    simpa [occurrences] using once
  · rw [← List.map_append] at member
    exact faithful.toLegible.holds_readable (faithful.holds whole (members ++ others) f member)

/-- What holds of a parser when the arrangement of an object does not matter to it: `forms` says
how the members of a value may be written, `spare` which of them need not be. -/
structure ArrangementFree (layout : Layout α) (forms : layout.Forms)
    (spare : α → layout.Member → Prop) (parse : List Char → Except ParseError α) : Prop where
  /-- There may be members that the type does not have. -/
  passesOver : layout.exclusive = false
  reads : ∀ {value : α} {entries : List Named} {text : List Char}, Arranged entries text →
    (∀ e ∈ entries, Holds forms value e) →
    (∀ m, occurrences entries (layout.label m) = 1 ∨
      occurrences entries (layout.label m) = 0 ∧ spare value m) →
    parse text = .ok value
  missing : ∀ {entries : List Named} {m : layout.Member} {text : List Char},
    Arranged entries text → (∀ e ∈ entries, Fits forms e) →
    occurrences entries (layout.label m) = 0 → (∀ value, ¬ spare value m) →
    Refused .mismatch (parse text)
  /-- Only what stands before the repetition is looked at. -/
  repeated : ∀ {front back : List Named} {e : Named} {m : layout.Member} {text : List Char},
    Arranged (front ++ e :: back) text → (∀ f ∈ front, Fits forms f) →
    e.name = (layout.label m).toList → 0 < occurrences front (layout.label m) →
    Refused .mismatch (parse text)

theorem Faithful.arrangementFree (faithful : layout.Faithful forms)
    {spare : α → layout.Member → Prop} (passesOver : layout.exclusive = false)
    (absent : ∀ {value m}, spare value m → layout.absent m = some (layout.get value m))
    (needed : ∀ {m}, (∀ value, ¬ spare value m) → layout.absent m = none) :
    layout.ArrangementFree forms spare layout.reader.parse where
  passesOver := passesOver
  reads arranged holds counted := faithful.parse_arranged arranged holds fun m =>
    (counted m).imp_right fun ⟨gone, may⟩ => ⟨gone, absent may⟩
  missing arranged fits gone may := faithful.parse_missing arranged fits gone (needed may)
  repeated arranged fits named again := faithful.parse_repeated arranged fits named again

/-! ### Two types with members in common -/

variable {β : Type} {other : Layout β} {others : other.Forms}

variable (layout) in
def Knows (name : List Char) : Prop := ∃ m, name = (layout.label m).toList

/-- What stands for a member of the one type stands for the member of that name of the other. -/
def Agrees (forms : layout.Forms) (others : other.Forms) : Prop :=
  ∀ m m', layout.label m = other.label m' → ∀ value text, forms m value text →
    ∃ value', others m' value' text

theorem Fits.of_agrees (legible : layout.Legible forms) (agrees : Agrees forms others)
    (passesOver : other.exclusive = false) {e : Named} (fits : Fits forms e)
    (known : other.Knows e.name → layout.Knows e.name) : Fits others e := by
  by_cases common : other.Knows e.name
  · obtain ⟨m', same⟩ := common
    rcases fits with ⟨m, value, named, form⟩ | foreign
    · obtain ⟨value', form'⟩ :=
        agrees m m' (String.toList_inj.1 (named.symm.trans same)) value e.value form
      exact .inl ⟨m', value', same, form'⟩
    · obtain ⟨m, named⟩ := known ⟨m', same⟩
      exact absurd named (foreign.unknown m)
  · refine .inr ⟨passesOver, fun m' same => common ⟨m', same⟩, ?_⟩
    rcases fits with ⟨m, value, _, form⟩ | foreign
    · exact (legible.members m).wellFormed form
    · exact foreign.value

/-- Reading the member cannot run on into what stands behind it: the value is one that it can have,
or its reader takes whole values only. -/
structure Contained (forms : layout.Forms) (e : Named) : Prop where
  wellFormed : WellFormed e.value
  taken : ∀ m, e.name = (layout.label m).toList →
    Whole (layout.read m) ∨ ∃ value, forms m value e.value

theorem Contained.takeMember {e : Named} (contained : Contained forms e)
    (legible : layout.Legible forms) {slots kept : layout.Slots} {rest left : List Char}
    (bounds : Bounds rest)
    (taken : layout.takeMember slots e.name (behindKey e.toEntry rest) = .ok (kept, left)) :
    left = e.after.text ++ rest ∧
      ∀ m, (kept m).isSome = true → (slots m).isSome = true ∨ e.name = (layout.label m).toList := by
  have ends := e.after.bounds bounds
  unfold Layout.takeMember at taken
  split at taken
  · rename_i m found
    have named : e.name = (layout.label m).toList := by
      have same := List.find?_some found
      exact (of_decide_eq_true same).symm
    split at taken
    · cases taken
    · obtain ⟨_, parted, taken⟩ := bind_taken taken
      rw [colon_behindKey] at parted
      cases parted
      obtain ⟨⟨value, behind⟩, read, same⟩ := bind_taken taken
      cases same
      refine ⟨?_, fun other filled => ?_⟩
      · rcases contained.taken m named with whole | ⟨own, form⟩
        · exact whole.left contained.wellFormed e.beforeValue ends read
        · rw [(legible.skips m).blanks, (legible.reads form).takes _ ends] at read
          cases read
          rfl
      · by_cases own : m = other
        · exact .inr (own ▸ named)
        · exact .inl (set_other slots value own ▸ filled)
  · split at taken
    · cases taken
    · obtain ⟨_, parted, taken⟩ := bind_taken taken
      rw [colon_behindKey] at parted
      cases parted
      obtain ⟨behind, passed, same⟩ := bind_taken taken
      cases same
      rw [contained.wellFormed.skipValue_eq e.beforeValue fun _ => ends] at passed
      cases passed
      exact ⟨rfl, fun m filled => .inl filled⟩

theorem Legible.kept_named (legible : layout.Legible forms) {entries : List Named}
    (contained : ∀ e ∈ entries, Contained forms e) {rounds : Nat} {first : Bool}
    {slots kept : layout.Slots} {rest left : List Char}
    (taken : layout.takeMembers rounds first slots
      (chain (fun _ => '}' :: rest) first (entries.map (·.text))) = .ok (kept, left))
    {m : layout.Member} (filled : (kept m).isSome = true) :
    (slots m).isSome = true ∨ 0 < occurrences entries (layout.label m) := by
  induction entries generalizing rounds first slots with
  | nil =>
    cases rounds with
    | zero => cases taken
    | succ rounds =>
      rw [List.map_nil, chain, takeMembers_end] at taken
      cases taken
      exact .inl filled
  | cons e entries ih =>
    obtain ⟨this, others⟩ := List.forall_mem_cons.1 contained
    cases rounds with
    | zero => cases taken
    | succ rounds =>
      rw [List.map_cons, chain, takeMembers_entry] at taken
      obtain ⟨⟨between, behind⟩, read, later⟩ := bind_taken taken
      have bounds : Bounds (chain (fun _ => '}' :: rest) false (entries.map (·.text))) :=
        bounds_chain (by simp) _
      obtain ⟨rfl, named⟩ := this.takeMember legible bounds read
      rw [(skips_takeMembers _ _ _).blanks] at later
      rw [occurrences_cons]
      rcases ih others later with old | more
      · rcases named m old with old | here
        · exact .inl old
        · exact .inr (by simp [here])
      · exact .inr (Nat.lt_of_lt_of_le more (Nat.le_add_right _ _))

theorem finish_taken {result : Except Failure (layout.Slots × List Char)} {value : α}
    {left : List Char} (taken : layout.finish result = .ok (value, left)) :
    ∃ slots, result = .ok (slots, left) ∧ layout.assemble slots = .ok value := by
  unfold finish at taken
  split at taken
  · cases taken
  · rename_i slots rest
    split at taken
    · rename_i found assembled
      cases taken
      exact ⟨slots, rfl, assembled⟩
    · cases taken

theorem Legible.occurs_of_parse (legible : layout.Legible forms) {entries : List Named}
    {text : List Char} {value : α} (arranged : Arranged entries text)
    (contained : ∀ e ∈ entries, Contained forms e) (parsed : layout.reader.parse text = .ok value)
    {m : layout.Member} (needed : layout.absent m = none) :
    0 < occurrences entries (layout.label m) := by
  obtain ⟨before, lead, after, rfl⟩ := arranged
  rw [objectText_eq_chain] at parsed
  obtain ⟨left, read⟩ := parse_taken parsed
  simp only [reader, Blanks.skip, skipBlank_cons _ (show isBlank '{' = false from rfl), if_pos]
    at read
  obtain ⟨behind, closed⟩ := close_taken read
  obtain ⟨kept, members, assembled⟩ := finish_taken closed
  rw [(skips_takeMembers _ _ _).blanks] at members
  have filled : (kept m).isSome = true := by
    by_contra empty
    have unsettled : layout.settled kept m = none := by
      simp [Layout.settled, Option.not_isSome_iff_eq_none.1 empty, needed]
    obtain ⟨cause, refused⟩ := assemble_of_unsettled unsettled
    rw [refused] at assembled
    cases assembled
  rcases legible.kept_named contained members filled with old | named
  · cases old
  · exact named

variable (layout) in
/-- When a text with members of the one type is read as one of the other. -/
structure ToldApart (forms : layout.Forms) (other : Layout β) (others : other.Forms)
    (parse : List Char → Except ParseError β) : Prop where
  /-- It has to have every member that the other type does not let be left out. -/
  needs : ∀ {entries : List Named} {text : List Char} {value : β}, Arranged entries text →
    (∀ e ∈ entries, Fits forms e) → parse text = .ok value →
    ∀ m, other.absent m = none → 0 < occurrences entries (other.label m)
  /-- With one of them missing, and without a value that the other type cannot have for a member of
  its own, it is refused as a text of another type. -/
  refused : ∀ {entries : List Named} {text : List Char}, Arranged entries text →
    (∀ e ∈ entries, Fits forms e) →
    (∀ e ∈ entries, other.Knows e.name → layout.Knows e.name ∨ Fits others e) →
    ∀ m, other.absent m = none → occurrences entries (other.label m) = 0 →
    Refused .mismatch (parse text)

theorem Legible.toldApart (legible : layout.Legible forms) (legible' : other.Legible others)
    (agrees : Agrees forms others) (passesOver : other.exclusive = false)
    (own : ∀ m', (∃ m, layout.label m = other.label m') ∨ Whole (other.read m')) :
    layout.ToldApart forms other others other.reader.parse where
  needs arranged fits parsed m needed := by
    refine legible'.occurs_of_parse arranged (fun e member => ?_) parsed needed
    rcases fits e member with ⟨m, value, named, form⟩ | foreign
    · refine ⟨(legible.members m).wellFormed form, fun m' same => .inr ?_⟩
      exact agrees m m' (String.toList_inj.1 (named.symm.trans same)) value e.value form
    · refine ⟨foreign.value, fun m' same => (own m').elim (fun ⟨m, common⟩ => ?_) .inl⟩
      exact absurd (same.trans (congrArg String.toList common.symm)) (foreign.unknown m)
  refused arranged fits known m needed gone := by
    refine legible'.parse_missing arranged (fun e member => ?_) gone needed
    by_cases common : other.Knows e.name
    · rcases known e member common with shared | own
      · exact (fits e member).of_agrees legible agrees passesOver fun _ => shared
      · exact own
    · exact (fits e member).of_agrees legible agrees passesOver fun knows => absurd knows common

end Layout

end Proximity.Json
