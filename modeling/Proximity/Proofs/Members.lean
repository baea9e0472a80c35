import Proximity.Json.Record
import Proximity.Proofs.Passing

/-! Objects are read alike in every arrangement of their members. Members are taken one after
another: each is new and kept, or foreign and passed over, and what is kept after a run of them
depends on their names only. A member that is repeated or missing, or whose value does not do,
makes the whole object refused as one of another type. -/

set_option autoImplicit false

namespace Proximity.Json

structure Named extends Entry where
  name : List Char
  spells : Spells key name

def occurrences (entries : List Named) (label : String) : Nat :=
  (entries.map Named.name).count label.toList

theorem occurrences_cons (e : Named) (entries : List Named) (label : String) :
    occurrences (e :: entries) label =
      occurrences entries label + if e.name = label.toList then 1 else 0 := by
  simp [occurrences, List.count_cons]

theorem occurrences_append (front back : List Named) (label : String) :
    occurrences (front ++ back) label = occurrences front label + occurrences back label := by
  simp [occurrences]

theorem occurrences_pos {entries : List Named} {label : String} :
    0 < occurrences entries label ↔ ∃ e ∈ entries, e.name = label.toList := by
  simp [occurrences, List.count_pos_iff]

theorem occurrences_eq_zero {entries : List Named} {label : String} :
    occurrences entries label = 0 ↔ ∀ e ∈ entries, e.name ≠ label.toList := by
  simp [occurrences, List.count_eq_zero]

/-- A member that is there once is neither before nor behind itself. -/
theorem occurrences_around {front back : List Named} {e : Named} {label : String}
    (once : occurrences (front ++ e :: back) label = 1) (named : e.name = label.toList) :
    occurrences front label = 0 ∧ occurrences back label = 0 := by
  rw [occurrences_append, occurrences_cons, if_pos named] at once
  omega

/-- The text is that of an object with these members, with blanks wherever they may stand. -/
def Arranged (entries : List Named) (text : List Char) : Prop :=
  ∃ before lead after : Blanks,
    text = before.text ++ (objectText lead (entries.map Named.toEntry) ++ after.text)

def Refused {α : Type} (category : Category) (result : Except ParseError α) : Prop :=
  ∃ error, result = .error error ∧ error.category = category

theorem Refused.not_ok {α : Type} {category : Category} {result : Except ParseError α} {value : α}
    (refused : Refused category result) : result ≠ .ok value := by
  obtain ⟨error, rfl, _⟩ := refused
  simp

namespace Layout

variable {α : Type} {layout : Layout α}

abbrev Parts (layout : Layout α) := (m : layout.Member) → layout.Value m

abbrev Forms (layout : Layout α) := (m : layout.Member) → Form (layout.Value m)

variable (layout) in
structure Foreign (e : Named) : Prop where
  passedOver : layout.exclusive = false
  unknown : ∀ m, e.name ≠ (layout.label m).toList
  value : WellFormed e.value

def Fits (forms : layout.Forms) (e : Named) : Prop :=
  (∃ m value, e.name = (layout.label m).toList ∧ forms m value e.value) ∨ layout.Foreign e

def Carries (forms : layout.Forms) (parts : layout.Parts) (e : Named) : Prop :=
  (∃ m, e.name = (layout.label m).toList ∧ forms m (parts m) e.value) ∨ layout.Foreign e

theorem Carries.fits {forms : layout.Forms} {parts : layout.Parts} {e : Named}
    (carries : Carries forms parts e) : Fits forms e :=
  carries.imp_left fun ⟨m, named, form⟩ => ⟨m, _, named, form⟩

/-- A member as `whole` has it, or a foreign one. -/
def Holds (forms : layout.Forms) (whole : α) (e : Named) : Prop :=
  (∃ m, e.name = (layout.label m).toList ∧ forms m (layout.get whole m) e.value) ∨
    layout.Foreign e

theorem Holds.carries {forms : layout.Forms} {whole : α} {e : Named}
    (holds : Holds forms whole e) : Carries forms (layout.get whole) e := holds

theorem Holds.fits {forms : layout.Forms} {whole : α} {e : Named} (holds : Holds forms whole e) :
    Fits forms e :=
  holds.carries.fits

/-- The members of the layout are told apart by their names, each is read from every text that
stands for it, and all of them make up the value again. -/
structure Legible (layout : Layout α) (forms : layout.Forms) : Prop where
  labels : ∀ m, layout.member? (layout.label m).toList = some m
  members : ∀ m, Accepts (layout.read m) (forms m)
  builds : ∀ value, layout.build (layout.get value) = .ok value

variable {forms : layout.Forms}

theorem Legible.skips (legible : layout.Legible forms) (m : layout.Member) :
    Skips (layout.read m) :=
  (legible.members m).skips

theorem Legible.reads (legible : layout.Legible forms) {m : layout.Member}
    {value : layout.Value m} {text : List Char} (form : forms m value text) :
    Reads (layout.read m) text value :=
  (legible.members m).reads form

theorem Legible.label_injective (legible : layout.Legible forms) {m other : layout.Member}
    (same : (layout.label m).toList = (layout.label other).toList) : m = other := by
  have found := legible.labels m
  rw [same, legible.labels other] at found
  exact (Option.some.inj found).symm

theorem member?_unknown {name : List Char} (unknown : ∀ m, name ≠ (layout.label m).toList) :
    layout.member? name = none := by
  refine List.find?_eq_none.2 fun m _ => ?_
  simpa using (unknown m).symm

/-! ### What is kept of the members -/

theorem set_own (slots : layout.Slots) (m : layout.Member) (value : layout.Value m) :
    slots.set m value m = some value := by
  unfold Slots.set
  split
  · rfl
  · rename_i other _
    exact absurd rfl other

theorem set_other (slots : layout.Slots) {m other : layout.Member} (value : layout.Value m)
    (unlike : m ≠ other) : slots.set m value other = slots other := by
  unfold Slots.set
  split
  · rename_i same _
    exact absurd same unlike
  · rfl

/-- After the members `entries`, what they name is kept and everything else is as before. -/
def Collects (forms : layout.Forms) (slots : layout.Slots) (entries : List Named)
    (kept : layout.Slots) : Prop :=
  ∀ m, (∃ e ∈ entries, e.name = (layout.label m).toList ∧
      ∃ value, forms m value e.value ∧ kept m = some value) ∨
    occurrences entries (layout.label m) = 0 ∧ kept m = slots m

theorem assemble_of_settled {slots : layout.Slots} {parts : layout.Parts}
    (settled : ∀ m, layout.settled slots m = some (parts m)) :
    layout.assemble slots = layout.build parts := by
  unfold assemble
  split
  · rename_i m missing
    have none := List.find?_some missing
    simp [settled m] at none
  · apply congrArg layout.build
    funext m
    simp [settled m]

theorem assemble_of_unsettled {slots : layout.Slots} {m : layout.Member}
    (unsettled : layout.settled slots m = none) :
    ∃ cause, layout.assemble slots = .error cause := by
  unfold assemble
  split
  · exact ⟨_, rfl⟩
  · rename_i complete
    have settled := List.find?_eq_none.1 complete m (layout.mem_members m)
    simp [unsettled] at settled

/-! ### Members one after another -/

theorem nextMember_apart (first : Bool) (b : Blanks) (rest : List Char) :
    nextMember first (apart first (b.text ++ '"' :: rest)) = .ok (true, rest) := by
  cases first with
  | true => simp [apart, nextMember, skipBlank_cons _ (show isBlank '"' = false from rfl)]
  | false =>
    simp [apart, nextMember, skipBlank_cons _ (show isBlank ',' = false from rfl),
      skipBlank_cons _ (show isBlank '"' = false from rfl)]

theorem skips_takeMembers (rounds : Nat) (first : Bool) (slots : layout.Slots) :
    Skips (layout.takeMembers rounds first slots) := by
  intro text
  cases rounds with
  | zero => rfl
  | succ rounds => simp only [takeMembers, nextMember, skipBlank_skipBlank]

theorem takeMembers_end {first : Bool} {slots : layout.Slots} {rest : List Char} (rounds : Nat) :
    layout.takeMembers (rounds + 1) first slots ('}' :: rest) = .ok (slots, '}' :: rest) := by
  simp [takeMembers, nextMember, skipBlank_cons _ (show isBlank '}' = false from rfl), bind,
    Except.bind]

def behindKey (e : Entry) (rest : List Char) : List Char :=
  e.afterKey.text ++ ':' :: (e.beforeValue.text ++ (e.value ++ (e.after.text ++ rest)))

theorem takeMembers_entry {first : Bool} {slots : layout.Slots} (e : Named) (rest : List Char)
    (rounds : Nat) :
    layout.takeMembers (rounds + 1) first slots (apart first (e.text ++ rest)) =
      (layout.takeMember slots e.name (behindKey e.toEntry rest)).bind fun result =>
        layout.takeMembers rounds false result.1 result.2 := by
  have keyed : e.text ++ rest =
      e.before.text ++ '"' :: (e.key ++ '"' :: behindKey e.toEntry rest) := by
    simp [Entry.text, Entry.tail, behindKey]
  simp only [keyed, takeMembers, nextMember_apart, e.spells.textFrom_eq, bind, Except.bind]
  rfl

theorem colon_behindKey (e : Entry) (rest : List Char) :
    colon (behindKey e rest) = .ok (e.beforeValue.text ++ (e.value ++ (e.after.text ++ rest))) := by
  simp [colon, behindKey, skipBlank_cons _ (show isBlank ':' = false from rfl)]

theorem Legible.takeMember_known (legible : layout.Legible forms) {slots : layout.Slots}
    {m : layout.Member} {value : layout.Value m} {e : Entry} (form : forms m value e.value)
    (new : slots m = none) {rest : List Char} (bounds : Bounds rest) :
    layout.takeMember slots (layout.label m).toList (behindKey e rest) =
      .ok (slots.set m value, e.after.text ++ rest) := by
  have taken := (legible.reads form).takes _ (e.after.bounds bounds)
  rw [← (legible.skips m).blanks e.beforeValue] at taken
  simp [takeMember, legible.labels m, new, colon_behindKey, taken, bind, Except.bind]

theorem Foreign.takeMember {e : Named} (foreign : layout.Foreign e) (slots : layout.Slots)
    {rest : List Char} (bounds : Bounds rest) :
    layout.takeMember slots e.name (behindKey e.toEntry rest) =
      .ok (slots, e.after.text ++ rest) := by
  have passed := foreign.value.skipValue_eq e.beforeValue fun _ => e.after.bounds bounds
  simp [Layout.takeMember, member?_unknown foreign.unknown, foreign.passedOver, colon_behindKey,
    passed, bind, Except.bind]

theorem Legible.takeMember_fits (legible : layout.Legible forms) {e : Named} (fits : Fits forms e)
    {slots : layout.Slots} (new : ∀ m, e.name = (layout.label m).toList → slots m = none) :
    ∃ kept, Collects forms slots [e] kept ∧ ∀ rest, Bounds rest →
      layout.takeMember slots e.name (behindKey e.toEntry rest) =
        .ok (kept, e.after.text ++ rest) := by
  rcases fits with ⟨m, value, named, form⟩ | foreign
  · refine ⟨slots.set m value, fun other => ?_, fun rest bounds => ?_⟩
    · by_cases own : m = other
      · subst own
        exact .inl ⟨e, List.mem_cons_self, named, value, form, set_own slots m value⟩
      · refine .inr ⟨occurrences_eq_zero.2 fun f member same => ?_, set_other slots value own⟩
        rw [List.mem_singleton.1 member, named] at same
        exact own (legible.label_injective same)
    · rw [named]
      exact legible.takeMember_known form (new m named) bounds
  · refine ⟨slots, fun other => .inr ⟨occurrences_eq_zero.2 fun f member => ?_, rfl⟩,
      fun rest bounds => foreign.takeMember slots bounds⟩
    rw [List.mem_singleton.1 member]
    exact foreign.unknown other

theorem Collects.cons {slots between kept : layout.Slots} {e : Named} {entries : List Named}
    (here : Collects forms slots [e] between) (there : Collects forms between entries kept) :
    Collects forms slots (e :: entries) kept := by
  intro m
  rcases there m with ⟨f, member, found⟩ | ⟨absent, old⟩
  · exact .inl ⟨f, List.mem_cons_of_mem e member, found⟩
  · rcases here m with ⟨f, member, named, value, form, same⟩ | ⟨gone, same⟩
    · obtain rfl := List.mem_singleton.1 member
      exact .inl ⟨f, List.mem_cons_self, named, value, form, old.trans same⟩
    · refine .inr ⟨?_, old.trans same⟩
      rw [← List.singleton_append, occurrences_append, gone, absent]

/-- Members with different names are all taken, in whatever order they come. -/
theorem Legible.takeMembers_chain (legible : layout.Legible forms) {entries : List Named}
    (fits : ∀ e ∈ entries, Fits forms e) (once : ∀ m, occurrences entries (layout.label m) ≤ 1)
    (slots : layout.Slots)
    (new : ∀ m, 0 < occurrences entries (layout.label m) → slots m = none)
    {ending : Bool → List Char} (bounds : Bounds (ending false)) :
    ∃ kept, Collects forms slots entries kept ∧ ∀ rounds first,
      layout.takeMembers (rounds + entries.length) first slots
          (chain ending first (entries.map (·.text))) =
        layout.takeMembers rounds (first && entries.isEmpty) kept
          (ending (first && entries.isEmpty)) := by
  induction entries generalizing slots with
  | nil => exact ⟨slots, fun m => .inr ⟨rfl, rfl⟩, fun rounds first => by simp [chain]⟩
  | cons e entries ih =>
    obtain ⟨this, others⟩ := List.forall_mem_cons.1 fits
    have counted (m : layout.Member) := occurrences_cons e entries (layout.label m)
    obtain ⟨between, here, step⟩ := legible.takeMember_fits this fun m named =>
      new m (occurrences_pos.2 ⟨e, List.mem_cons_self, named⟩)
    -- A name that is still to come is not the name just taken, so nothing is kept for it yet.
    have later (m : layout.Member) (more : 0 < occurrences entries (layout.label m)) :
        between m = none := by
      rcases here m with ⟨f, member, named, _⟩ | ⟨_, same⟩
      · obtain rfl := List.mem_singleton.1 member
        have single := once m
        rw [counted, if_pos named] at single
        omega
      · rw [same]
        refine new m ?_
        rw [counted]
        exact Nat.lt_of_lt_of_le more (Nat.le_add_right _ _)
    obtain ⟨kept, there, taken⟩ := ih others
      (fun m => Nat.le_trans (by rw [counted]; exact Nat.le_add_right _ _) (once m)) between later
    refine ⟨kept, here.cons there, fun rounds first => ?_⟩
    rw [List.map_cons, chain, List.length_cons, ← Nat.add_assoc, takeMembers_entry,
      step _ (bounds_chain bounds (entries.map (·.text)))]
    simp only [Except.bind, (skips_takeMembers _ _ _).blanks, taken rounds false, Bool.false_and,
      List.isEmpty_cons, Bool.and_false]

/-! ### Whole objects -/

/-- What is read from behind the opening brace until members are told what to end with. -/
theorem Legible.reader_chain (legible : layout.Legible forms) {entries : List Named}
    (fits : ∀ e ∈ entries, Fits forms e) (once : ∀ m, occurrences entries (layout.label m) ≤ 1)
    (ending : Bool → List Char) (bounds : Bounds (ending false))
    (ends : ∀ first, 1 ≤ (ending first).length) (before lead : Blanks) :
    ∃ kept, Collects forms (Slots.empty layout) entries kept ∧ ∃ rounds first,
      layout.reader (before.text ++ '{' :: (lead.text ++
          chain ending true (entries.map (·.text)))) =
        close objectEnd (layout.finish
          (layout.takeMembers (rounds + 1) first kept (ending first))) := by
  obtain ⟨kept, collects, taken⟩ := legible.takeMembers_chain fits once (Slots.empty layout)
    (fun _ _ => rfl) bounds
  have enough := length_le_chain ending ends true (entries.map (·.text))
  rw [List.length_map] at enough
  obtain ⟨rounds, same⟩ : ∃ rounds, (lead.text ++ chain ending true
      (entries.map (·.text))).length + 1 = rounds + 1 + entries.length :=
    ⟨(lead.text ++ chain ending true (entries.map (·.text))).length - entries.length, by
      simp only [List.length_append]
      omega⟩
  refine ⟨kept, collects, rounds, entries.isEmpty, ?_⟩
  have run := taken (rounds + 1) true
  rw [Bool.true_and] at run
  simp only [reader, Blanks.skip, skipBlank_cons _ (show isBlank '{' = false from rfl), if_pos,
    same, (skips_takeMembers _ _ _).blanks, run]

theorem objectText_eq_chain (lead : Blanks) (entries : List Named) (rest : List Char) :
    objectText lead (entries.map Named.toEntry) ++ rest =
      '{' :: (lead.text ++ chain (fun _ => '}' :: rest) true (entries.map (·.text))) := by
  rw [← separated_eq_chain]
  simp [objectText, Function.comp_def]

theorem Legible.reader_object (legible : layout.Legible forms) {entries : List Named}
    (fits : ∀ e ∈ entries, Fits forms e) (once : ∀ m, occurrences entries (layout.label m) ≤ 1)
    (before lead : Blanks) (rest : List Char) :
    ∃ kept, Collects forms (Slots.empty layout) entries kept ∧
      layout.reader (before.text ++ (objectText lead (entries.map Named.toEntry) ++ rest)) =
        close objectEnd (layout.finish (.ok (kept, '}' :: rest))) := by
  obtain ⟨kept, collects, rounds, first, read⟩ := legible.reader_chain fits once
    (fun _ => '}' :: rest) (by simp) (by simp) before lead
  refine ⟨kept, collects, ?_⟩
  rw [objectText_eq_chain, read, takeMembers_end]

theorem close_finish (kept : layout.Slots) (rest : List Char) :
    close objectEnd (layout.finish (.ok (kept, '}' :: rest))) =
      match layout.assemble kept with
      | .ok value => .ok (value, rest)
      | .error cause => .error (.placed (.mismatch cause) ⟨rest, 0⟩) := by
  cases assembled : layout.assemble kept <;>
    simp [finish, assembled, close, objectEnd, skipBlank_cons _ (show isBlank '}' = false from rfl)]

variable (layout) in
/-- The text is that of an object with these parts: each once, in any order and with foreign members
between them, or left out when its absence means the same. -/
def Comprises (forms : layout.Forms) (parts : layout.Parts) (text : List Char) : Prop :=
  ∃ lead entries, text = objectText lead (entries.map Named.toEntry) ∧
    (∀ e ∈ entries, Carries forms parts e) ∧
    ∀ m, occurrences entries (layout.label m) = 1 ∨
      occurrences entries (layout.label m) = 0 ∧ layout.absent m = some (parts m)

theorem Legible.reader_comprised (legible : layout.Legible forms) {parts : layout.Parts}
    {text : List Char} (comprises : layout.Comprises forms parts text) (before : Blanks)
    (rest : List Char) :
    layout.reader (before.text ++ (text ++ rest)) =
      match layout.build parts with
      | .ok value => .ok (value, rest)
      | .error cause => .error (.placed (.mismatch cause) ⟨rest, 0⟩) := by
  obtain ⟨lead, entries, rfl, carries, counted⟩ := comprises
  have once (m : layout.Member) : occurrences entries (layout.label m) ≤ 1 := by
    rcases counted m with one | ⟨none, _⟩ <;> omega
  obtain ⟨kept, collects, read⟩ := legible.reader_object
    (fun e member => (carries e member).fits) once before lead rest
  have settled (m : layout.Member) : layout.settled kept m = some (parts m) := by
    rcases collects m with ⟨e, member, named, found, form, same⟩ | ⟨absent, same⟩
    · have right : forms m (parts m) e.value := by
        rcases carries e member with ⟨other, known, form⟩ | foreign
        · cases legible.label_injective (named.symm.trans known)
          exact form
        · exact absurd named (foreign.unknown m)
      simp [Layout.settled, same, (legible.reads form).unique (legible.reads right)]
    · rcases counted m with one | ⟨_, spare⟩
      · omega
      · simp [Layout.settled, same, Slots.empty, spare]
  rw [read, close_finish, assemble_of_settled settled]

theorem Legible.wellFormed_comprised (legible : layout.Legible forms) {parts : layout.Parts}
    {text : List Char} (comprises : layout.Comprises forms parts text) : WellFormed text := by
  obtain ⟨lead, entries, rfl, carries, _⟩ := comprises
  refine .object lead (fun e member => ?_) fun e member => ?_
  · obtain ⟨named, _, rfl⟩ := List.mem_map.1 member
    exact named.spells.quotable
  · obtain ⟨named, present, rfl⟩ := List.mem_map.1 member
    rcases carries named present with ⟨m, _, form⟩ | foreign
    · exact (legible.members m).wellFormed form
    · exact foreign.value

theorem Comprises.opens {parts : layout.Parts} {text : List Char}
    (comprises : layout.Comprises forms parts text) : ∃ rest, text = '{' :: rest := by
  obtain ⟨lead, entries, rfl, _⟩ := comprises
  exact ⟨_, rfl⟩

theorem Legible.reads_comprised (legible : layout.Legible forms) {parts : layout.Parts}
    {text : List Char} (comprises : layout.Comprises forms parts text) {value : α}
    (built : layout.build parts = .ok value) : Reads layout.reader text value := by
  refine ⟨?_, fun rest _ => ?_⟩
  · obtain ⟨rest, rfl⟩ := comprises.opens
    exact ⟨'{', rest, rfl, rfl, by decide⟩
  · have read := legible.reader_comprised comprises .none rest
    rwa [built] at read

variable (layout) in
/-- The text is that of an object for the value: each of its members once, in any order and with
foreign ones between them, or left out when its absence means the same. -/
def Describes (forms : layout.Forms) (value : α) (text : List Char) : Prop :=
  ∃ lead entries, text = objectText lead (entries.map Named.toEntry) ∧
    (∀ e ∈ entries, Holds forms value e) ∧
    ∀ m, occurrences entries (layout.label m) = 1 ∨
      occurrences entries (layout.label m) = 0 ∧ layout.absent m = some (layout.get value m)

theorem Describes.comprises {value : α} {text : List Char}
    (describes : layout.Describes forms value text) :
    layout.Comprises forms (layout.get value) text := describes

theorem Legible.reader_described (legible : layout.Legible forms) {value : α} {text : List Char}
    (describes : layout.Describes forms value text) (before : Blanks) (rest : List Char) :
    layout.reader (before.text ++ (text ++ rest)) = .ok (value, rest) := by
  rw [legible.reader_comprised describes.comprises, legible.builds]

theorem Legible.accepts (legible : layout.Legible forms) :
    Accepts layout.reader (layout.Describes forms) where
  skips input := by simp only [reader, skipBlank_skipBlank]
  reads {value _} describes := legible.reads_comprised describes.comprises (legible.builds value)
  wellFormed describes := legible.wellFormed_comprised describes.comprises

/-! ### Refusals -/

def Mismatches {β : Type} (result : Except Failure β) : Prop :=
  ∃ cause spot, result = .error (.placed (.mismatch cause) spot)

theorem Mismatches.refused {read : Reader α} {text : List Char}
    (mismatches : Mismatches (read text)) : Refused .mismatch (read.parse text) := by
  obtain ⟨cause, spot, failed⟩ := mismatches
  exact ⟨Failure.locate text (.placed (.mismatch cause) spot), by simp only [Reader.parse, failed],
    rfl⟩

theorem Legible.mismatches_comprised (legible : layout.Legible forms) {parts : layout.Parts}
    {text : List Char} (comprises : layout.Comprises forms parts text) {cause : Mismatch}
    (failed : layout.build parts = .error cause) (rest : List Char) :
    Mismatches (layout.reader (text ++ rest)) := by
  have read := legible.reader_comprised comprises .none rest
  rw [failed] at read
  exact ⟨cause, _, read⟩

theorem Legible.mismatches_missing (legible : layout.Legible forms) {entries : List Named}
    (fits : ∀ e ∈ entries, Fits forms e) (once : ∀ m, occurrences entries (layout.label m) ≤ 1)
    {m : layout.Member} (gone : occurrences entries (layout.label m) = 0)
    (needed : layout.absent m = none) (before lead : Blanks) (rest : List Char) :
    Mismatches
      (layout.reader (before.text ++ (objectText lead (entries.map Named.toEntry) ++ rest))) := by
  obtain ⟨kept, collects, read⟩ := legible.reader_object fits once before lead rest
  have unsettled : layout.settled kept m = none := by
    rcases collects m with ⟨e, member, named, _⟩ | ⟨_, same⟩
    · have present := occurrences_pos.2 ⟨e, member, named⟩
      omega
    · simp [Layout.settled, same, Slots.empty, needed]
  obtain ⟨cause, refused⟩ := assemble_of_unsettled unsettled
  rw [read, close_finish, refused]
  exact ⟨cause, _, rfl⟩

theorem objectText_split (lead : Blanks) (front back : List Named) (e : Named)
    (rest : List Char) : ∃ tail, Bounds tail ∧
      objectText lead ((front ++ e :: back).map Named.toEntry) ++ rest =
        '{' :: (lead.text ++
          chain (fun first => apart first (e.text ++ tail)) true (front.map (·.text))) := by
  refine ⟨chain (fun _ => '}' :: rest) false (back.map (·.text)), bounds_chain (by simp) _, ?_⟩
  rw [objectText_eq_chain, List.map_append, chain_append]
  rfl

def Misfits {β : Type} (result : Except Failure β) : Prop :=
  ∃ failure cause, result = .error failure ∧ failure.cause = .mismatch cause

theorem misfits_loose {β : Type} (cause : Mismatch) (left : List Char) :
    Misfits (.error (.loose cause left) : Except Failure β) :=
  ⟨_, cause, rfl, rfl⟩

theorem Mismatches.misfits {β : Type} {result : Except Failure β}
    (mismatches : Mismatches result) : Misfits result := by
  obtain ⟨cause, spot, rfl⟩ := mismatches
  exact ⟨_, cause, rfl, rfl⟩

theorem Misfits.bind {β γ : Type} {result : Except Failure β} (misfits : Misfits result)
    (f : β → Except Failure γ) : Misfits (result.bind f) := by
  obtain ⟨failure, cause, rfl, same⟩ := misfits
  exact ⟨failure, cause, rfl, same⟩

theorem Misfits.map {β γ : Type} {result : Except Failure β} (misfits : Misfits result)
    (f : β → γ) : Misfits (result.map f) := by
  obtain ⟨failure, cause, rfl, same⟩ := misfits
  exact ⟨failure, cause, rfl, same⟩

theorem Misfits.finish {result : Except Failure (layout.Slots × List Char)}
    (misfits : Misfits result) : Misfits (layout.finish result) := by
  obtain ⟨failure, cause, rfl, same⟩ := misfits
  exact ⟨failure, cause, rfl, same⟩

/-- The end of a list or an object gives a mismatch its place, unless it has one. -/
theorem Misfits.close {β : Type} {result : Except Failure (β × List Char)}
    (misfits : Misfits result) (rule : EndRule) : Mismatches (close rule result) := by
  obtain ⟨failure, cause, rfl, same⟩ := misfits
  cases failure with
  | loose cause rest => exact ⟨cause, _, rfl⟩
  | placed what spot =>
    obtain rfl : what = .mismatch cause := same
    exact ⟨cause, spot, rfl⟩

/-- A member that cannot be taken makes the object refused, whatever stands behind it. -/
theorem Legible.mismatches_member (legible : layout.Legible forms) {front : List Named}
    (fits : ∀ f ∈ front, Fits forms f) (once : ∀ m, occurrences front (layout.label m) ≤ 1)
    {e : Named}
    (stops : ∀ kept, Collects forms (Slots.empty layout) front kept → ∀ tail, Bounds tail →
      Misfits (layout.takeMember kept e.name (behindKey e.toEntry tail)))
    (back : List Named) (before lead : Blanks) (rest : List Char) :
    Mismatches (layout.reader (before.text ++
      (objectText lead ((front ++ e :: back).map Named.toEntry) ++ rest))) := by
  obtain ⟨tail, bounds, split⟩ := objectText_split lead front back e rest
  have starts (first : Bool) : 1 ≤ (apart first (e.text ++ tail)).length := by
    cases first <;>
      simp only [apart, Entry.text, List.length_cons, List.length_append, if_true,
        Bool.false_eq_true, if_false] <;>
      omega
  obtain ⟨kept, collects, rounds, first, read⟩ := legible.reader_chain fits once
    (fun first => apart first (e.text ++ tail)) (by simp [apart]) starts before lead
  rw [split, read, takeMembers_entry]
  exact ((stops kept collects tail bounds).bind _).finish.close objectEnd

theorem Legible.mismatches_repeated (legible : layout.Legible forms) {front : List Named}
    (fits : ∀ f ∈ front, Fits forms f) (once : ∀ m, occurrences front (layout.label m) ≤ 1)
    {e : Named} {m : layout.Member} (named : e.name = (layout.label m).toList)
    (again : 0 < occurrences front (layout.label m)) (back : List Named) (before lead : Blanks)
    (rest : List Char) : Mismatches (layout.reader (before.text ++
      (objectText lead ((front ++ e :: back).map Named.toEntry) ++ rest))) := by
  refine legible.mismatches_member fits once (fun kept collects tail _ => ?_) back before lead rest
  rcases collects m with ⟨_, _, _, value, _, same⟩ | ⟨absent, _⟩
  · simp only [takeMember, named, legible.labels m, same, Option.isSome_some, if_true]
    exact misfits_loose _ _
  · omega

theorem Legible.mismatches_value (legible : layout.Legible forms) {front : List Named}
    (fits : ∀ f ∈ front, Fits forms f) (once : ∀ m, occurrences front (layout.label m) ≤ 1)
    {e : Named} {m : layout.Member} (named : e.name = (layout.label m).toList)
    (new : occurrences front (layout.label m) = 0)
    (fails : ∀ tail, Bounds tail → Misfits (layout.read m (e.value ++ tail)))
    (back : List Named) (before lead : Blanks) (rest : List Char) :
    Mismatches (layout.reader (before.text ++
      (objectText lead ((front ++ e :: back).map Named.toEntry) ++ rest))) := by
  refine legible.mismatches_member fits once (fun kept collects tail bounds => ?_) back before lead
    rest
  rcases collects m with ⟨f, member, same, _⟩ | ⟨_, old⟩
  · have present := occurrences_pos.2 ⟨f, member, same⟩
    omega
  · have failed := fails _ (e.after.bounds bounds)
    rw [← (legible.skips m).blanks e.beforeValue] at failed
    simp only [takeMember, named, legible.labels m, old, Slots.empty, Option.isSome_none,
      Bool.false_eq_true, if_false, colon_behindKey, bind, Except.bind]
    exact failed.bind _

theorem exists_repeat {entries : List Named} {label : String}
    (twice : 2 ≤ occurrences entries label) : ∃ front e back, entries = front ++ e :: back ∧
      e.name = label.toList ∧ 0 < occurrences front label := by
  induction entries with
  | nil => simp [occurrences] at twice
  | cons first entries ih =>
    rw [occurrences_cons] at twice
    by_cases named : first.name = label.toList
    · rw [if_pos named] at twice
      obtain ⟨e, member, same⟩ :=
        occurrences_pos.1 (show 0 < occurrences entries label by omega)
      obtain ⟨front, back, rfl⟩ := List.append_of_mem member
      exact ⟨first :: front, e, back, rfl, same,
        occurrences_pos.2 ⟨first, List.mem_cons_self, named⟩⟩
    · rw [if_neg named] at twice
      obtain ⟨front, e, back, rfl, same, before⟩ := ih twice
      refine ⟨first :: front, e, back, rfl, same, ?_⟩
      rw [occurrences_cons]
      exact Nat.lt_of_lt_of_le before (Nat.le_add_right _ _)

theorem exists_first_repeat {front : List Named} {e : Named} {m : layout.Member}
    (named : e.name = (layout.label m).toList)
    (again : 0 < occurrences front (layout.label m)) (back : List Named) :
    ∃ start again rest, ∃ other : layout.Member, front ++ e :: back = start ++ again :: rest ∧
      start <+: front ∧ (∀ m, occurrences start (layout.label m) ≤ 1) ∧
      again.name = (layout.label other).toList ∧ 0 < occurrences start (layout.label other) := by
  induction length : front.length using Nat.strongRecOn generalizing front e back m with
  | ind n ih =>
    by_cases once : ∀ m, occurrences front (layout.label m) ≤ 1
    · exact ⟨front, e, back, m, rfl, List.prefix_refl _, once, named, again⟩
    · -- Some name is repeated in front already, and less stands in front of that repetition.
      obtain ⟨other, twice⟩ := not_forall.1 once
      obtain ⟨start, f, rest, rfl, same, before⟩ := exists_repeat
        (show 2 ≤ occurrences front (layout.label other) by omega)
      have shorter : start.length < n := by
        simp only [List.length_append, List.length_cons] at length
        omega
      obtain ⟨start', f', rest', found⟩ :=
        ih start.length shorter same before (rest ++ e :: back) rfl
      obtain ⟨m', cut, initial, found⟩ := found
      exact ⟨start', f', rest', m', by simpa using cut,
        initial.trans (List.prefix_append start (f :: rest)), found⟩

end Layout

end Proximity.Json
