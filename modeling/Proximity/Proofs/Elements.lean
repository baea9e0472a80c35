import Proximity.Proofs.Members

/-! A list of the values of all members, in the order in which they are written, is read like an
object with these members. -/

set_option autoImplicit false

namespace Proximity.Json

namespace Layout

variable {α : Type} {layout : Layout α} {forms : layout.Forms} {parts : layout.Parts}

variable (layout) in
def listFrom (index : Nat) (members : List layout.Member) (slots : layout.Slots) : Reader α :=
  fun text => close listEnd (layout.finish (layout.takeElements index members slots text))

theorem skips_listEnd : Skips listEnd := by
  intro text
  simp only [listEnd, skipBlank_skipBlank]

theorem skips_listFrom (index : Nat) (members : List layout.Member) (slots : layout.Slots) :
    Skips (layout.listFrom index members slots) := by
  intro text
  cases members with
  | nil =>
    cases assembled : layout.assemble slots <;>
      simp only [listFrom, takeElements, finish, assembled, close, skips_listEnd text]
  | cons m members => simp only [listFrom, takeElements, nextElement, skipBlank_skipBlank]

theorem takeElements_item {m : layout.Member} {item : Padded}
    (opens : ∃ c rest, item.value = c :: rest ∧ isBlank c = false ∧ c ≠ ']') (index : Nat)
    (members : List layout.Member) (slots : layout.Slots) (rest : List Char) :
    layout.takeElements index (m :: members) slots
        (apart (decide (index = 0)) (item.text ++ rest)) =
      (layout.read m (item.value ++ (item.after.text ++ rest))).bind fun result =>
        layout.takeElements (index + 1) members (slots.set m result.1) result.2 := by
  have padded : item.text ++ rest =
      item.before.text ++ (item.value ++ (item.after.text ++ rest)) := by simp [Padded.text]
  simp only [padded, takeElements, nextElement_apart opens, bind, Except.bind]
  rfl

abbrev Aligned (forms : layout.Forms) (parts : layout.Parts) (members : List layout.Member)
    (items : List Padded) : Prop :=
  List.Forall₂ (fun m item => forms m (parts m) item.value) members items

/-- The parts of all these members are kept, and then it goes on with the others. -/
theorem Legible.listFrom_chain (legible : layout.Legible forms) {members : List layout.Member}
    {items : List Padded} (aligned : Aligned forms parts members items)
    (others : List layout.Member) (ending : Bool → List Char) (bounds : Bounds (ending false))
    (index : Nat) (slots : layout.Slots) :
    ∃ kept : layout.Slots, (∀ m ∈ members, kept m = some (parts m)) ∧
      (∀ m, m ∉ members → kept m = slots m) ∧
      layout.listFrom index (members ++ others) slots
          (chain ending (decide (index = 0)) (items.map Padded.text)) =
        layout.listFrom (index + items.length) others kept
          (ending (decide (index + items.length = 0))) := by
  -- The index only says whether an element is the first one; after one more it is not.
  induction aligned generalizing index slots with
  | nil => exact ⟨slots, by simp, fun _ _ => rfl, rfl⟩
  | @cons m item members items form _ ih =>
    have reads := legible.reads form
    obtain ⟨kept, own, old, run⟩ := ih (index + 1) (slots.set m (parts m))
    have more : decide (index + 1 = 0) = false := by simp
    rw [more] at run
    refine ⟨kept, ?_, ?_, ?_⟩
    · -- A member that comes again keeps what its last item gives it, which is the same part.
      intro other member
      by_cases later : other ∈ members
      · exact own other later
      · obtain rfl := (List.mem_cons.1 member).resolve_right later
        rw [old other later, set_own]
    · intro other unlike
      rw [old other (List.not_mem_of_not_mem_cons unlike),
        set_other _ _ (List.ne_of_not_mem_cons unlike).symm]
    · have taken := reads.takes _ (item.after.bounds (bounds_chain bounds (items.map Padded.text)))
      have step : layout.listFrom index (m :: (members ++ others)) slots
          (apart (decide (index = 0)) (item.text ++ chain ending false (items.map Padded.text))) =
          layout.listFrom (index + 1) (members ++ others) (slots.set m (parts m))
            (item.after.text ++ chain ending false (items.map Padded.text)) := by
        rw [listFrom, takeElements_item reads.opens, taken]
        rfl
      rw [List.cons_append, List.map_cons, chain, step, (skips_listFrom _ _ _).blanks, run]
      simp only [List.length_cons, Nat.add_assoc, Nat.add_comm 1]

theorem reader_listText (before lead : Blanks) (items : List Padded) (rest : List Char) :
    layout.reader (before.text ++ (listText lead items ++ rest)) =
      layout.listFrom 0 layout.members (Slots.empty layout)
        (chain (fun _ => ']' :: rest) true (items.map Padded.text)) := by
  rw [listText_eq_chain]
  simp only [reader, Blanks.skip, skipBlank_cons _ (show isBlank '[' = false from rfl),
    if_neg (show '[' ≠ '{' by decide), if_pos]
  exact (skips_listFrom _ _ _).blanks lead _

theorem Legible.reader_aligned (legible : layout.Legible forms) {items : List Padded}
    (aligned : Aligned forms parts layout.members items) {value : α}
    (built : layout.build parts = .ok value) (before lead : Blanks) (rest : List Char) :
    layout.reader (before.text ++ (listText lead items ++ rest)) = .ok (value, rest) := by
  obtain ⟨kept, own, _, run⟩ := legible.listFrom_chain aligned [] (fun _ => ']' :: rest) (by simp) 0
    (Slots.empty layout)
  rw [List.append_nil] at run
  have settled (m : layout.Member) : layout.settled kept m = some (parts m) := by
    simp [Layout.settled, own m (layout.mem_members m)]
  have assembled := (assemble_of_settled settled).trans built
  rw [reader_listText]
  refine run.trans ?_
  simp [listFrom, takeElements, finish, assembled, close, listEnd,
    skipBlank_cons _ (show isBlank ']' = false from rfl)]

/-- A value that its member cannot have makes the list refused, whatever stands behind it. -/
theorem Legible.mismatches_element (legible : layout.Legible forms)
    {members others : List layout.Member} {m : layout.Member}
    (order : layout.members = members ++ m :: others) {front : List Padded}
    (aligned : Aligned forms parts members front) {item : Padded}
    (opens : ∃ c rest, item.value = c :: rest ∧ isBlank c = false ∧ c ≠ ']')
    (fails : ∀ rest, Bounds rest → Misfits (layout.read m (item.value ++ rest)))
    (back : List Padded) (before lead : Blanks) (rest : List Char) :
    Mismatches (layout.reader (before.text ++
      (listText lead (front ++ item :: back) ++ rest))) := by
  let tail := chain (fun _ => ']' :: rest) false (back.map Padded.text)
  have bounds : Bounds tail := bounds_chain (by simp) _
  obtain ⟨kept, _, _, run⟩ := legible.listFrom_chain aligned (m :: others)
    (fun first => apart first (item.text ++ tail)) (by simp [apart]) 0 (Slots.empty layout)
  rw [reader_listText, List.map_append, chain_append, order]
  refine run ▸ ?_
  rw [listFrom, takeElements_item opens]
  exact ((fails _ (item.after.bounds bounds)).bind _).finish.close listEnd

end Layout

end Proximity.Json
