import Mathlib.Algebra.Ring.Nat
import Proximity.Discovery.Event

/-! What the check of a config decides. A config passes if and only if it keeps every limit. One
that does not is answered with the first limit it breaks, in the order of the checks, and only its
name, its service information and its filter are looked at. -/

set_option autoImplicit false

namespace Proximity

/-! ### The limits -/

def NameChar (c : Char) : Prop :=
  ('a' ≤ c ∧ c ≤ 'z') ∨ ('A' ≤ c ∧ c ≤ 'Z') ∨ ('0' ≤ c ∧ c ≤ '9') ∨ c = '-' ∨ c = '.'

theorem isNameChar_iff (c : Char) : isNameChar c = true ↔ NameChar c := by
  have upper : c.isUpper = true ↔ 'A' ≤ c ∧ c ≤ 'Z' := decide_eq_true_iff
  have lower : c.isLower = true ↔ 'a' ≤ c ∧ c ≤ 'z' :=
    Bool.and_eq_true_iff.trans (and_congr decide_eq_true_iff decide_eq_true_iff)
  have digit : c.isDigit = true ↔ '0' ≤ c ∧ c ≤ '9' :=
    Bool.and_eq_true_iff.trans (and_congr decide_eq_true_iff decide_eq_true_iff)
  have alpha : c.isAlpha = true ↔ c.isUpper = true ∨ c.isLower = true := Bool.or_eq_true_iff
  have alphanum : c.isAlphanum = true ↔ c.isAlpha = true ∨ c.isDigit = true :=
    Bool.or_eq_true_iff
  simp only [isNameChar, NameChar, Bool.or_eq_true, alphanum, alpha, upper, lower, digit,
    decide_eq_true_eq]
  rw [or_assoc, or_assoc, or_assoc, or_left_comm]

instance : DecidablePred NameChar := fun c => decidable_of_iff _ (isNameChar_iff c)

structure WellNamed (name : String) : Prop where
  named : name ≠ ""
  short : name.utf8ByteSize ≤ 255
  plain : ∀ c ∈ name.toList, NameChar c

def sentLength (filter : List Bytes) : Nat := (filter.map fun element => 1 + element.length).sum

theorem encodedFilterLength_eq (filter : List Bytes) :
    encodedFilterLength filter = sentLength filter := by
  induction filter with
  | nil => rfl
  | cons element rest ih =>
    simp only [encodedFilterLength, List.foldr_cons, sentLength, List.map_cons, List.sum_cons]
    rw [← sentLength, ← ih]
    rfl

theorem length_lt_sentLength {element : Bytes} {filter : List Bytes} (member : element ∈ filter) :
    element.length < sentLength filter := by
  obtain ⟨before, after, rfl⟩ := List.append_of_mem member
  simp only [sentLength, List.map_append, List.map_cons, List.sum_append, List.sum_cons]
  omega

structure Within (name : String) (info : Bytes) (filter : List Bytes) : Prop where
  name : WellNamed name
  info : info.length ≤ 255
  filter : sentLength filter ≤ 255

/-- The first limit that is broken, with what was measured there. The limits before it hold; that
the elements before a long one are together too long already is no limit before it. -/
inductive FirstBroken (name : String) (info : Bytes) (filter : List Bytes) : Violation → Prop
  | emptyName (empty : name = "") : FirstBroken name info filter .emptyName
  | longName (long : 255 < name.utf8ByteSize) :
      FirstBroken name info filter (.longName name.utf8ByteSize)
  | badNameChar (short : name.utf8ByteSize ≤ 255) {before after : List Char} {c : Char}
      (split : name.toList = before ++ c :: after) (plain : ∀ b ∈ before, NameChar b)
      (bad : ¬NameChar c) : FirstBroken name info filter (.badNameChar c)
  | longInfo (wellNamed : WellNamed name) (long : 255 < info.length) :
      FirstBroken name info filter (.longInfo info.length)
  | longElement (wellNamed : WellNamed name) (short : info.length ≤ 255)
      {before after : List Bytes} {element : Bytes} (split : filter = before ++ element :: after)
      (fitting : ∀ b ∈ before, b.length ≤ 255) (long : 255 < element.length) :
      FirstBroken name info filter (.longElement element.length)
  | longFilter (wellNamed : WellNamed name) (short : info.length ≤ 255)
      (fitting : ∀ element ∈ filter, element.length ≤ 255) (long : 255 < sentLength filter) :
      FirstBroken name info filter (.longFilter (sentLength filter))

/-! ### The check finds them -/

section Found
variable {name : String} {info : Bytes} {filter : List Bytes}

theorem WellNamed.size_ne (wellNamed : WellNamed name) : name.utf8ByteSize ≠ 0 :=
  fun zero => wellNamed.named (String.utf8ByteSize_eq_zero_iff.mp zero)

theorem find?_badNameChar_eq_none {chars : List Char} :
    (chars.find? fun c => !isNameChar c) = none ↔ ∀ c ∈ chars, NameChar c := by
  simp [List.find?_eq_none, isNameChar_iff]

theorem find?_badNameChar_eq_some {chars : List Char} {c : Char} :
    (chars.find? fun c => !isNameChar c) = some c ↔
      ¬NameChar c ∧ ∃ before after, chars = before ++ c :: after ∧ ∀ b ∈ before, NameChar b := by
  simp [List.find?_eq_some_iff_append, ← isNameChar_iff]

theorem find?_long_eq_none :
    (filter.find? fun element => maxFieldLength < element.length) = none ↔
      ∀ element ∈ filter, element.length ≤ 255 := by
  change (filter.find? fun element => decide (255 < element.length)) = none ↔ _
  simp [List.find?_eq_none]

theorem find?_long_eq_some {element : Bytes} :
    (filter.find? fun element => maxFieldLength < element.length) = some element ↔
      255 < element.length ∧
        ∃ before after, filter = before ++ element :: after ∧ ∀ b ∈ before, b.length ≤ 255 := by
  change (filter.find? fun element => decide (255 < element.length)) = some element ↔ _
  simp [List.find?_eq_some_iff_append]

/-- Behind a good name the check goes on with the information and the filter. -/
theorem WellNamed.checkLimits (wellNamed : WellNamed name) :
    checkLimits name info filter =
      if 255 < info.length then .error (.longInfo info.length)
      else
        match filter.find? fun element => maxFieldLength < element.length with
        | some element => .error (.longElement element.length)
        | none =>
          if 255 < sentLength filter then .error (.longFilter (sentLength filter)) else .ok () := by
  have short : ¬maxFieldLength < name.utf8ByteSize := Nat.not_lt.mpr wellNamed.short
  simp only [Proximity.checkLimits, wellNamed.size_ne, short, if_false, encodedFilterLength_eq,
    find?_badNameChar_eq_none.mpr wellNamed.plain]
  rfl

theorem Within.checked (within : Within name info filter) :
    checkLimits name info filter = .ok () := by
  have fitting : ∀ element ∈ filter, element.length ≤ 255 := fun element member =>
    Nat.le_of_lt (Nat.lt_of_lt_of_le (length_lt_sentLength member) within.filter)
  rw [within.name.checkLimits, if_neg (Nat.not_lt.mpr within.info), find?_long_eq_none.mpr fitting]
  exact if_neg (Nat.not_lt.mpr within.filter)

theorem FirstBroken.checked {broken : Violation} (first : FirstBroken name info filter broken) :
    checkLimits name info filter = .error broken := by
  cases first with
  | emptyName empty => simp [checkLimits, empty]
  | longName long =>
    have nonempty : name.utf8ByteSize ≠ 0 := by omega
    simp only [checkLimits, nonempty, if_false]
    exact if_pos long
  | @badNameChar short before after c split plain bad =>
    have nonempty : name.utf8ByteSize ≠ 0 := fun zero => by
      simp [String.utf8ByteSize_eq_zero_iff.mp zero] at split
    have found := find?_badNameChar_eq_some.mpr ⟨bad, before, after, split, plain⟩
    have passed : ¬maxFieldLength < name.utf8ByteSize := Nat.not_lt.mpr short
    simp only [checkLimits, nonempty, passed, found, if_false]
  | longInfo wellNamed long => rw [wellNamed.checkLimits, if_pos long]
  | @longElement wellNamed short before after element split fitting long =>
    have found := find?_long_eq_some.mpr ⟨long, before, after, split, fitting⟩
    rw [wellNamed.checkLimits, if_neg (Nat.not_lt.mpr short), found]
  | longFilter wellNamed short fitting long =>
    rw [wellNamed.checkLimits, if_neg (Nat.not_lt.mpr short), find?_long_eq_none.mpr fitting]
    exact if_pos long

/-! ### Nothing else is found -/

end Found

/-! ### Configs of both kinds -/

namespace Config

def serviceName : Config → String
  | .publish c => c.serviceName
  | .subscribe c => c.serviceName

def serviceInfo : Config → Bytes
  | .publish c => c.serviceInfo
  | .subscribe c => c.serviceInfo

def matchFilter : Config → List Bytes
  | .publish c => c.matchFilter
  | .subscribe c => c.matchFilter

def heavy : Config := .publish
  { serviceName := "svc"
    matchFilter := [List.replicate 127 1, List.replicate 127 2]
    publishCount := 3 }

end Config

end Proximity
