import Mathlib.Data.List.Forall2
import Proximity.Json.Record

/-! What JSON texts look like, whoever reads them: blanks between tokens, the ways to spell a
string, numbers, and values of any depth. A text is put together from its parts and the blanks
around them, so that it can be taken apart again in the same places. -/

set_option autoImplicit false

namespace Proximity.Json

structure Blanks where
  text : List Char
  blank : ∀ c ∈ text, c = ' ' ∨ c = '\n' ∨ c = '\t' ∨ c = '\r'

def Blanks.none : Blanks := ⟨[], by simp⟩

/-! ### Strings -/

def HexDigit (c : Char) (value : Nat) : Prop :=
  "0123456789abcdef".toList[value]? = some c ∨ "0123456789ABCDEF".toList[value]? = some c

inductive CodeUnit : List Char → Nat → Prop where
  | digits {a b c d : Char} {i j k l : Nat} : HexDigit a i → HexDigit b j → HexDigit c k →
      HexDigit d l → CodeUnit [a, b, c, d] (((i * 16 + j) * 16 + k) * 16 + l)

def letterEscapes : List (Char × Char) :=
  [('"', '"'), ('\\', '\\'), ('/', '/'), ('b', '\x08'), ('f', '\x0c'), ('n', '\n'), ('r', '\r'),
    ('t', '\t')]

structure Plain (c : Char) : Prop where
  visible : 0x20 ≤ c.toNat
  notQuote : c ≠ '"'
  notBackslash : c ≠ '\\'

/-- The first text, between quotes, is one way to write the second. -/
inductive Spells : List Char → List Char → Prop where
  | done : Spells [] []
  | plain {c : Char} {body chars : List Char} : Plain c → Spells body chars →
      Spells (c :: body) (c :: chars)
  | letter {letter c : Char} {body chars : List Char} : (letter, c) ∈ letterEscapes →
      Spells body chars → Spells ('\\' :: letter :: body) (c :: chars)
  | unit {digits body chars : List Char} {code : Nat} : CodeUnit digits code →
      code < 0xD800 ∨ 0xDFFF < code → Spells body chars →
      Spells ('\\' :: 'u' :: (digits ++ body)) (Char.ofNat code :: chars)
  | pair {first second body chars : List Char} {high low : Nat} : CodeUnit first high →
      0xD800 ≤ high → high ≤ 0xDBFF → CodeUnit second low → 0xDC00 ≤ low → low ≤ 0xDFFF →
      Spells body chars →
      Spells ('\\' :: 'u' :: (first ++ '\\' :: 'u' :: (second ++ body)))
        (Char.ofNat (0x10000 + (high - 0xD800) * 0x400 + (low - 0xDC00)) :: chars)

/-- What may stand between quotes when nobody asks which characters it means: code units need not
make up characters. -/
inductive Quotable : List Char → Prop where
  | done : Quotable []
  | plain {c : Char} {body : List Char} : Plain c → Quotable body → Quotable (c :: body)
  | letter {letter c : Char} {body : List Char} : (letter, c) ∈ letterEscapes → Quotable body →
      Quotable ('\\' :: letter :: body)
  | unit {digits body : List Char} {code : Nat} : CodeUnit digits code → Quotable body →
      Quotable ('\\' :: 'u' :: (digits ++ body))

def quoted (body : List Char) : List Char := '"' :: (body ++ ['"'])

theorem Spells.quotable {body chars : List Char} (spells : Spells body chars) : Quotable body := by
  induction spells with
  | done => exact .done
  | plain plain _ ih => exact .plain plain ih
  | letter listed _ ih => exact .letter listed ih
  | unit digits _ _ ih => exact .unit digits ih
  | pair first _ _ second _ _ _ ih => exact .unit first (.unit second ih)

/-! ### Numbers -/

def Digits (text : List Char) : Prop := text ≠ [] ∧ ∀ c ∈ text, c.isDigit = true

inductive WholePart : List Char → Prop where
  | zero : WholePart ['0']
  | positive {c : Char} {others : List Char} : c.isDigit = true → c ≠ '0' →
      (∀ d ∈ others, d.isDigit = true) → WholePart (c :: others)

inductive FractionPart : List Char → Prop where
  | absent : FractionPart []
  | present {digits : List Char} : Digits digits → FractionPart ('.' :: digits)

inductive ExponentPart : List Char → Prop where
  | absent : ExponentPart []
  | present {letter : Char} {sign digits : List Char} : letter = 'e' ∨ letter = 'E' →
      sign = [] ∨ sign = ['+'] ∨ sign = ['-'] → Digits digits →
      ExponentPart (letter :: (sign ++ digits))

inductive NumberText : List Char → Prop where
  | parts {sign whole fraction exponent : List Char} : sign = [] ∨ sign = ['-'] →
      WholePart whole → FractionPart fraction → ExponentPart exponent →
      NumberText (sign ++ (whole ++ (fraction ++ exponent)))

/-! ### Values -/

structure Padded where
  before : Blanks
  value : List Char
  after : Blanks

def Padded.text (p : Padded) : List Char := p.before.text ++ (p.value ++ p.after.text)

structure Entry where
  before : Blanks
  key : List Char
  afterKey : Blanks
  beforeValue : Blanks
  value : List Char
  after : Blanks

namespace Entry

def tail (e : Entry) : List Char :=
  e.key ++ '"' :: (e.afterKey.text ++ ':' :: (e.beforeValue.text ++ (e.value ++ e.after.text)))

def text (e : Entry) : List Char := e.before.text ++ '"' :: e.tail

end Entry

def listText (lead : Blanks) (items : List Padded) : List Char :=
  '[' :: (lead.text ++ (separated (items.map Padded.text) ++ [']']))

def objectText (lead : Blanks) (entries : List Entry) : List Char :=
  '{' :: (lead.text ++ (separated (entries.map Entry.text) ++ ['}']))

/-- A JSON value of any kind and any depth. -/
inductive WellFormed : List Char → Prop where
  | null : WellFormed "null".toList
  | truth : WellFormed "true".toList
  | falsehood : WellFormed "false".toList
  | number {text : List Char} : NumberText text → WellFormed text
  | text {body : List Char} : Quotable body → WellFormed (quoted body)
  | list (lead : Blanks) {items : List Padded} : (∀ item ∈ items, WellFormed item.value) →
      WellFormed (listText lead items)
  | object (lead : Blanks) {entries : List Entry} : (∀ e ∈ entries, Quotable e.key) →
      (∀ e ∈ entries, WellFormed e.value) → WellFormed (objectText lead entries)

/-! ### Texts that stand for values -/

/-- Which texts stand for a value of a type. -/
abbrev Form (α : Type) := α → List Char → Prop

def Decimal : Form Nat := fun n text => text = (toString n).toList

def DecimalBelow (limit : Nat) : Form Nat := fun n text => n < limit ∧ Decimal n text

def BooleanForm : Form Bool := fun b text => text = (toString b).toList

/-- A string, however it is spelled. -/
def Quotes : Form (List Char) := fun chars text => ∃ body, Spells body chars ∧ text = quoted body

def ListForm {α : Type} (form : Form α) : Form (List α) := fun values text =>
  ∃ lead items, text = listText lead items ∧
    List.Forall₂ (fun value item => form value item.value) values items

def OptionForm {α : Type} (form : Form α) : Form (Option α)
  | none => fun text => text = "null".toList
  | some value => form value

end Proximity.Json
