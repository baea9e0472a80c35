import Proximity.Json.Record

/-! Identifiers that the discovery service hands out, and the tokens that prove a right to use
one. -/

set_option autoImplicit false

namespace Proximity

@[ext]
structure ClientId where
  value : UInt32
  deriving DecidableEq, Repr, Inhabited

structure SessionId where
  value : UInt32
  deriving DecidableEq, Repr, Inhabited

/-- A token is told apart from others by where it was minted, and from its copies by nothing. -/
structure Token where
  mint : Nat
  deriving DecidableEq, Repr

namespace ClientId

def display (c : ClientId) : String := toString c.value.toNat

def write (c : ClientId) : List Char := Json.writeNatural c.value.toNat

def read : Json.Reader ClientId := fun text =>
  (Json.word32 text).map fun result => (⟨result.1⟩, result.2)

end ClientId

namespace SessionId

def display (s : SessionId) : String := toString s.value.toNat

def write (s : SessionId) : List Char := Json.writeNatural s.value.toNat

def read : Json.Reader SessionId := fun text =>
  (Json.word32 text).map fun result => (⟨result.1⟩, result.2)

end SessionId

def insertAscending (n : UInt32) : List UInt32 → List UInt32
  | [] => [n]
  | m :: rest => if n < m then n :: m :: rest else m :: insertAscending n rest

def ascending (numbers : List UInt32) : List UInt32 := numbers.foldr insertAscending []

def dropRepeated : List UInt32 → List UInt32
  | a :: b :: rest => if a = b then dropRepeated (b :: rest) else a :: dropRepeated (b :: rest)
  | short => short

/-- The clients among the given numbers, each once and in ascending order. -/
def ClientId.distinct (numbers : List UInt32) : List ClientId :=
  (dropRepeated (ascending numbers)).map ClientId.mk

def SessionId.sorted (numbers : List UInt32) : List SessionId :=
  (ascending numbers).map SessionId.mk

inductive Token.Source where
  | fresh
  | copyOf (index : Nat)
  deriving DecidableEq, Repr

/-- Make tokens one after another; each fresh one is minted at its own position. A copy of a token
that is not there is refused. -/
def Token.make? (made : List Token) : List Token.Source → Option (List Token)
  | [] => some made
  | .fresh :: rest => Token.make? (made ++ [⟨made.length⟩]) rest
  | .copyOf index :: rest => do
    let token ← made[index]?
    Token.make? (made ++ [token]) rest

def Token.equalities (tokens : List Token) : List (List Nat) :=
  tokens.map fun token => (tokens.zipIdx.filter fun entry => entry.1 = token).map (·.2)

end Proximity
