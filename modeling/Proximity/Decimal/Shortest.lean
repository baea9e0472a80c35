/-! The shortest decimal of a floating-point number: the fewest digits that read back as the same
number, and of those the nearest. Everything is decided on natural numbers by cross-multiplication.
-/

set_option autoImplicit false

namespace Proximity.Decimal

structure Binary where
  mantissa : Nat
  scale : Int
  /-- Just above a power of two the neighbour below is half as far away as the one above. -/
  narrowBelow : Bool

def Binary.ofBits (bits : UInt64) : Binary :=
  let exponent := ((bits >>> 52) &&& 0x7FF).toNat
  let fraction := (bits &&& 0xFFFFFFFFFFFFF).toNat
  if exponent = 0 then ⟨fraction, -1074, false⟩
  else ⟨0x10000000000000 + fraction, (exponent : Int) - 1075, fraction = 0 && 1 < exponent⟩

structure Numeral where
  digits : Nat
  exponent : Int
  deriving DecidableEq, Repr

/-- Order of `a * 10 ^ i` and `b * 2 ^ j`. -/
def compareScaled (a : Nat) (i : Int) (b : Nat) (j : Int) : Ordering :=
  compare (a * Nat.pow 10 i.toNat * Nat.pow 2 (-j).toNat)
    (b * Nat.pow 2 j.toNat * Nat.pow 10 (-i).toNat)

/-- Whether a decimal lies among the reals that round to `x`; the ends of that interval belong to
it exactly when the mantissa is even. -/
def Binary.admits (x : Binary) (d : Numeral) : Bool :=
  -- Quarters of the unit, so that half a unit and half of a narrow one are whole numbers.
  let low := if x.narrowBelow then 4 * x.mantissa - 1 else 4 * x.mantissa - 2
  let high := 4 * x.mantissa + 2
  let closed := x.mantissa % 2 = 0
  let fromBelow := compareScaled d.digits d.exponent low (x.scale - 2)
  let fromAbove := compareScaled d.digits d.exponent high (x.scale - 2)
  (fromBelow = .gt || (closed && fromBelow = .eq)) &&
    (fromAbove = .lt || (closed && fromAbove = .eq))

def Binary.floorOn (x : Binary) (grid : Int) : Nat :=
  (x.mantissa * Nat.pow 2 x.scale.toNat * Nat.pow 10 (-grid).toNat) /
    (Nat.pow 2 (-x.scale).toNat * Nat.pow 10 grid.toNat)

/-- The nearer of the two multiples of `10 ^ grid` around `x` that reads back as `x`; a tie goes
to the even one. -/
def Binary.nearestOn (x : Binary) (grid : Int) : Option Numeral :=
  let floor := x.floorOn grid
  let below : Numeral := ⟨floor, grid⟩
  let above : Numeral := ⟨floor + 1, grid⟩
  match x.admits below, x.admits above with
  | false, false => none
  | true, false => some below
  | false, true => some above
  | true, true =>
    match compareScaled (2 * floor + 1) grid (2 * x.mantissa) x.scale with
    | .lt => some above
    | .gt => some below
    | .eq => some (if floor % 2 = 0 then below else above)

def digitCount (n : Nat) : Nat := (Nat.toDigits 10 n).length

def Binary.magnitude (x : Binary) : Int :=
  let whole := x.mantissa * Nat.pow 2 x.scale.toNat
  let divisor := Nat.pow 2 (-x.scale).toNat
  if divisor ≤ whole then digitCount (whole / divisor)
  else
    let lift := digitCount divisor - digitCount whole
    if divisor ≤ whole * Nat.pow 10 lift then 1 - (lift : Int) else -(lift : Int)

def Numeral.strip (d : Numeral) : Numeral :=
  let kept := (Nat.toDigits 10 d.digits).reverse.dropWhile (· = '0')
  let dropped := digitCount d.digits - kept.length
  ⟨d.digits / Nat.pow 10 dropped, d.exponent + dropped⟩

/-- The coarsest grid on which a neighbour of `x` reads back as `x`. Seventeen digits are enough;
the last alternative is the exact value. -/
def Binary.shortest (x : Binary) : Numeral :=
  let k := x.magnitude
  let exact : Numeral :=
    if 0 ≤ x.scale then ⟨x.mantissa * Nat.pow 2 x.scale.toNat, 0⟩
    else ⟨x.mantissa * Nat.pow 5 (-x.scale).toNat, x.scale⟩
  (((List.range 17).findSome? fun (n : Nat) => x.nearestOn (k - (n + 1))).getD exact).strip

/-- Digits with a point after the first `whole` of them, or after zeros that are put in front or
behind. -/
def positional (digits : List Char) (whole : Int) : List Char :=
  if whole ≤ 0 then '0' :: '.' :: List.replicate (-whole).toNat '0' ++ digits
  else if digits.length ≤ whole.toNat then
    digits ++ List.replicate (whole.toNat - digits.length) '0' ++ ['.', '0']
  else digits.take whole.toNat ++ '.' :: digits.drop whole.toNat

def scientific (digits : List Char) (power : Int) : List Char :=
  let fraction := match digits.drop 1 with
    | [] => []
    | rest => '.' :: rest
  let sign := if power < 0 then '-' else '+'
  digits.take 1 ++ fraction ++ 'e' :: sign :: Nat.toDigits 10 power.natAbs

def Numeral.render (d : Numeral) : List Char :=
  let digits := Nat.toDigits 10 d.digits
  let power := d.exponent + digits.length - 1
  if -5 ≤ power ∧ power ≤ 15 then positional digits (power + 1) else scientific digits power

/-- A finite number with the fewest digits that read back; a zero keeps its sign. -/
def render (x : Float) : String :=
  let bits := x.toBits
  let binary := Binary.ofBits bits
  let magnitude := if binary.mantissa = 0 then ['0', '.', '0'] else binary.shortest.render
  String.ofList (if bits >>> 63 = 1 then '-' :: magnitude else magnitude)

end Proximity.Decimal
