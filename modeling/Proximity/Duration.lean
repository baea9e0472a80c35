import Proximity.Json.Record

/-! Spans of time in whole seconds and nanoseconds. Nanoseconds beyond a second are carried over,
and a span of more than 64 bits of seconds does not exist. -/

set_option autoImplicit false

namespace Proximity

def nanosPerSecond : Nat := 1000000000

structure Duration where
  secs : Nat
  nanos : Nat
  secs_lt : secs < UInt64.size
  nanos_lt : nanos < nanosPerSecond
  deriving DecidableEq, Repr

namespace Duration

/-- The span of `secs` seconds and any number of nanoseconds. -/
def ofParts? (secs nanos : Nat) : Option Duration :=
  if fits : secs + nanos / nanosPerSecond < UInt64.size then
    some ⟨secs + nanos / nanosPerSecond, nanos % nanosPerSecond, fits,
      Nat.mod_lt _ (by decide)⟩
  else none

def total (d : Duration) : Nat := d.secs * nanosPerSecond + d.nanos

inductive Part where
  | secs
  | nanos
  deriving DecidableEq, Repr

def layout : Json.Layout Duration where
  Member := Part
  memberEq := inferInstance
  members := [.secs, .nanos]
  mem_members m := by cases m <;> simp
  label
    | .secs => "secs"
    | .nanos => "nanos"
  Value _ := Nat
  read
    | .secs => Json.natural UInt64.size "u64"
    | .nanos => Json.natural UInt32.size "u32"
  write _ := Json.writeNatural
  absent _ := none
  exclusive := true
  title := "struct Duration"
  arity := "struct Duration"
  get d
    | .secs => d.secs
    | .nanos => d.nanos
  build parts :=
    match ofParts? (parts .secs) (parts .nanos) with
    | some d => .ok d
    | none => .error .durationOverflow

end Duration

end Proximity
