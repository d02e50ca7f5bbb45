import ControlEndpoint.HandshakeSet

/-!
# The text of a handshake set

A handshake set is written as the names of its handshakes in the order of their lines, and after
them the bits of its other lines as one hexadecimal number.  The empty set is written as the
number zero.

## Main definitions

* `HandshakeSet.names`: the names of the handshakes in a set
* `HandshakeSet.text`: the text of a set
-/

namespace ControlEndpoint

/-- The name of a handshake. -/
def Handshake.name : Handshake → String
  | .ack => "ACK"
  | .nak => "NAK"
  | .stall => "STALL"

namespace HandshakeSet

/-- The names of the handshakes in a set, in the order of their lines. -/
def names (s : HandshakeSet) : List String :=
  (Handshake.all.filter fun h => h.line ∈ s).map Handshake.name

/-- A number in hexadecimal, with the mark `0x` and lower-case digits. -/
def hexadecimal (n : Nat) : String := "0x" ++ String.ofList (Nat.toDigits 16 n)

/-- The names, and the bits of the other lines where there are any. -/
def parts (s : HandshakeSet) : List String :=
  if s.unknown = ∅ then s.names else s.names ++ [hexadecimal s.unknown.bits.toNat]

/-- The text of a handshake set. -/
def text (s : HandshakeSet) : String :=
  let inner := if s.parts = [] then hexadecimal 0 else " | ".intercalate s.parts
  "Handshakes(" ++ inner ++ ")"

example : text ∅ = "Handshakes(0x0)" := by cbv

example : text { bits := 0x2d } = "Handshakes(ACK | STALL | 0x28)" := by cbv

end HandshakeSet

end ControlEndpoint
