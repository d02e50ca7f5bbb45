/-!
# Tokens

The host opens each transaction with a token packet, which carries a 4-bit packet identifier.
The token detector shows the identifier of the latest token at all times, and raises a pulse on
the tick it detects one.

## Main definitions

* `Token.detected`, `Token.held`: a token on this tick, and none on this tick
* `Token.OpensSetup`: this tick opens a SETUP transaction
-/

namespace ControlEndpoint

/-- What the token detector shows during a tick. -/
structure Token where
  /-- The identifier of the latest token. -/
  pid : UInt8 := 0
  /-- Whether that token was detected on this tick. -/
  isNew : Bool := false
deriving DecidableEq, Repr, Inhabited

namespace Token

/-- The identifier of a SETUP token. -/
def setupPid : UInt8 := 0b1101

/-- A token is detected on this tick; its identifier is the low four bits of `pid`. -/
def detected (pid : UInt8) : Token where
  pid := pid % 16
  isNew := true

/-- No token is detected; the low four bits of `pid` identify the latest one. -/
def held (pid : UInt8) : Token where
  pid := pid % 16
  isNew := false

/-- A new token opens a SETUP transaction if its identifier, in all its bits, is that of SETUP. -/
def OpensSetup (t : Token) : Prop := t.isNew = true ∧ t.pid = setupPid

instance (t : Token) : Decidable t.OpensSetup := inferInstanceAs (Decidable (_ ∧ _))

@[simp] theorem isNew_detected (pid : UInt8) : (detected pid).isNew = true := rfl

@[simp] theorem isNew_held (pid : UInt8) : (held pid).isNew = false := rfl

/-- A detected token opens a SETUP transaction by its low four bits. -/
theorem opensSetup_detected_iff {pid : UInt8} :
    (detected pid).OpensSetup ↔ pid % 16 = setupPid := by
  simp [OpensSetup, detected]

theorem not_opensSetup_held (pid : UInt8) : ¬ (held pid).OpensSetup := by
  simp [OpensSetup]

end Token

end ControlEndpoint
