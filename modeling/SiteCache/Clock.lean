import SiteCache.Action

/-!
# Clocks

A reading of the clocks is a wall time, which dates copies, and the nanoseconds on a steady clock,
which expire what is kept for a limited time.  The steady clock counts fewer than `2^63` seconds;
an expiry past its end is a fault.
-/

namespace SiteCache

/-- A reading of the wall clock and of the steady clock. -/
structure Clock where
  wall : Time
  steady : Nat

namespace Clock

/-- Seconds as nanoseconds. -/
def seconds (n : Nat) : Nat := n * 1000000000

/-- Milliseconds as nanoseconds. -/
def milliseconds (n : Nat) : Nat := n * 1000000

/-- The end of the steady clock. -/
def finish : Nat := seconds signedBound

/-- The point on the steady clock at which something expires that is kept from now on. -/
def expiry (now lifetime : Nat) : Except Fault Nat :=
  if now + lifetime < finish then .ok (now + lifetime) else .error .clock

/-- A value with the point on the steady clock from which on it is expired. -/
structure Lease (α : Type) where
  value : α
  expires : Nat
  deriving DecidableEq

/-- The lease has not expired. -/
def Lease.isLive {α : Type} (now : Nat) (l : Lease α) : Bool := now < l.expires

end Clock

end SiteCache
