import FederatedCatalog.Failure
import FederatedCatalog.Tree.Growth

namespace FederatedCatalog

/-- One call of a connector: what it adds to the node it is handed, and the failure that it ends
with, if it does. -/
structure Attempt where
  additions : List Addition
  failure? : Option Failure

/-- A connector, told from others by its serial number: its own name, and what it does when it is
called, by the number of earlier calls. -/
structure Connector where
  serial : Nat
  name : String
  attempt : Nat → Attempt

/-- How often each connector has been called, by serial number. -/
structure CallCounts where
  of : Nat → Nat

namespace CallCounts

def zero : CallCounts :=
  ⟨fun _ => 0⟩

def set (calls : CallCounts) (serial count : Nat) : CallCounts :=
  ⟨fun other => if other = serial then count else calls.of other⟩

@[simp] theorem of_set_self (calls : CallCounts) (serial count : Nat) :
    (calls.set serial count).of serial = count := by
  simp [set]

theorem of_set_of_ne (calls : CallCounts) {serial other : Nat} (count : Nat) (h : other ≠ serial) :
    (calls.set serial count).of other = calls.of other := by
  simp [set, h]

end CallCounts

end FederatedCatalog
