import Sentel.Library.GoString

namespace Sentel
namespace Base

open Library

/-!
Messages and the identity of the objects that hold them.

A message is a record that is copied when it is delivered, so it is modelled
by its contents.  A queue and a session are shared by reference: the topic
tree, the queue service and a session may all hold the same queue object, and
a queue notifies the session object that observes it.  Several properties of
the broker turn on whether two places hold the same object, so these objects
are named by references, which are compared and never inspected.
-/

/-- The contents of `base.Message`.  The defaults are the zero values of the
source. -/
structure Message where
  topic : GoString := []
  packetId : UInt16 := 0
  direction : UInt8 := 0
  state : UInt8 := 0
  qos : UInt8 := 0
  dup : Bool := false
  retain : Bool := false
  payload : List UInt8 := []
  time : Nat := 0
  deriving DecidableEq, Repr

/-- The identity of a queue object. -/
abbrev QueueRef := Nat

/-- The identity of a session object of one connection. -/
abbrev ConnId := Nat

end Base
end Sentel
