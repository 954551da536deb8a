import Sentel.Library.GoMap
import Sentel.Library.GoString

namespace Sentel
namespace Discovery

open Library

/-!
# Service discovery

Running services are announced as children of one node of a zookeeper tree.
The node of a service carries the name of the service and holds its record.
Zookeeper decides which names a node may have.  All that matters about this
here is that the empty name is not one of them.
-/

structure Service where
  name : GoString := []
  id : GoString := []
  ip : GoString := []
  port : Nat := 0
  deriving DecidableEq

/-- The names that a child may have. -/
structure NodeNames where
  accepts : GoString -> Bool
  empty : accepts [] = false

def anyName : NodeNames where
  accepts := fun name => name ≠ []
  empty := rfl

/-- The children of the root path. -/
abbrev Nodes : Type := AList (fun _ : GoString => Service)

/-- `RegisterService` creates a node, which is refused if the name is taken. -/
def registerService (names : NodeNames) (s : Service) (nodes : Nodes) : Option Nodes :=
  if names.accepts s.name ∧ nodes.lookup s.name = none then some (nodes.insert s.name s) else none

def removeService (names : NodeNames) (s : Service) (nodes : Nodes) : Nodes :=
  if names.accepts s.name then nodes.erase s.name else nodes

end Discovery
end Sentel
