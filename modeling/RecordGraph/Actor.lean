/-!
# Acting principals

Every change names the user who makes it.  An external actor is a trusted integration, which the
restrictions on type pairs do not bind.
-/

namespace RecordGraph

structure Actor where
  userId : Int
  external : Bool
deriving DecidableEq, Repr, Inhabited

namespace Actor

def internal (userId : Int) : Actor := ⟨userId, false⟩

def integration (userId : Int) : Actor := ⟨userId, true⟩

end Actor

end RecordGraph
