/-!
How far a request for some payload has come.
-/

namespace SchemaExplorer

universe u v

inductive LoadState (α : Type u) where
  | loading
  | loaded (payload : α)
  | failed (message : String)
deriving DecidableEq, Repr

namespace LoadState

variable {α : Type u} {β : Type v} {ε : Type v}

/-- A request that has come to its end; `message` puts an error into words. -/
def ofExcept (message : ε → String) : Except ε α → LoadState α
  | .ok payload => loaded payload
  | .error e => failed (message e)

def map (f : α → β) : LoadState α → LoadState β
  | loading => loading
  | loaded payload => loaded (f payload)
  | failed message => failed message

def isLoading : LoadState α → Bool
  | loading => true
  | _ => false

def payload? : LoadState α → Option α
  | loaded payload => some payload
  | _ => none

def errorMessage? : LoadState α → Option String
  | failed message => some message
  | _ => none

end LoadState

end SchemaExplorer
