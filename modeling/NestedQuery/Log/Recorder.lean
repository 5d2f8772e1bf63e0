import NestedQuery.Log.Entry

/-!
# Scopes and recorders

A scope brackets an operation: an opening entry, and one closing entry that
tells how the operation ended.  The closing entry has the fields of the scope
and what its owner adds, except when the scope is dropped: then it gives a
reason alone.

An open scope is held by a guard.  However the scope ends, its guard goes away
afterwards, and a guard that nobody has completed logs that its scope was
dropped.

A recorder writes entries from a minimum severity on and holds at most one open
scope.  Opening a scope while another is open drops the other, after the new
one has begun.
-/

namespace NestedQuery

namespace Log

structure Scope where
  name : String
  fields : List (String × String) := []
  deriving DecidableEq

/-- How a scope ends. -/
inductive Closing
  /-- With the milliseconds it took. -/
  | complete (elapsed : String) (extra : List (String × String))
  /-- `caller` tells whether the caller's input is to blame. -/
  | fail (reason : String) (caller : Bool)
  | drop
  deriving DecidableEq

/-- A scope in use. -/
structure Guard where
  scope : Scope
  completed : Bool := false
  deriving DecidableEq

namespace Scope

def opening (scope : Scope) : Entry :=
  ⟨.info, scope.name ++ "_BEGIN", scope.fields⟩

/-- The closing entry. -/
def closing (scope : Scope) : Closing → Entry
  | .complete elapsed extra =>
      ⟨.info, scope.name ++ "_COMPLETE",
        scope.fields ++ extra ++ [("elapsed_ms", elapsed)]⟩
  | .fail reason caller =>
      ⟨if caller then .warn else .error, scope.name ++ "_FAILED",
        scope.fields ++ [("reason", reason)]⟩
  | .drop =>
      ⟨.warn, scope.name ++ "_INCOMPLETE",
        [("reason", "scope dropped without completion")]⟩

/-- Begins a scope. -/
def enter (scope : Scope) : Guard × List Entry := ({ scope }, [scope.opening])

end Scope

namespace Guard

/-- What the owner of a scope does to end it; one who drops it does nothing. -/
def finish (guard : Guard) : Closing → Guard × List Entry
  | .drop => (guard, [])
  | closing => ({ guard with completed := true }, [guard.scope.closing closing])

/-- What is logged as a guard goes away. -/
def release (guard : Guard) : List Entry :=
  if guard.completed then [] else [guard.scope.closing .drop]

/-- What is logged from a scope's end on. -/
def close (guard : Guard) (closing : Closing) : List Entry :=
  let (finished, entries) := guard.finish closing
  entries ++ finished.release

end Guard

structure Recorder where
  least : Severity := .info
  scope : Option Guard := none
  deriving DecidableEq

namespace Recorder

/-- The lines of the entries that reach the minimum severity. -/
def write (recorder : Recorder) (entries : List Entry) : Lines :=
  written recorder.least entries

/-- What is logged as the open scope ends, if there is one. -/
def ending (recorder : Recorder) (closing : Closing) : List Entry :=
  (recorder.scope.map fun guard => guard.close closing).getD []

/-- Opens a scope and gives the entries of doing so. -/
def openScope (recorder : Recorder) (scope : Scope) : Recorder × List Entry :=
  let (guard, entries) := scope.enter
  ({ recorder with scope := some guard }, entries ++ recorder.ending .drop)

/-- Closes the open scope, if there is one, and gives the entries of doing so. -/
def close (recorder : Recorder) (closing : Closing) : Recorder × List Entry :=
  ({ recorder with scope := none }, recorder.ending closing)

end Recorder

end Log

end NestedQuery
