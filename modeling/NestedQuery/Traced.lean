import NestedQuery.Counters
import NestedQuery.Log.Entry
import NestedQuery.Query.Basic

/-!
# Traced computations

Everything an operation does besides returning a value is data: the queries it
sends, the amounts it adds to the counters and the entries it logs, each in the
order of their occurrence.  A traced computation returns its value together
with these effects, so the effects can never change the value.
-/

namespace NestedQuery

structure Effects where
  sent : List Query := []
  counted : Counters := {}
  logged : List Log.Entry := []
  deriving DecidableEq

instance : Append Effects where
  append first second :=
    { sent := first.sent ++ second.sent
      counted := first.counted + second.counted
      logged := first.logged ++ second.logged }

/-- A value and the effects of computing it. -/
structure Traced (A : Type) where
  value : A
  effects : Effects := {}

namespace Traced

instance : Monad Traced where
  pure value := { value }
  bind first next :=
    let second := next first.value
    ⟨second.value, first.effects ++ second.effects⟩

def send (query : Query) : Traced Unit := ⟨(), { sent := [query] }⟩

def count (amount : Counters) : Traced Unit := ⟨(), { counted := amount }⟩

def log (entry : Log.Entry) : Traced Unit := ⟨(), { logged := [entry] }⟩

end Traced

end NestedQuery
