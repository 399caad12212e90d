import AppLauncher.Subsidy.Assessment
import AppLauncher.Subsidy.Exchange

/-!
The operations of the backend. Each names what it asks for, and the kind of answer that it gets.
-/
namespace AppLauncher

inductive Operation where
  | list
  | save (set : CriteriaSet)
  | delete (id : String)
  | select (id : String)
  | lastSelection
  | globalSelection
  | setGlobal (id : String)
  | extract (query : RegulationQuery)
  | assess (query : ApplicationQuery)
  | assessCompletely (query : ApplicationQuery)
deriving DecidableEq

namespace Operation

/-- The answer to an operation. Some answers say nothing but that it was done. -/
abbrev Answer : Operation → Type
  | list => List CriteriaSet
  | save _ => Receipt
  | delete _ => Unit
  | select _ => Unit
  | lastSelection => SelectionReply
  | globalSelection => SelectionReply
  | setGlobal _ => Unit
  | extract _ => CriteriaReply
  | assess _ => Assessment
  | assessCompletely _ => CompleteAssessment

end Operation

end AppLauncher
