import AppLauncher.Model.Basic

/-!
What a context offers: the models that carry its capability, in the order of the list.
-/
namespace AppLauncher

/-- What to offer when there are models but none of them carries the capability. -/
inductive EmptyMatch where
  | failClosed
  | showAll
deriving DecidableEq, Inhabited, Repr

namespace EmptyMatch

def name : EmptyMatch → String
  | failClosed => "fail_closed"
  | showAll => "show_all"

def all : List EmptyMatch := [.failClosed, .showAll]

def ofName? (name : String) : Option EmptyMatch := all.find? fun policy => policy.name == name

end EmptyMatch

namespace Model

/-- The models of a list that a context offers. -/
def offeredOf (models : List Model) (context : Context) (policy : EmptyMatch) : List Model :=
  let matching := models.filter (·.hasCapability context.capability)
  if matching.isEmpty ∧ policy = .showAll then models else matching

/-- The models that a context offers; none before a list is loaded. -/
def offered (models : Option (List Model)) (context : Context) (policy : EmptyMatch) :
    List Model :=
  offeredOf (models.getD []) context policy

end Model

end AppLauncher
