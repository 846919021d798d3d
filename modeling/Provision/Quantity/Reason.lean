import Provision.Text.Quoted

/-!
# Why a text is no quantity
-/

namespace Provision.Quantity

inductive Reason where
  | empty
  | noNumber
  | unknownUnit (unit : String)
  | notANumber
  | negative
  | overflow
  deriving DecidableEq, Repr

def Reason.message : Reason → String
  | .empty => "empty value"
  | .noNumber => "missing numeric part"
  | .unknownUnit unit => "unknown unit " ++ Text.quoted unit
  | .notANumber => "not a number"
  | .negative => "must be a non-negative number"
  | .overflow => "value overflows"

/-- The reasons that lie in the form of the text, and not in the size of the number. -/
def Reason.IsSyntactic : Reason → Prop
  | .empty | .noNumber | .unknownUnit _ | .notANumber => True
  | .negative | .overflow => False

end Provision.Quantity
