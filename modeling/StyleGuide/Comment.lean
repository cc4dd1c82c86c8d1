import StyleGuide.Dict

/-!
What a documentation block says: a description and named parameters.
-/

namespace StyleGuide

/-- The value of a parameter. -/
inductive Value where
  /-- The parameter is named and nothing is said of it. -/
  | flag
  | text (t : Text)
  deriving DecidableEq, Repr

namespace Value

def isFlag : Value → Bool
  | flag => true
  | text _ => false

/-- The value as text, with `true` for a flag. -/
def read : Value → Text
  | flag => ['t', 'r', 'u', 'e']
  | text t => t

end Value

abbrev Parameters := Dict Value

structure Comment where
  description : Text
  parameters : Parameters
  deriving DecidableEq

def Comment.isEmpty (c : Comment) : Bool := c.description.isEmpty && c.parameters.isEmpty

end StyleGuide
