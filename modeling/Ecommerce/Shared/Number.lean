set_option autoImplicit false

namespace Ecommerce

/-- What `parseInt` can answer. From 2 ^ 53 on only the size of an integer matters. -/
inductive Number where
  | integer (value : Int)
  | infinity
  | negativeInfinity
  | nan
  deriving DecidableEq

def Number.exceededBy (limit : Number) (attempt : Nat) : Bool :=
  match limit with
  | .integer value => value < attempt
  | .negativeInfinity => true
  | .infinity | .nan => false

def Number.equals (number : Number) (value : Nat) : Bool :=
  number = .integer value

end Ecommerce
