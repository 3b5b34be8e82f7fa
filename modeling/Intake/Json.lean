/-!
JSON values.
-/

namespace Intake

/-- A JSON value. The fields of an object keep their order. -/
inductive Json where
  | null
  | bool (b : Bool)
  | number (n : Nat)
  | string (s : String)
  | array (items : List Json)
  | object (fields : List (String × Json))
deriving Repr, Inhabited

end Intake
