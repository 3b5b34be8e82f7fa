import Intake.Http.Target
import Intake.Text.Numeral

/-!
The parameters of an upload, as the query of a request gives them.

Pairs are taken from left to right, and the first fault is told. A key that is not known
is passed over; one that is known may come only once.
-/

namespace Intake.Http

/-- The parameters of an upload that is stored. -/
structure UploadParameters where
  /-- The ceiling for this upload in MiB. -/
  limitMib : Option Nat := none
  /-- The name to store under, in place of the client's. -/
  saveAs : Option String := none
  /-- The directory to store in. -/
  saveIn : Option String := none
deriving DecidableEq, Repr

/-- Why a query does not give parameters. -/
inductive QueryFault where
  | duplicate (key : String)
  | limit (fault : Text.NumeralFault)
deriving DecidableEq, Repr

/-- What is told of a query that does not give parameters. -/
def QueryFault.message (fault : QueryFault) : String :=
  "Failed to deserialize query string: " ++
  match fault with
  | duplicate key => "duplicate field `" ++ key ++ "`"
  | limit fault => "limit_mib: " ++ fault.message

namespace UploadParameters

/-- Takes a limit. -/
def takeLimit (p : UploadParameters) (value : String) : Except QueryFault UploadParameters :=
  if p.limitMib.isSome then .error (.duplicate "limit_mib")
  else
    match Text.readNumeral value with
    | .ok n => .ok { p with limitMib := some n }
    | .error fault => .error (.limit fault)

/-- Takes a pair of a query. -/
def take (p : UploadParameters) (pair : String × String) : Except QueryFault UploadParameters :=
  match pair.1 with
  | "limit_mib" => p.takeLimit pair.2
  | "save_as" =>
    if p.saveAs.isSome then .error (.duplicate "save_as")
    else .ok { p with saveAs := some pair.2 }
  | "save_in" =>
    if p.saveIn.isSome then .error (.duplicate "save_in")
    else .ok { p with saveIn := some pair.2 }
  | _ => .ok p

/-- The parameters that pairs give. -/
def ofPairs (pairs : List (String × String)) : Except QueryFault UploadParameters :=
  pairs.foldlM take {}

/-- The limit that pairs give, where no other parameter is known. -/
def limitOfPairs (pairs : List (String × String)) : Except QueryFault (Option Nat) :=
  (ofPairs (pairs.filter fun pair => pair.1 == "limit_mib")).map limitMib

end UploadParameters

end Intake.Http
