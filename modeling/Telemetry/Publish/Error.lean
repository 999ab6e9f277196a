/-!
# Failed publish calls
-/
namespace Telemetry

inductive PublishError where
  | io (detail : String)
  | rejected (status : Nat) (reason : String)
  | other (text : String)
deriving DecidableEq, Repr

def PublishError.message : PublishError → String
  | io detail => "I/O error: " ++ detail
  | rejected status reason =>
    "backend rejected metrics (status " ++ Nat.repr status ++ "): " ++ reason
  | other text => text

end Telemetry
