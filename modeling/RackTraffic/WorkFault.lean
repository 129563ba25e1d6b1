import RackTraffic.Result.Storage
import RackTraffic.Traffic.Storage

/-!
# What goes wrong in a directory

Running simulations, stacking matrices and comparing results all work through a directory, and fail
for the reasons gathered here.

An error message may be followed by its reasons, outermost first. `reasons` lists the texts of a
fault and of the faults behind it. A fault that only passes another on adds no text of its own.
-/

namespace RackTraffic

/-- Why a directory cannot be worked through. -/
inductive WorkFault where
  | output (fault : OutputFault)
  | log (fault : LogFault)
  /-- A log does not fit the network. -/
  | unfitLog (path : Path) (fault : Malformed)
  | result (fault : ResultFault)
  | io (error : IoError)
  deriving DecidableEq, Repr

def WorkFault.message : WorkFault → String
  | .output _ => "invalid output directory"
  | .log _ => "failed to read log file"
  | .unfitLog path _ => "invalid log file " ++ path.text
  | .result _ => "failed to read simulation result"
  | .io _ => "IO error"

/-! ## Reasons -/

def Malformed.reasons : Malformed → List String
  | .atLine line fault => Malformed.message (.atLine line fault) :: fault.reasons
  | fault => [fault.message]

def LogFault.reasons (fault : LogFault) : List String :=
  fault.message ::
    match fault with
    | .malformed _ inner => inner.reasons
    | _ => []

def ResultFault.reasons (fault : ResultFault) : List String :=
  fault.message ::
    match fault with
    | .malformed _ inner => inner.reasons
    | _ => []

def WorkFault.reasons (fault : WorkFault) : List String :=
  fault.message ::
    match fault with
    | .output inner => [inner.message]
    | .log inner => inner.reasons
    | .unfitLog _ inner => inner.reasons
    | .result inner => inner.reasons
    | .io error => [error.message]

end RackTraffic
