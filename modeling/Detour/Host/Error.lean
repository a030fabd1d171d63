import Detour.HResult
import Detour.Token

/-!
# Refusals of the host

Every call to the host may be refused. A refusal names the operation, the token it was about and
the host's status code.
-/

namespace Detour.Host

structure Refusal where
  operation : String
  token : Token
  hr : HResult
  deriving DecidableEq, Repr, Inhabited

namespace Refusal

/-- The refusal of a look-up of a row that does not exist. -/
def notFound (operation : String) (token : Token) : Refusal :=
  ⟨operation, token, HResult.recordNotFound⟩

def message (refusal : Refusal) : String :=
  refusal.operation ++ " failed for token " ++ refusal.token.render ++
    " (hr=" ++ refusal.hr.render ++ ")"

end Refusal

/-- Which row of a wrapper reference could not be emitted. -/
inductive EmissionError where
  | assemblyRef (assembly : String) (source : Refusal)
  | typeRef (typeName : String) (source : Refusal)
  | memberRef (typeName methodName : String) (source : Refusal)
  deriving DecidableEq, Repr, Inhabited

namespace EmissionError

def refusal : EmissionError → Refusal
  | assemblyRef _ source => source
  | typeRef _ source => source
  | memberRef _ _ source => source

def message : EmissionError → String
  | assemblyRef assembly source =>
    "failed to emit assembly reference to " ++ assembly ++ ": " ++ source.message
  | typeRef typeName source =>
    "failed to emit type reference to " ++ typeName ++ ": " ++ source.message
  | memberRef typeName methodName source =>
    "failed to emit member reference to " ++ typeName ++ "::" ++ methodName ++ ": " ++
      source.message

end EmissionError

end Detour.Host
