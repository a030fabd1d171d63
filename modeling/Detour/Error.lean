import Detour.Body.Error
import Detour.Host.Error
import Detour.Rule.DocumentError

/-!
# Errors of the library

No error is fatal to the host process. Each has a message for a reader and a status code for the
host.
-/

namespace Detour

open Detour.Body
open Detour.Host
open Detour.Rule

inductive FileFault where
  | notFound
  | isDirectory
  /-- A file is used as a directory. -/
  | notADirectory
  /-- The bytes are not UTF-8. -/
  | notText
  deriving DecidableEq, Repr, Inhabited

def FileFault.message : FileFault → String
  | notFound => "there is no such file"
  | isDirectory => "it is a directory"
  | notADirectory => "a part of the path is not a directory"
  | notText => "its bytes are not valid UTF-8"

inductive CatalogError where
  | unreadable (path : String) (fault : FileFault)
  | unparsable (path : String) (error : DocumentError)
  | document (error : DocumentError)
  | definition (error : DefinitionError)

def CatalogError.message : CatalogError → String
  | unreadable path fault => "failed to read integrations from " ++ path ++ ": " ++ fault.message
  | unparsable path error => "failed to parse integrations from " ++ path ++ ": " ++ error.message
  | document error => "invalid integration JSON: " ++ error.message
  | definition error => error.message

inductive Error where
  | host (error : Refusal)
  | emit (error : EmissionError)
  | body (error : BodyError)
  | catalog (error : CatalogError)

namespace Error

def message : Error → String
  | host error => error.message
  | emit error => error.message
  | body error => error.message
  | catalog error => error.message

def hresult : Error → HResult
  | host error => error.hr
  | emit error => error.refusal.hr
  | body _ => HResult.invalidArgument
  | catalog _ => HResult.fail

end Error

end Detour
