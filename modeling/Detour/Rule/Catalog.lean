import Detour.Rule.Pattern
import Detour.Rule.Wrapper

/-!
# The rule catalog

A replacement redirects the calls of a target that are made from certain callers to a wrapper. An
integration is a named group of replacements, and the catalog is the list of integrations; the
order of both lists is the order in which replacements are tried.
-/

namespace Detour.Rule

/-- A rule: calls to `target` made from `caller` go to `wrapper`. -/
structure Replacement where
  caller : MethodPattern
  target : MethodPattern
  wrapper : Wrapper
  deriving DecidableEq

structure Integration where
  name : String
  replacements : List Replacement
  deriving DecidableEq

abbrev Catalog := List Integration

namespace Catalog

/-- The replacements of every integration, in the order in which they are tried. -/
def replacements (catalog : Catalog) : List Replacement :=
  catalog.flatMap (·.replacements)

/-- The replacements that may apply to callers in an assembly. -/
def candidates (catalog : Catalog) (assembly : String) : List Replacement :=
  catalog.replacements.filter (·.caller.matchesAssembly assembly)

end Catalog

end Detour.Rule
