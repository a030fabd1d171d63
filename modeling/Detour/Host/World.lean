import Detour.Event
import Detour.Host.Metadata

/-!
# The world around the library

All effects of the library are calls to the host and log events. A world holds the state of the host
and the events logged so far, oldest first.
-/

namespace Detour.Host

structure World (S : Type) where
  host : S
  events : Array Event

namespace World

variable {S : Type}

def log (world : World S) (event : Event) : World S :=
  { world with events := world.events.push event }

def onHost {α : Type} (call : EStateM Refusal S α) : EStateM Refusal (World S) α := fun world =>
  match call world.host with
  | .ok value host => .ok value { world with host }
  | .error error host => .error error { world with host }

end World

end Detour.Host
