import Detour.Module.Table
import Detour.Proofs.Agent.Effects

/-!
# Accounts

A host that keeps an account does what it would do without one, and notes down every call with its
answer and with the name that the call leaves in the caller's buffer. Which calls a step makes, and
what made it go on or stop behind each of them, is read off the account: the step comes to the same
on either host, and the account grows by the calls that it makes.
-/

namespace Detour

open Detour.Host
open Detour.Rule

variable {S α β : Type}

namespace Host

/-- A call to the metadata with its answer. A read that answers by a name alone is noted down with
the token that it was about. -/
structure AnsweredCall where
  call : MetadataCall
  answer : Except Refusal Token
  /-- The name in the caller's buffer behind the call; empty for calls that take no buffer. -/
  name : String

/-- A host with the calls that were made to it, in order. -/
structure Accounted (S : Type) where
  host : S
  calls : List AnsweredCall

def noted (call : MetadataCall) (request : EStateM Refusal S Token) :
    EStateM Refusal (Accounted S) Token := fun account =>
  match request account.host with
  | .ok token host => .ok token ⟨host, account.calls ++ [⟨call, .ok token, ""⟩]⟩
  | .error refusal host => .error refusal ⟨host, account.calls ++ [⟨call, .error refusal, ""⟩]⟩

def NameRead.noted (call : MetadataCall) (tokenOf : α → Token) (read : NameRead S α) :
    NameRead (Accounted S) α := fun slot =>
  match read ⟨slot.name, slot.host.host⟩ with
  | .ok value left =>
    .ok value ⟨left.name, left.host, slot.host.calls ++ [⟨call, .ok (tokenOf value), left.name⟩]⟩
  | .error refusal left =>
    .error refusal ⟨left.name, left.host, slot.host.calls ++ [⟨call, .error refusal, left.name⟩]⟩

/-- The handle of a host that keeps an account. -/
def Metadata.accounted (metadata : Metadata S) : Metadata (Accounted S) where
  memberRef token := NameRead.noted (.memberRef token) id (metadata.memberRef token)
  methodDef token := NameRead.noted (.methodDef token) id (metadata.methodDef token)
  typeRef token := NameRead.noted (.typeRef token) (fun _ => token) (metadata.typeRef token)
  typeDef token := NameRead.noted (.typeDef token) (fun _ => token) (metadata.typeDef token)
  defineAssemblyRef assembly :=
    noted (.defineAssemblyRef assembly) (metadata.defineAssemblyRef assembly)
  defineTypeRef scope typeName :=
    noted (.defineTypeRef scope typeName) (metadata.defineTypeRef scope typeName)
  defineMemberRef parent methodName signature :=
    noted (.defineMemberRef parent methodName signature)
      (metadata.defineMemberRef parent methodName signature)

/-- The world on a host with an account of the given calls. -/
def World.accounted (world : World S) (calls : List AnsweredCall) : World (Accounted S) :=
  ⟨⟨world.host, calls⟩, world.events⟩

/-! ## Steps over an account -/

section Makes

variable {σ τ ε : Type}

/-- From the state the step comes to the same on the host with an account, and the account grows by
`made`. What a state is on that host is said by `account`. -/
def Makes (account : σ → List AnsweredCall → τ) (state : σ) (step : EStateM ε σ α)
    (accountedStep : EStateM ε τ α) (made : List AnsweredCall) : Prop :=
  ∀ earlier, accountedStep (account state earlier) =
    mapState (fun after => account after (earlier ++ made)) (step state)

variable {account : σ → List AnsweredCall → τ} {state middle : σ} {first : EStateM ε σ α}
  {accountedFirst : EStateM ε τ α} {made later : List AnsweredCall}

theorem makes_nil_of_ok {value : α} (succeeds : first state = .ok value middle)
    (accountedSucceeds : ∀ earlier,
      accountedFirst (account state earlier) = .ok value (account middle earlier)) :
    Makes account state first accountedFirst [] := by
  intro earlier
  rw [accountedSucceeds, succeeds, mapState, List.append_nil]

/-- The calls of a sequence are those of its parts, one behind the other. -/
theorem Makes.bind {value : α} {continuation : α → EStateM ε σ β}
    {accountedContinuation : α → EStateM ε τ β}
    (firstMakes : Makes account state first accountedFirst made)
    (succeeds : first state = .ok value middle)
    (continues : Makes account middle (continuation value) (accountedContinuation value) later) :
    Makes account state (first >>= continuation) (accountedFirst >>= accountedContinuation)
      (made ++ later) := by
  intro earlier
  have accountedSucceeds := firstMakes earlier
  rw [succeeds, mapState] at accountedSucceeds
  rw [EStateM.bind_of_ok succeeds, EStateM.bind_of_ok accountedSucceeds, continues,
    List.append_assoc]

theorem Makes.bind_of_error {fault : ε} {continuation : α → EStateM ε σ β}
    {accountedContinuation : α → EStateM ε τ β}
    (firstMakes : Makes account state first accountedFirst made)
    (fails : first state = .error fault middle) :
    Makes account state (first >>= continuation) (accountedFirst >>= accountedContinuation)
      made := by
  intro earlier
  have accountedFails := firstMakes earlier
  rw [fails, mapState] at accountedFails
  rw [EStateM.bind_of_error fails, EStateM.bind_of_error accountedFails, mapState]

end Makes

end Host

def LoadNotice.accounted (notice : LoadNotice S) : LoadNotice (Accounted S) :=
  ⟨notice.moduleId, notice.assembly, notice.flags, notice.metadata.accounted⟩

/-! ## Emissions over an account -/

def ModuleRecord.accounted (record : ModuleRecord S) : ModuleRecord (Accounted S) :=
  ⟨record.moduleId, record.assembly, record.metadata.accounted, record.replacements,
    record.wrapperRefs, record.assemblyRefs, record.typeRefs⟩

namespace Emission

/-- The emission on the host with an account of the given calls. -/
def accounted (emission : Emission S) (calls : List AnsweredCall) : Emission (Accounted S) :=
  ⟨emission.record.accounted, emission.world.accounted calls⟩

/-- On the host with an account the step comes to the same, and the account grows by `made`. -/
abbrev Makes (emission : Emission S) (step : Emitting S α)
    (accountedStep : Emitting (Accounted S) α) (made : List AnsweredCall) : Prop :=
  Host.Makes accounted emission step accountedStep made

/-- A call to the host is noted down with its answer, and touches nothing but the world. -/
theorem makes_onHost (refuse : Refusal → EmissionError) (call : MetadataCall)
    (request : EStateM Refusal S Token) (emission : Emission S) :
    ∃ answer,
      outcomeOf (onHost refuse request emission) = answer.mapError refuse ∧
      (endState (onHost refuse request emission)).record = emission.record ∧
      emission.Makes (onHost refuse request) (onHost refuse (noted call request))
        [⟨call, answer, ""⟩] := by
  cases answered : request emission.world.host with
  | ok token host =>
    refine ⟨.ok token, ?_, ?_, ?_⟩
    · simp only [onHost, World.onHost, answered, outcomeOf]
      rfl
    · simp only [onHost, World.onHost, answered, endState]
    · intro earlier
      simp only [onHost, World.onHost, accounted, World.accounted, noted, answered, mapState]
  | error refusal host =>
    refine ⟨.error refusal, ?_, ?_, ?_⟩
    · simp only [onHost, World.onHost, answered, outcomeOf]
      rfl
    · simp only [onHost, World.onHost, answered, endState]
    · intro earlier
      simp only [onHost, World.onHost, accounted, World.accounted, noted, answered, mapState]

end Emission

end Detour
