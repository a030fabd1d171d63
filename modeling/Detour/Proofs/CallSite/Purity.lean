import Detour.Proofs.CallSite.Passes
import Detour.Proofs.Sequencing

/-!
# Scans of a pure host

A host is pure if its reads leave it as it is, and if neither their answers nor the names that they
write depend on what the buffer held. All that a scan finds out is then decided by the state of the
host: the names that earlier reads left behind never matter.
-/

namespace Detour

open Detour.Body
open Detour.Host
open Detour.Rule

variable {S α β : Type}

namespace Host

/-- A read that only answers. A refused read may leave anything in the buffer. -/
def NameRead.IsPure (read : NameRead S α) : Prop :=
  ∀ host,
    (∃ value name, ∀ held, read ⟨held, host⟩ = .ok value ⟨name, host⟩) ∨
      ∃ refusal, ∀ held, ∃ left, read ⟨held, host⟩ = .error refusal ⟨left, host⟩

/-- A handle whose reads only answer. -/
structure Metadata.IsPure (metadata : Metadata S) : Prop where
  memberRef : ∀ token, NameRead.IsPure (metadata.memberRef token)
  methodDef : ∀ token, NameRead.IsPure (metadata.methodDef token)
  typeRef : ∀ token, NameRead.IsPure (metadata.typeRef token)
  typeDef : ∀ token, NameRead.IsPure (metadata.typeDef token)

end Host

namespace CallSite

/-! ## Settled steps -/

/-- A step that gives the same answer in every scan of some kind, and changes only the buffers. -/
def Scanning.Settled (step : Scanning S α) (context : Scan S → Prop) : Prop :=
  (∃ value, ∀ scan, context scan → ∃ left, step scan = .ok value { scan with buffers := left }) ∨
    ∃ refusal, ∀ scan, context scan →
      ∃ left, step scan = .error refusal { scan with buffers := left }

/-- A scan of a host in a given state. -/
def Scan.Over (host : S) (scan : Scan S) : Prop :=
  scan.world.host = host

/-- A scan of a host in a given state, with a given name in the method name buffer. -/
def Scan.Holding (host : S) (name : String) (scan : Scan S) : Prop :=
  scan.world.host = host ∧ scan.buffers.methodName = name

namespace Scanning

theorem Settled.mono {step : Scanning S α} {context narrower : Scan S → Prop}
    (settled : Settled step context) (narrow : ∀ scan, narrower scan → context scan) :
    Settled step narrower := by
  rcases settled with answered | refused
  · obtain ⟨value, answers⟩ := answered
    exact .inl ⟨value, fun scan inside => answers scan (narrow scan inside)⟩
  · obtain ⟨refusal, refuses⟩ := refused
    exact .inr ⟨refusal, fun scan inside => refuses scan (narrow scan inside)⟩

theorem settled_pure (value : α) (context : Scan S → Prop) :
    Settled (pure value : Scanning S α) context :=
  .inl ⟨value, fun scan _ => ⟨scan.buffers, rfl⟩⟩

/-- A pure read puts the same name into its buffer in every scan of the host, or it is refused in
all of them. -/
theorem readName_of_isPure {read : NameRead S α} (isPure : NameRead.IsPure read)
    (buffer : NameBuffer) (host : S) :
    (∃ value name, ∀ scan, Scan.Over host scan →
        Scan.readName buffer read scan = .ok value (scan.setSlot buffer ⟨name, host⟩)) ∨
      ∃ refusal, ∀ scan, Scan.Over host scan → ∃ left,
        Scan.readName buffer read scan = .error refusal (scan.setSlot buffer ⟨left, host⟩) := by
  rcases isPure host with answered | refused
  · obtain ⟨value, name, answers⟩ := answered
    refine .inl ⟨value, name, fun scan sameHost => Scan.readName_of_ok ?_⟩
    rw [sameHost, answers]
  · obtain ⟨refusal, refuses⟩ := refused
    refine .inr ⟨refusal, fun scan sameHost => ?_⟩
    obtain ⟨left, refuses⟩ := refuses (scan.buffers.get buffer)
    refine ⟨left, Scan.readName_of_error ?_⟩
    rw [sameHost, refuses]

/-- A step behind a read of a method name may rely on the name that was read. -/
theorem settled_readMethodName_bind {read : NameRead S α} {continuation : α → Scanning S β}
    {host : S} (isPure : NameRead.IsPure read)
    (continues : ∀ value name, Settled (continuation value) (Scan.Holding host name)) :
    Settled (Scan.readName .methodName read >>= continuation) (Scan.Over host) := by
  rcases readName_of_isPure isPure .methodName host with answered | refused
  · obtain ⟨value, name, step⟩ := answered
    have held : ∀ scan, Scan.Holding host name (Scan.setSlot scan .methodName ⟨name, host⟩) :=
      fun _ => ⟨rfl, rfl⟩
    rcases continues value name with continued | refused
    · obtain ⟨result, continued⟩ := continued
      refine .inl ⟨result, fun scan sameHost => ?_⟩
      rw [EStateM.bind_of_ok (step scan sameHost)]
      cases sameHost
      exact continued _ (held scan)
    · obtain ⟨refusal, refuses⟩ := refused
      refine .inr ⟨refusal, fun scan sameHost => ?_⟩
      rw [EStateM.bind_of_ok (step scan sameHost)]
      cases sameHost
      exact refuses _ (held scan)
  · obtain ⟨refusal, refuses⟩ := refused
    refine .inr ⟨refusal, fun scan sameHost => ?_⟩
    obtain ⟨left, step⟩ := refuses scan sameHost
    rw [EStateM.bind_of_error step]
    cases sameHost
    exact ⟨_, rfl⟩

/-- A step that runs only if the method name buffer holds a given name. -/
theorem settled_ifNamed {step : Scanning S (Option α)} {host : S} {name : String}
    (expected : String) (settled : Settled step (Scan.Holding host name)) :
    Settled (do if ← holdsMethodName expected then step else return none)
      (Scan.Holding host name) := by
  have test : ∀ scan, Scan.Holding host name scan →
      (do if ← holdsMethodName expected then step else return none : Scanning S (Option α)) scan =
        if name == expected then step scan else .ok none scan := by
    intro scan holding
    rw [← holding.2]
    change (if scan.buffers.methodName == expected then step else _ :
      Scanning S (Option α)) scan = _
    split
    · rfl
    · rfl
  by_cases same : (name == expected) = true
  · rcases settled with answered | refused
    · obtain ⟨value, answers⟩ := answered
      refine .inl ⟨value, fun scan holding => ?_⟩
      rw [test scan holding, if_pos same]
      exact answers scan holding
    · obtain ⟨refusal, refuses⟩ := refused
      refine .inr ⟨refusal, fun scan holding => ?_⟩
      rw [test scan holding, if_pos same]
      exact refuses scan holding
  · refine .inl ⟨none, fun scan holding => ?_⟩
    rw [test scan holding, if_neg same]
    exact ⟨scan.buffers, rfl⟩

theorem settled_resolveType {read : NameRead S Unit} {host : S} {name : String}
    (isPure : NameRead.IsPure read) : Settled (resolveType read) (Scan.Holding host name) := by
  rcases readName_of_isPure isPure .typeName host with answered | refused
  · obtain ⟨_, typeName, step⟩ := answered
    refine .inl ⟨some ⟨typeName, name⟩, fun scan holding => ?_⟩
    obtain ⟨sameHost, held⟩ := holding
    rw [resolveType, EStateM.bind_of_ok (step scan sameHost)]
    cases sameHost
    cases held
    exact ⟨_, rfl⟩
  · obtain ⟨refusal, refuses⟩ := refused
    refine .inr ⟨refusal, fun scan holding => ?_⟩
    obtain ⟨sameHost, _⟩ := holding
    obtain ⟨left, step⟩ := refuses scan sameHost
    rw [resolveType, EStateM.bind_of_error step]
    cases sameHost
    exact ⟨_, rfl⟩

end Scanning

/-! ## Resolution -/

variable {metadata : Metadata S}

theorem settled_resolveDefinition (isPure : metadata.IsPure) (definition : Token)
    (expected : String) (host : S) :
    (resolveDefinition metadata definition expected).Settled (Scan.Over host) := by
  apply Scanning.settled_readMethodName_bind (isPure.methodDef definition)
  intro owner name
  exact Scanning.settled_ifNamed expected (Scanning.settled_resolveType (isPure.typeDef owner))

theorem settled_resolveParent (isPure : metadata.IsPure) (parent : Token) (expected : String)
    (host : S) (name : String) :
    (resolveParent metadata parent expected).Settled (Scan.Holding host name) := by
  unfold resolveParent
  split
  · exact Scanning.settled_resolveType (isPure.typeRef parent)
  · exact Scanning.settled_resolveType (isPure.typeDef parent)
  · exact (settled_resolveDefinition isPure parent expected host).mono fun _ holding => holding.1
  · exact Scanning.settled_pure none _

theorem settled_resolveReference (isPure : metadata.IsPure) (reference : Token)
    (expected : String) (host : S) :
    (resolveReference metadata reference expected).Settled (Scan.Over host) := by
  apply Scanning.settled_readMethodName_bind (isPure.memberRef reference)
  intro parent name
  exact Scanning.settled_ifNamed expected (settled_resolveParent isPure parent expected host name)

/-- What a call operand resolves to is decided by the state of the host. -/
theorem settled_resolve (isPure : metadata.IsPure) (operand : Token) (expected : String)
    (host : S) : (resolve metadata operand expected).Settled (Scan.Over host) := by
  unfold resolve
  split
  · exact settled_resolveReference isPure operand expected host
  · exact settled_resolveDefinition isPure operand expected host
  · exact Scanning.settled_pure none _

/-! ## Passes -/

/-- A pass that finds, changes and logs the same in every scan of a host in a given state. -/
def Pass.Settled (pass : Scan S → Pass S) (host : S) : Prop :=
  ∃ result changed events, ∀ scan, Scan.Over host scan →
    ∃ left, pass scan = ⟨result, changed, ⟨left, ⟨host, scan.world.events ++ events⟩⟩⟩

theorem redirectNamed_settled (isPure : metadata.IsPure) (methodName : String)
    (typeName : Option String) (wrapperRef : Token) (host : S) (instructions : List Instruction) :
    Pass.Settled (redirectNamed metadata methodName typeName wrapperRef instructions) host := by
  induction instructions with
  | nil =>
    refine ⟨.ok 0, [], #[], fun scan sameHost => ⟨scan.buffers, ?_⟩⟩
    cases sameHost
    rw [Array.append_empty]
    rfl
  | cons instruction rest ih =>
    obtain ⟨result, changed, events, passes⟩ := ih
    cases callee : instruction.callee? with
    | none =>
      refine ⟨result, instruction :: changed, events, fun scan sameHost => ?_⟩
      obtain ⟨left, passed⟩ := passes scan sameHost
      rw [redirectNamed_of_noCallee callee, passed]
      exact ⟨left, rfl⟩
    | some operand =>
      rcases settled_resolve isPure operand methodName host with resolved | refused
      · obtain ⟨value, resolves⟩ := resolved
        cases value with
        | none =>
          refine ⟨result, instruction :: changed, events, fun scan sameHost => ?_⟩
          obtain ⟨held, resolved⟩ := resolves scan sameHost
          obtain ⟨left, passed⟩ := passes { scan with buffers := held } sameHost
          rw [redirectNamed_of_unresolved callee resolved, passed]
          exact ⟨left, rfl⟩
        | some target =>
          by_cases expected : typeIsExpected typeName target.typeName = true
          · refine ⟨result.map (· + 1), instruction.redirect wrapperRef :: changed,
              #[Event.callRedirected instruction.offset target.typeName target.methodName
                wrapperRef] ++ events, fun scan sameHost => ?_⟩
            obtain ⟨held, resolved⟩ := resolves scan sameHost
            obtain ⟨left, passed⟩ := passes (Scan.log { scan with buffers := held } _) sameHost
            rw [redirectNamed_of_expected callee resolved expected, passed, ← Array.append_assoc]
            exact ⟨left, rfl⟩
          · refine ⟨result, instruction :: changed, events, fun scan sameHost => ?_⟩
            obtain ⟨held, resolved⟩ := resolves scan sameHost
            obtain ⟨left, passed⟩ := passes { scan with buffers := held } sameHost
            rw [redirectNamed_of_unexpected callee resolved expected, passed]
            exact ⟨left, rfl⟩
      · obtain ⟨refusal, refuses⟩ := refused
        refine ⟨.error refusal, instruction :: rest, #[], fun scan sameHost => ?_⟩
        obtain ⟨left, refused⟩ := refuses scan sameHost
        rw [redirectNamed_of_refused callee refused, Array.append_empty]
        cases sameHost
        exact ⟨left, rfl⟩

/-- What a pass does is decided by the state of the host. -/
theorem redirectCalls_settled (isPure : metadata.IsPure) (target : MethodPattern)
    (wrapperRef : Token) (host : S) (instructions : List Instruction) :
    Pass.Settled (redirectCalls metadata target wrapperRef instructions) host := by
  cases named : target.methodName? with
  | none =>
    refine ⟨.ok 0, instructions, #[], fun scan sameHost => ⟨scan.buffers, ?_⟩⟩
    rw [redirectCalls, named, Array.append_empty]
    cases sameHost
    rfl
  | some methodName =>
    obtain ⟨result, changed, events, passes⟩ := redirectNamed_settled isPure methodName
      target.typeName? wrapperRef host instructions
    refine ⟨result, changed, events, fun scan sameHost => ?_⟩
    rw [redirectCalls, named]
    exact passes scan sameHost

/-- Passes over the same state of the host find the same, whatever the buffers hold. -/
theorem redirectCalls_of_sameHost (isPure : metadata.IsPure) {target : MethodPattern}
    {wrapperRef : Token} {instructions changed : List Instruction} {result : Except Refusal Nat}
    {scan after : Scan S} (other : Scan S) (sameHost : scan.world.host = other.world.host)
    (passed : redirectCalls metadata target wrapperRef instructions scan =
      ⟨result, changed, after⟩) :
    ∃ otherAfter, redirectCalls metadata target wrapperRef instructions other =
      ⟨result, changed, otherAfter⟩ := by
  obtain ⟨settled, settledChanged, events, passes⟩ :=
    redirectCalls_settled isPure target wrapperRef other.world.host instructions
  obtain ⟨left, passedThere⟩ := passes scan sameHost
  obtain ⟨otherLeft, passedHere⟩ := passes other rfl
  cases passedThere.symm.trans passed
  exact ⟨_, passedHere⟩

theorem host_redirectCalls (isPure : metadata.IsPure) (target : MethodPattern)
    (wrapperRef : Token) (instructions : List Instruction) (scan : Scan S) :
    (redirectCalls metadata target wrapperRef instructions scan).scan.world.host =
      scan.world.host := by
  obtain ⟨result, changed, events, passes⟩ :=
    redirectCalls_settled isPure target wrapperRef scan.world.host instructions
  obtain ⟨left, passed⟩ := passes scan rfl
  rw [passed]

end CallSite

end Detour
