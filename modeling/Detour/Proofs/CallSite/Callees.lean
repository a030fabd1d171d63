import Detour.Proofs.CallSite.Passes
import Detour.Proofs.Sequencing

/-!
# Callees

A pass redirects a call exactly if the callee that it resolves has the method name and, if there is
one, the declaring type of the target. The assembly that a target states plays no part: it admits
the callees of every assembly, those of the module itself among them.
-/

namespace Detour.CallSite

open Detour.Body
open Detour.Host
open Detour.Rule

variable {S : Type} {metadata : Metadata S}

/-! ## The name of a callee -/

/-- From the scans in the context, the step gives no callee of another name. -/
def Scanning.GivesNamed (step : Scanning S (Option MethodIdentity)) (context : Scan S → Prop)
    (expected : String) : Prop :=
  ∀ scan callee after, context scan → step scan = .ok (some callee) after →
    callee.methodName = expected

/-- The method name buffer holds the name. -/
def Scan.HoldsName (name : String) (scan : Scan S) : Prop :=
  scan.buffers.methodName = name

namespace Scanning

theorem givesNamed_none (context : Scan S → Prop) (expected : String) :
    GivesNamed (return none) context expected := by
  intro scan callee after _ resolved
  cases resolved

/-- A read of the declaring type leaves the name of the method in its buffer. -/
theorem givesNamed_resolveType (readType : NameRead S Unit) (expected : String) :
    (resolveType readType).GivesNamed (Scan.HoldsName expected) expected := by
  intro scan callee after held resolved
  obtain ⟨_, middle, typeRead, behindRead⟩ := EStateM.bind_eq_ok_iff.mp resolved
  obtain ⟨_, _, current, returned⟩ := EStateM.bind_eq_ok_iff.mp behindRead
  have sameName : middle.buffers.methodName = scan.buffers.methodName := by
    cases answered : readType ⟨scan.buffers.get .typeName, scan.world.host⟩ with
    | ok value slot =>
      rw [Scan.readName_of_ok answered] at typeRead
      cases typeRead
      rfl
    | error refusal slot =>
      rw [Scan.readName_of_error answered] at typeRead
      cases typeRead
  cases current
  cases returned
  exact sameName.trans held

theorem givesNamed_ifNamed {step : Scanning S (Option MethodIdentity)} {expected : String}
    (gives : step.GivesNamed (Scan.HoldsName expected) expected) :
    GivesNamed (do if ← holdsMethodName expected then step else return none) (fun _ => True)
      expected := by
  intro scan callee after _ resolved
  obtain ⟨isNamed, middle, tested, behindTest⟩ := EStateM.bind_eq_ok_iff.mp resolved
  cases tested
  by_cases same : (scan.buffers.methodName == expected) = true
  · rw [if_pos same] at behindTest
    exact gives scan callee after (eq_of_beq same) behindTest
  · rw [if_neg same] at behindTest
    cases behindTest

end Scanning

theorem givesNamed_resolveDefinition (context : Scan S → Prop) (definition : Token)
    (expected : String) :
    (resolveDefinition metadata definition expected).GivesNamed context expected := by
  intro scan callee after _ resolved
  obtain ⟨owner, middle, _, behindRead⟩ := EStateM.bind_eq_ok_iff.mp resolved
  have givesType := Scanning.givesNamed_resolveType (metadata.typeDef owner) expected
  exact Scanning.givesNamed_ifNamed givesType middle callee after trivial behindRead

theorem givesNamed_resolveParent (parent : Token) (expected : String) :
    (resolveParent metadata parent expected).GivesNamed (Scan.HoldsName expected) expected := by
  unfold resolveParent
  split
  · exact Scanning.givesNamed_resolveType _ expected
  · exact Scanning.givesNamed_resolveType _ expected
  · exact givesNamed_resolveDefinition _ parent expected
  · exact Scanning.givesNamed_none _ expected

theorem givesNamed_resolve (operand : Token) (expected : String) :
    (resolve metadata operand expected).GivesNamed (fun _ => True) expected := by
  unfold resolve
  split
  · intro scan callee after _ resolved
    obtain ⟨parent, middle, _, behindRead⟩ := EStateM.bind_eq_ok_iff.mp resolved
    have givesParent : (resolveParent metadata parent expected).GivesNamed
        (Scan.HoldsName expected) expected := givesNamed_resolveParent parent expected
    exact Scanning.givesNamed_ifNamed givesParent middle callee after trivial behindRead
  · exact givesNamed_resolveDefinition _ operand expected
  · exact Scanning.givesNamed_none _ expected

/-- Whatever the host answers, a call is only resolved to a callee of the expected name. -/
theorem methodName_of_resolve {operand : Token} {expected : String} {scan after : Scan S}
    {callee : MethodIdentity}
    (resolved : resolve metadata operand expected scan = .ok (some callee) after) :
    callee.methodName = expected :=
  givesNamed_resolve operand expected scan callee after trivial resolved

/-! ## One step -/

variable {methodName : String} {typeName : Option String} {wrapperRef : Token}
  {instruction : Instruction} {scan : Scan S}

/-- The instruction is a call that is resolved from the scan to the callee. -/
def Resolves (metadata : Metadata S) (methodName : String) (instruction : Instruction)
    (scan : Scan S) (callee : MethodIdentity) : Prop :=
  ∃ operand after, instruction.callee? = some operand ∧
    resolve metadata operand methodName scan = .ok (some callee) after

/-- The instruction is a call that is resolved from the scan to a callee of the expected type. -/
def IsHit (metadata : Metadata S) (methodName : String) (typeName : Option String)
    (instruction : Instruction) (scan : Scan S) : Prop :=
  ∃ callee, Resolves metadata methodName instruction scan callee ∧
    typeIsExpected typeName callee.typeName = true

/-- What a pass does at its first instruction, whatever follows: it ends, or it goes on from another
scan, and then it redirects the instruction exactly if that is a hit. -/
theorem redirectNamed_step (metadata : Metadata S) (methodName : String) (typeName : Option String)
    (wrapperRef : Token) (instruction : Instruction) (scan : Scan S) :
    (∃ refusal after, ∀ rest,
        redirectNamed metadata methodName typeName wrapperRef (instruction :: rest) scan =
          ⟨.error refusal, instruction :: rest, after⟩) ∨
      ∃ after,
        (¬ IsHit metadata methodName typeName instruction scan ∧ ∀ rest,
          redirectNamed metadata methodName typeName wrapperRef (instruction :: rest) scan =
            (redirectNamed metadata methodName typeName wrapperRef rest after).keeping
              instruction) ∨
        (IsHit metadata methodName typeName instruction scan ∧ ∀ rest,
          redirectNamed metadata methodName typeName wrapperRef (instruction :: rest) scan =
            (redirectNamed metadata methodName typeName wrapperRef rest after).redirecting
              (instruction.redirect wrapperRef)) := by
  cases callee : instruction.callee? with
  | none =>
    refine .inr ⟨scan, .inl ⟨?_, fun rest => redirectNamed_of_noCallee callee⟩⟩
    rintro ⟨_, ⟨_, _, called, _⟩, _⟩
    cases callee.symm.trans called
  | some operand =>
    cases resolved : resolve metadata operand methodName scan with
    | error refusal after =>
      exact .inl ⟨refusal, after, fun rest => redirectNamed_of_refused callee resolved⟩
    | ok found after =>
      cases found with
      | none =>
        refine .inr ⟨after, .inl ⟨?_, fun rest => redirectNamed_of_unresolved callee resolved⟩⟩
        rintro ⟨_, ⟨_, _, called, resolves⟩, _⟩
        cases callee.symm.trans called
        cases resolved.symm.trans resolves
      | some found =>
        by_cases expected : typeIsExpected typeName found.typeName = true
        · have isHit : IsHit metadata methodName typeName instruction scan :=
            ⟨found, ⟨operand, after, callee, resolved⟩, expected⟩
          exact .inr ⟨_, .inr ⟨isHit, fun rest =>
            redirectNamed_of_expected callee resolved expected⟩⟩
        · refine .inr ⟨after, .inl ⟨?_, fun rest =>
            redirectNamed_of_unexpected callee resolved expected⟩⟩
          rintro ⟨_, ⟨_, _, called, resolves⟩, isExpected⟩
          cases callee.symm.trans called
          cases resolved.symm.trans resolves
          exact expected isExpected

/-! ## Whole passes -/

/-- The instruction at the position is a hit from the scan that the pass has in front of it. -/
def HitsAt (metadata : Metadata S) (methodName : String) (typeName : Option String)
    (wrapperRef : Token) (instructions : List Instruction) (scan : Scan S) (position : Nat) :
    Prop :=
  ∃ instruction, instructions[position]? = some instruction ∧
    IsHit metadata methodName typeName instruction
      (redirectNamed metadata methodName typeName wrapperRef (instructions.take position) scan).scan

theorem hitsAt_zero_iff {rest : List Instruction} :
    HitsAt metadata methodName typeName wrapperRef (instruction :: rest) scan 0 ↔
      IsHit metadata methodName typeName instruction scan := by
  constructor
  · intro hits
    obtain ⟨first, found, isHit⟩ := hits
    rw [List.getElem?_cons_zero, Option.some.injEq] at found
    rw [found]
    exact isHit
  · intro isHit
    exact ⟨instruction, rfl, isHit⟩

/-- Behind its first instruction the pass is a pass of its own. -/
theorem hitsAt_succ_iff {rest : List Instruction} {after : Scan S} {position : Nat}
    (step : ∀ behind,
      (redirectNamed metadata methodName typeName wrapperRef (instruction :: behind) scan).scan =
        (redirectNamed metadata methodName typeName wrapperRef behind after).scan) :
    HitsAt metadata methodName typeName wrapperRef (instruction :: rest) scan (position + 1) ↔
      HitsAt metadata methodName typeName wrapperRef rest after position := by
  unfold HitsAt
  rw [List.take_succ_cons, step, List.getElem?_cons_succ]

/-- A pass that is not refused redirects the hits. -/
theorem redirectNamed_hits (metadata : Metadata S) (methodName : String)
    (typeName : Option String) (wrapperRef : Token) (instructions : List Instruction)
    (scan : Scan S) {count : Nat}
    (counted : (redirectNamed metadata methodName typeName wrapperRef instructions scan).result =
      .ok count) :
    ∃ positions,
      CallsRedirected positions (fun _ => wrapperRef) instructions
        (redirectNamed metadata methodName typeName wrapperRef instructions scan).instructions ∧
      positions.length = count ∧
      ∀ position, position ∈ positions ↔
        HitsAt metadata methodName typeName wrapperRef instructions scan position := by
  induction instructions generalizing scan count with
  | nil =>
    cases counted
    refine ⟨[], CallsRedirected.refl _ [], rfl, ?_⟩
    simp [HitsAt]
  | cons instruction rest ih =>
    rcases redirectNamed_step metadata methodName typeName wrapperRef instruction scan
      with ⟨refusal, after, step⟩ | ⟨after, ⟨noHit, step⟩ | ⟨isHit, step⟩⟩
    · rw [step] at counted
      cases counted
    · rw [step] at counted
      obtain ⟨positions, redirected, counts, areHits⟩ := ih after counted
      rw [step]
      refine ⟨positions.map (· + 1), redirected.cons_keep, by rw [List.length_map, counts], ?_⟩
      intro position
      cases position with
      | zero => simp [hitsAt_zero_iff, noHit]
      | succ position =>
        rw [hitsAt_succ_iff (fun behind => by rw [step]; rfl), ← areHits]
        simp
    · rw [step] at counted
      obtain ⟨restCount, restCounted, rfl⟩ := Except.map_eq_ok_iff.mp counted
      obtain ⟨positions, redirected, counts, areHits⟩ := ih after restCounted
      have called : ∃ operand, instruction.callee? = some operand := by
        obtain ⟨_, ⟨operand, _, called, _⟩, _⟩ := isHit
        exact ⟨operand, called⟩
      obtain ⟨operand, called⟩ := called
      rw [step]
      refine ⟨0 :: positions.map (· + 1), redirected.cons_redirect called,
        by rw [List.length_cons, List.length_map, counts], ?_⟩
      intro position
      cases position with
      | zero => simp [hitsAt_zero_iff, isHit]
      | succ position =>
        rw [hitsAt_succ_iff (fun behind => by rw [step]; rfl), ← areHits]
        simp

/-! ## Targets -/

variable {target : MethodPattern} {instructions : List Instruction}

/-- The call at the position has the callee, as a pass for the target resolves it: from the scan
that the instructions in front of the call leave. -/
def CalleeAt (metadata : Metadata S) (target : MethodPattern) (wrapperRef : Token)
    (instructions : List Instruction) (scan : Scan S) (position : Nat) (callee : MethodIdentity) :
    Prop :=
  ∃ methodName instruction, target.methodName? = some methodName ∧
    instructions[position]? = some instruction ∧
    Resolves metadata methodName instruction
      (redirectCalls metadata target wrapperRef (instructions.take position) scan).scan callee

theorem CalleeAt.methodName_eq {position : Nat} {callee : MethodIdentity}
    (isCallee : CalleeAt metadata target wrapperRef instructions scan position callee) :
    target.methodName? = some callee.methodName := by
  obtain ⟨methodName, _, named, _, _, _, _, resolved⟩ := isCallee
  rw [methodName_of_resolve resolved]
  exact named

theorem CalleeAt.unique {position : Nat} {callee other : MethodIdentity}
    (isCallee : CalleeAt metadata target wrapperRef instructions scan position callee)
    (isOther : CalleeAt metadata target wrapperRef instructions scan position other) :
    callee = other := by
  obtain ⟨_, _, named, found, _, _, called, resolved⟩ := isCallee
  obtain ⟨_, _, otherNamed, otherFound, _, _, otherCalled, otherResolved⟩ := isOther
  cases named.symm.trans otherNamed
  cases found.symm.trans otherFound
  cases called.symm.trans otherCalled
  cases resolved.symm.trans otherResolved
  rfl

end Detour.CallSite

namespace Detour.Rule.MethodPattern

/-- Whether a pattern admits a declaring type and a method name, in whatever assembly. -/
def matchesNames (pattern : MethodPattern) (typeName methodName : String) : Bool :=
  partMatches pattern.typeName typeName && partMatches pattern.methodName methodName

theorem matchesMethod_eq (pattern : MethodPattern) (assembly typeName methodName : String) :
    pattern.matchesMethod assembly typeName methodName =
      (pattern.matchesAssembly assembly && pattern.matchesNames typeName methodName) :=
  Bool.and_assoc _ _ _

theorem matchesNames_of_methodName? {pattern : MethodPattern} {methodName : String}
    (named : pattern.methodName? = some methodName) (typeName : String) :
    pattern.matchesNames typeName methodName =
      CallSite.typeIsExpected pattern.typeName? typeName := by
  have nameMatches : partMatches pattern.methodName methodName = true := by
    rw [partMatches, show stated? pattern.methodName = some methodName from named]
    exact beq_self_eq_true methodName
  rw [matchesNames, nameMatches, Bool.and_true]
  rfl

end Detour.Rule.MethodPattern

namespace Detour.CallSite

open Detour.Body
open Detour.Host
open Detour.Rule

variable {S : Type} {metadata : Metadata S} {target : MethodPattern} {wrapperRef : Token}
  {instructions : List Instruction} {scan : Scan S}

/-- A pass that is not refused redirects the calls whose callees have the type and the name of the
target. -/
theorem redirectCalls_targets {count : Nat}
    (counted : (redirectCalls metadata target wrapperRef instructions scan).result = .ok count) :
    ∃ positions,
      CallsRedirected positions (fun _ => wrapperRef) instructions
        (redirectCalls metadata target wrapperRef instructions scan).instructions ∧
      positions.length = count ∧
      ∀ position, position ∈ positions ↔
        ∃ callee, CalleeAt metadata target wrapperRef instructions scan position callee ∧
          target.matchesNames callee.typeName callee.methodName = true := by
  cases named : target.methodName? with
  | none =>
    rw [redirectCalls, named] at counted ⊢
    cases counted
    refine ⟨[], CallsRedirected.refl _ instructions, rfl, ?_⟩
    simp [CalleeAt, named]
  | some methodName =>
    have isNamed : ∀ stream start, redirectCalls metadata target wrapperRef stream start =
        redirectNamed metadata methodName target.typeName? wrapperRef stream start := by
      intro stream start
      rw [redirectCalls, named]
    rw [isNamed] at counted ⊢
    obtain ⟨positions, redirected, counts, areHits⟩ := redirectNamed_hits metadata methodName
      target.typeName? wrapperRef instructions scan counted
    refine ⟨positions, redirected, counts, ?_⟩
    intro position
    rw [areHits]
    constructor
    · rintro ⟨instruction, found, callee, resolves, expected⟩
      have isCallee : CalleeAt metadata target wrapperRef instructions scan position callee := by
        refine ⟨methodName, instruction, named, found, ?_⟩
        rw [isNamed]
        exact resolves
      refine ⟨callee, isCallee, ?_⟩
      rw [MethodPattern.matchesNames_of_methodName? isCallee.methodName_eq]
      exact expected
    · rintro ⟨callee, isCallee, isAdmitted⟩
      rw [MethodPattern.matchesNames_of_methodName? isCallee.methodName_eq] at isAdmitted
      obtain ⟨_, instruction, sameName, found, resolves⟩ := isCallee
      cases named.symm.trans sameName
      rw [isNamed] at resolves
      exact ⟨instruction, found, callee, resolves, isAdmitted⟩

end Detour.CallSite
