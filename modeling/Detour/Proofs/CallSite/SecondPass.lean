import Detour.Proofs.CallSite.Callees
import Detour.Proofs.CallSite.Sites

/-!
# Second passes

A pass over a body that was redirected before, for the same target and wrapper, finds the sites as
calls of the wrapper. It changes nothing more: either the wrapper is no method that the target looks
for, and then no site is left, or it is one, and then the same sites are redirected to it again.
-/

namespace Detour.CallSite

open Detour.Body
open Detour.Host
open Detour.Rule

section Twice

variable {S : Type} {metadata : Metadata S} {host : S} {target : MethodPattern}
  {methodName : String} {wrapperRef : Token}

/-- The token refers to a method that the target looks for, in whatever assembly. -/
def RefersToTarget (metadata : Metadata S) (host : S) (target : MethodPattern) (token : Token) :
    Prop :=
  (token.kind = .memberRef ∨ token.kind = .methodDef) ∧
    ∃ methodName callee, target.methodName? = some methodName ∧
      resolveAfresh metadata host methodName token = .ok (some callee) ∧
      target.matchesNames callee.typeName callee.methodName = true

theorem methodName_of_resolveAfresh {operand : Token} {callee : MethodIdentity}
    (resolved : resolveAfresh metadata host methodName operand = .ok (some callee)) :
    callee.methodName = methodName :=
  methodName_of_resolve (eq_ok_of_outcomeOf resolved)

/-- A call of the wrapper is a site exactly if the target looks for the wrapper. -/
theorem isSite_call_iff (named : target.methodName? = some methodName) (offset : UInt32) :
    IsSite metadata host target methodName ⟨offset, Opcode.call, .token wrapperRef⟩ ↔
      RefersToTarget metadata host target wrapperRef := by
  have admits {callee : MethodIdentity}
      (resolved : resolveAfresh metadata host methodName wrapperRef = .ok (some callee)) :
      target.matchesNames callee.typeName callee.methodName = true ↔
        AdmitsType target callee.typeName := by
    rw [methodName_of_resolveAfresh resolved, MethodPattern.matchesNames_of_methodName? named,
      typeIsExpected_iff]
  constructor
  · rintro ⟨operand, callee, isCallee, resolved, admitted⟩
    obtain ⟨-, sameToken, kind⟩ := Instruction.callee?_eq_some_iff.mp isCallee
    cases sameToken
    exact ⟨kind, methodName, callee, named, resolved, (admits resolved).mpr admitted⟩
  · rintro ⟨kind, otherName, callee, otherNamed, resolved, matched⟩
    cases named.symm.trans otherNamed
    have isCallee : Instruction.callee? ⟨offset, Opcode.call, .token wrapperRef⟩ =
        some wrapperRef := Instruction.callee?_eq_some_iff.mpr ⟨.inl rfl, rfl, kind⟩
    exact ⟨wrapperRef, callee, isCallee, resolved, (admits resolved).mp matched⟩

/-! ## Single instructions -/

theorem redirectSite_of_isSite {instruction : Instruction}
    (isSite : IsSite metadata host target methodName instruction) :
    redirectSite metadata host target methodName wrapperRef instruction =
      ⟨instruction.offset, Opcode.call, .token wrapperRef⟩ :=
  if_pos isSite

theorem redirectSite_of_notSite {instruction : Instruction}
    (notSite : ¬ IsSite metadata host target methodName instruction) :
    redirectSite metadata host target methodName wrapperRef instruction = instruction :=
  if_neg notSite

theorem redirectSite_redirectSite (instruction : Instruction) :
    redirectSite metadata host target methodName wrapperRef
        (redirectSite metadata host target methodName wrapperRef instruction) =
      redirectSite metadata host target methodName wrapperRef instruction := by
  by_cases isSite : IsSite metadata host target methodName instruction
  · -- Whether the call of the wrapper is a site or not, it is left as it is.
    rw [redirectSite_of_isSite isSite]
    unfold redirectSite
    split
    · rfl
    · rfl
  · rw [redirectSite_of_notSite isSite, redirectSite_of_notSite isSite]

/-- If the target looks for the wrapper, then the sites stay sites, and nothing else becomes one. -/
theorem isSite_redirectSite_iff (named : target.methodName? = some methodName)
    (refers : RefersToTarget metadata host target wrapperRef) (instruction : Instruction) :
    IsSite metadata host target methodName
        (redirectSite metadata host target methodName wrapperRef instruction) ↔
      IsSite metadata host target methodName instruction := by
  by_cases isSite : IsSite metadata host target methodName instruction
  · rw [redirectSite_of_isSite isSite]
    exact iff_of_true ((isSite_call_iff named _).mpr refers) isSite
  · rw [redirectSite_of_notSite isSite]

/-- If the target does not look for the wrapper, then no site is left. -/
theorem not_isSite_redirectSite (named : target.methodName? = some methodName)
    (other : ¬ RefersToTarget metadata host target wrapperRef) (instruction : Instruction) :
    ¬ IsSite metadata host target methodName
      (redirectSite metadata host target methodName wrapperRef instruction) := by
  by_cases isSite : IsSite metadata host target methodName instruction
  · rw [redirectSite_of_isSite isSite]
    exact mt (isSite_call_iff named _).mp other
  · rw [redirectSite_of_notSite isSite]
    exact isSite

/-! ## Whole passes -/

theorem Pass.Redirects.of_counted (isPure : metadata.IsPure) {scan : Scan S}
    (sameHost : scan.world.host = host) {instructions : List Instruction} {count : Nat}
    (counted : (redirectNamed metadata methodName target.typeName? wrapperRef instructions
      scan).result = .ok count) :
    Pass.Redirects metadata host target methodName wrapperRef instructions
      (redirectNamed metadata methodName target.typeName? wrapperRef instructions scan) := by
  rcases redirectNamed_sites isPure sameHost target methodName wrapperRef instructions with
    redirects | ⟨_, _, _, _, stops⟩
  · exact redirects
  · cases stops.result_eq.symm.trans counted

/-- A second pass over a redirected body, over the same state of a pure host and from any buffers,
leaves the body as it is. It counts the same calls again if the wrapper is a method that the target
looks for, and none otherwise. -/
theorem redirectCalls_redirectCalls (isPure : metadata.IsPure) (target : MethodPattern)
    (wrapperRef : Token) (body : MethodBody) {scan other : Scan S}
    (sameHost : other.world.host = scan.world.host) {count again : Nat} :
    let host := scan.world.host
    let first := redirectCalls metadata target wrapperRef body.instructions scan
    let redirected : MethodBody := { body with instructions := first.instructions }
    let second := redirectCalls metadata target wrapperRef redirected.instructions other
    first.result = .ok count → second.result = .ok again →
      ({ redirected with instructions := second.instructions } : MethodBody) = redirected ∧
        (RefersToTarget metadata host target wrapperRef → again = count) ∧
        (¬ RefersToTarget metadata host target wrapperRef → again = 0) := by
  intro host first redirected second counted countedAgain
  cases named : target.methodName? with
  | none =>
    have idle (instructions : List Instruction) (start : Scan S) :
        redirectCalls metadata target wrapperRef instructions start =
          ⟨.ok 0, instructions, start⟩ := by
      rw [redirectCalls, named]
    simp only [first, redirected, second, idle] at counted countedAgain ⊢
    cases counted
    cases countedAgain
    exact ⟨trivial, fun _ => rfl, fun _ => rfl⟩
  | some methodName =>
    have isNamed (instructions : List Instruction) (start : Scan S) :
        redirectCalls metadata target wrapperRef instructions start =
          redirectNamed metadata methodName target.typeName? wrapperRef instructions start := by
      rw [redirectCalls, named]
    simp only [first, redirected, second, isNamed] at counted countedAgain ⊢
    have redirects := Pass.Redirects.of_counted isPure (rfl : scan.world.host = host) counted
    have redirectsAgain := Pass.Redirects.of_counted isPure sameHost countedAgain
    have count_eq := Except.ok.inj (counted.symm.trans redirects.result_eq)
    have again_eq := Except.ok.inj (countedAgain.symm.trans redirectsAgain.result_eq)
    rw [redirects.instructions_eq, List.countP_map] at again_eq
    refine ⟨?_, ?_, ?_⟩
    · rw [redirectsAgain.instructions_eq, redirects.instructions_eq, List.map_map]
      congr 1
      exact List.map_congr_left fun instruction _ => redirectSite_redirectSite instruction
    · intro refers
      rw [again_eq, count_eq]
      apply List.countP_congr
      intro instruction _
      simp only [Function.comp_apply, decide_eq_true_eq]
      exact isSite_redirectSite_iff named refers instruction
    · intro otherMethod
      rw [again_eq, List.countP_eq_zero]
      intro instruction _
      simp only [Function.comp_apply, decide_eq_true_eq]
      exact not_isSite_redirectSite named otherMethod instruction

end Twice

namespace OpenType

/-- Two references to `Run`, of which the second is the wrapper's, and a third to `Stop`. -/
def metadata : Metadata Unit :=
  { Metadata.refusing with
    memberRef := fun token slot =>
      if token = ⟨0x0A000003⟩ then .ok ⟨0x01000001⟩ ⟨"Stop", slot.host⟩
      else if token = ⟨0x0A000002⟩ then .ok ⟨0x01000002⟩ ⟨"Run", slot.host⟩
      else .ok ⟨0x01000001⟩ ⟨"Run", slot.host⟩
    methodDef := fun _ slot => .ok ⟨0x02000002⟩ ⟨"Main", slot.host⟩
    typeRef := fun token slot =>
      if token = ⟨0x01000002⟩ then .ok () ⟨"Wrap.Task", slot.host⟩
      else .ok () ⟨"Lib.Task", slot.host⟩
    typeDef := fun _ slot => .ok () ⟨"App", slot.host⟩ }

theorem metadata_isPure : metadata.IsPure where
  memberRef token host := by
    left
    by_cases stop : token = ⟨0x0A000003⟩
    · simp [metadata, stop]
    · by_cases wrapper : token = ⟨0x0A000002⟩
      · simp [metadata, wrapper]
      · simp [metadata, stop, wrapper]
  methodDef _ _ := .inl ⟨_, _, fun _ => rfl⟩
  typeRef token host := by
    left
    by_cases wrapper : token = ⟨0x01000002⟩
    · simp [metadata, wrapper]
    · simp [metadata, wrapper]
  typeDef _ _ := .inl ⟨_, _, fun _ => rfl⟩

/-- The second call goes to the wrapper already. -/
def body : MethodBody where
  header := .tiny
  instructions :=
    [⟨0, Opcode.callvirt, .token ⟨0x0A000001⟩⟩, ⟨5, Opcode.call, .token ⟨0x0A000002⟩⟩,
      ⟨10, Opcode.call, .token ⟨0x0A000003⟩⟩]
  trailer := []

def anyRun : MethodPattern := ⟨none, none, some "Run"⟩

def taskRun : MethodPattern := ⟨none, some "Lib.Task", some "Run"⟩

def first (target : MethodPattern) : Pass Unit :=
  redirectCalls metadata target ⟨0x0A000002⟩ body.instructions ⟨HeldNames.empty, ⟨(), #[]⟩⟩

/-- From the buffers that the first pass leaves. -/
def second (target : MethodPattern) : Pass Unit :=
  redirectCalls metadata target ⟨0x0A000002⟩ (first target).instructions (first target).scan

end OpenType

/-- A target that leaves the type open looks for the wrapper too, and both passes count the same two
calls. A target of the other type does not, and its second pass counts none. -/
theorem redirectCalls_redirectCalls_openType :
    ((OpenType.first OpenType.anyRun).result = .ok 2 ∧
      (OpenType.second OpenType.anyRun).result = .ok 2 ∧
      RefersToTarget OpenType.metadata () OpenType.anyRun ⟨0x0A000002⟩) ∧
    (OpenType.first OpenType.taskRun).result = .ok 1 ∧
      (OpenType.second OpenType.taskRun).result = .ok 0 ∧
      ¬ RefersToTarget OpenType.metadata () OpenType.taskRun ⟨0x0A000002⟩ := by
  have isPure := OpenType.metadata_isPure
  constructor
  · have counted : (OpenType.first OpenType.anyRun).result = .ok 2 := rfl
    have countedAgain : (OpenType.second OpenType.anyRun).result = .ok 2 := rfl
    obtain ⟨-, -, otherMethod⟩ := redirectCalls_redirectCalls isPure OpenType.anyRun ⟨0x0A000002⟩
      OpenType.body rfl counted countedAgain
    refine ⟨counted, countedAgain, ?_⟩
    apply Classical.byContradiction
    intro other
    exact absurd (otherMethod other) (by decide)
  · have counted : (OpenType.first OpenType.taskRun).result = .ok 1 := rfl
    have countedAgain : (OpenType.second OpenType.taskRun).result = .ok 0 := rfl
    obtain ⟨-, sameMethod, -⟩ := redirectCalls_redirectCalls isPure OpenType.taskRun ⟨0x0A000002⟩
      OpenType.body rfl counted countedAgain
    refine ⟨counted, countedAgain, ?_⟩
    intro refers
    exact absurd (sameMethod refers) (by decide)

end Detour.CallSite
