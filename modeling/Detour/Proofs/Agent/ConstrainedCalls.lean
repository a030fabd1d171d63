import Detour.Proofs.Agent.Commits

/-!
# Constrained calls

The instruction `constrained.` prepares the receiver of the dispatched call behind it, and of no
other instruction. Redirection makes direct calls and looks at no instruction in front of them, so
a committed body has such a mark in front of a direct call exactly if one of the redirected calls
had it.
-/

namespace Detour

open Detour.Body
open Detour.CallSite
open Detour.Host
open Detour.Rule

variable {S : Type}

namespace Body

/-- The mark of a dispatched call with a receiver of a given type. -/
def Opcode.constrained : Opcode := 0xFE16

/-- Whether the instruction in front of a position marks a constrained call. -/
def IsConstrained (instructions : List Instruction) (position : Nat) : Prop :=
  ∃ index mark, position = index + 1 ∧ instructions[index]? = some mark ∧
    mark.opcode = Opcode.constrained

/-- Every mark of a constrained call has a dispatched call behind it. -/
def ConstrainedCallsDispatch (instructions : List Instruction) : Prop :=
  ∀ index mark, instructions[index]? = some mark → mark.opcode = Opcode.constrained →
    ∃ call, instructions[index + 1]? = some call ∧ call.opcode = Opcode.callvirt

namespace CallsRedirected

variable {positions : List Nat} {targets : Nat → Token} {before after : List Instruction}

/-- Redirection neither makes nor removes a mark. -/
theorem mark_iff (redirected : CallsRedirected positions targets before after) (index : Nat)
    (mark : Instruction) (isMark : mark.opcode = Opcode.constrained) :
    after[index]? = some mark ↔ before[index]? = some mark := by
  rw [redirected.getElem?_eq]
  by_cases isCall : index ∈ positions
  · obtain ⟨call, operand, found, isTarget⟩ := redirected.areCalls index isCall
    have callOpcode := (Instruction.callee?_eq_some_iff.mp isTarget).1
    rw [found, Option.map_some, if_pos isCall]
    constructor
    · intro same
      rw [← Option.some.inj same] at isMark
      exact absurd isMark (by decide : Opcode.call ≠ Opcode.constrained)
    · intro same
      rw [← Option.some.inj same] at isMark
      rw [isMark] at callOpcode
      exact absurd callOpcode (by decide)
  · simp only [if_neg isCall, Option.map_id']

theorem constrainedCallsDispatch_iff (redirected : CallsRedirected positions targets before after)
    (dispatch : ConstrainedCallsDispatch before) :
    ConstrainedCallsDispatch after ↔
      ∀ position ∈ positions, ¬ IsConstrained before position := by
  constructor
  · intro dispatchAfter position isCall constrained
    obtain ⟨index, mark, rfl, found, isMark⟩ := constrained
    have foundAfter := (redirected.mark_iff index mark isMark).mpr found
    obtain ⟨call, callAfter, isDispatched⟩ := dispatchAfter index mark foundAfter isMark
    obtain ⟨original, operand, foundCall, _⟩ := redirected.areCalls (index + 1) isCall
    rw [redirected.instruction_at (index + 1) original foundCall, if_pos isCall] at callAfter
    rw [← Option.some.inj callAfter] at isDispatched
    exact absurd isDispatched (by decide : Opcode.call ≠ Opcode.callvirt)
  · intro unconstrained index mark foundAfter isMark
    have found := (redirected.mark_iff index mark isMark).mp foundAfter
    obtain ⟨call, foundCall, isDispatched⟩ := dispatch index mark found isMark
    have notRedirected : index + 1 ∉ positions := fun isCall =>
      unconstrained (index + 1) isCall ⟨index, mark, rfl, found, isMark⟩
    refine ⟨call, ?_, isDispatched⟩
    rw [redirected.instruction_at (index + 1) call foundCall, if_neg notRedirected]

end CallsRedirected

end Body

/-- If all constrained calls of a method dispatch, then those of the committed body do so exactly if
no redirected call is constrained. -/
theorem Session.constrainedCallsDispatch_of_committed {moduleId : ModuleId} {function : Token}
    {handle : BodyHandle (Session S)} {session final : Session S} {index callSites : Nat}
    {key : WrapperKey}
    (committed : Session.compile moduleId function handle session =
      .ok (.committed index key callSites) final) :
    ∃ record caller buffers original body opened changed redirected positions wrapperRef,
      session.agent.record? moduleId = some record ∧
      record.Opens function handle session caller buffers original body opened ∧
      record.Writes caller handle opened.agent key callSites changed final ∧
      MethodBody.decode changed = .ok redirected ∧
      CallsRedirected positions (fun _ => wrapperRef) body.instructions redirected.instructions ∧
      (ConstrainedCallsDispatch body.instructions →
        (ConstrainedCallsDispatch redirected.instructions ↔
          ∀ position ∈ positions, ¬ IsConstrained body.instructions position)) := by
  obtain ⟨record, tracked, compiled⟩ := Session.exists_record_of_compile committed
  obtain ⟨caller, buffers, original, body, opened, changed, positions, wrapperRef, opens, _, _, _,
    redirection, writes⟩ := ModuleRecord.exists_redirection_of_compile compiled
  obtain ⟨redirected, decoded, _, _, calls⟩ := redirection.decodes
  exact ⟨record, caller, buffers, original, body, opened, changed, redirected, positions,
    wrapperRef, tracked, opens, writes, decoded, calls, calls.constrainedCallsDispatch_iff⟩

namespace OneMethod

/-- The method makes a constrained call of `Run` and returns. -/
def constrainedSession : Session (List UInt8) where
  agent := session.agent
  world := ⟨[0x32, 0xFE, 0x16, 2, 0, 0, 0x02, 0x6F, 1, 0, 0, 0x0A, 0x2A], #[]⟩

def constrainedBody : MethodBody where
  header := .tiny
  instructions :=
    [⟨0, 0xFE16, .token ⟨0x02000002⟩⟩, ⟨6, 0x6F, .token ⟨0x0A000001⟩⟩, ⟨11, 0x2A, .none⟩]
  trailer := []

/-- What is committed in the place of `constrainedBody`. -/
def markedBody : MethodBody where
  header := .tiny
  instructions :=
    [⟨0, 0xFE16, .token ⟨0x02000002⟩⟩, ⟨6, 0x28, .token ⟨0x0A000009⟩⟩, ⟨11, 0x2A, .none⟩]
  trailer := []

theorem dispatch_constrainedBody : ConstrainedCallsDispatch constrainedBody.instructions := by
  intro index mark found isMark
  match index with
  | 0 => exact ⟨_, rfl, rfl⟩
  | 1 | 2 =>
    cases found
    exact absurd isMark (by decide)
  | _ + 3 => cases found

theorem compile_constrainedSession :
    ∃ final, Session.compile ⟨7⟩ ⟨0x06000001⟩ handle constrainedSession =
        .ok (.committed 2 ⟨"Start"⟩ 1) final ∧
      MethodBody.decode final.world.host = .ok markedBody := by
  have tracked : constrainedSession.agent.record? ⟨7⟩ = some record := record?_session
  rw [Session.compile_of_tracked tracked]
  exact ⟨_, rfl, rfl⟩

end OneMethod

theorem Session.constrainedCallsDispatch_of_committed_oneCall :
    ∃ final record caller buffers original body opened changed redirected positions wrapperRef,
      Session.compile ⟨7⟩ ⟨0x06000001⟩ OneMethod.handle OneMethod.constrainedSession =
        .ok (.committed 2 ⟨"Start"⟩ 1) final ∧
      OneMethod.constrainedSession.agent.record? ⟨7⟩ = some record ∧
      record.Opens ⟨0x06000001⟩ OneMethod.handle OneMethod.constrainedSession caller buffers
        original body opened ∧
      record.Writes caller OneMethod.handle opened.agent ⟨"Start"⟩ 1 changed final ∧
      MethodBody.decode changed = .ok redirected ∧
      CallsRedirected positions (fun _ => wrapperRef) body.instructions redirected.instructions ∧
      (ConstrainedCallsDispatch body.instructions →
        (ConstrainedCallsDispatch redirected.instructions ↔
          ∀ position ∈ positions, ¬ IsConstrained body.instructions position)) := by
  obtain ⟨final, committed, _⟩ := OneMethod.compile_constrainedSession
  obtain ⟨record, caller, buffers, original, body, opened, changed, redirected, positions,
    wrapperRef, described⟩ := Session.constrainedCallsDispatch_of_committed committed
  exact ⟨final, record, caller, buffers, original, body, opened, changed, redirected, positions,
    wrapperRef, committed, described⟩

/-- The constrained call of the method is dispatched, and the one that is committed is not. -/
theorem Session.committed_constrained_direct_call :
    MethodBody.decode OneMethod.constrainedSession.world.host = .ok OneMethod.constrainedBody ∧
    ConstrainedCallsDispatch OneMethod.constrainedBody.instructions ∧
    ∃ final, Session.compile ⟨7⟩ ⟨0x06000001⟩ OneMethod.handle OneMethod.constrainedSession =
        .ok (.committed 2 ⟨"Start"⟩ 1) final ∧
      ∃ redirected, MethodBody.decode final.world.host = .ok redirected ∧
        ¬ ConstrainedCallsDispatch redirected.instructions := by
  obtain ⟨final, committed, decoded⟩ := OneMethod.compile_constrainedSession
  refine ⟨rfl, OneMethod.dispatch_constrainedBody, final, committed, OneMethod.markedBody, decoded,
    ?_⟩
  intro dispatch
  obtain ⟨call, found, isDispatched⟩ := dispatch 0 _ rfl rfl
  cases found
  exact absurd isDispatched (by decide)

end Detour
