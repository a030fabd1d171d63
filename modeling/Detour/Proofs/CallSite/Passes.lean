import Detour.CallSite.Redirect
import Detour.Proofs.Body.Redirection

/-!
# Passes

A pass leaves an instruction alone or redirects it, and only a call whose operand names a member or
a method is ever redirected. Whatever the host answers, the instructions behind a pass are a
redirection of those in front of it, and a pass that counts no hit has changed nothing.
-/

namespace Detour.CallSite

open Detour.Body
open Detour.Host
open Detour.Rule

variable {S : Type} {metadata : Metadata S} {methodName : String} {typeName : Option String}
  {wrapperRef operand : Token} {instruction : Instruction} {rest : List Instruction}
  {scan after : Scan S}

/-! ## One step -/

theorem redirectNamed_of_noCallee (callee : instruction.callee? = none) :
    redirectNamed metadata methodName typeName wrapperRef (instruction :: rest) scan =
      (redirectNamed metadata methodName typeName wrapperRef rest scan).keeping instruction := by
  rw [redirectNamed, callee]

theorem redirectNamed_of_refused {refusal : Refusal}
    (callee : instruction.callee? = some operand)
    (refused : resolve metadata operand methodName scan = .error refusal after) :
    redirectNamed metadata methodName typeName wrapperRef (instruction :: rest) scan =
      ⟨.error refusal, instruction :: rest, after⟩ := by
  rw [redirectNamed, callee]
  dsimp only
  rw [refused]

theorem redirectNamed_of_unresolved (callee : instruction.callee? = some operand)
    (resolved : resolve metadata operand methodName scan = .ok none after) :
    redirectNamed metadata methodName typeName wrapperRef (instruction :: rest) scan =
      (redirectNamed metadata methodName typeName wrapperRef rest after).keeping instruction := by
  rw [redirectNamed, callee]
  dsimp only
  rw [resolved]

theorem redirectNamed_of_unexpected {target : MethodIdentity}
    (callee : instruction.callee? = some operand)
    (resolved : resolve metadata operand methodName scan = .ok (some target) after)
    (unexpected : ¬ typeIsExpected typeName target.typeName = true) :
    redirectNamed metadata methodName typeName wrapperRef (instruction :: rest) scan =
      (redirectNamed metadata methodName typeName wrapperRef rest after).keeping instruction := by
  rw [redirectNamed, callee]
  dsimp only
  rw [resolved]
  dsimp only
  rw [if_neg unexpected]

theorem redirectNamed_of_expected {target : MethodIdentity}
    (callee : instruction.callee? = some operand)
    (resolved : resolve metadata operand methodName scan = .ok (some target) after)
    (expected : typeIsExpected typeName target.typeName = true) :
    redirectNamed metadata methodName typeName wrapperRef (instruction :: rest) scan =
      (redirectNamed metadata methodName typeName wrapperRef rest
        (after.log (.callRedirected instruction.offset target.typeName target.methodName
          wrapperRef))).redirecting (instruction.redirect wrapperRef) := by
  rw [redirectNamed, callee]
  dsimp only
  rw [resolved]
  dsimp only
  rw [if_pos expected]

/-- A call of anything but the target is left alone, whether it was resolved or not. -/
theorem redirectNamed_of_other {found : Option MethodIdentity}
    (callee : instruction.callee? = some operand)
    (resolved : resolve metadata operand methodName scan = .ok found after)
    (other : ∀ target, found = some target → ¬ typeIsExpected typeName target.typeName = true) :
    redirectNamed metadata methodName typeName wrapperRef (instruction :: rest) scan =
      (redirectNamed metadata methodName typeName wrapperRef rest after).keeping instruction := by
  cases found with
  | none => exact redirectNamed_of_unresolved callee resolved
  | some target => exact redirectNamed_of_unexpected callee resolved (other target rfl)

/-- Everything that a pass can do at its first instruction. -/
theorem redirectNamed_cons_cases (metadata : Metadata S) (methodName : String)
    (typeName : Option String) (wrapperRef : Token) (instruction : Instruction)
    (rest : List Instruction) (scan : Scan S) :
    (∃ refusal after, redirectNamed metadata methodName typeName wrapperRef (instruction :: rest)
        scan = ⟨.error refusal, instruction :: rest, after⟩) ∨
      (∃ after, redirectNamed metadata methodName typeName wrapperRef (instruction :: rest) scan =
        (redirectNamed metadata methodName typeName wrapperRef rest after).keeping instruction) ∨
      ∃ operand after, instruction.callee? = some operand ∧
        redirectNamed metadata methodName typeName wrapperRef (instruction :: rest) scan =
          (redirectNamed metadata methodName typeName wrapperRef rest after).redirecting
            (instruction.redirect wrapperRef) := by
  cases callee : instruction.callee? with
  | none => exact .inr (.inl ⟨scan, redirectNamed_of_noCallee callee⟩)
  | some operand =>
    cases resolved : resolve metadata operand methodName scan with
    | error refusal after => exact .inl ⟨refusal, after, redirectNamed_of_refused callee resolved⟩
    | ok target after =>
      cases target with
      | none => exact .inr (.inl ⟨after, redirectNamed_of_unresolved callee resolved⟩)
      | some target =>
        by_cases expected : typeIsExpected typeName target.typeName = true
        · exact .inr (.inr
            ⟨operand, _, rfl, redirectNamed_of_expected callee resolved expected⟩)
        · exact .inr (.inl ⟨after, redirectNamed_of_unexpected callee resolved expected⟩)

/-! ## Whole passes -/

theorem pairwise_map_succ {positions : List Nat} (ascending : positions.Pairwise (· < ·)) :
    (positions.map (· + 1)).Pairwise (· < ·) :=
  List.pairwise_map.mpr (ascending.imp Nat.succ_lt_succ)

theorem pairwise_zero_cons_map_succ {positions : List Nat}
    (ascending : positions.Pairwise (· < ·)) :
    (0 :: positions.map (· + 1)).Pairwise (· < ·) := by
  refine List.pairwise_cons.mpr ⟨?_, pairwise_map_succ ascending⟩
  intro position member
  obtain ⟨index, _, rfl⟩ := List.mem_map.mp member
  exact Nat.succ_pos index

/-- A pass that is not refused redirects as many calls as it counts. -/
theorem callsRedirected_redirectNamed (metadata : Metadata S) (methodName : String)
    (typeName : Option String) (wrapperRef : Token) (instructions : List Instruction)
    (scan : Scan S) :
    ∃ positions,
      CallsRedirected positions (fun _ => wrapperRef) instructions
        (redirectNamed metadata methodName typeName wrapperRef instructions scan).instructions ∧
      positions.Pairwise (· < ·) ∧
      ∀ count, (redirectNamed metadata methodName typeName wrapperRef instructions scan).result =
        .ok count → positions.length = count := by
  induction instructions generalizing scan with
  | nil =>
    refine ⟨[], CallsRedirected.refl _ [], .nil, ?_⟩
    intro count counted
    cases counted
    rfl
  | cons instruction rest ih =>
    rcases redirectNamed_cons_cases metadata methodName typeName wrapperRef instruction rest scan
      with refused | kept | hit
    · obtain ⟨refusal, after, step⟩ := refused
      rw [step]
      refine ⟨[], CallsRedirected.refl _ (instruction :: rest), .nil, ?_⟩
      intro count counted
      cases counted
    · obtain ⟨after, step⟩ := kept
      obtain ⟨positions, redirected, ascending, counts⟩ := ih after
      rw [step]
      refine ⟨positions.map (· + 1), redirected.cons_keep, pairwise_map_succ ascending, ?_⟩
      intro count counted
      rw [List.length_map]
      exact counts count counted
    · obtain ⟨operand, after, isTarget, step⟩ := hit
      obtain ⟨positions, redirected, ascending, counts⟩ := ih after
      rw [step]
      refine ⟨0 :: positions.map (· + 1), redirected.cons_redirect isTarget,
        pairwise_zero_cons_map_succ ascending, ?_⟩
      intro count counted
      obtain ⟨restCount, restCounted, rfl⟩ := Except.map_eq_ok_iff.mp counted
      rw [List.length_cons, List.length_map, counts restCount restCounted]

theorem callsRedirected_redirectCalls (metadata : Metadata S) (target : MethodPattern)
    (wrapperRef : Token) (instructions : List Instruction) (scan : Scan S) :
    ∃ positions,
      CallsRedirected positions (fun _ => wrapperRef) instructions
        (redirectCalls metadata target wrapperRef instructions scan).instructions ∧
      positions.Pairwise (· < ·) ∧
      ∀ count, (redirectCalls metadata target wrapperRef instructions scan).result = .ok count →
        positions.length = count := by
  cases named : target.methodName? with
  | none =>
    rw [redirectCalls, named]
    refine ⟨[], CallsRedirected.refl _ instructions, .nil, ?_⟩
    intro count counted
    cases counted
    rfl
  | some methodName =>
    rw [redirectCalls, named]
    exact callsRedirected_redirectNamed metadata methodName target.typeName? wrapperRef
      instructions scan

/-- A pass without a hit leaves the instructions as they were. -/
theorem instructions_redirectCalls_of_zero {target : MethodPattern}
    {instructions : List Instruction}
    (noHit : (redirectCalls metadata target wrapperRef instructions scan).result = .ok 0) :
    (redirectCalls metadata target wrapperRef instructions scan).instructions = instructions := by
  obtain ⟨positions, redirected, _, counts⟩ :=
    callsRedirected_redirectCalls metadata target wrapperRef instructions scan
  obtain rfl := List.length_eq_zero_iff.mp (counts 0 noHit)
  exact redirected.eq_of_nil

end Detour.CallSite
