import Detour.Proofs.Module.Requests

/-!
# Attempts

While a record is filled, every candidate has one attempt: its wrapper is asked for on the record
that the attempts before it have left. A granted attempt enables the candidate, and a refused one is
logged. So the enabled candidates and the refusals are two parts of one list, and each part keeps
the order of the candidates.
-/

namespace Detour

open Detour.Host
open Detour.Rule

variable {S : Type}

/-- A candidate with the request for the reference to its wrapper. -/
structure Attempt where
  replacement : Replacement
  request : Request

namespace Attempt

def isGranted (attempt : Attempt) : Bool :=
  attempt.request.outcome.isOk

def refusal? (attempt : Attempt) : Option EmissionError :=
  match attempt.request.outcome with
  | .ok _ => none
  | .error error => some error

/-- The candidates of the granted attempts, in order. -/
def enabled (attempts : List Attempt) : List Replacement :=
  (attempts.filter (·.isGranted)).map (·.replacement)

/-- What the other attempts were refused with, in order. -/
def refusals (attempts : List Attempt) : List EmissionError :=
  attempts.filterMap (·.refusal?)

variable {attempt : Attempt} {rest : List Attempt} {token : Token} {error : EmissionError}

theorem enabled_cons_of_ok (given : attempt.request.outcome = .ok token) :
    enabled (attempt :: rest) = attempt.replacement :: enabled rest := by
  have isGranted : attempt.isGranted = true := by
    rw [Attempt.isGranted, given]
    rfl
  rw [enabled, List.filter_cons_of_pos isGranted, List.map_cons, enabled]

theorem enabled_cons_of_error (refused : attempt.request.outcome = .error error) :
    enabled (attempt :: rest) = enabled rest := by
  have notGranted : ¬ attempt.isGranted = true := by
    rw [Attempt.isGranted, refused]
    exact Bool.false_ne_true
  rw [enabled, List.filter_cons_of_neg notGranted, enabled]

theorem refusals_cons_of_ok (given : attempt.request.outcome = .ok token) :
    refusals (attempt :: rest) = refusals rest := by
  have nothing : attempt.refusal? = none := by rw [refusal?, given]
  rw [refusals, List.filterMap_cons_none nothing, refusals]

theorem refusals_cons_of_error (refused : attempt.request.outcome = .error error) :
    refusals (attempt :: rest) = error :: refusals rest := by
  have something : attempt.refusal? = some error := by rw [refusal?, refused]
  rw [refusals, List.filterMap_cons_some something, refusals]

theorem length_enabled_add_length_refusals (attempts : List Attempt) :
    (enabled attempts).length + (refusals attempts).length = attempts.length := by
  induction attempts with
  | nil => rfl
  | cons attempt rest ih =>
    cases outcome : attempt.request.outcome with
    | ok token =>
      rw [enabled_cons_of_ok outcome, refusals_cons_of_ok outcome, List.length_cons,
        List.length_cons]
      omega
    | error error =>
      rw [enabled_cons_of_error outcome, refusals_cons_of_error outcome, List.length_cons,
        List.length_cons]
      omega

/-- The calls of all the attempts, in order. -/
def hostCalls (attempts : List Attempt) : List AnsweredCall :=
  Request.hostCalls (attempts.map (·.request))

theorem hostCalls_cons : hostCalls (attempt :: rest) = attempt.request.calls ++ hostCalls rest :=
  rfl

end Attempt

namespace Emission

/-- The attempt to enable a candidate. -/
def attempt (emission : Emission S) (replacement : Replacement) : Attempt :=
  ⟨replacement, emission.request replacement.wrapper⟩

/-- The emission behind an attempt that was granted. -/
def enable (emission : Emission S) (replacement : Replacement) : Emission S :=
  { emission with record := emission.record.enable replacement }

/-- The emission behind an attempt that was refused. -/
def drop (emission : Emission S) (replacement : Replacement) (error : EmissionError) :
    Emission S :=
  { emission with
    world := emission.world.log
      (.replacementDropped emission.record.moduleId replacement.wrapper.key error) }

/-- The attempts lead from one emission to another, each from where the one before it has led. -/
inductive Attempts : Emission S → List Attempt → Emission S → Prop where
  | nothing (emission : Emission S) : Attempts emission [] emission
  | granted {before behind after : Emission S} {replacement : Replacement} {token : Token}
      {rest : List Attempt} (asked : wrapperRef replacement.wrapper before = .ok token behind)
      (later : Attempts (behind.enable replacement) rest after) :
      Attempts before (before.attempt replacement :: rest) after
  | refused {before behind after : Emission S} {replacement : Replacement} {error : EmissionError}
      {rest : List Attempt} (asked : wrapperRef replacement.wrapper before = .error error behind)
      (later : Attempts (behind.drop replacement error) rest after) :
      Attempts before (before.attempt replacement :: rest) after

variable {before behind after : Emission S} {replacement : Replacement} {attempts : List Attempt}

theorem attempt_of_ok {token : Token}
    (asked : wrapperRef replacement.wrapper before = .ok token behind) :
    (before.attempt replacement).request.outcome = .ok token := by
  rw [attempt, request, asked]
  rfl

theorem attempt_of_error {error : EmissionError}
    (asked : wrapperRef replacement.wrapper before = .error error behind) :
    (before.attempt replacement).request.outcome = .error error := by
  rw [attempt, request, asked]
  rfl

theorem replacements_wrapperRef (wrapper : Wrapper) (emission : Emission S) :
    (endState (wrapperRef wrapper emission)).record.replacements =
      emission.record.replacements := by
  have grows := (grows_wrapperRef wrapper emission).1
  rw [grows.replacements_eq, List.append_nil]

theorem reaches_attempt (emission : Emission S) (replacement : Replacement) :
    emission.record.Reaches [(emission.attempt replacement).request]
      (endState (wrapperRef replacement.wrapper emission)).record :=
  ModuleRecord.Reaches.start.ask replacement.wrapper emission.world

namespace Attempts

/-- Behind the attempts, exactly the candidates of the granted ones have been enabled. -/
theorem replacements_eq (ran : Attempts before attempts after) :
    after.record.replacements = before.record.replacements ++ Attempt.enabled attempts := by
  induction ran with
  | nothing => exact (List.append_nil _).symm
  | @granted before behind after replacement token rest asked later ih =>
    have kept := replacements_wrapperRef replacement.wrapper before
    rw [asked, endState] at kept
    have enables : (behind.enable replacement).record.replacements =
        before.record.replacements ++ [replacement] := congrArg (· ++ [replacement]) kept
    rw [Attempt.enabled_cons_of_ok (attempt_of_ok asked), ih, enables, List.append_assoc]
    rfl
  | @refused before behind after replacement error rest asked later ih =>
    have kept := replacements_wrapperRef replacement.wrapper before
    rw [asked, endState] at kept
    rw [Attempt.enabled_cons_of_error (attempt_of_error asked), ih]
    exact congrArg (· ++ Attempt.enabled rest) kept

/-- The requests of the attempts are a run on one record. -/
theorem reaches (ran : Attempts before attempts after) :
    before.record.Reaches (attempts.map (·.request)) after.record := by
  induction ran with
  | nothing => exact .start
  | @granted before behind after replacement token rest asked later ih =>
    have first := before.reaches_attempt replacement
    rw [asked, endState] at first
    exact (first.enable replacement).trans ih
  | @refused before behind after replacement error rest asked later ih =>
    have first := before.reaches_attempt replacement
    rw [asked, endState] at first
    exact first.trans ih

end Attempts

end Emission

/-! ## Filling a record -/

namespace ModuleTable

open Emission

variable {emission behind : Emission S} {replacement : Replacement} {rest : List Replacement}

theorem prepare_cons_of_ok {token : Token}
    (asked : wrapperRef replacement.wrapper emission = .ok token behind) :
    prepare (replacement :: rest) emission = prepare rest (behind.enable replacement) := by
  rw [prepare, asked]
  rfl

theorem prepare_cons_of_error {error : EmissionError}
    (asked : wrapperRef replacement.wrapper emission = .error error behind) :
    prepare (replacement :: rest) emission =
      (error :: (prepare rest (behind.drop replacement error)).1,
        (prepare rest (behind.drop replacement error)).2) := by
  rw [prepare, asked]
  rfl

/-- A record is filled by one attempt for each candidate, and no call is made but theirs. -/
theorem exists_attempts_of_prepare (candidates : List Replacement) (emission : Emission S)
    {past : List Request} (recalls : emission.record.Recalls past) :
    ∃ attempts, attempts.map (·.replacement) = candidates ∧
      Attempts emission attempts (prepare candidates emission).2 ∧
      (prepare candidates emission).1 = Attempt.refusals attempts ∧
      ∀ earlier, prepare candidates (emission.accounted earlier) =
        ((prepare candidates emission).1,
          (prepare candidates emission).2.accounted (earlier ++ Attempt.hostCalls attempts)) := by
  -- The record recalls the requests so far, which settles the calls of the next one.
  induction candidates generalizing emission past with
  | nil =>
    refine ⟨[], rfl, .nothing emission, rfl, fun earlier => ?_⟩
    have noCalls : Attempt.hostCalls [] = [] := rfl
    rw [noCalls, List.append_nil]
    rfl
  | cons replacement rest ih =>
    obtain ⟨_, recallsBehind, makes⟩ := emission.follows_request recalls replacement.wrapper
    cases asked : wrapperRef replacement.wrapper emission with
    | ok token behind =>
      rw [asked] at recallsBehind
      have recallsEnabled : (behind.enable replacement).record.Recalls
          (past ++ [emission.request replacement.wrapper]) :=
        ⟨recallsBehind.rows, recallsBehind.references⟩
      obtain ⟨attempts, areRest, ran, errors, accounted⟩ := ih _ recallsEnabled
      rw [prepare_cons_of_ok asked]
      refine ⟨emission.attempt replacement :: attempts, ?_, .granted asked ran, ?_, ?_⟩
      · rw [List.map_cons, areRest]
        rfl
      · rw [errors, Attempt.refusals_cons_of_ok (attempt_of_ok asked)]
      · intro earlier
        have accountedAsked := makes earlier
        rw [asked, mapState] at accountedAsked
        rw [prepare_cons_of_ok accountedAsked, Attempt.hostCalls_cons, ← List.append_assoc]
        exact accounted _
    | error error behind =>
      rw [asked] at recallsBehind
      obtain ⟨attempts, areRest, ran, errors, accounted⟩ :=
        ih (behind.drop replacement error) recallsBehind
      rw [prepare_cons_of_error asked]
      refine ⟨emission.attempt replacement :: attempts, ?_, .refused asked ran, ?_, ?_⟩
      · rw [List.map_cons, areRest]
        rfl
      · rw [errors, Attempt.refusals_cons_of_error (attempt_of_error asked)]
      · intro earlier
        have accountedAsked := makes earlier
        rw [asked, mapState] at accountedAsked
        have accountedRest := accounted (earlier ++ (emission.attempt replacement).request.calls)
        rw [prepare_cons_of_error accountedAsked, Attempt.hostCalls_cons, ← List.append_assoc]
        have sameDrop : (behind.accounted
            (earlier ++ (emission.request replacement.wrapper).calls)).drop replacement error =
              (behind.drop replacement error).accounted
                (earlier ++ (emission.attempt replacement).request.calls) := rfl
        rw [sameDrop, accountedRest]

end ModuleTable

end Detour
