import Detour.Proofs.Agent.GrownSessions
import Detour.Proofs.InMemory.AppendedRows

/-!
# Compilations in flight

A compilation keeps the record that it has found at its start. While it runs, modules may be
unloaded, loaded again and loaded anew: this changes the module table and lets the host grow. If the
compilation would have succeeded at the moment of its start, then it comes to the same all the same,
and writes the same bytes.
-/

namespace Detour

open Detour.Body
open Detour.CallSite
open Detour.EStateM
open Detour.Host
open Detour.Rule

variable {S : Type} {growth : Growth S}

/-! ## Events meanwhile -/

/-- The event brings metadata along, if any, to which rows are only appended. -/
def AgentEvent.OnlyAppends (growth : Growth S) (event : AgentEvent S) : Prop :=
  ∀ metadata, event.metadata? = some metadata → metadata.OnlyAppends growth

/-- No event but a compilation does more to the host than to let it grow. -/
theorem Session.grownTo_deliver {event : AgentEvent S} (isOther : event.isCompilation = false)
    (appends : event.OnlyAppends growth) (session : Session S) :
    session.GrownTo growth (event.deliver session).2 := by
  have alike (moduleId : ModuleId) :
      SessionsAlike (growth.OutOf session.world.host) moduleId session session :=
    ⟨rfl, rfl, rfl, rfl, rfl, growth.refl _⟩
  cases event with
  | attach process => exact (alike_attach process (alike ⟨0⟩)).sessions.hosts.2
  | detach => exact (alike_detach (alike ⟨0⟩)).sessions.hosts.2
  | load notice =>
    have respects := (appends notice.metadata rfl).respects session.world.host
    exact (alike_loadModule respects (alike _)).sessions.hosts.2
  | unload moduleId => exact (alike_unloadModule (alike moduleId)).sessions.hosts.2
  | insert record => exact (alike_insertRecord (alike record.moduleId)).sessions.hosts.2
  | compile moduleId function handle => cases isOther
  | callback callback =>
    cases callback with
    | processStarted process =>
      exact (alike_onProcessStarted process (alike ⟨0⟩)).sessions.hosts.2
    | shutdown => exact (alike_detach (alike ⟨0⟩)).sessions.hosts.2
    | moduleLoaded notice status =>
      have respects := (appends notice.metadata rfl).respects session.world.host
      exact (alike_onModuleLoaded status respects (alike _)).sessions.hosts.2
    | moduleUnloaded moduleId status =>
      exact (alike_onModuleUnloaded (alike moduleId)).sessions.hosts.2
    | compilationStarted moduleId function handle isSafeToBlock => cases isOther

/-- The session behind some events, one after the other. -/
def Session.behind (session : Session S) (events : List (AgentEvent S)) : Session S :=
  events.foldl (fun session event => (event.deliver session).2) session

/-- Events that come in between: none of them compiles, and all of them only append rows. -/
def OnlyAppending (growth : Growth S) (events : List (AgentEvent S)) : Prop :=
  ∀ event ∈ events, event.isCompilation = false ∧ event.OnlyAppends growth

theorem Session.grownTo_behind {events : List (AgentEvent S)}
    (appending : OnlyAppending growth events) (session : Session S) :
    session.GrownTo growth (session.behind events) := by
  induction events generalizing session with
  | nil => exact growth.refl _
  | cons event rest ih =>
    obtain ⟨isOther, appends⟩ := appending event List.mem_cons_self
    have first := Session.grownTo_deliver isOther appends session
    have later := ih (fun other member => appending other (List.mem_cons_of_mem event member))
      (event.deliver session).2
    exact growth.trans first later

/-- The handle, if some events come in before the body is read, and others before it is written. -/
def BodyHandle.interruptedBy (handle : BodyHandle (Session S))
    (earlier later : List (AgentEvent S)) : BodyHandle (Session S) where
  read session := handle.read (session.behind earlier)
  write bytes session := handle.write bytes (session.behind later)

theorem BodyHandle.IsFollowedBy.interrupted {handle other : BodyHandle (Session S)}
    {earlier later : List (AgentEvent S)} (follows : handle.IsFollowedBy growth other)
    (appendingEarlier : OnlyAppending growth earlier)
    (appendingLater : OnlyAppending growth later) :
    handle.IsFollowedBy growth (other.interruptedBy earlier later) where
  read session otherSession bytes behind grown readHere :=
    follows.read session (otherSession.behind earlier) bytes behind
      (growth.trans grown (Session.grownTo_behind appendingEarlier otherSession)) readHere
  write bytes session otherSession value behind grown wroteHere :=
    follows.write bytes session (otherSession.behind later) value behind
      (growth.trans grown (Session.grownTo_behind appendingLater otherSession)) wroteHere

/-- The record of a compilation that is overtaken: the host advances before every read. -/
def ModuleRecord.meanwhile (advance : S → S) (record : ModuleRecord S) : ModuleRecord S :=
  record.readingFrom (record.metadata.meanwhile advance)

/-- Growth of the host does not matter to what has succeeded without it. A pure module is stable
under all growth that its reads can see. If a module is stable, then every pass over a grown host
finds and changes what it has found and changed before, and every compilation with its record comes
to the same outcome and writes the same bytes. So does a compilation whose record was found before
modules were unloaded and loaded: these events may come before its first read, or at the calls to
the body, and the host may also grow before every single read. -/
theorem compilations_stable (record : ModuleRecord S) :
    (record.metadata.IsPure → record.metadata.StableUnder record.metadata.growth) ∧
    ∀ growth : Growth S, record.metadata.StableUnder growth →
      (∀ (target : MethodPattern) (wrapperRef : Token) (body : MethodBody) (buffers : HeldNames)
        (world other : World S) (count : Nat), growth.grows world.host other.host →
        let pass := redirectCalls record.metadata target wrapperRef body.instructions
          ⟨buffers, world⟩
        let otherPass := redirectCalls record.metadata target wrapperRef body.instructions
          ⟨buffers, other⟩
        pass.result = .ok count →
          otherPass.result = .ok count ∧ otherPass.instructions = pass.instructions) ∧
      (∀ (function : Token) (handle otherHandle : BodyHandle (Session S))
        (session other final : Session S) (outcome : CompileOutcome),
        handle.IsFollowedBy growth otherHandle → session.GrownTo growth other →
        record.compile function handle session = .ok outcome final →
          ∃ otherFinal, record.compile function otherHandle other = .ok outcome otherFinal ∧
            record.EndsAlike growth handle otherHandle outcome final otherFinal) ∧
      ∀ (moduleId : ModuleId) (function : Token) (handle : BodyHandle (Session S))
        (session final : Session S) (earlier later : List (AgentEvent S))
        (outcome : CompileOutcome), session.agent.record? moduleId = some record →
        handle.IsFollowedBy growth handle → OnlyAppending growth earlier →
        OnlyAppending growth later →
        Session.compile moduleId function handle session = .ok outcome final →
          (∃ otherFinal,
            record.compile function handle (session.behind earlier) = .ok outcome otherFinal ∧
            record.EndsAlike growth handle handle outcome final otherFinal) ∧
          (∃ otherFinal,
            Session.compile moduleId function (handle.interruptedBy earlier later) session =
              .ok outcome otherFinal ∧
            record.EndsAlike growth handle (handle.interruptedBy earlier later) outcome final
              otherFinal) ∧
          ∀ advance : S → S, (∀ host, growth.grows host (advance host)) →
            ∃ otherFinal,
              (record.meanwhile advance).compile function (handle.interruptedBy earlier later)
                session = .ok outcome otherFinal ∧
              record.EndsAlike growth handle (handle.interruptedBy earlier later) outcome final
                otherFinal := by
  refine ⟨fun isPure => isPure.stableUnder_growth, fun growth stable => ⟨?_, ?_, ?_⟩⟩
  · intro target wrapperRef body buffers world other count grown pass otherPass counted
    have scans : Scan.GrownTo growth ⟨buffers, world⟩ ⟨buffers, other⟩ := ⟨rfl, grown⟩
    have repeats := redirectCalls_repeated stable target wrapperRef body.instructions scans counted
    exact ⟨repeats.result_eq.trans counted, repeats.instructions_eq⟩
  · intro function handle otherHandle session other final outcome follows grown compiled
    exact ModuleRecord.follows_compile stable follows function session other outcome final grown
      compiled
  · intro moduleId function handle session final earlier later outcome tracked follows
      appendingEarlier appendingLater compiled
    rw [Session.compile_of_tracked tracked] at compiled ⊢
    have interrupted := follows.interrupted appendingEarlier appendingLater
    refine ⟨?_, ?_, fun advance advances => ?_⟩
    · have grown := Session.grownTo_behind appendingEarlier session
      exact ModuleRecord.follows_compile stable follows function _ _ outcome final grown compiled
    · exact ModuleRecord.follows_compile stable interrupted function _ _ outcome final
        (growth.refl _) compiled
    · have reads := stable.meanwhile advances
      exact ModuleRecord.follows_compile reads interrupted function _ _ outcome final
        (growth.refl _) compiled

/-! A host in memory with one module, whose method `Main` calls `Run`. -/

namespace Reloading

def tables : InMemory.Tables where
  typeRefs := [.present "Lib.Task" (), .present "Wrap.Task" ()]
  typeDefs := [.present "App" ()]
  methodDefs := [.present "Main" ⟨0x02000001⟩]
  memberRefs := [.present "Run" ⟨0x01000001⟩, .present "Start" ⟨0x01000002⟩]
  assemblyRefCount := 1
  fixedAssemblyRef := none
  rejections := []

def host : InMemory.Host where
  modules := [("app", tables)]
  calls := #[]
  body := ⟨[0x1A, 0x28, 1, 0, 0, 0x0A, 0x2A], 0, 0⟩

def record : ModuleRecord InMemory.Host where
  moduleId := ⟨7⟩
  assembly := "App"
  metadata := InMemory.Host.metadata "app"
  replacements := [OneMethod.replacement "Run" "Start"]
  wrapperRefs := [(⟨"Start"⟩, ⟨0x0A000002⟩)]
  assemblyRefs := []
  typeRefs := []

def session : Session InMemory.Host where
  agent := ⟨⟨[], []⟩, [⟨"task", [OneMethod.replacement "Run" "Start"]⟩],
    (∅ : ModuleTable InMemory.Host).insert ⟨7⟩ record, true⟩
  world := ⟨host, #[]⟩

def handle : BodyHandle (Session InMemory.Host) :=
  InMemory.bodyHandle ⟨0x06000001⟩ ⟨none, none, none⟩

/-- The module is unloaded, loaded again, and loaded under another identity: each load appends the
rows of the wrapper once more. -/
def events : List (AgentEvent InMemory.Host) :=
  [.unload ⟨7⟩, .load ⟨⟨7⟩, "App", ⟨0⟩, InMemory.Host.metadata "app"⟩,
    .load ⟨⟨8⟩, "App", ⟨0⟩, InMemory.Host.metadata "app"⟩]

theorem record?_session : session.agent.record? ⟨7⟩ = some record := by
  simp [Agent.record?, session]

theorem events_appending : OnlyAppending InMemory.Host.growth events := by
  have appends := InMemory.Host.metadata_onlyAppends "app"
  intro event member
  simp only [events, List.mem_cons, List.not_mem_nil, or_false] at member
  rcases member with rfl | rfl | rfl
  · refine ⟨rfl, ?_⟩
    intro metadata brought
    cases brought
  · refine ⟨rfl, ?_⟩
    intro metadata brought
    cases brought
    exact appends
  · refine ⟨rfl, ?_⟩
    intro metadata brought
    cases brought
    exact appends

theorem compile_session :
    ∃ final, Session.compile ⟨7⟩ ⟨0x06000001⟩ handle session =
        .ok (.committed 0 ⟨"Start"⟩ 1) final ∧
      final.world.host.body.bytes = [0x1A, 0x28, 2, 0, 0, 0x0A, 0x2A] := by
  rw [Session.compile_of_tracked record?_session]
  exact ⟨_, rfl, rfl⟩

end Reloading

/-- While the body is read the module is unloaded and loaded again, and the compilation writes the
call of the wrapper that its record knows. -/
theorem compilations_stable_reloading :
    ∃ final, Session.compile ⟨7⟩ ⟨0x06000001⟩
        (Reloading.handle.interruptedBy Reloading.events Reloading.events) Reloading.session =
          .ok (.committed 0 ⟨"Start"⟩ 1) final ∧
      final.world.host.body.bytes = [0x1A, 0x28, 2, 0, 0, 0x0A, 0x2A] := by
  obtain ⟨calm, compiled, written⟩ := Reloading.compile_session
  have stable : Reloading.record.metadata.StableUnder InMemory.Host.growth :=
    InMemory.Host.metadata_stable "app"
  obtain ⟨-, -, inFlight⟩ := (compilations_stable Reloading.record).2 InMemory.Host.growth stable
  obtain ⟨-, ⟨final, compiledMeanwhile, endsAlike⟩, -⟩ := inFlight ⟨7⟩ ⟨0x06000001⟩ Reloading.handle
    Reloading.session calm Reloading.events Reloading.events _ Reloading.record?_session
    (InMemory.follows_bodyHandle _ _) Reloading.events_appending Reloading.events_appending compiled
  refine ⟨final, compiledMeanwhile, ?_⟩
  cases endsAlike with
  | committed _ _ grown => exact grown.bytes_eq.trans written

end Detour
