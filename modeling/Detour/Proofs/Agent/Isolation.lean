import Detour.Proofs.Agent.ProcessEvents

/-!
# Modules do not interfere

An event about a module sees and changes no record but that of the module, and no handle but those
that the module was loaded with. So the events of a module come to what they would come to if the
events of all other modules were left out, and events of different modules can change places.
-/

namespace Detour

open Detour.Host
open Detour.Rule

variable {ι T U : Type}

namespace Host

/-! ## Hosts that agree -/

/-- Hosts that agree on some of the handles, and on the body. -/
structure AgreeOn (own : ι → Prop) (hosts other : Hosts ι T U) : Prop where
  handle_eq : ∀ handle, own handle → hosts.handles handle = other.handles handle
  body_eq : hosts.body = other.body

/-- The same host twice, which has kept all other handles as they were. A step that respects this
relation, run beside itself, changes no other handle. -/
structure KeptBeyond (own : ι → Prop) (handles : ι → T) (hosts other : Hosts ι T U) : Prop where
  same : hosts = other
  kept : ∀ handle, ¬ own handle → hosts.handles handle = handles handle

variable {own : ι → Prop} {handles : ι → T}

theorem AgreeOn.trans {first second third : Hosts ι T U} (agree : AgreeOn own first second)
    (further : AgreeOn own second third) : AgreeOn own first third where
  handle_eq handle owned := (agree.handle_eq handle owned).trans (further.handle_eq handle owned)
  body_eq := agree.body_eq.trans further.body_eq

theorem AgreeOn.symm {hosts other : Hosts ι T U} (agree : AgreeOn own hosts other) :
    AgreeOn own other hosts where
  handle_eq handle owned := (agree.handle_eq handle owned).symm
  body_eq := agree.body_eq.symm

theorem seesBody_agreeOn : SeesBody (AgreeOn (T := T) (U := U) own) where
  body_eq _ _ agree := agree.body_eq
  setBody _ _ _ agree := ⟨agree.handle_eq, rfl⟩

theorem seesBody_keptBeyond : SeesBody (KeptBeyond (U := U) own handles) where
  body_eq _ _ kept := congrArg Hosts.body kept.same
  setBody _ _ body kept := ⟨congrArg (Hosts.setBody · body) kept.same, kept.kept⟩

theorem seesBody_eq : SeesBody (Eq : Hosts ι T U → Hosts ι T U → Prop) where
  body_eq _ _ same := congrArg Hosts.body same
  setBody _ _ body same := congrArg (Hosts.setBody · body) same

variable [DecidableEq ι] {handle : ι}

theorem seesHandle_agreeOn (owned : own handle) :
    SeesHandle (AgreeOn (T := T) (U := U) own) handle where
  handle_eq _ _ agree := agree.handle_eq handle owned
  setHandle hosts other state agree := by
    refine ⟨?_, agree.body_eq⟩
    intro another ownedToo
    by_cases same : another = handle
    · simp [Hosts.setHandle, same]
    · rw [hosts.handles_setHandle_of_ne same, other.handles_setHandle_of_ne same]
      exact agree.handle_eq another ownedToo

theorem seesHandle_keptBeyond (owned : own handle) :
    SeesHandle (KeptBeyond (U := U) own handles) handle where
  handle_eq _ _ kept := by rw [kept.same]
  setHandle hosts other state kept := by
    refine ⟨by rw [kept.same], ?_⟩
    intro another notOwned
    have isAnother : another ≠ handle := fun same => notOwned (same ▸ owned)
    rw [hosts.handles_setHandle_of_ne isAnother]
    exact kept.kept another notOwned

theorem seesHandle_eq (handle : ι) :
    SeesHandle (Eq : Hosts ι T U → Hosts ι T U → Prop) handle where
  handle_eq _ _ same := by rw [same]
  setHandle _ _ _ same := by rw [same]

end Host

open Detour.ProcessEvent

variable [DecidableEq ι]

/-! ## Single events -/

section Steps

variable {owns : ModuleId → ι → Prop} {event : ProcessEvent ι T U}
  {session other : Session (Hosts ι T U)} {moduleId ofModule : ModuleId}

/-- An event about a module changes nothing behind the handles that are not its own. -/
theorem agreeOn_deliver {own : ι → Prop} (isAbout : event.moduleId? = some ofModule)
    (eventUses : event.UsesOwn owns) (usesOwn : session.UsesOwn owns)
    (apart : ∀ handle, own handle → ¬ owns ofModule handle) :
    AgreeOn own (event.deliver session).2.world.host session.world.host := by
  -- The event is delivered twice to the same session. What it respects includes that the handles of
  -- other modules have the states that they had in the beginning.
  let kept := KeptBeyond (U := U) (owns ofModule) session.world.host.handles
  have itself : SessionsAlike kept ofModule session session :=
    ⟨rfl, rfl, rfl, rfl, rfl, fun _ _ => rfl⟩
  have behind := alike_processEvent (concerns_of_moduleId isAbout) eventUses usesOwn
    seesBody_keptBeyond (fun _ owned => seesHandle_keptBeyond owned) itself
  exact ⟨fun handle owned => behind.sessions.hosts.kept handle (apart handle owned), rfl⟩

/-- For the other modules nothing has happened. -/
theorem alike_behind_other {own : ι → Prop} (isAbout : event.moduleId? = some ofModule)
    (isOther : moduleId ≠ ofModule) (eventUses : event.UsesOwn owns)
    (usesOwn : session.UsesOwn owns) (apart : ∀ handle, own handle → ¬ owns ofModule handle) :
    SessionsAlike (AgreeOn own) moduleId (event.deliver session).2 session := by
  have changes := changes_processEvent event session
  exact ⟨changes.settings_eq, changes.catalog_eq, changes.isAttached_eq ofModule isAbout,
    changes.others ofModule isAbout moduleId isOther,
    agreeOn_deliver isAbout eventUses usesOwn apart⟩

theorem alike_of_concerns (isConcerned : event.concerns moduleId = true)
    (eventUses : event.UsesOwn owns) (otherUses : other.UsesOwn owns)
    (alike : SessionsAlike (AgreeOn (owns moduleId)) moduleId session other) :
    AnswersAlike (AgreeOn (owns moduleId)) moduleId (event.deliver session)
      (event.deliver other) :=
  alike_processEvent isConcerned eventUses otherUses seesBody_agreeOn
    (fun _ owned => seesHandle_agreeOn owned) alike

end Steps

/-! ## Runs -/

section Runs

variable {owns : ModuleId → ι → Prop} {event : ProcessEvent ι T U}
  {events : List (ProcessEvent ι T U)} {session other : Session (Hosts ι T U)}
  {moduleId : ModuleId}

theorem Session.UsesOwn.run (usesOwn : session.UsesOwn owns)
    (eventsUse : ∀ event ∈ events, event.UsesOwn owns) :
    (ProcessEvent.run events session).2.UsesOwn owns := by
  induction events generalizing session with
  | nil => exact usesOwn
  | cons event rest ih =>
    obtain ⟨firstUses, restUses⟩ := List.forall_mem_cons.mp eventsUse
    exact ih (usesOwn.deliver firstUses) restUses

/-- If all other events are left out, the events that concern the module come to the same. -/
theorem run_filter
    (isPrivate : ∀ handle ofModule, owns moduleId handle → owns ofModule handle →
      ofModule = moduleId)
    (eventsUse : ∀ event ∈ events, event.UsesOwn owns) (usesOwn : session.UsesOwn owns)
    (otherUses : other.UsesOwn owns)
    (alike : SessionsAlike (AgreeOn (owns moduleId)) moduleId session other) :
    answersFor moduleId (run events session).1 =
        (run (events.filter (·.concerns moduleId)) other).1 ∧
      SessionsAlike (AgreeOn (owns moduleId)) moduleId (run events session).2
        (run (events.filter (·.concerns moduleId)) other).2 := by
  induction events generalizing session other with
  | nil => exact ⟨rfl, alike⟩
  | cons event rest ih =>
    obtain ⟨firstUses, restUses⟩ := List.forall_mem_cons.mp eventsUse
    by_cases isConcerned : event.concerns moduleId = true
    · have answers := alike_of_concerns isConcerned firstUses otherUses alike
      obtain ⟨sameAnswers, alikeBehind⟩ := ih restUses (usesOwn.deliver firstUses)
        (otherUses.deliver firstUses) answers.sessions
      rw [List.filter_cons_of_pos isConcerned, run_cons, run_cons]
      refine ⟨?_, alikeBehind⟩
      rw [answersFor_cons_of_concerned isConcerned, answers.answer_eq, sameAnswers]
    · -- Only the run with all events goes on, by an event that the module does not see.
      obtain ⟨ofModule, isAbout, isOther⟩ := exists_moduleId_of_not_concerns isConcerned
      have apart : ∀ handle, owns moduleId handle → ¬ owns ofModule handle :=
        fun handle owned ownedToo => isOther (isPrivate handle ofModule owned ownedToo).symm
      have silent := alike_behind_other isAbout isOther firstUses usesOwn apart
      obtain ⟨sameAnswers, alikeBehind⟩ := ih restUses (usesOwn.deliver firstUses) otherUses
        (silent.trans AgreeOn.trans alike)
      rw [List.filter_cons_of_neg isConcerned, run_cons]
      refine ⟨?_, alikeBehind⟩
      rw [answersFor_cons_of_unconcerned isConcerned, sameAnswers]

/-- The module that the event is about goes on alike, and the others keep what they had alike. -/
theorem alike_everywhere (otherUses : other.UsesOwn owns)
    (alike : ∀ moduleId, SessionsAlike Eq moduleId session other) (eventUses : event.UsesOwn owns) :
    ∀ moduleId, AnswersAlike Eq moduleId (event.deliver session) (event.deliver other) := by
  have answers : ∀ moduleId, event.concerns moduleId = true →
      AnswersAlike Eq moduleId (event.deliver session) (event.deliver other) := by
    intro moduleId isConcerned
    exact alike_processEvent isConcerned eventUses otherUses seesBody_eq
      (fun handle _ => seesHandle_eq handle) (alike moduleId)
  intro moduleId
  by_cases isConcerned : event.concerns moduleId = true
  · exact answers moduleId isConcerned
  · obtain ⟨ofModule, isAbout, isOther⟩ := exists_moduleId_of_not_concerns isConcerned
    have ofItsModule := answers ofModule (concerns_of_moduleId isAbout)
    have kept := (changes_processEvent event session).others ofModule isAbout moduleId isOther
    have otherKept := (changes_processEvent event other).others ofModule isAbout moduleId isOther
    have sameRecord := kept.trans ((alike moduleId).record?_eq.trans otherKept.symm)
    exact ⟨ofItsModule.answer_eq, { ofItsModule.sessions with record?_eq := sameRecord }⟩

/-- Sessions that no module tells apart never get different answers. -/
theorem alike_run (otherUses : other.UsesOwn owns)
    (alike : ∀ moduleId, SessionsAlike Eq moduleId session other)
    (eventsUse : ∀ event ∈ events, event.UsesOwn owns) :
    ∀ moduleId, AnswersAlike Eq moduleId (run events session) (run events other) := by
  induction events generalizing session other with
  | nil => exact fun moduleId => ⟨rfl, alike moduleId⟩
  | cons event rest ih =>
    obtain ⟨firstUses, restUses⟩ := List.forall_mem_cons.mp eventsUse
    have answers := alike_everywhere otherUses alike firstUses
    have later := ih (otherUses.deliver firstUses) (fun moduleId => (answers moduleId).sessions)
      restUses
    intro moduleId
    rw [run_cons, run_cons]
    refine ⟨?_, (later moduleId).sessions⟩
    rw [(answers moduleId).answer_eq, (later moduleId).answer_eq]

end Runs

/-! ## Events that change places -/

section Places

variable {owns : ModuleId → ι → Prop} {first second : ProcessEvent ι T U}
  {session : Session (Hosts ι T U)} {firstModule secondModule : ModuleId}

/-- In either order the events get the same answers, and nothing tells apart what they lead to. -/
structure CanSwap (first second : ProcessEvent ι T U) (session : Session (Hosts ι T U)) : Prop where
  first_answer : (first.deliver session).1 = (first.deliver (second.deliver session).2).1
  second_answer : (second.deliver (first.deliver session).2).1 = (second.deliver session).1
  sessions : ∀ moduleId, SessionsAlike Eq moduleId (second.deliver (first.deliver session).2).2
    (first.deliver (second.deliver session).2).2
  later_answers : ∀ later, (run later (second.deliver (first.deliver session).2).2).1 =
    (run later (first.deliver (second.deliver session).2).2).1

/-- Events of modules that share no handle. -/
structure Apart (owns : ModuleId → ι → Prop) (first second : ProcessEvent ι T U)
    (firstModule secondModule : ModuleId) : Prop where
  firstAbout : first.moduleId? = some firstModule
  secondAbout : second.moduleId? = some secondModule
  modules_ne : firstModule ≠ secondModule
  firstUses : first.UsesOwn owns
  secondUses : second.UsesOwn owns
  handles : ∀ handle, owns firstModule handle → ¬ owns secondModule handle

omit [DecidableEq ι] in
theorem Apart.symm (apart : Apart owns first second firstModule secondModule) :
    Apart owns second first secondModule firstModule where
  firstAbout := apart.secondAbout
  secondAbout := apart.firstAbout
  modules_ne := apart.modules_ne.symm
  firstUses := apart.secondUses
  secondUses := apart.firstUses
  handles handle owned ownedToo := apart.handles handle ownedToo owned

/-- The first event does not depend on whether the second one comes before it or after it. -/
theorem Apart.answersAlike (apart : Apart owns first second firstModule secondModule)
    (usesOwn : session.UsesOwn owns) :
    (first.deliver session).1 = (first.deliver (second.deliver session).2).1 ∧
      SessionsAlike (AgreeOn (owns firstModule)) firstModule
        (second.deliver (first.deliver session).2).2
        (first.deliver (second.deliver session).2).2 := by
  have behindSecond := alike_behind_other apart.secondAbout apart.modules_ne apart.secondUses
    usesOwn apart.handles
  have answers := alike_of_concerns (concerns_of_moduleId apart.firstAbout) apart.firstUses usesOwn
    behindSecond
  have behindBoth := alike_behind_other apart.secondAbout apart.modules_ne apart.secondUses
    (usesOwn.deliver apart.firstUses) apart.handles
  exact ⟨answers.answer_eq.symm,
    behindBoth.trans AgreeOn.trans (answers.sessions.symm AgreeOn.symm)⟩

theorem Apart.agreeOn_behind_both {own : ι → Prop}
    (apart : Apart owns first second firstModule secondModule) (usesOwn : session.UsesOwn owns)
    (notOfFirst : ∀ handle, own handle → ¬ owns firstModule handle)
    (notOfSecond : ∀ handle, own handle → ¬ owns secondModule handle) :
    AgreeOn own (second.deliver (first.deliver session).2).2.world.host session.world.host := by
  have behindFirst := agreeOn_deliver apart.firstAbout apart.firstUses usesOwn notOfFirst
  have behindSecond := agreeOn_deliver apart.secondAbout apart.secondUses
    (usesOwn.deliver apart.firstUses) notOfSecond
  exact behindSecond.trans behindFirst

theorem Apart.host_eq (apart : Apart owns first second firstModule secondModule)
    (usesOwn : session.UsesOwn owns) :
    (second.deliver (first.deliver session).2).2.world.host =
      (first.deliver (second.deliver session).2).2.world.host := by
  have ofFirst := (apart.answersAlike usesOwn).2.hosts
  have ofSecond := (apart.symm.answersAlike usesOwn).2.hosts.symm
  have ofOthers :
      AgreeOn (fun handle => ¬ owns firstModule handle ∧ ¬ owns secondModule handle)
        (second.deliver (first.deliver session).2).2.world.host
        (first.deliver (second.deliver session).2).2.world.host :=
    (apart.agreeOn_behind_both usesOwn (fun _ other => other.1) fun _ other => other.2).trans
      (apart.symm.agreeOn_behind_both usesOwn (fun _ other => other.2)
        fun _ other => other.1).symm
  have sameHandles : ∀ handle,
      (second.deliver (first.deliver session).2).2.world.host.handles handle =
        (first.deliver (second.deliver session).2).2.world.host.handles handle := by
    intro handle
    by_cases ownedByFirst : owns firstModule handle
    · exact ofFirst.handle_eq handle ownedByFirst
    · by_cases ownedBySecond : owns secondModule handle
      · exact ofSecond.handle_eq handle ownedBySecond
      · exact ofOthers.handle_eq handle ⟨ownedByFirst, ownedBySecond⟩
  exact Hosts.ext (funext sameHandles) ofFirst.body_eq

theorem Apart.record?_eq (apart : Apart owns first second firstModule secondModule)
    (usesOwn : session.UsesOwn owns) (moduleId : ModuleId) :
    (second.deliver (first.deliver session).2).2.agent.record? moduleId =
      (first.deliver (second.deliver session).2).2.agent.record? moduleId := by
  by_cases isFirst : moduleId = firstModule
  · rw [isFirst]
    exact (apart.answersAlike usesOwn).2.record?_eq
  · by_cases isSecond : moduleId = secondModule
    · rw [isSecond]
      exact (apart.symm.answersAlike usesOwn).2.record?_eq.symm
    · -- Neither event is about the module, so in either order they leave its record alone.
      have kept := fun before : Session (Hosts ι T U) =>
        (changes_processEvent first before).others firstModule apart.firstAbout moduleId isFirst
      have keptToo := fun before : Session (Hosts ι T U) =>
        (changes_processEvent second before).others secondModule apart.secondAbout moduleId isSecond
      rw [kept, keptToo, keptToo, kept]

/-- In either order the events lead to sessions that nothing tells apart. -/
theorem Apart.sessionsAlike (apart : Apart owns first second firstModule secondModule)
    (usesOwn : session.UsesOwn owns) (moduleId : ModuleId) :
    SessionsAlike Eq moduleId (second.deliver (first.deliver session).2).2
      (first.deliver (second.deliver session).2).2 := by
  have ofFirst := (apart.answersAlike usesOwn).2
  exact ⟨ofFirst.settings_eq, ofFirst.catalog_eq, ofFirst.isAttached_eq,
    apart.record?_eq usesOwn moduleId, apart.host_eq usesOwn⟩

theorem Apart.canSwap (apart : Apart owns first second firstModule secondModule)
    (usesOwn : session.UsesOwn owns) :
    CanSwap first second session where
  first_answer := (apart.answersAlike usesOwn).1
  second_answer := (apart.symm.answersAlike usesOwn).1.symm
  sessions := apart.sessionsAlike usesOwn
  later_answers later := by
    have anyHandle : ∀ event : ProcessEvent ι T U, event.UsesOwn fun _ _ => True :=
      fun _ _ _ _ _ => trivial
    have swappedUses := (usesOwn.deliver apart.secondUses).deliver apart.firstUses
    have answers := alike_run (swappedUses.mono fun _ _ _ => trivial)
      (apart.sessionsAlike usesOwn) fun event (_ : event ∈ later) => anyHandle event
    exact (answers firstModule).answer_eq

end Places

/-! ## Isolation -/

namespace ProcessEvent

/-- The events that concern the module get the answers, and lead to the states behind its handles,
that they come to without the other events. -/
structure RunsAlone (moduleId : ModuleId) (events : List (ProcessEvent ι T U))
    (session : Session (Hosts ι T U)) : Prop where
  answers_eq : answersFor moduleId (run events session).1 =
    (run (events.filter (·.concerns moduleId)) session).1
  handles_eq : ∀ handle, Opens events moduleId handle →
    (run events session).2.world.host.handles handle =
      (run (events.filter (·.concerns moduleId)) session).2.world.host.handles handle

theorem runsAlone {moduleId : ModuleId} {events : List (ProcessEvent ι T U)} (settings : Settings)
    (catalog : Catalog)
    (isPrivate : ∀ handle other, Opens events moduleId handle → Opens events other handle →
      other = moduleId) (world : World (Hosts ι T U)) :
    RunsAlone moduleId events ⟨Agent.create settings catalog, world⟩ := by
  have usesOwn : Session.UsesOwn (Opens events) ⟨Agent.create settings catalog, world⟩ :=
    Session.usesOwn_create settings catalog world
  have itself : SessionsAlike (AgreeOn (Opens events moduleId)) moduleId
      (Session.mk (Agent.create settings catalog) world) ⟨Agent.create settings catalog, world⟩ :=
    ⟨rfl, rfl, rfl, rfl, fun _ _ => rfl, rfl⟩
  obtain ⟨sameAnswers, alike⟩ := run_filter isPrivate (fun _ member => usesOwn_opens member)
    usesOwn usesOwn itself
  exact ⟨sameAnswers, alike.hosts.handle_eq⟩

/-- If no other module is loaded with the handles of a module, then the events of the other modules
make no difference to it: whether they are left out or not, all events that concern the module get
the same answers, compiled bodies included, and make the same calls through its handles. Events of
modules that share no handle can change places. -/
theorem modules_do_not_interfere (settings : Settings) (catalog : Catalog) :
    (∀ (events : List (ProcessEvent ι T U)) (moduleId : ModuleId),
      (∀ handle other, Opens events moduleId handle → Opens events other handle →
        other = moduleId) →
      (∀ world, RunsAlone moduleId events ⟨Agent.create settings catalog, world⟩) ∧
      ∀ world handle, Opens events moduleId handle →
        callsThrough handle events ⟨Agent.create settings catalog, world⟩ =
          callsThrough handle (events.filter (·.concerns moduleId))
            ⟨Agent.create settings catalog, world⟩) ∧
    ∀ (earlier : List (ProcessEvent ι T U)) (first second : ProcessEvent ι T U)
      (firstModule secondModule : ModuleId) (world : World (Hosts ι T U)),
      first.moduleId? = some firstModule → second.moduleId? = some secondModule →
      firstModule ≠ secondModule →
      (∀ handle, Opens (earlier ++ [first, second]) firstModule handle →
        ¬ Opens (earlier ++ [first, second]) secondModule handle) →
      CanSwap first second (run earlier ⟨Agent.create settings catalog, world⟩).2 := by
  constructor
  · intro events moduleId isPrivate
    refine ⟨fun world => runsAlone settings catalog isPrivate world, ?_⟩
    intro world handle opens
    have accountsPrivate : ∀ handle other, Opens (events.map accounted) moduleId handle →
        Opens (events.map accounted) other handle → other = moduleId := by
      intro handle other opens opensToo
      exact isPrivate handle other (opens_accounted_iff.mp opens) (opens_accounted_iff.mp opensToo)
    have alone := runsAlone settings catalog accountsPrivate world
    have sameState := alone.handles_eq handle (opens_accounted_iff.mpr opens)
    unfold callsThrough
    rw [sameState, filter_map_accounted]
  · intro earlier first second firstModule secondModule world firstAbout secondAbout isOther apart
    have uses : ∀ event ∈ earlier ++ [first, second],
        event.UsesOwn (Opens (earlier ++ [first, second])) := fun _ member => usesOwn_opens member
    have areApart : Apart (Opens (earlier ++ [first, second])) first second firstModule
        secondModule :=
      ⟨firstAbout, secondAbout, isOther, uses first (by simp), uses second (by simp), apart⟩
    have started : Session.UsesOwn (Opens (earlier ++ [first, second]))
        ⟨Agent.create settings catalog, world⟩ := Session.usesOwn_create settings catalog world
    have ran := started.run fun event member => uses event (List.mem_append_left _ member)
    exact areApart.canSwap ran

end ProcessEvent

/-! Two modules of one process, each with a handle of its own that counts the rows emitted through
it. -/

namespace TwoModules

def metadata : Metadata Nat where
  memberRef _ slot := .ok ⟨0x01000001⟩ ⟨"Run", slot.host⟩
  methodDef _ slot := .ok ⟨0x02000002⟩ ⟨"Main", slot.host⟩
  typeRef _ slot := .ok () ⟨"Lib.Task", slot.host⟩
  typeDef _ slot := .ok () ⟨"App", slot.host⟩
  defineAssemblyRef _ rows := .ok ⟨0x23000001⟩ (rows + 1)
  defineTypeRef _ _ rows := .ok ⟨0x01000002⟩ (rows + 1)
  defineMemberRef _ _ _ rows := .ok ⟨0x0A000002⟩ (rows + 1)

/-- The method calls `Run` and returns. -/
def body : List UInt8 := [0x1A, 0x28, 1, 0, 0, 0x0A, 0x2A]

def loads (handle : Bool) (moduleId : ModuleId) : ProcessEvent Bool Nat (List UInt8) :=
  .load handle ⟨moduleId, "App", ⟨0⟩, metadata⟩

def compiles (moduleId : ModuleId) : ProcessEvent Bool Nat (List UInt8) :=
  .compile moduleId ⟨0x06000001⟩ .owned body

def events : List (ProcessEvent Bool Nat (List UInt8)) :=
  [.attach "app", loads true ⟨7⟩, loads false ⟨8⟩, compiles ⟨8⟩, compiles ⟨7⟩, .unload ⟨8⟩]

/-- Those of the events that concern the first of the modules. -/
def fewerEvents : List (ProcessEvent Bool Nat (List UInt8)) :=
  [.attach "app", loads true ⟨7⟩, compiles ⟨7⟩]

def catalog : Catalog := [⟨"Lib", [OneMethod.replacement "Run" "Start"]⟩]

def newSession {T : Type} (state : T) : Session (Hosts Bool T (List UInt8)) where
  agent := Agent.create ⟨[], []⟩ catalog
  world := ⟨⟨fun _ => state, []⟩, #[]⟩

def attached : Session (Hosts Bool Nat (List UInt8)) :=
  (run [.attach "app"] (newSession 0)).2

def loaded : Session (Hosts Bool Nat (List UInt8)) :=
  (run [.attach "app", loads true ⟨7⟩] (newSession 0)).2

theorem opens_iff (handle : Bool) (moduleId : ModuleId) :
    Opens events moduleId handle ↔
      moduleId = ⟨7⟩ ∧ handle = true ∨ moduleId = ⟨8⟩ ∧ handle = false := by
  simp [Opens, events, loads, compiles, ProcessEvent.moduleId?, ProcessEvent.handle?, eq_comm]

theorem exists_record_loaded :
    ∃ record, (loaded.setBody body).agent.record? ⟨7⟩ = some record ∧
      (endState (record.compile ⟨0x06000001⟩ BodyHandle.owned.inSession
        (loaded.setBody body))).world.host.body = [0x1A, 0x28, 2, 0, 0, 0x0A, 0x2A] := by
  have tracks : Session.loadModule ⟨⟨7⟩, "App", ⟨0⟩, metadata.through true⟩ attached =
      (.tracked 1 [], _) := rfl
  have entered := Session.record?_of_tracked tracks
  obtain ⟨_, record, rfl, isRecord, found, _⟩ := entered
  refine ⟨record, found, ?_⟩
  rw [isRecord]
  rfl

theorem body?_compiles_loaded :
    ((compiles ⟨7⟩).deliver loaded).1.body? = some [0x1A, 0x28, 2, 0, 0, 0x0A, 0x2A] := by
  obtain ⟨record, found, compiled⟩ := exists_record_loaded
  rw [← compiled, ← Session.compile_of_tracked found]
  rfl

end TwoModules

/-- With the events of the other module or without them, the call in the body is redirected, and the
same calls are made through the handle. -/
theorem ProcessEvent.modules_do_not_interfere_twoModules :
    (∃ answer, (TwoModules.compiles ⟨7⟩, answer) ∈
        answersFor ⟨7⟩ (run TwoModules.events (TwoModules.newSession 0)).1 ∧
      answer.body? = some [0x1A, 0x28, 2, 0, 0, 0x0A, 0x2A]) ∧
    callsThrough true TwoModules.events (TwoModules.newSession ⟨0, []⟩) =
      callsThrough true TwoModules.fewerEvents (TwoModules.newSession ⟨0, []⟩) ∧
    CanSwap (TwoModules.loads true ⟨7⟩) (TwoModules.loads false ⟨8⟩) TwoModules.attached := by
  obtain ⟨isolated, swaps⟩ :=
    @modules_do_not_interfere Bool Nat (List UInt8) _ ⟨[], []⟩ TwoModules.catalog
  have isPrivate : ∀ handle other, Opens TwoModules.events ⟨7⟩ handle →
      Opens TwoModules.events other handle → other = ⟨7⟩ := by
    intro handle other opens opensToo
    rw [TwoModules.opens_iff] at opens opensToo
    rcases opensToo with first | second
    · exact first.1
    · simp [second.2] at opens
  obtain ⟨runsAlone, sameCalls⟩ := isolated TwoModules.events ⟨7⟩ isPrivate
  have alone : RunsAlone ⟨7⟩ TwoModules.events (TwoModules.newSession 0) := runsAlone _
  have opens : Opens TwoModules.events ⟨7⟩ true := (TwoModules.opens_iff _ _).mpr (by simp)
  refine ⟨⟨_, ?_, TwoModules.body?_compiles_loaded⟩, sameCalls _ true opens, ?_⟩
  · rw [alone.answers_eq]
    exact List.mem_of_getElem? (i := 2) rfl
  · apply swaps [.attach "app"] _ _ ⟨7⟩ ⟨8⟩ _ rfl rfl (by decide)
    intro handle opens opensToo
    have isFirst : handle = true := by
      simpa [Opens, TwoModules.loads, ProcessEvent.moduleId?, ProcessEvent.handle?] using opens
    have isSecond : handle = false := by
      simpa [Opens, TwoModules.loads, ProcessEvent.moduleId?, ProcessEvent.handle?] using opensToo
    rw [isFirst] at isSecond
    cases isSecond

end Detour
