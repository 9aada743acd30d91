import PluginKit.Graphite.Plugin
import PluginKit.Load
import PluginKit.Proofs.Session.Opening
import PluginKit.Proofs.Session.Report

/-!
# `PluginKit.Proofs.Session.Containment`: which panics leave a call

Plugin code runs inside the daemon, which cannot deal with a panic. The methods of a plugin and of
its manager run behind a guard, which turns what goes wrong into a status. Two questions are asked
in front of that guard: a plugin is asked what it wants registered, and the manager whether it wants
to be started. A call is left by a panic exactly when one of those questions is not answered.

* `registerPlugin_escaped_iff`, `registerList_escaped_iff`, `registerPlugins_escaped_iff`: how far a
  plugin that does not answer is felt.
* `Unanswered`: a question of a call gets no answer.
* `Breaks`: a method of a call goes wrong.
* `escapes_iff_unanswered`: what leaves a call, and what the guard makes of the rest.
* `unanswered_leaves_config`: the configuration is left by a plugin that does not answer.
* `Answering`, `serve_returns`: a manager whose questions are all answered is safe with every call;
  the managers for load and graphite are.
-/

set_option autoImplicit false

namespace PluginKit

namespace Session

variable {abi : Abi} {σ : Type}

/-! ### Asking the plugins what they want -/

/-- Registering a plugin is left in the middle only by the question what it wants. Everything else
that registering does is code of the library. -/
theorem registerPlugin_escaped_iff (s : Session abi σ) (name : String) (id : PluginId)
    (p : Plugin abi σ) :
    (s.registerPlugin name id p).1 = .escaped ↔ Stops s p.capabilities := by
  unfold Stops
  rcases hasked : s.attempt p.capabilities with ⟨stop | wanted, t⟩
  · simp [registerPlugin, hasked]
  · simp only [registerPlugin, hasked]
    -- from here on there are ends of every other kind
    split
    · simp
    · split
      · simp
      · split <;> simp

/-- Some plugin of a list does not say what it wants, after those before it were registered. The
plugins behind it are not asked. What was registered by then stays registered. -/
def SomeUnanswered (s : Session abi σ) (entries : List (String × PluginId × Plugin abi σ)) :
    Prop :=
  ∃ before name id p after, entries = before ++ (name, id, p) :: after ∧
    (s.registerList before).1 = .done ∧ Stops (s.registerList before).2 p.capabilities

theorem someUnanswered_nil (s : Session abi σ) : ¬ SomeUnanswered s [] := by
  rintro ⟨before, name, id, p, after, hentries, -⟩
  exact List.append_ne_nil_of_right_ne_nil before (List.cons_ne_nil _ _) hentries.symm

/-- The first plugin gives no answer, or it is registered and there is a later one. A plugin that
fails ends the list, so the later ones are not asked either. -/
theorem someUnanswered_cons (s : Session abi σ) (name : String) (id : PluginId)
    (p : Plugin abi σ) (rest : List (String × PluginId × Plugin abi σ)) :
    SomeUnanswered s ((name, id, p) :: rest) ↔
      Stops s p.capabilities ∨ (s.registerPlugin name id p).1 = .done ∧
        SomeUnanswered (s.registerPlugin name id p).2 rest := by
  -- how a list begins is how its first plugin is registered
  have hcons (before : List (String × PluginId × Plugin abi σ))
      (hdone : (s.registerPlugin name id p).1 = .done) :
      s.registerList ((name, id, p) :: before)
        = (s.registerPlugin name id p).2.registerList before := by
    rcases hfirst : s.registerPlugin name id p with ⟨result, t⟩
    rw [hfirst] at hdone
    cases hdone
    simp only [registerList, hfirst]
  constructor
  · -- the plugin without an answer is the first one or stands behind it
    rintro ⟨before, name', id', q, after, hentries, hbefore, hstops⟩
    rcases List.cons_eq_append_iff.mp hentries with ⟨rfl, hhead⟩ | ⟨before', rfl, hrest⟩
    · cases hhead
      exact Or.inl hstops
    · have hdone : (s.registerPlugin name id p).1 = .done := by
        rcases hfirst : s.registerPlugin name id p with ⟨result, t⟩
        simp only [registerList, hfirst] at hbefore
        cases result with
        | done => rfl
        | failed e => cases hbefore
        | escaped => cases hbefore
      rw [hcons before' hdone] at hbefore hstops
      exact Or.inr ⟨hdone, before', name', id', q, after, hrest, hbefore, hstops⟩
  · rintro (hstops | ⟨hdone, before, name', id', q, after, rfl, hbefore, hstops⟩)
    · exact ⟨[], name, id, p, rest, rfl, rfl, hstops⟩
    · refine ⟨(name, id, p) :: before, name', id', q, after, rfl, ?_, ?_⟩
      · rw [hcons before hdone]
        exact hbefore
      · rw [hcons before hdone]
        exact hstops

/-- A list is left in the middle by the first plugin that gives no answer, by induction on the
list. -/
theorem registerList_escaped_iff (s : Session abi σ)
    (entries : List (String × PluginId × Plugin abi σ)) :
    (s.registerList entries).1 = .escaped ↔ SomeUnanswered s entries := by
  induction entries generalizing s with
  | nil => exact iff_of_false (by simp [registerList]) (someUnanswered_nil s)
  | cons entry rest ih =>
      obtain ⟨name, id, p⟩ := entry
      rw [someUnanswered_cons, ← registerPlugin_escaped_iff s name id p]
      rcases hfirst : s.registerPlugin name id p with ⟨result, t⟩
      simp only [registerList, hfirst]
      -- a plugin that could not be registered ends the list, and nobody behind it is asked
      cases result with
      | done => simpa using ih t
      | failed e => simp
      | escaped => simp

/-- The manager builds plugins, and one of them does not say what it wants. A manager that fails
builds none, and is behind the guard. -/
def BuildUnanswered (m : Manager abi σ) (config : Option (List Config.Item))
    (s : Session abi σ) : Prop :=
  ∃ set, (s.call (m.plugins config)).1 = .ok set ∧
    let adopted := (s.call (m.plugins config)).2.adopt (named m.name set)
    SomeUnanswered adopted.2 adopted.1

/-- Building and registering is left in the middle by such a plugin only. -/
theorem registerPlugins_escaped_iff (m : Manager abi σ) (config : Option (List Config.Item))
    (s : Session abi σ) :
    (s.registerPlugins m config).1 = .escaped ↔ BuildUnanswered m config s := by
  unfold BuildUnanswered
  rcases hbuilt : s.call (m.plugins config) with ⟨e | set, t⟩
  · -- without plugins nobody is asked
    simp [registerPlugins, hbuilt, status]
  · simp only [registerPlugins, hbuilt, Except.ok.injEq, exists_eq_left']
    rw [← registerList_escaped_iff]
    rcases (t.adopt (named m.name set)).2.registerList (t.adopt (named m.name set)).1
      with ⟨_ | e | _, u⟩ <;> simp [status]

/-- Building that goes wrong in the manager is reported and answered, as the guard is around it. -/
theorem registerPlugins_of_stops {m : Manager abi σ} {config : Option (List Config.Item)}
    {s : Session abi σ} (h : Stops s (m.plugins config)) :
    (s.registerPlugins m config).1 = .status (-1) := by
  obtain ⟨e, he⟩ := (call_eq_error_iff s (m.plugins config)).mpr h
  rcases hbuilt : s.call (m.plugins config) with ⟨result, t⟩
  rw [hbuilt] at he
  obtain rfl : result = .error e := he
  simp only [registerPlugins, hbuilt, status]

/-! ### Questions and methods of a call -/

/-- A session whose flag has just been raised. -/
def raised (s : Session abi σ) : Session abi σ := { s with configSeen := true }

/-- How a start stands when the manager is asked whether it wants to be started: plugins have been
built and registered if the start came first, and else nothing has been done. -/
def openedInit (m : Manager abi σ) (s : Session abi σ) : Exit × Session abi σ :=
  Opening.init.work m s.configSeen s.raised

/-- A question that a call asks is not answered. There are two such questions, asked of plugins that
were just built and of the manager that is about to be started. -/
inductive Unanswered (m : Manager abi σ) (s : Session abi σ) : Request abi → Prop
  /-- The block comes first, and a plugin that is built from it does not say what it wants. -/
  | config {item : Option Config.RawItem} {config : Option (List Config.Item)}
      (first : s.configSeen = false) (given : (Opening.config item).given = some config)
      (unanswered : BuildUnanswered m config s.raised) : Unanswered m s (.config item)
  /-- The start comes first, and a plugin that is built without a block does not say what it
  wants. -/
  | init (first : s.configSeen = false) (unanswered : BuildUnanswered m none s.raised) :
      Unanswered m s .init
  /-- The manager does not say whether it wants to be started. -/
  | start {code : Int} (opened : (openedInit m s).1 = .status code)
      (unanswered : Stops (openedInit m s).2 m.wantsStart) : Unanswered m s .init

/-- A method that a call with a status reaches does not return: one case for each method of a plugin
or a manager that is behind the guard, with the arguments that lead to it. -/
inductive Breaks (m : Manager abi σ) (s : Session abi σ) : Request abi → Prop
  | config {item : Option Config.RawItem} {config : Option (List Config.Item)}
      (first : s.configSeen = false) (given : (Opening.config item).given = some config)
      (stops : Stops s.raised (m.plugins config)) : Breaks m s (.config item)
  | init (first : s.configSeen = false) (stops : Stops s.raised (m.plugins none)) :
      Breaks m s .init
  | start {code : Int} (opened : (openedInit m s).1 = .status code)
      (wants : WantsStart m (openedInit m s).2) (stops : StartFails m (openedInit m s).2) :
      Breaks m s .init
  | shutdown (stops : Stops s m.shutdown) : Breaks m s .shutdown
  | read {data : Option PluginId} {p : Plugin abi σ} (plugin : s.pluginOf data = some p)
      (stops : Stops s p.read) : Breaks m s (.read data)
  | write {data : Option PluginId} {set : Option (DataSet abi)} {list : Option (RawList abi)}
      {p : Plugin abi σ} {l : ValueList} (plugin : s.pluginOf data = some p)
      (received : receivedList set list = .ok l) (stops : Stops s (p.write l)) :
      Breaks m s (.write data set list)
  | flush {data : Option PluginId} {timeout : Ticks} {identifier : Option (List UInt8)}
      {p : Plugin abi σ} {id : Option String} (plugin : s.pluginOf data = some p)
      (decoded : flushIdentifier identifier = .ok id)
      (stops : Stops s (p.flush (flushTimeout timeout) id)) :
      Breaks m s (.flush data timeout identifier)

/-! ### The guard -/

/-- What runs behind the guard ends with a status, and with minus one if it does not return: a panic
is answered like an error. -/
theorem status_call_of_stops {operation : String} {s : Session abi σ} {code : Code abi σ Unit}
    (h : Stops s code) : (status operation (s.call code).1 (s.call code).2).1 = .status (-1) := by
  obtain ⟨e, he⟩ := (call_eq_error_iff s code).mpr h
  rw [he]
  rfl

/-- A status is a status, whatever the result was. -/
theorem status_ne_escaped (operation : String) (result : Except CallbackError Unit)
    (s : Session abi σ) : (status operation result s).1 ≠ .escaped := by
  cases result <;> simp [status]

/-- No panic of a plugin's method leaves a call to it. Reading, writing and flushing all go this
way. -/
theorem callPlugin_ne_escaped (operation : String) (data : Option PluginId)
    (code : Plugin abi σ → Except CallbackError (Code abi σ Unit)) (s : Session abi σ) :
    (s.callPlugin operation data code).1 ≠ .escaped := by
  unfold callPlugin
  split
  · exact status_ne_escaped _ _ _
  · split
    · exact status_ne_escaped _ _ _
    · exact status_ne_escaped _ _ _

namespace Opening

/-- The work of a call is left in the middle only by a plugin that it has built, and then the flag
is up already: the next call will not build them again. -/
theorem work_escaped_iff (m : Manager abi σ) (o : Opening) (seen : Bool) (s : Session abi σ) :
    (o.work m seen s).1 = .escaped ↔
      seen = false ∧ ∃ config, o.given = some config ∧ BuildUnanswered m config s := by
  cases seen with
  | true => cases o <;> simp [work]
  | false =>
      cases o with
      | init => simp [work, given, registerPlugins_escaped_iff]
      | config item =>
          cases item with
          | none => simp [work, given, registerPlugins_escaped_iff]
          | some item =>
              simp only [work, given]
              cases Config.Item.ofRaw item with
              | ok item => simp [registerPlugins_escaped_iff]
              | error e => simp

/-- A first call does its work with what it gives the manager. A block that cannot be read gives
nothing, and its call is not among these. -/
theorem work_of_given {o : Opening} {config : Option (List Config.Item)}
    (h : o.given = some config) (m : Manager abi σ) (s : Session abi σ) :
    o.work m false s = s.registerPlugins m config := by
  cases o with
  | init =>
      cases h
      rfl
  | config item =>
      cases item with
      | none =>
          cases h
          rfl
      | some item =>
          simp only [given] at h
          simp only [work]
          cases hitem : Config.Item.ofRaw item with
          | ok item =>
              rw [hitem] at h
              cases h
              rfl
          | error e =>
              rw [hitem] at h
              cases h

end Opening

theorem openedInit_of_first {m : Manager abi σ} {s : Session abi σ} (h : s.configSeen = false) :
    openedInit m s = s.raised.registerPlugins m none := by
  unfold openedInit
  rw [h]
  rfl

/-- The block ends as its work does, as there is nothing for it to do after that. -/
theorem serve_config_answer (m : Manager abi σ) (s : Session abi σ)
    (item : Option Config.RawItem) :
    (s.serve m (.config item)).1
      = .exit ((Opening.config item).work m s.configSeen s.raised).1 :=
  congrArg Prod.fst (Opening.serve_eq m (.config item) s)

/-- The start ends as `finish` does with what the work has left. -/
theorem serve_init_answer (m : Manager abi σ) (s : Session abi σ) :
    (s.serve m .init).1
      = .exit (Opening.init.finish m (openedInit m s).1 (openedInit m s).2).1 :=
  congrArg Prod.fst (Opening.serve_eq m .init s)

/-- The block is left in the middle only by a plugin that is built from it. -/
theorem config_escaped_iff (m : Manager abi σ) (s : Session abi σ)
    (item : Option Config.RawItem) :
    (s.serve m (.config item)).1 = .exit .escaped ↔ Unanswered m s (.config item) := by
  rw [serve_config_answer, Answer.exit.injEq, Opening.work_escaped_iff]
  constructor
  · rintro ⟨hfirst, config, hgiven, hunanswered⟩
    exact .config hfirst hgiven hunanswered
  · rintro ⟨hfirst, hgiven, hunanswered⟩
    exact ⟨hfirst, _, hgiven, hunanswered⟩

/-- The start is left in the middle by such a plugin too, or by the question after it. -/
theorem init_escaped_iff (m : Manager abi σ) (s : Session abi σ) :
    (s.serve m .init).1 = .exit .escaped ↔ Unanswered m s .init := by
  have hwork : (openedInit m s).1 = .escaped ↔ _ :=
    Opening.work_escaped_iff m .init s.configSeen s.raised
  rw [serve_init_answer, Answer.exit.injEq]
  -- It leaves either while plugins are registered, or, that done, when the manager is asked
  -- whether it wants to start.
  cases hopened : (openedInit m s).1 with
  | escaped =>
      obtain ⟨hfirst, config, hgiven, hunanswered⟩ := hwork.mp hopened
      cases hgiven
      exact iff_of_true rfl (.init hfirst hunanswered)
  | status code =>
      rw [finish_init_escaped_iff]
      constructor
      · intro hstops
        exact .start hopened hstops
      · rintro (_ | ⟨hfirst, hunanswered⟩ | ⟨_, hstops⟩)
        · have hescaped := hwork.mpr ⟨hfirst, none, rfl, hunanswered⟩
          rw [hopened] at hescaped
          cases hescaped
        · exact hstops

/-- A call is left by a panic exactly if one of its questions is not answered. Calls other than the
block and the start ask no questions. -/
theorem serve_escaped_iff (m : Manager abi σ) (s : Session abi σ) (request : Request abi) :
    (s.serve m request).1 = .exit .escaped ↔ Unanswered m s request := by
  -- the other calls ask nothing, and what they run stands behind the guard
  have hasks {request : Request abi} (hconfig : ∀ item, request ≠ .config item)
      (hinit : request ≠ .init) : ¬ Unanswered m s request := by
    rintro (_ | _ | _)
    · exact hconfig _ rfl
    · exact hinit rfl
    · exact hinit rfl
  have hguarded {request : Request abi} {result : Exit × Session abi σ}
      (hserve : s.serve m request = exits result) (hresult : result.1 ≠ .escaped)
      (hnone : ¬ Unanswered m s request) :
      (s.serve m request).1 = .exit .escaped ↔ Unanswered m s request := by
    refine iff_of_false (fun h => hresult ?_) hnone
    rw [hserve] at h
    exact Answer.exit.inj h
  cases request with
  | config item => exact config_escaped_iff m s item
  | init => exact init_escaped_iff m s
  | shutdown =>
      exact hguarded rfl (status_ne_escaped _ _ _) (hasks nofun nofun)
  | read data =>
      exact hguarded rfl (callPlugin_ne_escaped _ _ _ _) (hasks nofun nofun)
  | write data set list =>
      exact hguarded rfl (callPlugin_ne_escaped _ _ _ _) (hasks nofun nofun)
  | flush data timeout identifier =>
      exact hguarded rfl (callPlugin_ne_escaped _ _ _ _) (hasks nofun nofun)
  | module => exact iff_of_false nofun (hasks nofun nofun)
  | log data severity message => exact iff_of_false nofun (hasks nofun nofun)
  | reject kind status => exact iff_of_false nofun (hasks nofun nofun)
  | rates rates => exact iff_of_false nofun (hasks nofun nofun)
  | dispatchStatus status => exact iff_of_false nofun (hasks nofun nofun)
  | release => exact iff_of_false nofun (hasks nofun nofun)

/-- With every question answered, a method that goes wrong makes its call end with minus one.
Without that hypothesis a start could fail in building and still be left by the question after
it. -/
theorem serve_of_breaks {m : Manager abi σ} {s : Session abi σ} {request : Request abi}
    (hbreaks : Breaks m s request) (hanswered : ¬ Unanswered m s request) :
    (s.serve m request).1 = .exit (.status (-1)) := by
  cases hbreaks with
  | @config item config hfirst hgiven hstops =>
      rw [serve_config_answer, hfirst, Opening.work_of_given hgiven,
        registerPlugins_of_stops hstops]
  | init hfirst hstops =>
      have hopened : (openedInit m s).1 = .status (-1) := by
        rw [openedInit_of_first hfirst]
        exact registerPlugins_of_stops hstops
      have hasked : ¬ Stops (openedInit m s).2 m.wantsStart :=
        fun h => hanswered (.start hopened h)
      rw [serve_init_answer, hopened, finish_init_exit]
      -- the manager answers, and whatever becomes of its start, the status stays
      rcases hanswer : ((openedInit m s).2.attempt m.wantsStart).1 with stop | asked
      · exact absurd ⟨stop, hanswer⟩ hasked
      · cases asked with
        | false => rfl
        | true =>
            rcases (((openedInit m s).2.attempt m.wantsStart).2.attempt m.start).1 with _ | _
            · rfl
            · rfl
  | @start code hopened hwants hstops =>
      obtain ⟨stop, hstop⟩ := hstops
      rw [serve_init_answer, hopened, finish_init_exit, hwants, hstop]
  | shutdown hstops =>
      show Answer.exit (status "shutdown" (s.call m.shutdown).1 (s.call m.shutdown).2).1 = _
      rw [status_call_of_stops hstops]
  | @read data p hplugin hstops =>
      show Answer.exit (s.callPlugin "read" data _).1 = _
      rw [callPlugin_of_ok hplugin rfl, status_call_of_stops hstops]
  | @write data set list p l hplugin hreceived hstops =>
      show Answer.exit (s.callPlugin "writing" data _).1 = _
      rw [callPlugin_of_ok hplugin (by rw [hreceived]; rfl), status_call_of_stops hstops]
  | @flush data timeout identifier p id hplugin hdecoded hstops =>
      show Answer.exit (s.callPlugin "flush" data _).1 = _
      rw [callPlugin_of_ok hplugin (by rw [hdecoded]; rfl), status_call_of_stops hstops]

/-- Which panics leave a call. One that leaves it comes from a question in front of the guard, and
no method goes wrong but with a status for the daemon. -/
theorem escapes_iff_unanswered (m : Manager abi σ) (s : Session abi σ) (request : Request abi) :
    ((s.serve m request).1 = .exit .escaped ↔ Unanswered m s request) ∧
    (Breaks m s request → ¬ Unanswered m s request →
      (s.serve m request).1 = .exit (.status (-1))) :=
  ⟨serve_escaped_iff m s request, serve_of_breaks⟩

/-- A manager without plugins whose own methods panic. -/
def brittle : Manager .current Scripted.Journal :=
  Scripted.ManagerScript.manager
    { name := "brittle", wantsStart := true, first := .succeed, set := .multiple []
      calls := some (.panic ⟨"", "no start"⟩, .panic ⟨"", "no end"⟩) }

/-- Its start and its end both come back with minus one. -/
theorem escapes_iff_unanswered_brittle :
    (Breaks brittle (start .empty) .init ∧ ¬ Unanswered brittle (start .empty) .init ∧
      ((start .empty).serve brittle .init).1 = .exit (.status (-1))) ∧
    Breaks brittle (start .empty) .shutdown ∧ ¬ Unanswered brittle (start .empty) .shutdown ∧
      ((start .empty).serve brittle .shutdown).1 = .exit (.status (-1)) := by
  have hstart : Breaks brittle (start .empty) .init := .start rfl rfl ⟨_, rfl⟩
  have hstop : Breaks brittle (start .empty) .shutdown := .shutdown ⟨_, rfl⟩
  have hasked : ¬ Unanswered brittle (start .empty) .init := fun h => by
    cases (escapes_iff_unanswered brittle (start .empty) .init).1.mpr h
  exact ⟨⟨hstart, hasked, (escapes_iff_unanswered _ _ _).2 hstart hasked⟩,
    hstop, nofun, (escapes_iff_unanswered _ _ _).2 hstop nofun⟩

/-- A manager of one plugin that panics when it is asked what it wants. -/
def evasive : Manager .current Unit :=
  Manager.ofPlugins "evasive" fun _ => pure (.single
    { Plugin.idle .none with capabilities := Code.panic ⟨"", "no answer"⟩ })

/-- Not every panic stays inside: the daemon's first block and its start are left by that of a
plugin, and the start by that of a manager too. -/
theorem unanswered_leaves_config :
    ((start ()).serve evasive (.config none)).1 = .exit .escaped ∧
    ((start ()).serve evasive .init).1 = .exit .escaped ∧
    ((start ()).serve hesitant .init).1 = .exit .escaped :=
  ⟨rfl, rfl, rfl⟩

/-! ### Plugins that answer -/

/-- A manager whose questions are answered in every state, by itself and by what it builds. It is
for the author of a plugin to see to this, as no guard does. -/
structure Answering (m : Manager abi σ) : Prop where
  manager (s : Session abi σ) : ¬ Stops s m.wantsStart
  plugins (config : Option (List Config.Item)) (s : Session abi σ) (set : PluginSet abi σ) :
    (s.call (m.plugins config)).1 = .ok set →
      ∀ p ∈ set.plugins, ∀ t : Session abi σ, ¬ Stops t p.capabilities

/-- What is adopted are the plugins that were built. -/
theorem mem_adopt {s : Session abi σ} {name : String} {set : PluginSet abi σ}
    {entry : String × PluginId × Plugin abi σ}
    (h : entry ∈ (s.adopt (named name set)).1) : entry.2.2 ∈ set.plugins := by
  obtain ⟨⟨given, id⟩, hmem, rfl⟩ := List.mem_map.mp h
  rw [← named_plugins name set]
  exact List.mem_map_of_mem (List.fst_mem_of_mem_zipIdx hmem)

/-- With such a manager every call comes back to the daemon, whatever goes wrong in it. -/
theorem serve_returns {m : Manager abi σ} (h : Answering m) (s : Session abi σ)
    (request : Request abi) : (s.serve m request).1 ≠ .exit .escaped := by
  have hbuilt (config : Option (List Config.Item)) (t : Session abi σ) :
      ¬ BuildUnanswered m config t := by
    rintro ⟨set, hset, before, name, id, p, after, hentries, -, hstops⟩
    have hmem : (name, id, p) ∈ ((t.call (m.plugins config)).2.adopt (named m.name set)).1 := by
      rw [hentries]
      exact List.mem_append_right _ List.mem_cons_self
    exact h.plugins config t set hset p (mem_adopt hmem) _ hstops
  rw [Ne, serve_escaped_iff]
  rintro (⟨_, _, hunanswered⟩ | ⟨_, hunanswered⟩ | ⟨_, hunanswered⟩)
  · exact hbuilt _ _ hunanswered
  · exact hbuilt _ _ hunanswered
  · exact h.manager _ hunanswered

/-! ### The plugins for load and graphite -/

/-- Whatever code returns has a property. Code that does not return has it of nothing. -/
def Yields {α : Type} (P : α → Prop) (code : Code abi σ α) : Prop :=
  ∀ (w : World abi σ) (a : α) (after : World abi σ), code.run.run w = (.ok a, after) → P a

namespace Yields

variable {α β : Type} {P : α → Prop} {Q : β → Prop}

theorem pure {a : α} (h : P a) : Yields P (Pure.pure a : Code abi σ α) := by
  intro w b after hrun
  cases hrun
  exact h

/-- What comes out of the first part is all that the second part can build on. -/
theorem bind {code : Code abi σ α} {f : α → Code abi σ β} (hcode : Yields P code)
    (hf : ∀ a, P a → Yields Q (f a)) : Yields Q (code >>= f) := by
  intro w b after hrun
  rw [ExceptT.run_bind, StateT.run_bind] at hrun
  rcases hfirst : code.run.run w with ⟨stop | a, between⟩
  · rw [hfirst] at hrun
    cases hrun
  · rw [hfirst] at hrun
    exact hf a (hcode w a between hfirst) between b after hrun

/-- Nothing need be known of the first part where the second yields the property anyway. -/
theorem after {code : Code abi σ α} {f : α → Code abi σ β} (hf : ∀ a, Yields Q (f a)) :
    Yields Q (code >>= f) :=
  bind (P := fun _ => True) (fun _ _ _ _ => trivial) fun a _ => hf a

theorem mapM {f : α → Code abi σ β} (hf : ∀ a, Yields Q (f a)) (as : List α) :
    Yields (fun bs => ∀ b ∈ bs, Q b) (as.mapM f) := by
  induction as with
  | nil => exact pure (List.forall_mem_nil Q)
  | cons a rest ih =>
      rw [List.mapM_cons]
      exact (hf a).bind fun b hb => ih.bind fun bs hbs => pure (List.forall_mem_cons.mpr ⟨hb, hbs⟩)

end Yields

/-- Plugins that tell what they want without doing anything. Most plugins answer with a constant. -/
def AllTell (set : PluginSet abi σ) : Prop :=
  ∀ p ∈ set.plugins, ∃ wanted, p.capabilities = Pure.pure wanted

/-- A manager answers if it tells whether it wants to be started and builds plugins that tell. -/
theorem Answering.of_tells {m : Manager abi σ} {wants : Bool} (hm : m.wantsStart = pure wants)
    (hplugins : ∀ config, Yields AllTell (m.plugins config)) : Answering m where
  manager s := by
    rintro ⟨stop, hstop⟩
    rw [hm] at hstop
    cases hstop
  plugins config s set hset p hp t := by
    rintro ⟨stop, hstop⟩
    have hbuilt : ∃ after, (m.plugins config).run.run s.world = (.ok set, after) := by
      rcases hrun : (m.plugins config).run.run s.world with ⟨(_ | _) | built, after⟩ <;>
        simp [call, World.call, World.attempt, hrun] at hset
      exact ⟨after, by rw [hset]⟩
    obtain ⟨after, hrun⟩ := hbuilt
    obtain ⟨wanted, hwanted⟩ := hplugins config s.world set after hrun p hp
    rw [hwanted] at hstop
    cases hstop

/-- The plugin for load averages answers. It has one plugin, and wants to be started. -/
theorem answering_load : Answering (Load.manager : Manager abi Load.Machine) := by
  refine .of_tells rfl fun config => ?_
  have hset (settings : Load.Settings) :
      AllTell (.single (Load.plugin settings) : PluginSet abi Load.Machine) := by
    intro p hp
    cases List.mem_singleton.mp hp
    exact ⟨_, rfl⟩
  cases config with
  | none => exact Yields.after fun settings => Yields.after fun _ => Yields.pure (hset settings)
  | some items =>
      exact Yields.after fun settings => Yields.after fun _ => Yields.pure (hset settings)

/-- The plugin for graphite answers, whatever nodes are configured: its plugins want the same at all
times. -/
theorem answering_graphite : Answering (Graphite.manager : Manager abi Graphite.Nodes) := by
  refine .of_tells rfl fun config => ?_
  have hnode (node : Graphite.NodeSettings) :
      Yields (fun entry => ∃ wanted, entry.2.capabilities = Pure.pure wanted)
        (Graphite.openNode node : Code abi Graphite.Nodes _) :=
    Yields.after fun _ => Yields.after fun _ => Yields.after fun _ => Yields.pure ⟨_, rfl⟩
  have hnodes (nodes : List Graphite.NodeSettings) :
      Yields AllTell (do
        return .multiple (← nodes.mapM Graphite.openNode) : Code abi Graphite.Nodes _) := by
    refine (Yields.mapM hnode nodes).bind fun ps hps => Yields.pure fun p hp => ?_
    obtain ⟨entry, hentry, rfl⟩ := List.mem_map.mp hp
    exact hps entry hentry
  -- with a warning before it or without
  have hwarned (settings : Graphite.Settings) :
      Yields AllTell (do
        if settings.nodes.isEmpty then
          Code.emit (Log.Event.ofText .warn Graphite.target
            "no <Node> configured, nothing will be written")
        return .multiple (← settings.nodes.mapM Graphite.openNode)
          : Code abi Graphite.Nodes _) := by
    cases settings.nodes.isEmpty with
    | true => exact Yields.after fun _ => hnodes settings.nodes
    | false => exact hnodes settings.nodes
  cases config with
  | none => exact Yields.after hwarned
  | some items => exact Yields.after hwarned

end Session

end PluginKit
