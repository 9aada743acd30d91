import PluginKit.Proofs.Session.Opening

/-!
# `PluginKit.Proofs.Session.Journal`: a journal beside the plugins' state

Two things cannot be seen in a session: how often a manager is asked for its plugins, and when the
clean-up of a plugin really runs. So the state of plugin code gets a journal. The manager writes
down what it is given before it builds anything, each plugin writes its number down when it is
released, and no other code knows of the journal.

What the session then does is what it did without the journal, with a journal beside it, and the
releases in the journal are the ones in the session's books. So a statement about the journal is one
about the manager that keeps none.

* `Journaled`: a state with a journal; `Code.journaled`, `Plugin.journaled`, `Manager.journaled`:
  the code that goes with it; `Session.journaled`: the session.
* `drop_journaled`: dropping a plugin runs its release once.
* `registerPlugins_journaled`: building plugins adds one line to the journal, and the lemmas before
  it say that no other step of it adds any.
* `Opening.work_journaled`, `Opening.finish_journaled`: the same for the calls that have plugins
  built.
-/

set_option autoImplicit false

namespace PluginKit

/-- What is written down beside the state of plugin code. Only the journaled manager and the
releases of journaled plugins write here. -/
structure Notes where
  /-- What the manager was given, each time that it was asked for its plugins. -/
  given : List (Option (List Config.Item))
  /-- How many plugins the manager returned. The next one gets this number. -/
  built : Nat
  /-- The plugins whose clean-up ran, the latest last. -/
  released : List PluginId

/-- A state of plugin code with a journal. -/
structure Journaled (σ : Type) where
  own : σ
  notes : Notes

variable {abi : Abi} {σ α : Type}

/-! ### Code beside a journal -/

namespace World

/-- A world with a journal beside the state of plugin code. The daemon and the loggers are the
same. -/
def journaled (w : World abi σ) (notes : Notes) : World abi (Journaled σ) :=
  ⟨w.daemon, w.diagnostics, ⟨w.own, notes⟩⟩

/-- The world as code sees it that does not know of the journal. -/
def plain (w : World abi (Journaled σ)) : World abi σ := ⟨w.daemon, w.diagnostics, w.own.own⟩

end World

/-- The same code beside a journal, which it leaves as it is. It runs in the world without the
journal, so it cannot read it either. -/
def Code.journaled (code : Code abi σ α) : Code abi (Journaled σ) α :=
  ExceptT.mk fun w =>
    let (result, after) := code.run.run w.plain
    (result, after.journaled w.own.notes)

/-- The plugin, writing down its number when it is released. Its clean-up is done as well, so a line
in the journal stands for a clean-up that ran. -/
def Plugin.journaled (id : PluginId) (p : Plugin abi σ) : Plugin abi (Journaled σ) where
  capabilities := Code.journaled p.capabilities
  read := Code.journaled p.read
  write l := Code.journaled (p.write l)
  flush timeout identifier := Code.journaled (p.flush timeout identifier)
  log severity line := Code.journaled (p.log severity line)
  release state :=
    ⟨p.release state.own, { state.notes with released := state.notes.released ++ [id] }⟩

/-- Plugins under their names, with the numbers that follow on `first`. -/
def numbered (first : PluginId) (ps : List (String × Plugin abi σ)) :
    List (String × Plugin abi (Journaled σ)) :=
  (ps.zipIdx first).map fun entry => (entry.1.1, entry.1.2.journaled entry.2)

/-- The plugins of a manager with their numbers, those of a list in the order of the list. -/
def PluginSet.journaled (first : PluginId) : PluginSet abi σ → PluginSet abi (Journaled σ)
  | .single p => .single (p.journaled first)
  | .multiple ps => .multiple (numbered first ps)

/-- Writes down that plugins were returned, and numbers them. It comes after the manager's own code,
so a manager that fails has no plugin numbered. -/
def Code.numberSet (set : PluginSet abi σ) :
    Code abi (Journaled σ) (PluginSet abi (Journaled σ)) := do
  let first := (← get).own.notes.built
  modify fun w =>
    w.plain.journaled { w.own.notes with built := first + set.plugins.length }
  return set.journaled first

/-- The manager, writing down what it is given each time that it is asked for its plugins, and
numbering those that it returns. -/
def Manager.journaled (m : Manager abi σ) : Manager abi (Journaled σ) where
  name := m.name
  wantsStart := Code.journaled m.wantsStart
  plugins config := do
    modify fun w =>
      w.plain.journaled { w.own.notes with given := w.own.notes.given ++ [config] }
    Code.numberSet (← Code.journaled (m.plugins config))
  start := Code.journaled m.start
  shutdown := Code.journaled m.shutdown

namespace World

variable {notes : Notes}

@[simp]
theorem diagnostics_journaled (w : World abi σ) :
    (w.journaled notes).diagnostics = w.diagnostics := rfl

/-- A record for the log leaves the journal as it is. -/
theorem emit_journaled (w : World abi σ) (e : Log.Event) :
    (w.journaled notes).emit e = (w.emit e).journaled notes := by
  unfold emit
  rw [diagnostics_journaled]
  cases w.diagnostics.active with
  | none => rfl
  | some l =>
      dsimp only
      split
      · rfl
      · rfl

theorem reportError_journaled (w : World abi σ) (operation : String) (e : CallbackError) :
    (w.journaled notes).reportError operation e = (w.reportError operation e).journaled notes := by
  unfold reportError
  rw [diagnostics_journaled]
  dsimp only
  split
  · rfl
  · split
    · exact emit_journaled w _
    · rfl

theorem reportPanic_journaled (w : World abi σ) (p : Panic) :
    (w.journaled notes).reportPanic p = (w.reportPanic p).journaled notes := by
  show (w.diagnostics.panicHooks).repeat
    (fun w => reportError w "panic hook" (.panicHook p.describe)) (w.journaled notes) = _
  unfold reportPanic
  -- each of the reports leaves the journal as it is
  induction w.diagnostics.panicHooks with
  | zero => rfl
  | succ n ih =>
      show reportError (n.repeat _ (w.journaled notes)) _ _ = _
      rw [ih]
      exact reportError_journaled _ _ _

section

variable {β : Type} {w : World abi σ} (code : Code abi σ α) {code' : Code abi (Journaled σ) β}
  (f : α → β) (after : Notes)

/-- Code that runs as other code does, beside a journal, stops where the other stops. It may end
with another result and another journal, as the manager's code does when it returns its plugins. -/
theorem attempt_of_run (h : code'.run.run (w.journaled notes)
      = ((code.run.run w).1.map f, (code.run.run w).2.journaled after)) :
    (w.journaled notes).attempt code'
      = ((w.attempt code).1.map f, (w.attempt code).2.journaled after) := by
  unfold attempt
  rw [h]
  rcases code.run.run w with ⟨(_ | p) | a, t⟩
  · rfl
  · exact Prod.ext rfl (reportPanic_journaled t p)
  · rfl

/-- The same with the guard around it: a panic is reported in the daemon's log, which both worlds
have. -/
theorem call_of_run (h : code'.run.run (w.journaled notes)
      = ((code.run.run w).1.map f, (code.run.run w).2.journaled after)) :
    (w.journaled notes).call code'
      = ((w.call code).1.map f, (w.call code).2.journaled after) := by
  unfold call
  rw [attempt_of_run code f after h]
  rcases w.attempt code with ⟨(_ | _) | _, t⟩ <;> rfl

end

theorem run_journaled (w : World abi σ) (code : Code abi σ α) :
    (Code.journaled code).run.run (w.journaled notes)
      = ((code.run.run w).1.map id, (code.run.run w).2.journaled notes) := by
  rw [Except.map_id]
  rfl

theorem attempt_journaled (w : World abi σ) (code : Code abi σ α) :
    (w.journaled notes).attempt (Code.journaled code)
      = ((w.attempt code).1, (w.attempt code).2.journaled notes) := by
  rw [attempt_of_run code id notes (run_journaled w code), Except.map_id]
  rfl

theorem call_journaled (w : World abi σ) (code : Code abi σ α) :
    (w.journaled notes).call (Code.journaled code)
      = ((w.call code).1, (w.call code).2.journaled notes) := by
  rw [call_of_run code id notes (run_journaled w code), Except.map_id]
  rfl

end World

namespace Session

/-! ### The session beside a journal -/

variable {given : List (Option (List Config.Item))}

/-- The journal that goes with the books of a session. Two of its entries are copies of the books:
that they stay copies is what the lemmas below say. -/
def notes (s : Session abi σ) (given : List (Option (List Config.Item))) : Notes :=
  ⟨given, s.plugins.length, s.dropped⟩

/-- The session beside the journal that goes with its books. Each plugin is the one that writes down
the number under which the books have it. -/
def journaled (s : Session abi σ) (given : List (Option (List Config.Item))) :
    Session abi (Journaled σ) where
  world := s.world.journaled (s.notes given)
  registry := s.registry
  configSeen := s.configSeen
  plugins := s.plugins.mapIdx Plugin.journaled
  dropped := s.dropped

/-- A result and a session with a journal: how most of the equations below end. -/
def beside (given : List (Option (List Config.Item))) (result : α × Session abi σ) :
    α × Session abi (Journaled σ) :=
  (result.1, result.2.journaled given)

theorem length_plugins_journaled (s : Session abi σ) :
    (s.journaled given).plugins.length = s.plugins.length := List.length_mapIdx

theorem getElem?_plugins_journaled (s : Session abi σ) (id : PluginId) :
    (s.journaled given).plugins[id]? = s.plugins[id]?.map (Plugin.journaled id) :=
  List.getElem?_mapIdx

/-- What is done to the world beside the journal is done to the session beside it. -/
theorem mapWorld_journaled (s : Session abi σ) {f : World abi σ → World abi σ}
    {g : World abi (Journaled σ) → World abi (Journaled σ)}
    (h : g (s.world.journaled (s.notes given)) = (f s.world).journaled (s.notes given)) :
    (s.journaled given).mapWorld g = (s.mapWorld f).journaled given := by
  show (⟨g (s.world.journaled (s.notes given)), _, _, _, _⟩ : Session abi (Journaled σ)) = _
  rw [h]
  rfl

theorem report_journaled (s : Session abi σ) (operation : String) (e : CallbackError) :
    (s.journaled given).report operation e = (s.report operation e).journaled given :=
  mapWorld_journaled s (World.reportError_journaled s.world operation e)

theorem note_journaled (s : Session abi σ) (level : Log.Level) (text : String) :
    (s.journaled given).note level text = (s.note level text).journaled given :=
  mapWorld_journaled s (World.emit_journaled s.world _)

/-- A report that goes with a status is the same beside a journal. -/
theorem status_journaled (operation : String) (result : Except CallbackError Unit)
    (s : Session abi σ) :
    status operation result (s.journaled given) = beside given (status operation result s) := by
  cases result with
  | ok _ => rfl
  | error e => exact Prod.ext rfl (report_journaled s operation e)

theorem attempt_journaled (s : Session abi σ) (code : Code abi σ α) :
    (s.journaled given).attempt (Code.journaled code) = beside given (s.attempt code) := by
  unfold attempt
  rw [show (s.journaled given).world = s.world.journaled (s.notes given) from rfl,
    World.attempt_journaled]
  rfl

theorem call_journaled (s : Session abi σ) (code : Code abi σ α) :
    (s.journaled given).call (Code.journaled code) = beside given (s.call code) := by
  unfold call
  rw [show (s.journaled given).world = s.world.journaled (s.notes given) from rfl,
    World.call_journaled]
  rfl

/-! ### Dropping beside a journal -/

/-- Dropping a plugin that there is runs its release exactly once: what the plugin writes down when
it is released is the line that the books get. A number without a plugin would get its line in the
books alone, so the number has to be one that was given out. -/
theorem drop_journaled {s : Session abi σ} {id : PluginId} (hid : id < s.plugins.length) :
    (s.journaled given).drop id = (s.drop id).journaled given := by
  have hp : s.plugins[id]? = some s.plugins[id] := List.getElem?_eq_getElem hid
  have hjournaled : (s.journaled given).plugins[id]? = some (s.plugins[id].journaled id) := by
    rw [getElem?_plugins_journaled, hp]
    rfl
  rw [drop_eq hjournaled, drop_eq hp]
  rfl

/-- Several drops run several releases, in the order of the drops. -/
theorem dropAll_journaled {s : Session abi σ} {ids : List PluginId}
    (hids : ∀ id ∈ ids, id < s.plugins.length) :
    (s.journaled given).dropAll ids = (s.dropAll ids).journaled given := by
  induction ids generalizing s with
  | nil => rfl
  | cons id rest ih =>
      obtain ⟨hid, hrest⟩ := List.forall_mem_cons.mp hids
      show dropAll ((s.journaled given).drop id) rest = _
      rw [drop_journaled hid]
      refine ih fun other hother => ?_
      rw [(drop_sameGiven s id).plugins]
      exact hrest other hother

/-! ### Registering beside a journal -/

/-- An attempt to register a plugin, beside the journal. -/
def Attempt.journaled (a : Attempt abi σ) (given : List (Option (List Config.Item))) :
    Attempt abi (Journaled σ) :=
  ⟨a.session.journaled given, a.owned, a.rejected⟩

/-- A callback that is asked for runs no plugin code, so the journal stays as it is. -/
theorem Attempt.register_journaled (name : String) (id : PluginId) (a : Attempt abi σ)
    (kind : CallbackKind) :
    (a.journaled given).register name id kind = (a.register name id kind).journaled given := by
  unfold Attempt.register
  dsimp only [Attempt.journaled, Session.journaled]
  split
  · rfl
  · exact congrArg (fun t : Session abi (Journaled σ) =>
        (⟨t, a.owned, a.rejected <|> some (kind, _)⟩ : Attempt abi (Journaled σ)))
      (note_journaled a.session .warn _)

theorem Attempt.foldl_register_journaled (name : String) (id : PluginId) (a : Attempt abi σ)
    (kinds : List CallbackKind) :
    kinds.foldl (Attempt.register name id) (a.journaled given)
      = (kinds.foldl (Attempt.register name id) a).journaled given := by
  induction kinds generalizing a with
  | nil => rfl
  | cons kind rest ih =>
      rw [List.foldl_cons, List.foldl_cons, Attempt.register_journaled]
      exact ih (a.register name id kind)

/-- Each way out of registering a plugin either drops it or leaves it to a callback, and the drops
are the ones of the session without a journal. -/
theorem registerPlugin_journaled {s : Session abi σ} {id : PluginId}
    (hid : id < s.plugins.length) (name : String) (p : Plugin abi σ) :
    (s.journaled given).registerPlugin name id (p.journaled id)
      = beside given (s.registerPlugin name id p) := by
  -- whatever is asked and noted before a drop, the plugins stay the ones that were given
  have hdrop {t : Session abi σ} (ht : SameGiven s t) :
      (t.journaled given).drop id = (t.drop id).journaled given :=
    drop_journaled (by rw [ht.plugins]; exact hid)
  have hasked := (attempt_sameBooks s p.capabilities).sameGiven
  unfold registerPlugin
  rw [show (p.journaled id).capabilities = Code.journaled p.capabilities from rfl,
    attempt_journaled]
  rcases hresult : s.attempt p.capabilities with ⟨stop | wanted, t⟩
  · rw [hresult] at hasked
    exact Prod.ext rfl (hdrop hasked)
  · rw [hresult] at hasked
    dsimp only [beside]
    split
    · exact Prod.ext rfl (hdrop hasked)
    · split
      · rw [note_journaled]
        exact Prod.ext rfl (hdrop (hasked.trans (note_sameBooks t _ _).sameGiven))
      · have hnoted := hasked.trans (note_sameBooks t .debug
          ("registering " ++ name ++ " with " ++ wanted.describe)).sameGiven
        rw [note_journaled]
        generalize t.note .debug ("registering " ++ name ++ " with " ++ wanted.describe) = u
          at hnoted ⊢
        have hfold := hnoted.trans
          (Attempt.foldl_register_sameGiven name id ⟨u, false, none⟩ (wantedKinds wanted))
        rw [show (⟨u.journaled given, false, none⟩ : Attempt abi (Journaled σ))
          = Attempt.journaled ⟨u, false, none⟩ given from rfl, Attempt.foldl_register_journaled]
        generalize (wantedKinds wanted).foldl (Attempt.register name id) _ = a at hfold ⊢
        -- owned or not, turned down or not
        obtain ⟨v, _ | _, _ | ⟨kind, status⟩⟩ := a
        · exact Prod.ext rfl (hdrop hfold)
        · exact Prod.ext rfl (hdrop hfold)
        · rfl
        · rfl

/-- The plugins of a list, each beside the journal and with its own number. -/
def entriesJournaled (entries : List (String × PluginId × Plugin abi σ)) :
    List (String × PluginId × Plugin abi (Journaled σ)) :=
  entries.map fun entry => (entry.1, entry.2.1, entry.2.2.journaled entry.2.1)

/-- Registering a list of plugins: a failure drops those that are left, and each of these drops runs
a release. The numbers have to be those of plugins of the session. -/
theorem registerList_journaled {s : Session abi σ}
    {entries : List (String × PluginId × Plugin abi σ)}
    (hids : ∀ entry ∈ entries, entry.2.1 < s.plugins.length) :
    (s.journaled given).registerList (entriesJournaled entries)
      = beside given (s.registerList entries) := by
  induction entries generalizing s with
  | nil => rfl
  | cons entry rest ih =>
      obtain ⟨name, id, p⟩ := entry
      obtain ⟨hid, hrest⟩ := List.forall_mem_cons.mp hids
      have hnumbers : (entriesJournaled rest).map (fun entry => entry.2.1)
          = rest.map fun entry => entry.2.1 := by
        unfold entriesJournaled
        rw [List.map_map]
        rfl
      have hfirst := (registerPlugin_sameGiven s name id p).plugins
      rw [show entriesJournaled ((name, id, p) :: rest)
          = (name, id, p.journaled id) :: entriesJournaled rest from rfl,
        registerList, registerList, registerPlugin_journaled hid, hnumbers]
      rcases hresult : s.registerPlugin name id p with ⟨result, t⟩
      rw [hresult] at hfirst
      -- the numbers of the plugins behind the first are still numbers of plugins
      have hbehind : ∀ later ∈ rest, later.2.1 < t.plugins.length := by
        rw [hfirst]
        exact hrest
      have hleft : ∀ later ∈ rest.map (fun entry => entry.2.1), later < t.plugins.length :=
        List.forall_mem_map.mpr hbehind
      cases result with
      | done => exact ih hbehind
      | failed e => exact Prod.ext rfl (dropAll_journaled hleft)
      | escaped => exact Prod.ext rfl (dropAll_journaled hleft)

/-- Names and numbers are given independently of each other. -/
theorem named_journaled (name : String) (first : PluginId) (set : PluginSet abi σ) :
    named name (set.journaled first) = numbered first (named name set) := by
  cases set with
  | single p => rfl
  | multiple ps => simp [named, PluginSet.journaled, numbered, List.zipIdx_map, Function.comp_def]

/-- A session that was handed plugins and has not taken them in yet: the journal knows of them
already, and the books do not. -/
def handed (s : Session abi σ) (count : Nat) (given : List (Option (List Config.Item))) :
    Session abi (Journaled σ) :=
  { s.journaled given with
    world := s.world.journaled { s.notes given with built := s.plugins.length + count } }

/-- Taken in, plugins have in the books the numbers that the journal gave them. -/
theorem adopt_journaled (s : Session abi σ) (ps : List (String × Plugin abi σ)) :
    (s.handed ps.length given).adopt (numbered s.plugins.length ps)
      = (entriesJournaled (s.adopt ps).1, (s.adopt ps).2.journaled given) := by
  have hlength : (s.handed ps.length given).plugins.length = s.plugins.length :=
    List.length_mapIdx
  -- A plugin's number is its place behind those already owned, on both sides.
  have hplugins : (numbered s.plugins.length ps).map Prod.snd
      = (ps.map Prod.snd).mapIdx fun place p => p.journaled (place + s.plugins.length) := by
    apply List.ext_getElem
    · simp [numbered]
    · intro place _ _
      simp [numbered, Nat.add_comm]
  unfold adopt
  rw [hlength]
  refine Prod.ext ?_ ?_
  · show _ = entriesJournaled _
    apply List.ext_getElem
    · simp [numbered, entriesJournaled]
    · intro place _ _
      simp [numbered, entriesJournaled]
  · show ({ s.handed ps.length given with plugins := _ } : Session abi (Journaled σ)) = _
    rw [hplugins]
    simp [handed, Session.journaled, notes, List.mapIdx_append]

/-- The numbers of plugins that were taken in are numbers of plugins. -/
theorem adopt_lt (s : Session abi σ) (ps : List (String × Plugin abi σ)) :
    ∀ entry ∈ (s.adopt ps).1, entry.2.1 < (s.adopt ps).2.plugins.length := by
  intro entry hentry
  obtain ⟨⟨p, id⟩, hmem, rfl⟩ := List.mem_map.mp hentry
  have hlast := (List.mem_zipIdx hmem).2.1
  show id < (s.plugins ++ ps.map Prod.snd).length
  rw [List.length_append, List.length_map]
  exact hlast

/-- The manager writes its line before anything else, so the line is there however building the
plugins ends. Only plugins that it returns get numbers. -/
theorem call_plugins_journaled (m : Manager abi σ) (config : Option (List Config.Item))
    (s : Session abi σ) :
    (s.journaled given).call (m.journaled.plugins config)
      = match s.call (m.plugins config) with
        | (.ok set, t) => (.ok (set.journaled s.plugins.length),
            t.handed set.plugins.length (given ++ [config]))
        | (.error e, t) => (.error e, t.journaled (given ++ [config])) := by
  have hworld : (s.journaled given).world = s.world.journaled (s.notes given) := rfl
  -- the manager's own code runs with the line already written
  have hrun : (m.journaled.plugins config).run.run (s.world.journaled (s.notes given))
      = (do Code.numberSet (← Code.journaled (m.plugins config)) :
          Code abi (Journaled σ) (PluginSet abi (Journaled σ))).run.run
        (s.world.journaled (s.notes (given ++ [config]))) := rfl
  rw [ExceptT.run_bind, StateT.run_bind, World.run_journaled, Except.map_id] at hrun
  unfold call
  rw [hworld]
  rcases hcode : (m.plugins config).run.run s.world with ⟨stop | set, w⟩
  · have hcall := World.call_of_run (m.plugins config) (PluginSet.journaled s.plugins.length)
      (s.notes (given ++ [config])) (by rw [hrun, hcode]; rfl)
    rw [hcall]
    unfold World.call World.attempt
    rw [hcode]
    cases stop <;> rfl
  · have hcall := World.call_of_run (m.plugins config) (PluginSet.journaled s.plugins.length)
      { s.notes (given ++ [config]) with built := s.plugins.length + set.plugins.length }
      (by rw [hrun, hcode]; rfl)
    rw [hcall]
    unfold World.call World.attempt
    rw [hcode]
    rfl

/-- Asking the manager for its plugins writes down what it is given, once, and apart from that the
journal changes nothing. -/
theorem registerPlugins_journaled (m : Manager abi σ) (config : Option (List Config.Item))
    (s : Session abi σ) :
    (s.journaled given).registerPlugins m.journaled config
      = beside (given ++ [config]) (s.registerPlugins m config) := by
  have hplugins := (call_sameBooks s (m.plugins config)).plugins
  unfold registerPlugins
  rw [call_plugins_journaled, show m.journaled.name = m.name from rfl]
  -- The manager is asked once and writes that down; from there on both sides do the same.
  rcases hcalled : s.call (m.plugins config) with ⟨e | set, t⟩
  · exact status_journaled "collectd config" (.error e) t
  · rw [hcalled] at hplugins
    have hcount : set.plugins.length = (named m.name set).length := by
      rw [← named_plugins m.name set, List.length_map]
    dsimp only
    rw [named_journaled, hcount, ← show t.plugins = s.plugins from hplugins, adopt_journaled]
    dsimp only
    rw [registerList_journaled (adopt_lt t _)]
    rcases registerList (t.adopt (named m.name set)).2 (t.adopt (named m.name set)).1 with
      ⟨_ | e | _, u⟩
    · rfl
    · exact status_journaled "collectd config" (.error e) u
    · rfl

/-! ### Calls that may have plugins built, beside a journal -/

namespace Opening

/-- What a call asks the manager for that found the flag like this. -/
def asked (o : Opening) : Bool → List (Option (List Config.Item))
  | true => []
  | false => o.given.toList

/-- The work of a call that may have plugins built: the one line that it adds is what the manager
was asked for, if it was. -/
theorem work_journaled (m : Manager abi σ) (o : Opening) (seen : Bool) (s : Session abi σ) :
    o.work m.journaled seen (s.journaled given)
      = beside (given ++ o.asked seen) (o.work m seen s) := by
  -- The manager is asked unless the flag was up already or the tree cannot be read.
  cases seen with
  | true =>
      show o.work m.journaled true (s.journaled given) = beside (given ++ []) _
      rw [List.append_nil]
      cases o with
      | config item => exact Prod.ext rfl (report_journaled s "config" .multipleConfig)
      | init => rfl
  | false =>
      cases o with
      | init => exact registerPlugins_journaled m none s
      | config item =>
          cases item with
          | none => exact registerPlugins_journaled m none s
          | some item =>
              simp only [work, asked, Opening.given]
              cases Config.Item.ofRaw item with
              | ok item => exact registerPlugins_journaled m (some item.children) s
              | error e =>
                  show _ = beside (given ++ []) _
                  rw [List.append_nil]
                  exact Prod.ext rfl (report_journaled s "collectd config conversion" _)

/-- Starting the manager builds nothing and releases nothing. -/
theorem finish_journaled (m : Manager abi σ) (o : Opening) (exit : Exit) (s : Session abi σ) :
    o.finish m.journaled exit (s.journaled given) = beside given (o.finish m exit s) := by
  cases o with
  | config item => rfl
  | init =>
      cases exit with
      | escaped => rfl
      | status code =>
          dsimp only [finish]
          rw [show m.journaled.wantsStart = Code.journaled m.wantsStart from rfl,
            show m.journaled.start = Code.journaled m.start from rfl, attempt_journaled]
          rcases s.attempt m.wantsStart with ⟨stop | asked, t⟩
          · rfl
          · cases asked with
            | false => rfl
            | true =>
                dsimp only [beside]
                rw [call_journaled]
                rcases t.call m.start with ⟨e | _, u⟩
                · exact Prod.ext rfl (report_journaled u "init" e)
                · rfl

end Opening

end Session

end PluginKit
