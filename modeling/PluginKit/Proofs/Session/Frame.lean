import PluginKit.Plugin.Session

/-!
# `PluginKit.Proofs.Session.Frame`: what a call leaves alone

A session keeps books: the registrations, the plugins it was given and those it dropped, and whether
the manager has had its chance. Most calls only run plugin code and report errors, so they touch the
world and nothing in the books. The lemmas here say so once, for every call.

* `SameBooks`: the relation, with a lemma for each call that keeps the books.
* `call_eq`, `Stops`: what becomes of plugin code.
* `drop_eq`: dropping runs a release; `drop_sameBooks`, `dropAll_sameBooks`: it writes one place of
  the books.
* `SameGiven`: what registering keeps, with a lemma for each of its steps.
* `run`: the session after a list of requests, and `run_induction` for what every request keeps.
-/

set_option autoImplicit false

namespace PluginKit

/-- The plugins that a manager hands over. -/
def PluginSet.plugins {abi : Abi} {σ : Type} : PluginSet abi σ → List (Plugin abi σ)
  | .single p => [p]
  | .multiple ps => ps.map Prod.snd

namespace Session

variable {abi : Abi} {σ : Type}

/-- Two sessions that differ in their worlds at most. What holds of the books alone is then carried
through such a call without looking at it. -/
structure SameBooks (s t : Session abi σ) : Prop where
  registry : t.registry = s.registry
  configSeen : t.configSeen = s.configSeen
  plugins : t.plugins = s.plugins
  dropped : t.dropped = s.dropped

namespace SameBooks

theorem refl (s : Session abi σ) : SameBooks s s := ⟨rfl, rfl, rfl, rfl⟩

theorem trans {s t u : Session abi σ} (h : SameBooks s t) (k : SameBooks t u) :
    SameBooks s u where
  registry := k.registry.trans h.registry
  configSeen := k.configSeen.trans h.configSeen
  plugins := k.plugins.trans h.plugins
  dropped := k.dropped.trans h.dropped

end SameBooks

/-! ### Calls that keep the books -/

/-- Whatever is done to the world, the books do not notice. Reports, notes and plugin code are all
done to the world. -/
theorem mapWorld_sameBooks (s : Session abi σ) (f : World abi σ → World abi σ) :
    SameBooks s (s.mapWorld f) := ⟨rfl, rfl, rfl, rfl⟩

theorem report_sameBooks (s : Session abi σ) (operation : String) (e : CallbackError) :
    SameBooks s (s.report operation e) := mapWorld_sameBooks s _

theorem note_sameBooks (s : Session abi σ) (level : Log.Level) (text : String) :
    SameBooks s (s.note level text) := mapWorld_sameBooks s _

/-- Plugin code has no way to the books, whether it returns, fails or panics. -/
theorem call_sameBooks {α : Type} (s : Session abi σ) (code : Code abi σ α) :
    SameBooks s (s.call code).2 := ⟨rfl, rfl, rfl, rfl⟩

theorem attempt_sameBooks {α : Type} (s : Session abi σ) (code : Code abi σ α) :
    SameBooks s (s.attempt code).2 := ⟨rfl, rfl, rfl, rfl⟩

/-- A status is a number and perhaps a report. -/
theorem status_sameBooks (operation : String) (result : Except CallbackError Unit)
    (s : Session abi σ) : SameBooks s (status operation result s).2 := by
  cases result with
  | ok _ => exact SameBooks.refl s
  | error e => exact report_sameBooks s operation e

/-- A read, write or flush callback keeps the books. It cannot drop the plugin that it is called
for. -/
theorem callPlugin_sameBooks (operation : String) (data : Option PluginId)
    (code : Plugin abi σ → Except CallbackError (Code abi σ Unit)) (s : Session abi σ) :
    SameBooks s (s.callPlugin operation data code).2 := by
  unfold callPlugin
  split
  · exact status_sameBooks operation _ s
  · split
    · exact status_sameBooks operation _ s
    · exact (call_sameBooks s _).trans (status_sameBooks operation _ _)

theorem shutdown_sameBooks (m : Manager abi σ) (s : Session abi σ) :
    SameBooks s (s.shutdown m).2 :=
  (call_sameBooks s m.shutdown).trans (status_sameBooks "shutdown" _ _)

/-- So does a log callback, on each of its ways out. -/
theorem log_sameBooks (data : Option PluginId) (severity : Int) (message : Option (List UInt8))
    (s : Session abi σ) : SameBooks s (s.log data severity message) := by
  unfold log
  split
  · rename_i bytes p _
    split
    · exact report_sameBooks s _ _
    · rename_i level _
      -- Whatever the plugin's code answers, at most a report follows it.
      have hcall := call_sameBooks s (p.log level (Utf8.decodeLossy (Terminated.bytes bytes)))
      split <;> rename_i heq <;> rw [heq] at hcall
      · exact hcall
      · exact hcall.trans (report_sameBooks _ _ _)
  · exact SameBooks.refl s

/-! ### Outcomes -/

/-- What the daemon is told of an outcome: a failure as it is, and a panic as an error of its own.
This is the guard around plugin code. -/
theorem call_eq {α : Type} (s : Session abi σ) (code : Code abi σ α) :
    s.call code = (match (s.attempt code).1 with
      | .ok a => .ok a
      | .error (.failed f) => .error (.plugin f)
      | .error (.panicked _) => .error .panicked, (s.attempt code).2) := by
  unfold call attempt World.call
  rcases s.world.attempt code with ⟨stop | a, w⟩
  · cases stop <;> rfl
  · rfl

/-- Code does not return when it is run here: it fails, or it panics. To the daemon the two are
alike, so most statements do not tell them apart. -/
def Stops {α : Type} (s : Session abi σ) (code : Code abi σ α) : Prop :=
  ∃ stop, (s.attempt code).1 = .error stop

/-- What does not return is an error for the daemon. -/
theorem call_eq_error_iff {α : Type} (s : Session abi σ) (code : Code abi σ α) :
    (∃ e, (s.call code).1 = .error e) ↔ Stops s code := by
  unfold Stops
  rw [call_eq]
  rcases (s.attempt code).1 with stop | a
  · cases stop <;> simp
  · simp

/-! ### Dropping -/

/-- Dropping a plugin that there is writes its number down and runs its release, once, on the state
of the plugins. It says all that dropping does; the books alone would not show that the release
ran. -/
theorem drop_eq {s : Session abi σ} {id : PluginId} {p : Plugin abi σ}
    (hp : s.plugins[id]? = some p) :
    s.drop id = { s with
      dropped := s.dropped ++ [id], world := { s.world with own := p.release s.world.own } } := by
  simp only [drop, hp]
  rfl

/-- Dropping a plugin writes its number down, and the plugin's own clean-up reaches the world
only. -/
theorem drop_sameBooks (s : Session abi σ) (id : PluginId) :
    SameBooks { s with dropped := s.dropped ++ [id] } (s.drop id) := by
  simp only [drop]
  split
  · exact SameBooks.refl _
  · exact mapWorld_sameBooks _ _

/-- So does dropping several, one after the other. -/
theorem dropAll_sameBooks (s : Session abi σ) (ids : List PluginId) :
    SameBooks { s with dropped := s.dropped ++ ids } (s.dropAll ids) := by
  induction ids generalizing s with
  | nil => exact ⟨rfl, rfl, rfl, (List.append_nil _).symm⟩
  | cons id rest ih =>
      have hdrop := drop_sameBooks s id
      have hrest := ih (s.drop id)
      refine ⟨?_, ?_, ?_, ?_⟩
      · exact hrest.registry.trans hdrop.registry
      · exact hrest.configSeen.trans hdrop.configSeen
      · exact hrest.plugins.trans hdrop.plugins
      · show (dropAll (s.drop id) rest).dropped = s.dropped ++ id :: rest
        rw [hrest.dropped]
        simp [hdrop.dropped]

/-! ### Registering

Registering writes down callbacks and drops, so it does not keep the books. What it keeps is what
it is given: the plugins, the manager's chance and the daemon's rules. -/

/-- Two sessions with the same plugins, the same chance and the same rules. Registering cannot take
in a plugin or change what the daemon turns down. -/
structure SameGiven (s t : Session abi σ) : Prop where
  plugins : t.plugins = s.plugins
  configSeen : t.configSeen = s.configSeen
  rejections : t.registry.rejections = s.registry.rejections

theorem SameGiven.trans {s t u : Session abi σ} (h : SameGiven s t) (k : SameGiven t u) :
    SameGiven s u where
  plugins := k.plugins.trans h.plugins
  configSeen := k.configSeen.trans h.configSeen
  rejections := k.rejections.trans h.rejections

theorem SameBooks.sameGiven {s t : Session abi σ} (h : SameBooks s t) : SameGiven s t where
  plugins := h.plugins
  configSeen := h.configSeen
  rejections := by rw [h.registry]

/-- Dropping a plugin leaves it among the plugins: its number stays taken. -/
theorem drop_sameGiven (s : Session abi σ) (id : PluginId) : SameGiven s (s.drop id) :=
  -- The number that is written down is none of what was given.
  have h := (drop_sameBooks s id).sameGiven
  ⟨h.plugins, h.configSeen, h.rejections⟩

theorem dropAll_sameGiven (s : Session abi σ) (ids : List PluginId) :
    SameGiven s (s.dropAll ids) :=
  have h := (dropAll_sameBooks s ids).sameGiven
  ⟨h.plugins, h.configSeen, h.rejections⟩

/-- One callback that is asked for, accepted or turned down. -/
theorem Attempt.register_sameGiven (name : String) (id : PluginId) (a : Attempt abi σ)
    (kind : CallbackKind) : SameGiven a.session (a.register name id kind).session := by
  have hrules (entry : Registration) :
      (a.session.registry.register entry).2.rejections = a.session.registry.rejections := by
    unfold Registry.register
    split <;> rfl
  unfold Attempt.register
  dsimp only
  split
  · exact ⟨rfl, rfl, hrules _⟩
  · exact (note_sameBooks _ _ _).sameGiven

theorem Attempt.foldl_register_sameGiven (name : String) (id : PluginId) (a : Attempt abi σ)
    (kinds : List CallbackKind) :
    SameGiven a.session (kinds.foldl (Attempt.register name id) a).session := by
  induction kinds generalizing a with
  | nil => exact ⟨rfl, rfl, rfl⟩
  | cons kind rest ih => exact (Attempt.register_sameGiven name id a kind).trans (ih _)

/-- All callbacks of one plugin, or none if its name cannot be registered or it has nothing to
offer. -/
theorem registerPlugin_sameGiven (s : Session abi σ) (name : String) (id : PluginId)
    (p : Plugin abi σ) : SameGiven s (s.registerPlugin name id p).2 := by
  rcases hresult : s.attempt p.capabilities with ⟨result, t⟩
  have ht : SameGiven s t := by
    have hattempt := (attempt_sameBooks s p.capabilities).sameGiven
    rwa [hresult] at hattempt
  simp only [registerPlugin, hresult]
  cases result with
  | error stop => exact ht.trans (drop_sameGiven t id)
  | ok wanted =>
      dsimp only
      split
      · exact ht.trans (drop_sameGiven t id)
      · split
        · exact ht.trans ((note_sameBooks t _ _).sameGiven.trans (drop_sameGiven _ id))
        · have hfold := ht.trans ((note_sameBooks t .debug
            ("registering " ++ name ++ " with " ++ wanted.describe)).sameGiven.trans
              (Attempt.foldl_register_sameGiven name id ⟨_, false, none⟩ (wantedKinds wanted)))
          -- owned or not, turned down or not
          split <;> dsimp only <;> split
          · exact hfold
          · exact hfold.trans (drop_sameGiven _ id)
          · exact hfold
          · exact hfold.trans (drop_sameGiven _ id)

/-- Plugins of a list up to the first failure, and drops for the rest. -/
theorem registerList_sameGiven (s : Session abi σ)
    (entries : List (String × PluginId × Plugin abi σ)) :
    SameGiven s (s.registerList entries).2 := by
  induction entries generalizing s with
  | nil => exact ⟨rfl, rfl, rfl⟩
  | cons entry rest ih =>
      obtain ⟨name, id, p⟩ := entry
      rcases hresult : s.registerPlugin name id p with ⟨result, t⟩
      have ht : SameGiven s t := by
        have hplugin := registerPlugin_sameGiven s name id p
        rwa [hresult] at hplugin
      simp only [registerList, hresult]
      cases result with
      | done => exact ht.trans (ih t)
      | failed e => exact ht.trans (dropAll_sameGiven t _)
      | escaped => exact ht.trans (dropAll_sameGiven t _)

/-- Names are given to the plugins that were built and to no others. -/
theorem named_plugins (name : String) (set : PluginSet abi σ) :
    (named name set).map Prod.snd = set.plugins := by
  cases set with
  | single p => rfl
  | multiple ps => simp [named, PluginSet.plugins, Function.comp_def]

/-- The plugins that a manager returns join those of the session, whatever becomes of them. Plugins
that are dropped at once are counted in as well, so that their drops have a number to be counted
under. -/
theorem registerPlugins_plugins (m : Manager abi σ) (config : Option (List Config.Item))
    (s : Session abi σ) {set : PluginSet abi σ}
    (hset : (s.call (m.plugins config)).1 = .ok set) :
    (s.registerPlugins m config).2.plugins = s.plugins ++ set.plugins := by
  rcases hresult : s.call (m.plugins config) with ⟨result, t⟩
  have ht : t.plugins = s.plugins := by
    have hcall := (call_sameBooks s (m.plugins config)).plugins
    rwa [hresult] at hcall
  rw [hresult] at hset
  obtain rfl : result = .ok set := hset
  -- taking the plugins in adds them, and registering them only writes elsewhere
  have hadopt : (t.adopt (named m.name set)).2.plugins = s.plugins ++ set.plugins := by
    show t.plugins ++ (named m.name set).map Prod.snd = _
    rw [ht, named_plugins]
  have hlist := (registerList_sameGiven (t.adopt (named m.name set)).2
    (t.adopt (named m.name set)).1).plugins
  simp only [registerPlugins, hresult]
  split <;> rename_i heq <;> rw [heq] at hlist
  · exact hlist.trans hadopt
  · exact (status_sameBooks _ _ _).plugins.trans (hlist.trans hadopt)
  · exact hlist.trans hadopt

/-- Building plugins does not touch the manager's chance to do so. -/
theorem registerPlugins_configSeen (m : Manager abi σ) (config : Option (List Config.Item))
    (s : Session abi σ) : (s.registerPlugins m config).2.configSeen = s.configSeen := by
  rcases hresult : s.call (m.plugins config) with ⟨result, t⟩
  have ht : t.configSeen = s.configSeen := by
    have hcall := (call_sameBooks s (m.plugins config)).configSeen
    rwa [hresult] at hcall
  simp only [registerPlugins, hresult]
  cases result with
  | error e => exact (status_sameBooks _ _ t).configSeen.trans ht
  | ok set =>
      have hlist := (registerList_sameGiven (t.adopt (named m.name set)).2
        (t.adopt (named m.name set)).1).configSeen
      dsimp only
      split <;> rename_i heq <;> rw [heq] at hlist
      · exact hlist.trans ht
      · exact (status_sameBooks _ _ _).configSeen.trans (hlist.trans ht)
      · exact hlist.trans ht

/-! ### Runs -/

/-- A session before anything has happened, in a world that is already there. No plugin has been
built, and the daemon accepts every callback. -/
def within (w : World abi σ) : Session abi σ := { start w.own with world := w }

/-- The session after requests that were served one after the other. -/
def run (m : Manager abi σ) (s : Session abi σ) (requests : List (Request abi)) :
    Session abi σ :=
  requests.foldl (fun s request => (s.serve m request).2) s

/-- What holds before a run and is kept by each of its requests holds after it. The step may use
that the request is one of the run's, where a run is asked to be honest. -/
theorem run_induction {P : Session abi σ → Prop} (m : Manager abi σ)
    (requests : List (Request abi)) (s : Session abi σ) (hs : P s)
    (hstep : ∀ request ∈ requests, ∀ t, P t → P (t.serve m request).2) :
    P (run m s requests) := by
  induction requests generalizing s with
  | nil => exact hs
  | cons request rest ih =>
      exact ih (s.serve m request).2 (hstep request List.mem_cons_self s hs)
        fun later hlater => hstep later (List.mem_cons_of_mem request hlater)

end Session

end PluginKit
