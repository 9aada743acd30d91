import PluginKit.Plugin.Scripted
import PluginKit.Proofs.Session.Custody
import PluginKit.Proofs.Session.Journal

/-!
# `PluginKit.Proofs.Session.Release`: every plugin is released exactly once

The books of a session say which plugins were dropped, and `Custody` says that they have every
plugin in one place. What matters to a plugin is that its clean-up runs. So the plugins get the
journal in which each of them writes its number when it is released, and this module follows it
through every call: the releases that ran are the drops in the books, call by call.

The books alone would not do: a session that wrote down a drop and ran nothing would keep them just
as well, and each of its plugins would leak.

* `callPlugin_journaled`, `releaseAll_journaled`: the calls of a session beside a journal.
* `serve_journaled`, `run_journaled`: the releases that ran are those in the books.
* `Kept`: what a daemon can rely on, said of the releases that ran.
* `registerPlugins_drops_each_plugin_once`: no run and no way of registering loses a plugin or
  releases it twice.
-/

set_option autoImplicit false

namespace PluginKit

namespace Session

variable {abi : Abi} {σ : Type} {given : List (Option (List Config.Item))}

/-! ### Calls beside a journal -/

/-- A plugin's code writes nothing into the journal, and no more does a call that finds no plugin or
cannot read what it was given. -/
theorem callPlugin_journaled (operation : String) (data : Option PluginId)
    {code : Plugin abi σ → Except CallbackError (Code abi σ Unit)}
    {code' : Plugin abi (Journaled σ) → Except CallbackError (Code abi (Journaled σ) Unit)}
    (hcode : ∀ id p, code' (p.journaled id) = (code p).map Code.journaled)
    (s : Session abi σ) :
    (s.journaled given).callPlugin operation data code'
      = beside given (s.callPlugin operation data code) := by
  -- Whether the daemon names a plugin, and which, is the same on both sides; only a call of its
  -- code touches the world.
  unfold callPlugin
  cases data with
  | none => exact status_journaled operation _ s
  | some id =>
      simp only [pluginOf, Option.bind_some]
      rw [getElem?_plugins_journaled]
      cases s.plugins[id]? with
      | none => exact status_journaled operation _ s
      | some p =>
          simp only [Option.map_some, hcode]
          cases code p with
          | error e => exact status_journaled operation _ s
          | ok code =>
              simp only [Except.map, call_journaled]
              exact status_journaled operation _ _

/-- A log call does beside a journal what it does without one: nothing that it runs writes there. -/
theorem log_journaled (data : Option PluginId) (severity : Int) (message : Option (List UInt8))
    (s : Session abi σ) :
    (s.journaled given).log data severity message
      = (s.log data severity message).journaled given := by
  cases message with
  | none => rfl
  | some bytes =>
      cases data with
      | none => rfl
      | some id =>
          unfold log
          simp only [pluginOf, Option.bind_some]
          rw [getElem?_plugins_journaled]
          cases s.plugins[id]? with
          | none => rfl
          | some p =>
              simp only [Option.map_some]
              -- A severity without a meaning is reported, and the plugin is not asked.
              cases Log.Severity.ofCode? severity with
              | none => exact report_journaled s "logging" _
              | some level =>
                  simp only [Plugin.journaled, call_journaled]
                  rcases s.call (p.log level (Utf8.decodeLossy (Terminated.bytes bytes))) with
                    ⟨e | _, t⟩
                  · exact report_journaled t "logging" e
                  · rfl

/-- The module registers its own callbacks without calling anything that could write. -/
theorem registerModule_journaled (m : Manager abi σ) (s : Session abi σ) :
    (s.journaled given).registerModule m.journaled = (s.registerModule m).journaled given := by
  unfold registerModule
  rw [show m.journaled.name = m.name from rfl]
  split
  · exact report_journaled s "module register" _
  · rfl

/-- The end of all registrations runs the releases of the plugins that callbacks carry. Those are
plugins of the session, or a callback would free something that is not there. -/
theorem releaseAll_journaled {s : Session abi σ}
    (howners : ∀ entry ∈ s.registry.registrations, ∀ id, entry.owner = some id →
      id < s.plugins.length) :
    (s.journaled given).releaseAll = beside given s.releaseAll := by
  refine Prod.ext rfl (dropAll_journaled
    (s := { s with registry := { s.registry with registrations := [] } }) fun id hid => ?_)
  obtain ⟨entry, hentry, howner⟩ := List.mem_filterMap.mp hid
  exact howners entry ((List.mem_filter.mp hentry).1) id howner

/-- A callback that names a plugin is the callback of one that has not been dropped. -/
theorem Custody.live {s : Session abi σ} {pending : List PluginId} (h : Custody pending s)
    {entry : Registration} (hentry : entry ∈ s.registry.registrations) {id : PluginId}
    (howner : entry.owner = some id) : id < s.plugins.length ∧ id ∉ s.dropped := by
  refine h.live_of_ofOwner_ne_nil (List.ne_nil_of_mem (a := entry) ?_)
  exact List.mem_filter.mpr ⟨hentry, by simp [howner]⟩

/-- A call that may have plugins built does beside a journal what it does without one. -/
theorem Opening.serve_journaled (m : Manager abi σ) (o : Opening) (s : Session abi σ) :
    (s.journaled given).serve m.journaled o.request
      = beside (given ++ o.asked s.configSeen) (s.serve m o.request) := by
  have hraised : ({ s.journaled given with configSeen := true } : Session abi (Journaled σ))
      = ({ s with configSeen := true } : Session abi σ).journaled given := rfl
  rw [Opening.serve_eq, Opening.serve_eq]
  unfold Opening.alone
  rw [hraised, show (s.journaled given).configSeen = s.configSeen from rfl, Opening.work_journaled]
  dsimp only [beside]
  rw [Opening.finish_journaled]
  rfl

/-- Every call does beside a journal what it does without one. The lines that it adds are what the
manager was given, and the releases that it runs are those that the books get. -/
theorem serve_journaled (given : List (Option (List Config.Item))) {s : Session abi σ}
    (h : Custody [] s) (m : Manager abi σ) (request : Request abi) :
    ∃ more, (s.journaled given).serve m.journaled request
      = beside (given ++ more) (s.serve m request) := by
  -- all but two calls leave what was given as it is
  have hsame {result : Answer × Session abi (Journaled σ)} {plain : Answer × Session abi σ}
      (heq : result = beside given plain) : ∃ more, result = beside (given ++ more) plain :=
    ⟨[], by rw [List.append_nil]; exact heq⟩
  cases request with
  | config item => exact ⟨_, Opening.serve_journaled m (.config item) s⟩
  | init => exact ⟨_, Opening.serve_journaled m .init s⟩
  | module => exact hsame (Prod.ext rfl (registerModule_journaled m s))
  | shutdown =>
      refine hsame ?_
      show exits (status "shutdown" ((s.journaled given).call (Code.journaled m.shutdown)).1
        ((s.journaled given).call (Code.journaled m.shutdown)).2) = _
      rw [call_journaled]
      exact congrArg exits (status_journaled "shutdown" _ _)
  | read data =>
      exact hsame (congrArg exits (callPlugin_journaled "read" data (fun _ _ => rfl) s))
  | write data set list =>
      refine hsame (congrArg exits (callPlugin_journaled "writing" data (fun id p => ?_) s))
      cases receivedList set list <;> rfl
  | flush data timeout identifier =>
      refine hsame (congrArg exits (callPlugin_journaled "flush" data (fun id p => ?_) s))
      cases flushIdentifier identifier <;> rfl
  | log data severity message =>
      exact hsame (Prod.ext rfl (log_journaled data severity message s))
  | reject kind status => exact hsame rfl
  | rates rates => exact hsame rfl
  | dispatchStatus status => exact hsame rfl
  | release =>
      refine hsame ?_
      show (Answer.released (s.journaled given).releaseAll.1, (s.journaled given).releaseAll.2) = _
      rw [releaseAll_journaled fun entry hentry id howner => (h.live hentry howner).1]
      rfl

/-- So does a run, from a session that keeps custody of its plugins. -/
theorem run_journaled (given : List (Option (List Config.Item))) (m : Manager abi σ)
    {s : Session abi σ} (h : Custody [] s) (requests : List (Request abi))
    (honest : ∀ request ∈ requests, request.Honest) :
    ∃ more, run m.journaled (s.journaled given) requests
      = (run m s requests).journaled (given ++ more) := by
  induction requests generalizing s given with
  | nil => exact ⟨[], by rw [List.append_nil]; rfl⟩
  | cons request rest ih =>
      obtain ⟨hrequest, hrest⟩ := List.forall_mem_cons.mp honest
      obtain ⟨first, hfirst⟩ := serve_journaled given h m request
      obtain ⟨more, hmore⟩ := ih (given ++ first) (serve_custody h m request hrequest) hrest
      refine ⟨first ++ more, ?_⟩
      show run m.journaled ((s.journaled given).serve m.journaled request).2 rest = _
      rw [hfirst, ← List.append_assoc]
      exact hmore

/-! ### What the daemon sees -/

/-- A daemon that calls only what it has accepted never calls a plugin whose release has run, frees
each plugin through the first callback that it accepted, and runs the release of each exactly once
when it ends the registrations. -/
structure Kept (s : Session abi (Journaled σ)) : Prop where
  live : ∀ entry ∈ s.registry.registrations, ∀ id, entry.owner = some id →
    id < s.plugins.length ∧ id ∉ s.world.own.notes.released
  led : ∀ id, Led (s.registry.ofOwner id)
  once : ∀ id < s.plugins.length, s.releaseAll.2.world.own.notes.released.count id = 1

/-- Custody in the books is custody of the releases that run: beside the journal, the two lists are
one. -/
theorem Custody.kept {s : Session abi σ} (h : Custody [] s) : Kept (s.journaled given) where
  live entry hentry id howner := by
    rw [length_plugins_journaled]
    exact h.live hentry howner
  led := h.led
  once id hid := by
    rw [length_plugins_journaled] at hid
    rw [releaseAll_journaled fun entry hentry id howner => (h.live hentry howner).1]
    show s.releaseAll.2.dropped.count id = 1
    -- with no callback left and nothing pending, the one place of a plugin is among the dropped
    have hplaces := (releaseAll_custody h).places id
    have hbooks := releaseAll_sameBooks s
    rw [hbooks.plugins, if_pos hid] at hplaces
    have hnone : s.releaseAll.2.registry.ofOwner id = [] := by rw [hbooks.registry]; rfl
    rw [hnone] at hplaces
    simpa using hplaces

/-- Whatever the daemon asked for before and whatever it turns down, with plugins that write their
number down when they are released: what a manager returns joins the plugins of the session, before
and after it is registered the daemon sees only plugins whose release has not run, and the end of
the registrations leaves each of them released exactly once. The journal changes nothing else. -/
theorem registerPlugins_drops_each_plugin_once (m : Manager abi σ) (w : World abi σ)
    (requests : List (Request abi)) (honest : ∀ request ∈ requests, request.Honest)
    (config : Option (List Config.Item)) :
    let plain := run m (within w) requests
    let before := run m.journaled ((within w).journaled []) requests
    let registered := (before.registerPlugins m.journaled config).2
    (∃ given, before = plain.journaled given ∧
      registered = (plain.registerPlugins m config).2.journaled (given ++ [config])) ∧
    (∀ set, (plain.call (m.plugins config)).1 = .ok set →
      (plain.registerPlugins m config).2.plugins = plain.plugins ++ set.plugins) ∧
    Kept before ∧ Kept registered := by
  intro plain before registered
  -- Custody is an invariant of the plain session; the journaled one shows which releases ran.
  have hplain : Custody [] plain := run_custody m w requests honest
  obtain ⟨given, hbefore⟩ : ∃ given, before = plain.journaled given :=
    run_journaled [] m (Custody.within w) requests honest
  have hregistered : registered
      = (plain.registerPlugins m config).2.journaled (given ++ [config]) := by
    show (before.registerPlugins m.journaled config).2 = _
    rw [hbefore, registerPlugins_journaled]
    rfl
  refine ⟨⟨given, hbefore, hregistered⟩, fun set hset => ?_, ?_, ?_⟩
  · exact registerPlugins_plugins m config plain hset
  · rw [hbefore]
    exact hplain.kept
  · rw [hregistered]
    exact (registerPlugins_custody hplain m config).kept

/-- A manager of three plugins, the second of which has a name that cannot be registered. -/
def trio : Manager .current Scripted.Journal :=
  Scripted.ManagerScript.manager
    { name := "trio", wantsStart := false, first := .succeed, calls := none
      set := .multiple
        [("a", .quiet ⟨true, false, false, true⟩), ("b\x00", .quiet ⟨true, false, false, false⟩),
          ("c", .quiet ⟨false, false, false, true⟩)] }

/-- A daemon that refuses to read: the first plugin is carried by its flush callback, the others are
released while registering stops at the first failure. -/
theorem registerPlugins_drops_trio_once :
    (∀ request ∈ ([.reject .read (-2)] : List (Request .current)), request.Honest) ∧
    let registered := ((run trio.journaled ((within ⟨.initial, .initial, .empty⟩).journaled [])
      [.reject .read (-2)]).registerPlugins trio.journaled none).2
    registered.world.own.notes.released = [1, 2] ∧
    registered.releaseAll.2.world.own.notes.released = [1, 2, 0] ∧ Kept registered := by
  have honest : ∀ request ∈ ([.reject .read (-2)] : List (Request .current)),
      request.Honest := by
    simp [Request.Honest]
  exact ⟨honest, rfl, rfl, (registerPlugins_drops_each_plugin_once trio _ _ honest none).2.2.2⟩

end Session

end PluginKit
