import PluginKit.Proofs.Session.Opening

/-!
# `PluginKit.Proofs.Session.Custody`: every plugin is in one place

A plugin that a manager returned is in one of three places: it still has to be registered, it has
been dropped, or a callback that the daemon accepted carries it. `Custody` counts the places of each
plugin and says that there is exactly one. Every step moves plugins from one place to another, so
the count never changes, whatever the daemon turns down and wherever registering stops.

This is a law about the books of a session. That a drop in the books is a release that ran is the
matter of `PluginKit.Proofs.Session.Release`.

* `Custody`: the invariant, for plugins that are `pending` in the middle of registering.
* `registerPlugin_custody`, `registerList_custody`: registering takes plugins out of `pending`.
* `serve_custody`, `run_custody`: no request breaks the invariant.
-/

set_option autoImplicit false

namespace PluginKit

/-! ### The callbacks of one plugin -/

/-- Of a plugin's callbacks the first carries the plugin and no other does. A plugin without
callbacks is carried by none. -/
def Led : List Registration → Prop
  | [] => True
  | first :: rest => first.frees = true ∧ ∀ entry ∈ rest, entry.frees = false

/-- A callback that joins others carries nothing; one that is alone carries the plugin. -/
theorem Led.append_singleton {entries : List Registration} (h : Led entries)
    {entry : Registration} (hfrees : entry.frees = entries.isEmpty) :
    Led (entries ++ [entry]) := by
  cases entries with
  | nil => exact ⟨hfrees, by simp⟩
  | cons first rest =>
      refine ⟨h.1, fun other hother => ?_⟩
      rcases List.mem_append.mp hother with hrest | hlast
      · exact h.2 other hrest
      · rw [List.mem_singleton.mp hlast, hfrees]
        rfl

/-- There is one carrier if there are callbacks at all: not two, which would free the plugin
twice. -/
theorem Led.countP_frees {entries : List Registration} (h : Led entries) :
    entries.countP (·.frees) = if entries = [] then 0 else 1 := by
  cases entries with
  | nil => rfl
  | cons first rest =>
      have hrest : rest.countP (·.frees) = 0 :=
        List.countP_eq_zero.mpr fun entry hentry => by simp [h.2 entry hentry]
      rw [List.countP_cons, hrest]
      simp [h.1]

namespace Registry

/-- The callbacks of one plugin, in the order in which they were accepted. Those of a manager have
no owner and belong to no plugin. -/
def ofOwner (r : Registry) (id : PluginId) : List Registration :=
  r.registrations.filter fun entry => entry.owner == some id

/-- No rule turns a callback down with the status of an acceptance. -/
def Honest (r : Registry) : Prop := ∀ rule ∈ r.rejections, rule.2 ≠ 0

/-- An honest daemon turns a callback down and forgets it, or takes it as the latest. A status other
than zero is how registering learns which. -/
theorem register_cases {r : Registry} (h : r.Honest) (entry : Registration) :
    (∃ status, status ≠ 0 ∧ r.register entry = (status, r)) ∨
    r.register entry = (0, { r with registrations := r.registrations ++ [entry] }) := by
  unfold register
  split
  · rename_i rule hfind
    exact Or.inl ⟨rule.2, h rule (List.mem_of_find?_eq_some hfind), rfl⟩
  · exact Or.inr rfl

/-- A new callback joins those of its owner. -/
theorem ofOwner_append (r : Registry) (entry : Registration) (id : PluginId) :
    ({ r with registrations := r.registrations ++ [entry] } : Registry).ofOwner id
      = r.ofOwner id ++ if entry.owner = some id then [entry] else [] := by
  unfold ofOwner
  rw [List.filter_append]
  by_cases hid : entry.owner = some id <;> simp [hid]

/-- The plugins that the end of all registrations frees, counted one by one: as often as they have
callbacks that carry them. -/
theorem count_freed (entries : List Registration) (id : PluginId) :
    ((entries.filter (·.frees)).filterMap (·.owner)).count id
      = (entries.filter fun entry => entry.owner == some id).countP (·.frees) := by
  induction entries with
  | nil => rfl
  | cons entry rest ih =>
      cases hfrees : entry.frees with
      | false => by_cases hid : entry.owner = some id <;> simp [hfrees, hid, ih]
      | true =>
          cases howner : entry.owner with
          | none => simp [hfrees, howner, ih]
          | some other => by_cases hid : other = id <;> simp [hfrees, howner, hid, ih]

end Registry

namespace Session

variable {abi : Abi} {σ : Type}

/-! ### The invariant -/

/-- Every plugin that the session was given is in exactly one place: among the `pending` ones, among
the dropped ones, or with the one callback that carries it. A number that no plugin has is in none.
Counting the places rules out both a leak and a double release. -/
structure Custody (pending : List PluginId) (s : Session abi σ) : Prop where
  places : ∀ id : Nat, pending.count id + s.dropped.count id + (s.registry.ofOwner id).countP (·.frees)
    = if id < s.plugins.length then 1 else 0
  led : ∀ id, Led (s.registry.ofOwner id)
  honest : s.registry.Honest

namespace Custody

variable {pending : List PluginId} {s t : Session abi σ} {id : PluginId}

/-- Before anything has happened there are no plugins to keep. -/
theorem within (w : World abi σ) : Custody [] (Session.within w) where
  places _ := rfl
  led _ := trivial
  honest _ hrule := nomatch hrule

/-- A call that keeps the books keeps custody, as custody is a matter of the books. -/
theorem of_sameBooks (h : Custody pending s) (hst : SameBooks s t) : Custody pending t where
  places id := by rw [hst.dropped, hst.registry, hst.plugins]; exact h.places id
  led id := by rw [hst.registry]; exact h.led id
  honest := by rw [hst.registry]; exact h.honest

/-- A plugin that still has to be registered has no callbacks, so its first one is the first of
all. -/
theorem ofOwner_eq_nil (h : Custody pending s) (hid : id ∈ pending) :
    s.registry.ofOwner id = [] := by
  have hplaces := h.places id
  have hcount := (h.led id).countP_frees
  have hpending : 0 < pending.count id := List.count_pos_iff.mpr hid
  by_cases hnil : s.registry.ofOwner id = []
  · exact hnil
  · rw [if_neg hnil] at hcount
    split at hplaces <;> omega

/-- A plugin with callbacks has a number and has not been dropped. A callback can therefore be
called without looking at what has become of its plugin. -/
theorem live_of_ofOwner_ne_nil (h : Custody pending s) (hne : s.registry.ofOwner id ≠ []) :
    id < s.plugins.length ∧ id ∉ s.dropped := by
  have hplaces := h.places id
  rw [(h.led id).countP_frees, if_neg hne] at hplaces
  by_cases hlt : id < s.plugins.length
  · rw [if_pos hlt] at hplaces
    exact ⟨hlt, List.count_eq_zero.mp (by omega)⟩
  · rw [if_neg hlt] at hplaces
    omega

/-! ### Steps -/

/-- A pending plugin may be dropped: it moves from one place to another. -/
theorem drop (h : Custody (id :: pending) s) : Custody pending (s.drop id) := by
  have hbooks : Custody pending { s with dropped := s.dropped ++ [id] } := by
    refine ⟨fun other => ?_, h.led, h.honest⟩
    -- the number moves from the pending ones to the dropped ones, so the sum stays
    have hplaces := h.places other
    rw [List.count_cons] at hplaces
    show _ + (s.dropped ++ [id]).count other + (s.registry.ofOwner other).countP _
      = if other < s.plugins.length then 1 else 0
    rw [List.count_append, List.count_singleton]
    omega
  exact hbooks.of_sameBooks (drop_sameBooks s id)

/-- So may several, as on the way out after a failure. -/
theorem dropAll {ids : List PluginId} (h : Custody (ids ++ pending) s) :
    Custody pending (s.dropAll ids) := by
  induction ids generalizing s with
  | nil => exact h
  | cons id rest ih => exact ih h.drop

/-- Callbacks without an owner carry nothing. -/
theorem register_unowned (h : Custody pending s) {entry : Registration}
    (hentry : entry.owner = none) :
    Custody pending { s with registry := (s.registry.register entry).2 } := by
  rcases Registry.register_cases h.honest entry with ⟨status, -, heq⟩ | heq <;> rw [heq]
  · exact ⟨h.places, h.led, h.honest⟩
  · have hsame : ∀ id, ({ s.registry with
        registrations := s.registry.registrations ++ [entry] } : Registry).ofOwner id
          = s.registry.ofOwner id := by
      intro id
      rw [Registry.ofOwner_append, hentry]
      simp
    refine ⟨fun id => ?_, fun id => ?_, h.honest⟩
    · show _ + _ + (Registry.ofOwner _ id).countP _ = _
      rw [hsame]
      exact h.places id
    · show Led (Registry.ofOwner _ id)
      rw [hsame]
      exact h.led id

/-- A callback of a pending plugin takes the plugin out of `pending` if it is the first that is
accepted, and else joins the one that did. -/
theorem accept {owned : Bool} (h : Custody (if owned then pending else id :: pending) s)
    (hcarried : owned = true → s.registry.ofOwner id ≠ []) (name : String)
    (kind : CallbackKind) :
    Custody pending { s with registry := { s.registry with
      registrations := s.registry.registrations ++ [⟨name, kind, some id, !owned⟩] } } := by
  have hfirst : (!owned) = (s.registry.ofOwner id).isEmpty := by
    cases owned with
    | false => rw [h.ofOwner_eq_nil List.mem_cons_self]; rfl
    | true => simpa using hcarried rfl
  refine ⟨fun other => ?_, fun other => ?_, h.honest⟩
  · show _ + _ + (Registry.ofOwner _ other).countP _ = _
    have hplaces := h.places other
    rw [Registry.ofOwner_append, List.countP_append]
    cases owned with
    | false =>
        -- the first callback: the number moves from the pending ones to the carried ones
        rw [if_neg Bool.false_ne_true, List.count_cons] at hplaces
        by_cases hid : id = other <;> simp [hid] at hplaces ⊢ <;> omega
    | true =>
        -- a later callback carries nothing, so no count changes
        rw [if_pos rfl] at hplaces
        by_cases hid : id = other <;> simpa [hid] using hplaces
  · show Led (Registry.ofOwner _ other)
    rw [Registry.ofOwner_append]
    by_cases hid : id = other
    · subst hid
      rw [if_pos rfl]
      exact (h.led id).append_singleton hfirst
    · simpa [hid] using h.led other

/-- Plugins that a manager returned are pending at first, each under a number of its own that none
before had. -/
theorem adopt (h : Custody [] s) (ps : List (String × Plugin abi σ)) :
    Custody ((s.adopt ps).1.map fun entry => entry.2.1) (s.adopt ps).2 := by
  -- the new numbers follow the old ones without a gap, each once
  have hids : ((s.adopt ps).1.map fun entry => entry.2.1)
      = List.range' s.plugins.length ps.length := by
    simp [Session.adopt, Function.comp_def, ← List.zipIdx_map_snd]
  rw [hids]
  refine ⟨fun id => ?_, h.led, h.honest⟩
  have hplaces := h.places id
  show _ + s.dropped.count id + (s.registry.ofOwner id).countP _
    = if id < (s.plugins ++ ps.map Prod.snd).length then 1 else 0
  rw [List.count_nil, Nat.zero_add] at hplaces
  rw [List.count_range_1', Nat.add_assoc, hplaces, List.length_append, List.length_map]
  split <;> split <;> split <;> omega

end Custody

/-! ### Registering -/

/-- How far registering one plugin has come: it is pending as long as no callback carries it.
`owned` is the variable of the code that says so. -/
structure Attempt.InCustody (pending : List PluginId) (id : PluginId) (a : Attempt abi σ) :
    Prop where
  custody : Custody (if a.owned then pending else id :: pending) a.session
  carried : a.owned = true → a.session.registry.ofOwner id ≠ []

section

variable {pending : List PluginId} {s : Session abi σ} {id : PluginId}

/-- One more callback: turned down it changes nothing, and taken it carries the plugin or joins the
one that does. -/
theorem Attempt.register_inCustody {a : Attempt abi σ} (h : a.InCustody pending id)
    (name : String) (kind : CallbackKind) : (a.register name id kind).InCustody pending id := by
  unfold Attempt.register
  rcases Registry.register_cases h.custody.honest ⟨name, kind, some id, !a.owned⟩ with
    ⟨status, hne, heq⟩ | heq
  · rw [heq]
    simp only [if_neg hne]
    exact ⟨h.custody.of_sameBooks (note_sameBooks _ _ _), h.carried⟩
  · rw [heq]
    simp only [if_pos]
    refine ⟨h.custody.accept h.carried name kind, fun _ => ?_⟩
    show Registry.ofOwner _ id ≠ []
    rw [Registry.ofOwner_append]
    simp

theorem Attempt.foldl_register_inCustody (name : String) (kinds : List CallbackKind)
    {a : Attempt abi σ} (h : a.InCustody pending id) :
    (kinds.foldl (Attempt.register name id) a).InCustody pending id := by
  induction kinds generalizing a with
  | nil => exact h
  | cons kind rest ih => exact ih (Attempt.register_inCustody h name kind)

/-- After the last callback the plugin is carried, or it is dropped. It is dropped by the code
itself, as the daemon has nothing through which it could free it. -/
theorem Attempt.InCustody.settle {a : Attempt abi σ} (h : a.InCustody pending id) :
    Custody pending (if a.owned then a.session else a.session.drop id) := by
  have hcustody := h.custody
  split
  · rename_i howned
    rwa [if_pos howned] at hcustody
  · rename_i howned
    rw [if_neg howned] at hcustody
    exact hcustody.drop

/-- Registering a plugin leaves it dropped or carried, on every way out: a name that cannot be
handed over, nothing to offer, a question that is not answered, and any row of refusals. -/
theorem registerPlugin_custody (h : Custody (id :: pending) s) (name : String)
    (p : Plugin abi σ) : Custody pending (s.registerPlugin name id p).2 := by
  rcases hresult : s.attempt p.capabilities with ⟨result, t⟩
  have ht : Custody (id :: pending) t := by
    have hattempt := h.of_sameBooks (attempt_sameBooks s p.capabilities)
    rwa [hresult] at hattempt
  cases result with
  | error stop =>
      simp only [registerPlugin, hresult]
      exact ht.drop
  | ok wanted =>
      simp only [registerPlugin, hresult]
      split
      · -- the name has a zero character
        exact ht.drop
      · split
        · -- there is nothing to register
          exact (ht.of_sameBooks (note_sameBooks t _ _)).drop
        · have hnoted := ht.of_sameBooks (note_sameBooks t .debug
            ("registering " ++ name ++ " with " ++ wanted.describe))
          have hfold := Attempt.foldl_register_inCustody name (wantedKinds wanted)
            (a := ⟨_, false, none⟩) ⟨hnoted, fun h => absurd h Bool.false_ne_true⟩
          split <;> exact hfold.settle

/-- Registering a list settles all of it: what comes after a failure is dropped. -/
theorem registerList_custody (entries : List (String × PluginId × Plugin abi σ))
    (h : Custody (entries.map fun entry => entry.2.1) s) :
    Custody [] (s.registerList entries).2 := by
  induction entries generalizing s with
  | nil => exact h
  | cons entry rest ih =>
      obtain ⟨name, id, p⟩ := entry
      rcases hresult : s.registerPlugin name id p with ⟨result, t⟩
      have ht : Custody (rest.map fun entry => entry.2.1) t := by
        have hplugin := registerPlugin_custody h name p
        rwa [hresult] at hplugin
      simp only [registerList, hresult]
      cases result with
      | done => exact ih ht
      -- whatever comes after the one that failed is still pending
      | failed e => exact Custody.dropAll (by rwa [List.append_nil])
      | escaped => exact Custody.dropAll (by rwa [List.append_nil])

/-- Building and registering leaves no plugin pending, also if the manager fails and returns
none. -/
theorem registerPlugins_custody (h : Custody [] s) (m : Manager abi σ)
    (config : Option (List Config.Item)) : Custody [] (s.registerPlugins m config).2 := by
  rcases hresult : s.call (m.plugins config) with ⟨result, t⟩
  have ht : Custody [] t := by
    have hcall := h.of_sameBooks (call_sameBooks s (m.plugins config))
    rwa [hresult] at hcall
  simp only [registerPlugins, hresult]
  cases result with
  | error e => exact ht.of_sameBooks (status_sameBooks _ _ t)
  | ok set =>
      have hlist := registerList_custody _ (ht.adopt (named m.name set))
      rcases hentries : registerList (t.adopt (named m.name set)).2
        (t.adopt (named m.name set)).1 with ⟨outcome, u⟩
      rw [hentries] at hlist
      dsimp only
      rw [hentries]
      cases outcome with
      | done => exact hlist
      | failed e => exact hlist.of_sameBooks (status_sameBooks _ _ u)
      | escaped => exact hlist

/-- The callbacks of the manager have no owner and carry nothing. -/
theorem registerModule_custody (h : Custody pending s) (m : Manager abi σ) :
    Custody pending (s.registerModule m) := by
  unfold registerModule
  split
  · exact h.of_sameBooks (report_sameBooks s _ _)
  · exact ((h.register_unowned rfl).register_unowned rfl).register_unowned rfl

/-! ### The end of all registrations -/

/-- The plugins that the end of all registrations frees are those that a callback carries. -/
theorem releaseAll_sameBooks (s : Session abi σ) :
    SameBooks { s with
      registry := { s.registry with registrations := [] }
      dropped := s.dropped ++
        (s.registry.registrations.filter (·.frees)).filterMap (·.owner) } s.releaseAll.2 :=
  dropAll_sameBooks { s with registry := { s.registry with registrations := [] } } _

/-- At the end of all registrations the plugins with a carrier are dropped through it, and no
callback is left that could drop them again. -/
theorem releaseAll_custody (h : Custody pending s) : Custody pending s.releaseAll.2 := by
  have hbooks : Custody pending { s with
      registry := { s.registry with registrations := [] }
      dropped := s.dropped ++
        (s.registry.registrations.filter (·.frees)).filterMap (·.owner) } := by
    refine ⟨fun id => ?_, fun _ => trivial, h.honest⟩
    show _ + (s.dropped ++ _).count id + 0 = if id < s.plugins.length then 1 else 0
    rw [List.count_append, Registry.count_freed, ← h.places id]
    unfold Registry.ofOwner
    omega
  exact hbooks.of_sameBooks (releaseAll_sameBooks s)

/-! ### Requests and runs -/

theorem config_custody (h : Custody [] s) (m : Manager abi σ) (item : Option Config.RawItem) :
    Custody [] (s.config m item).2 := by
  have hseen : Custody [] { s with configSeen := true } := ⟨h.places, h.led, h.honest⟩
  unfold config
  split
  · exact h.of_sameBooks (report_sameBooks s _ _)
  · dsimp only
    split
    · exact registerPlugins_custody hseen m none
    · split
      · exact registerPlugins_custody hseen m _
      · exact hseen.of_sameBooks (report_sameBooks _ _ _)

theorem init_custody (h : Custody [] s) (m : Manager abi σ) : Custody [] (s.init m).2 := by
  have hseen : Custody [] { s with configSeen := true } := ⟨h.places, h.led, h.honest⟩
  have hparts : (s.init m).2 = (Opening.init.alone m s).2 := by
    have hserve := congrArg Prod.snd (Opening.serve_eq m .init s)
    exact hserve
  rw [hparts]
  refine Custody.of_sameBooks ?_ (Opening.finish_sameBooks m .init _ _)
  cases s.configSeen with
  | false => exact registerPlugins_custody hseen m none
  | true => exact hseen

/-- The daemon never turns a callback down with the status of an acceptance. -/
def Request.Honest : Request abi → Prop
  | .reject _ status => status ≠ 0
  | _ => True

/-- Every request of an honest daemon keeps custody. With a rule that turns a callback down as if it
were taken, a plugin would be given up without a carrier. -/
theorem serve_custody (h : Custody [] s) (m : Manager abi σ) (request : Request abi)
    (hrequest : request.Honest) : Custody [] (s.serve m request).2 := by
  cases request with
  | module => exact registerModule_custody h m
  | config item => exact config_custody h m item
  | init => exact init_custody h m
  | shutdown => exact h.of_sameBooks (shutdown_sameBooks m s)
  | read data => exact h.of_sameBooks (callPlugin_sameBooks _ data _ s)
  | write data set list => exact h.of_sameBooks (callPlugin_sameBooks _ data _ s)
  | flush data timeout identifier => exact h.of_sameBooks (callPlugin_sameBooks _ data _ s)
  | log data severity message => exact h.of_sameBooks (log_sameBooks data severity message s)
  | reject kind status =>
      refine ⟨h.places, h.led, fun rule hrule => ?_⟩
      rcases List.mem_append.mp hrule with hold | hnew
      · exact h.honest rule hold
      · rw [List.mem_singleton.mp hnew]
        exact hrequest
  -- the last kinds set what the daemon answers, or end the registrations
  | rates rates => exact h.of_sameBooks ⟨rfl, rfl, rfl, rfl⟩
  | dispatchStatus status => exact h.of_sameBooks ⟨rfl, rfl, rfl, rfl⟩
  | release => exact releaseAll_custody h

/-- Custody is never lost: not by any request, in any order and any number. -/
theorem run_custody (m : Manager abi σ) (w : World abi σ) (requests : List (Request abi))
    (honest : ∀ request ∈ requests, request.Honest) :
    Custody [] (run m (within w) requests) :=
  run_induction m requests _ (Custody.within w)
    fun request hrequest _ ht => serve_custody ht m request (honest request hrequest)

end

end Session

end PluginKit
