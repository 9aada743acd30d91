import PluginKit.Plugin.Scripted
import PluginKit.Proofs.Session.Custody
import PluginKit.Proofs.Session.Report
import PluginKit.Proofs.Steps

/-!
# `PluginKit.Proofs.Session.Registering`: what a failure leaves registered

The plugins of a manager are registered one after the other. Of one plugin every callback is tried,
also after one that was turned down, and the first that was turned down is remembered. Of the list
the first plugin that fails is the last one that is tried. So a failure leaves the callbacks of the
plugins before it, and of the plugin itself those that the daemon took.

What a daemon makes of a plugin depends on the name and the wishes of the plugin and on the rules of
the daemon, which registering does not change. `Offer` is that much of a plugin.

* `Registry.fails`, `Registry.complaint?`, `Registry.recorded`: what the daemon makes of an offer.
* `Attempt.Tried`: how registering one plugin stands after some of its callbacks.
* `registerPlugin_eq`, `registerList_eq`: one plugin, and a list of them.
* `Tells`: the plugins say what they want.
* `registerPlugins_records_up_to_failure`: what is registered, what is answered and what is logged.
-/

set_option autoImplicit false

namespace PluginKit

namespace Capabilities

/-- Whether a callback is advertised. Those of a manager never are: they are registered when the
module is, and not by a plugin. -/
def advertises (c : Capabilities) : CallbackKind → Bool
  | .read => c.read
  | .write => c.write
  | .log => c.log
  | .flush => c.flush
  | _ => false

/-- The callbacks that are advertised, in the order in which they are registered. The order decides
which of them carries the plugin and which refusal is reported. -/
def kinds (c : Capabilities) : List CallbackKind :=
  [CallbackKind.read, .write, .log, .flush].filter c.advertises

/-- The row of tests in the session is a filter of the four kinds. -/
theorem wantedKinds_eq (c : Capabilities) : Session.wantedKinds c = c.kinds := by
  rcases c with ⟨_ | _, _ | _, _ | _, _ | _⟩ <;> rfl

/-- A plugin that advertises nothing has no callback to register. -/
theorem kinds_of_isEmpty {c : Capabilities} (h : c.isEmpty = true) : c.kinds = [] := by
  simp only [isEmpty, Bool.not_eq_true', Bool.or_eq_false_iff] at h
  obtain ⟨⟨⟨hread, hlog⟩, hwrite⟩, hflush⟩ := h
  simp [kinds, advertises, hread, hlog, hwrite, hflush]

end Capabilities

/-! ### What the daemon makes of an offer -/

/-- A plugin as it is offered to the daemon. Two plugins with the same offer are treated alike,
whatever their code does. -/
structure Offer where
  name : String
  owner : PluginId
  wanted : Capabilities
  deriving DecidableEq, Repr

/-- A name with a zero character cannot be handed over, so such a plugin is never offered. -/
def Offer.unnameable (o : Offer) : Bool := o.name.toList.contains '\x00'

/-- The callbacks of a plugin, the first of which carries it. The daemon frees the plugin through
that one, and must not free it through another. -/
def carrying (name : String) (owner : PluginId) : List CallbackKind → List Registration
  | [] => []
  | first :: rest =>
    ⟨name, first, some owner, true⟩ :: rest.map fun kind => ⟨name, kind, some owner, false⟩

/-- One more callback carries the plugin exactly if it is the first. -/
theorem carrying_append_singleton (name : String) (owner : PluginId)
    (kinds : List CallbackKind) (kind : CallbackKind) :
    carrying name owner (kinds ++ [kind])
      = carrying name owner kinds ++ [⟨name, kind, some owner, kinds.isEmpty⟩] := by
  cases kinds with
  | nil => rfl
  | cons first rest => simp [carrying]

namespace Registry

/-- The status that callbacks of a kind are turned down with. -/
def rejection? (r : Registry) (kind : CallbackKind) : Option Int :=
  (r.rejections.find? fun rule => rule.1 == kind).map Prod.snd

/-- Whether callbacks of a kind are taken. -/
def accepts (r : Registry) (kind : CallbackKind) : Bool := (r.rejection? kind).isNone

/-- The registry with more callbacks, behind those that it has. -/
def extend (r : Registry) (entries : List Registration) : Registry :=
  { r with registrations := r.registrations ++ entries }

/-- A plugin fails when it cannot be named, or when a callback that it advertises is turned
down. -/
def fails (r : Registry) (o : Offer) : Bool :=
  o.unnameable || o.wanted.kinds.any fun kind => (r.rejection? kind).isSome

/-- What is said of a plugin that fails: that it cannot be named, or else which callback was the
first to be turned down. Later refusals are not reported. -/
def complaint? (r : Registry) (o : Offer) : Option CallbackError :=
  if o.unnameable then some (.name o.name)
  else o.wanted.kinds.findSome? fun kind =>
    (r.rejection? kind).map fun status => .registration kind.name status

/-- What a plugin leaves in the registry: all of its callbacks that are taken, or nothing if it
cannot be named. A plugin that fails leaves callbacks, too. -/
def recorded (r : Registry) (o : Offer) : List Registration :=
  if o.unnameable then [] else carrying o.name o.owner (o.wanted.kinds.filter r.accepts)

section

variable {r : Registry} {o : Offer}

theorem complaint?_of_unnameable (h : o.unnameable = true) :
    r.complaint? o = some (.name o.name) := if_pos h

theorem complaint?_of_nameable (h : ¬ o.unnameable = true) :
    r.complaint? o = o.wanted.kinds.findSome? fun kind =>
      (r.rejection? kind).map fun status => .registration kind.name status := if_neg h

theorem recorded_of_unnameable (h : o.unnameable = true) : r.recorded o = [] := if_pos h

theorem recorded_of_nameable (h : ¬ o.unnameable = true) :
    r.recorded o = carrying o.name o.owner (o.wanted.kinds.filter r.accepts) := if_neg h

/-- A callback that is turned down leaves the registry as it was. -/
theorem register_of_rejection {entry : Registration} {status : Int}
    (h : r.rejection? entry.kind = some status) : r.register entry = (status, r) := by
  obtain ⟨rule, hfind, rfl⟩ := Option.map_eq_some_iff.mp h
  unfold register
  rw [hfind]

/-- A callback that is taken is the last of the registry. -/
theorem register_of_accepted {entry : Registration} (h : r.rejection? entry.kind = none) :
    r.register entry = (0, r.extend [entry]) := by
  unfold register
  rw [Option.map_eq_none_iff.mp h]
  rfl

end

/-- An honest daemon turns nothing down with the status of an acceptance. Without honesty a callback
that was not registered would be taken for one that was. -/
theorem Honest.rejection_ne_zero {r : Registry} (h : r.Honest) {kind : CallbackKind}
    {status : Int} (hstatus : r.rejection? kind = some status) : status ≠ 0 := by
  obtain ⟨rule, hrule, rfl⟩ := Option.map_eq_some_iff.mp hstatus
  exact h rule (List.mem_of_find?_eq_some hrule)

/-- There is something to say of exactly the plugins that fail, so status and report go together. -/
theorem isSome_complaint? (r : Registry) (o : Offer) : (r.complaint? o).isSome = r.fails o := by
  unfold complaint? fails
  cases o.unnameable with
  | true => rfl
  | false => simp [List.isSome_findSome?]

/-- What is said of a list of plugins is said of the first that fails. -/
theorem findSome?_complaint? (r : Registry) (offers : List Offer) :
    offers.findSome? r.complaint? = (offers.find? r.fails).bind r.complaint? := by
  induction offers with
  | nil => rfl
  | cons o rest ih =>
      have hfails := r.isSome_complaint? o
      rw [List.findSome?_cons, List.find?_cons, ← hfails]
      cases hcomplaint : r.complaint? o with
      | none => exact ih
      | some e => exact hcomplaint.symm

@[simp]
theorem extend_nil (r : Registry) : r.extend [] = r := by
  simp [extend]

theorem extend_extend (r : Registry) (entries more : List Registration) :
    (r.extend entries).extend more = r.extend (entries ++ more) := by
  simp [extend]

end Registry

namespace Session

variable {abi : Abi} {σ : Type}

/-! ### One plugin -/

/-- How registering a plugin stands after some of its callbacks were tried: those that the daemon
takes are registered, and the first that it turned down is remembered. -/
structure Attempt.Tried (before : Registry) (name : String) (id : PluginId)
    (tried : List CallbackKind) (a : Attempt abi σ) : Prop where
  registry : a.session.registry
    = before.extend (carrying name id (tried.filter before.accepts))
  owned : a.owned = !(tried.filter before.accepts).isEmpty
  rejected : a.rejected
    = tried.findSome? fun kind => (before.rejection? kind).map fun status => (kind, status)

/-- One more callback is tried, and this is how the attempt stands then. -/
theorem Attempt.register_tried {before : Registry} (honest : before.Honest) {name : String}
    {id : PluginId} {tried : List CallbackKind} {a : Attempt abi σ}
    (h : a.Tried before name id tried) (kind : CallbackKind) :
    (a.register name id kind).Tried before name id (tried ++ [kind]) := by
  -- registering has changed no rule so far
  have hrule : a.session.registry.rejection? kind = before.rejection? kind := by
    rw [h.registry]
    rfl
  unfold Attempt.register
  cases hrejection : before.rejection? kind with
  | none =>
      -- it joins the callbacks that were taken, as their carrier if it is the first
      rw [Registry.register_of_accepted (hrule.trans hrejection)]
      have htaken : [kind].filter before.accepts = [kind] := by
        simp [Registry.accepts, hrejection]
      refine ⟨?_, ?_, ?_⟩
      · show a.session.registry.extend _ = _
        rw [List.filter_append, htaken, carrying_append_singleton, h.registry,
          Registry.extend_extend, h.owned, Bool.not_not]
      · simp [htaken]
      · simp [h.rejected, List.findSome?_append, hrejection]
  | some status =>
      -- only the first that is turned down is remembered
      have hturned : [kind].filter before.accepts = [] := by
        simp [Registry.accepts, hrejection]
      rw [Registry.register_of_rejection (hrule.trans hrejection)]
      simp only [if_neg (honest.rejection_ne_zero hrejection)]
      refine ⟨?_, ?_, ?_⟩
      · rw [List.filter_append, hturned, List.append_nil]
        exact h.registry
      · rw [List.filter_append, hturned, List.append_nil]
        exact h.owned
      · simp [h.rejected, List.findSome?_append, hrejection]

/-- All callbacks are tried, by induction on those that are left. -/
theorem Attempt.foldl_register_tried {before : Registry} (honest : before.Honest)
    {name : String} {id : PluginId} (kinds : List CallbackKind) {tried : List CallbackKind}
    {a : Attempt abi σ} (h : a.Tried before name id tried) :
    (kinds.foldl (Attempt.register name id) a).Tried before name id (tried ++ kinds) := by
  induction kinds generalizing tried a with
  | nil => rwa [List.append_nil]
  | cons kind rest ih =>
      rw [List.append_cons]
      exact ih (Attempt.register_tried honest h kind)

/-- The first callback that was turned down is what is said of the plugin. -/
theorem Attempt.Tried.complaint {before : Registry} {name : String} {id : PluginId}
    {tried : List CallbackKind} {a : Attempt abi σ} (h : a.Tried before name id tried) :
    (tried.findSome? fun kind => (before.rejection? kind).map
        fun status => CallbackError.registration kind.name status)
      = a.rejected.map fun turned => .registration turned.1.name turned.2 := by
  rw [h.rejected, List.map_findSome?]
  simp [Function.comp_def]

/-- Dropping a plugin registers nothing and takes no callback back. -/
theorem registry_drop (s : Session abi σ) (id : PluginId) : (s.drop id).registry = s.registry :=
  (drop_sameBooks s id).registry

/-- How registering a plugin ends, by what is said of it. -/
def Registered.ofComplaint : Option CallbackError → Registered
  | none => .done
  | some e => .failed e

/-- A plugin that says what it wants leaves what is recorded of its offer, and ends with what is
said of it. From here on the code of plugins plays no part any more. -/
theorem registerPlugin_eq {s : Session abi σ} (honest : s.registry.Honest) (name : String)
    (id : PluginId) {p : Plugin abi σ} {wanted : Capabilities}
    (answer : (s.attempt p.capabilities).1 = .ok wanted) :
    (s.registerPlugin name id p).2.registry
        = s.registry.extend (s.registry.recorded ⟨name, id, wanted⟩) ∧
      (s.registerPlugin name id p).1
        = .ofComplaint (s.registry.complaint? ⟨name, id, wanted⟩) := by
  rcases hasked : s.attempt p.capabilities with ⟨result, t⟩
  have ht : t.registry = s.registry := by
    have hattempt := (attempt_sameBooks s p.capabilities).registry
    rwa [hasked] at hattempt
  rw [hasked] at answer
  obtain rfl : result = .ok wanted := answer
  simp only [registerPlugin, hasked]
  by_cases hname : name.toList.contains '\x00' = true
  · rw [Registry.complaint?_of_unnameable (o := ⟨name, id, wanted⟩) hname,
      Registry.recorded_of_unnameable (o := ⟨name, id, wanted⟩) hname, if_pos hname,
      Registry.extend_nil, ← ht]
    exact ⟨registry_drop t id, rfl⟩
  · rw [Registry.complaint?_of_nameable (o := ⟨name, id, wanted⟩) hname,
      Registry.recorded_of_nameable (o := ⟨name, id, wanted⟩) hname, if_neg hname]
    by_cases hempty : wanted.isEmpty = true
    · rw [Capabilities.kinds_of_isEmpty hempty, if_pos hempty, ← ht]
      exact ⟨(registry_drop _ id).trans (Registry.extend_nil _).symm, rfl⟩
    · simp only [if_neg hempty, Capabilities.wantedKinds_eq]
      -- the callbacks are tried in a session in which nothing but a line was logged
      have hstart : Attempt.Tried s.registry name id [] (⟨t.note .debug
          ("registering " ++ name ++ " with " ++ wanted.describe), false, none⟩ : Attempt abi σ) :=
        ⟨ht.trans (Registry.extend_nil _).symm, rfl, rfl⟩
      have htried := Attempt.foldl_register_tried honest wanted.kinds hstart
      rw [List.nil_append] at htried
      generalize wanted.kinds.foldl (Attempt.register name id) _ = a at htried ⊢
      -- dropping a plugin of which nothing was taken leaves the registry as it is
      have hsettled : (if a.owned then a.session else a.session.drop id).registry
          = a.session.registry := by
        split
        · rfl
        · exact registry_drop _ id
      rw [htried.complaint, ← htried.registry, ← hsettled]
      cases a.rejected with
      | none => exact ⟨rfl, rfl⟩
      | some turned => exact ⟨rfl, rfl⟩

/-! ### A list of plugins -/

/-- Every plugin that registering a list comes to says what it wants when it is asked. Those behind
one that fails are not asked, and may want anything. -/
inductive Tells : Session abi σ → List (String × PluginId × Plugin abi σ) → List Capabilities →
    Prop
  | nil {s : Session abi σ} : Tells s [] []
  | cons {s : Session abi σ} {name : String} {id : PluginId} {p : Plugin abi σ}
      {rest : List (String × PluginId × Plugin abi σ)} {wanted : Capabilities}
      {later : List Capabilities} (answer : (s.attempt p.capabilities).1 = .ok wanted)
      (next : (s.registerPlugin name id p).1 = .done →
        Tells (s.registerPlugin name id p).2 rest later) :
      Tells s ((name, id, p) :: rest) (wanted :: later)

/-- Plugins that answer the same at all times say what they want. Most plugins do; `Tells` allows
for those whose answer depends on what was called before. -/
theorem Tells.of_steady {entries : List (String × PluginId × Plugin abi σ)}
    {wanted : List Capabilities}
    (steady : List.Forall₂
      (fun entry wanted => ∀ t : Session abi σ, (t.attempt entry.2.2.capabilities).1 = .ok wanted)
      entries wanted) (s : Session abi σ) : Tells s entries wanted := by
  induction steady generalizing s with
  | nil => exact .nil
  | cons hfirst _ ih => exact .cons (hfirst s) fun _ => ih _

/-- A list of plugins as it is offered to the daemon. -/
def offered (entries : List (String × PluginId × Plugin abi σ)) (wanted : List Capabilities) :
    List Offer :=
  entries.zipWith (fun entry wanted => ⟨entry.1, entry.2.1, wanted⟩) wanted

/-- A list leaves what is recorded of its offers up to the first that fails, and ends with what is
said of that one. The induction is on the list, with the session as it is by then. -/
theorem registerList_eq {s : Session abi σ} {entries : List (String × PluginId × Plugin abi σ)}
    {wanted : List Capabilities} (tells : Tells s entries wanted) (honest : s.registry.Honest) :
    (s.registerList entries).2.registry
        = s.registry.extend ((upToFirst s.registry.fails (offered entries wanted)).flatMap
            s.registry.recorded) ∧
      (s.registerList entries).1
        = .ofComplaint ((offered entries wanted).findSome? s.registry.complaint?) := by
  induction tells with
  | nil => exact ⟨(Registry.extend_nil _).symm, rfl⟩
  | @cons s name id p rest wanted later answer next ih =>
      obtain ⟨hregistry, hend⟩ := registerPlugin_eq honest name id answer
      have hfails := s.registry.isSome_complaint? ⟨name, id, wanted⟩
      rcases hfirst : s.registerPlugin name id p with ⟨result, t⟩
      rw [hfirst] at hregistry hend ih
      dsimp only at hregistry hend ih
      -- the first offer is the last that counts exactly if there is something to say of it
      simp only [registerList, hfirst]
      show _ = s.registry.extend ((upToFirst _ (⟨name, id, wanted⟩ :: offered rest later)).flatMap _)
        ∧ _ = Registered.ofComplaint (List.findSome? _ (⟨name, id, wanted⟩ :: offered rest later))
      cases hcomplaint : s.registry.complaint? ⟨name, id, wanted⟩ with
      | none =>
          obtain rfl : result = .done := hend.trans (congrArg _ hcomplaint)
          rw [hcomplaint] at hfails
          -- the rules are as before, so the daemon makes the same of the later offers
          obtain ⟨hrest, hrestEnd⟩ := ih rfl (by rw [hregistry]; exact honest)
          rw [hregistry] at hrest hrestEnd
          rw [upToFirst_cons_of_neg hfails.symm, List.findSome?_cons, hcomplaint,
            List.flatMap_cons, ← Registry.extend_extend]
          exact ⟨hrest, hrestEnd⟩
      | some e =>
          obtain rfl : result = .failed e := hend.trans (congrArg _ hcomplaint)
          rw [hcomplaint] at hfails
          rw [upToFirst_cons_of_pos hfails.symm, List.findSome?_cons, hcomplaint,
            List.flatMap_singleton]
          exact ⟨(dropAll_sameBooks t _).registry.trans hregistry, rfl⟩

end Session

/-- The names under which the plugins of a manager are registered. -/
def PluginSet.names {abi : Abi} {σ : Type} (manager : String) : PluginSet abi σ → List String
  | .single _ => [manager]
  | .multiple ps => ps.map fun entry => manager ++ "/" ++ entry.1

/-- Plugins with their names and their wishes, numbered in their order. -/
def Offer.list (names : List String) (first : PluginId) (wanted : List Capabilities) : List Offer :=
  ((names.zip wanted).zipIdx first).map fun entry => ⟨entry.1.1, entry.2, entry.1.2⟩

namespace Session

variable {abi : Abi} {σ : Type}

/-- The names under which plugins are registered depend on how many the manager may return, not on
how many it did: a list of one has its own name in it. -/
theorem named_names (manager : String) (set : PluginSet abi σ) :
    (named manager set).map Prod.fst = set.names manager := by
  cases set with
  | single p => rfl
  | multiple ps => simp [named, PluginSet.names, Function.comp_def]

/-- Plugins that are taken in are offered under the names and numbers that they are given. -/
theorem offered_adopt (s : Session abi σ) (ps : List (String × Plugin abi σ))
    (wanted : List Capabilities) :
    offered (s.adopt ps).1 wanted = Offer.list (ps.map Prod.fst) s.plugins.length wanted := by
  show offered ((ps.zipIdx s.plugins.length).map _) wanted = _
  generalize s.plugins.length = first
  induction ps generalizing first wanted with
  | nil => rfl
  | cons entry rest ih =>
      cases wanted with
      | nil => rfl
      | cons c later =>
          show _ :: offered ((rest.zipIdx (first + 1)).map _) later = _
          rw [ih]
          rfl

/-- The plugins that a manager has just returned, with their names and numbers, and the session that
has taken them in. -/
def taken (m : Manager abi σ) (config : Option (List Config.Item)) (s : Session abi σ)
    (set : PluginSet abi σ) : List (String × PluginId × Plugin abi σ) × Session abi σ :=
  (s.call (m.plugins config)).2.adopt (named m.name set)

/-- How the daemon learns of the end of registering. -/
def Registered.exit (s : Session abi σ) : Registered → Exit × Session abi σ
  | .done => (.status 0, s)
  | .failed e => (.status (-1), s.report "collectd config" e)
  | .escaped => (.escaped, s)

/-- With plugins returned, what is left of building them is registering the list. -/
theorem registerPlugins_of_built {m : Manager abi σ} {config : Option (List Config.Item)}
    {s : Session abi σ} {set : PluginSet abi σ}
    (built : (s.call (m.plugins config)).1 = .ok set) :
    s.registerPlugins m config
      = ((taken m config s set).2.registerList (taken m config s set).1).1.exit
          ((taken m config s set).2.registerList (taken m config s set).1).2 := by
  have hbuilt : s.call (m.plugins config) = (.ok set, (s.call (m.plugins config)).2) :=
    Prod.ext built rfl
  unfold registerPlugins
  rw [hbuilt]
  dsimp only
  unfold taken
  split <;> rename_i hlist <;> rw [hlist] <;> rfl

/-- What building and registering comes to, by the offers of the plugins: which callbacks there are
afterwards, and with what the daemon is answered. -/
theorem registerPlugins_eq (m : Manager abi σ) (config : Option (List Config.Item))
    {s : Session abi σ} (honest : s.registry.Honest) {set : PluginSet abi σ}
    (built : (s.call (m.plugins config)).1 = .ok set) {wanted : List Capabilities}
    (tells : Tells (taken m config s set).2 (taken m config s set).1 wanted) :
    let offers := Offer.list (set.names m.name) s.plugins.length wanted
    let tried := ((taken m config s set).2.registerList (taken m config s set).1).2
    tried.registry
        = s.registry.extend ((upToFirst s.registry.fails offers).flatMap s.registry.recorded) ∧
      s.registerPlugins m config
        = (Registered.ofComplaint
            ((offers.find? s.registry.fails).bind s.registry.complaint?)).exit tried := by
  intro offers tried
  -- the manager's code leaves the books alone
  have hregistry : (taken m config s set).2.registry = s.registry :=
    (call_sameBooks s (m.plugins config)).registry
  have hoffers : offered (taken m config s set).1 wanted = offers := by
    unfold taken
    rw [offered_adopt, named_names, (call_sameBooks s (m.plugins config)).plugins]
  obtain ⟨hrecorded, hend⟩ := registerList_eq tells (hregistry ▸ honest)
  rw [hregistry, hoffers] at hrecorded hend
  refine ⟨hrecorded, ?_⟩
  rw [← s.registry.findSome?_complaint?, ← hend]
  exact registerPlugins_of_built built

/-- A daemon that never turns a callback down with the status of an acceptance, a manager that
returns plugins, and plugins that say what they want: what was registered before stays, and each
plugin up to the first that fails adds those of its callbacks that the daemon takes. The answer is
zero exactly if none fails. Else it is minus one, and what is said of the first that failed is
reported; it is the daemon's next line unless somebody takes messages. -/
theorem registerPlugins_records_up_to_failure (m : Manager abi σ)
    (config : Option (List Config.Item)) {s : Session abi σ} (honest : s.registry.Honest)
    {set : PluginSet abi σ} (built : (s.call (m.plugins config)).1 = .ok set)
    {wanted : List Capabilities}
    (tells : Tells (taken m config s set).2 (taken m config s set).1 wanted) :
    let offers := Offer.list (set.names m.name) s.plugins.length wanted
    let tried := ((taken m config s set).2.registerList (taken m config s set).1).2
    let result := s.registerPlugins m config
    result.2.registry = { s.registry with
      registrations := s.registry.registrations ++
        (upToFirst s.registry.fails offers).flatMap s.registry.recorded } ∧
    (result.1 = .status 0 ↔ ∀ offer ∈ offers, s.registry.fails offer = false) ∧
    ∀ offer, offers.find? s.registry.fails = some offer →
      ∃ e, s.registry.complaint? offer = some e ∧ result.1 = .status (-1) ∧
        result.2 = tried.report "collectd config" e ∧
        (tried.Unsubscribed → result.2 = tried.logged "collectd config" e.texts) := by
  intro offers tried result
  obtain ⟨hrecorded, hresult⟩ := registerPlugins_eq m config honest built tells
  have hresult : result = (Registered.ofComplaint
      ((offers.find? s.registry.fails).bind s.registry.complaint?)).exit tried := hresult
  have hsaid {offer : Offer} (hoffer : offers.find? s.registry.fails = some offer) :
      ∃ e, s.registry.complaint? offer = some e :=
    Option.isSome_iff_exists.mp
      ((s.registry.isSome_complaint? offer).trans (List.find?_some hoffer))
  refine ⟨?_, ⟨fun hzero offer hoffer => ?_, fun hnone => ?_⟩, fun offer hoffer => ?_⟩
  · -- a report is the last thing that happens, and it touches no registration
    refine Eq.trans ?_ hrecorded
    rw [hresult]
    cases (offers.find? s.registry.fails).bind s.registry.complaint? with
    | none => rfl
    | some e => exact (report_sameBooks tried _ e).registry
  · -- without a failure nothing is said, and what is said is answered with minus one
    cases hfind : offers.find? s.registry.fails with
    | none => simpa using List.find?_eq_none.mp hfind offer hoffer
    | some failing =>
        obtain ⟨e, he⟩ := hsaid hfind
        rw [hresult, hfind, Option.bind_some, he] at hzero
        cases hzero
  · have hfind : offers.find? s.registry.fails = none :=
      List.find?_eq_none.mpr fun offer hoffer => by simp [hnone offer hoffer]
    rw [hresult, hfind]
    rfl
  · obtain ⟨e, he⟩ := hsaid hoffer
    rw [hoffer, Option.bind_some, he] at hresult
    have hreport : result.2 = tried.report "collectd config" e := congrArg Prod.snd hresult
    exact ⟨e, he, congrArg Prod.fst hresult, hreport,
      fun h => hreport.trans (report_of_unsubscribed h _ _)⟩

/-- The plugins of `crew`. -/
def crewScripts : List (String × Scripted.PluginScript) :=
  [("a", .quiet ⟨true, true, false, false⟩), ("b", .quiet ⟨true, false, true, true⟩),
    ("c", .quiet ⟨true, false, false, false⟩)]

/-- A manager of three plugins. -/
def crew : Manager .current Scripted.Journal :=
  Scripted.ManagerScript.manager
    { name := "crew", wantsStart := false, first := .succeed, calls := none
      set := .multiple crewScripts }

/-- A daemon that knows `crew` and refuses two kinds of callback. -/
def reluctant : Session .current Scripted.Journal :=
  run crew (within ⟨.initial, .initial, .empty⟩) [.module, .reject .flush (-2), .reject .write 5]

/-- The second plugin is turned down twice, keeps its callback for reading, and is reported with
the refusal that came first; the third plugin adds nothing. -/
theorem registerPlugins_records_crew_up_to_failure :
    let set : PluginSet .current Scripted.Journal :=
      .multiple (crewScripts.map fun entry => (entry.1, entry.2.plugin))
    reluctant.registry.Honest ∧ (reluctant.call (crew.plugins none)).1 = .ok set ∧
    Tells (taken crew none reluctant set).2 (taken crew none reluctant set).1
      [⟨true, true, false, false⟩, ⟨true, false, true, true⟩, ⟨true, false, false, false⟩] ∧
    (reluctant.registerPlugins crew none).2.registry.registrations
      = [⟨"crew", .config, none, false⟩, ⟨"crew", .init, none, false⟩,
        ⟨"crew", .shutdown, none, false⟩, ⟨"crew/a", .read, some 0, true⟩,
        ⟨"crew/a", .log, some 0, false⟩, ⟨"crew/b", .read, some 1, true⟩] ∧
    (reluctant.registerPlugins crew none).1 = .status (-1) ∧
    (reluctant.registerPlugins crew none).2.world.daemon.log.map (·.text)
      = ["collectd config error: collectd rejected write registration with status 5"] := by
  intro set
  have honest : reluctant.registry.Honest := by
    have hrules : reluctant.registry.rejections = [(.flush, -2), (.write, 5)] := rfl
    unfold Registry.Honest
    rw [hrules]
    simp
  have built : (reluctant.call (crew.plugins none)).1 = .ok set := rfl
  have tells : Tells (taken crew none reluctant set).2 (taken crew none reluctant set).1
      [⟨true, true, false, false⟩, ⟨true, false, true, true⟩, ⟨true, false, false, false⟩] :=
    .of_steady (.cons (fun _ => rfl) (.cons (fun _ => rfl) (.cons (fun _ => rfl) .nil))) _
  obtain ⟨hregistry, -, hcomplaint⟩ :=
    registerPlugins_records_up_to_failure crew none honest built tells
  obtain ⟨e, he, hstatus, -, hlogged⟩ := hcomplaint ⟨"crew/b", 1, true, false, true, true⟩ rfl
  refine ⟨honest, built, tells, ?_, hstatus, ?_⟩
  · exact (congrArg Registry.registrations hregistry).trans rfl
  · obtain rfl := Option.some.inj he
    rw [hlogged (by unfold Unsubscribed; decide +kernel)]
    decide +kernel

end Session

end PluginKit
