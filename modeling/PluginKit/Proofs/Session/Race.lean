import PluginKit.Plugin.Scripted
import PluginKit.Proofs.Session.Journal
import PluginKit.Proofs.Session.Opening

/-!
# `PluginKit.Proofs.Session.Race`: plugins are built at most once

The daemon may make the calls of `Opening` from several threads. Each call first swaps the flag in
one step, and everything else it does can lie between the steps of other calls. A `Race` holds the
calls under way and the session that they share; a schedule says which of them takes the next step.
Whatever the schedule, the call that swaps first is the only one that asks the manager for plugins.

* `Stage`, `Opening.advance`: the steps of one call.
* `Race`, `Race.step`, `Race.run`: the steps of all calls.
* `Race.Ordered`: the invariant once a call has come first, with `Race.ordered_run`.
* `Race.Ordered.run_journaled`: what the manager was given at any time.
* `Race.plugins_built_once`: what later calls do and what they leave alone.
-/

set_option autoImplicit false

namespace PluginKit

namespace Session

variable {abi : Abi} {σ : Type}

/-! ### The steps of a call -/

/-- How far a call has come. Between two stages a call is not interrupted; everything that other
threads can come between is a stage. -/
inductive Stage where
  | called
  /-- It has raised the flag, and knows what the flag was. -/
  | swapped (seen : Bool)
  | worked (exit : Exit)
  | returned (exit : Exit)
  deriving DecidableEq, Repr

/-- Whether a call has been through its work. -/
def Stage.hasWorked : Stage → Bool
  | .called | .swapped _ => false
  | .worked _ | .returned _ => true

namespace Opening

/-- Takes a call one step further: the swap of the flag, the work that depends on what it was, and
what comes after the work. -/
def advance (m : Manager abi σ) (o : Opening) (stage : Stage) (s : Session abi σ) :
    Stage × Session abi σ :=
  match stage with
  | .called => (.swapped s.configSeen, { s with configSeen := true })
  | .swapped seen => (.worked (o.work m seen s).1, (o.work m seen s).2)
  | .worked exit => (.returned (o.finish m exit s).1, (o.finish m exit s).2)
  | .returned exit => (.returned exit, s)

/-- What the manager is asked for in the next step: plugins, in the work of a call that came
first. -/
def asks (o : Opening) : Stage → List (Option (List Config.Item))
  | .swapped seen => o.asked seen
  | _ => []

section

variable {given : List (Option (List Config.Item))}

/-- A step beside a journal is the step without it, and only the work of a first call writes in
it. -/
theorem advance_journaled (m : Manager abi σ) (o : Opening) (stage : Stage) (s : Session abi σ) :
    o.advance m.journaled stage (s.journaled given)
      = beside (given ++ o.asks stage) (o.advance m stage s) := by
  cases stage with
  | called =>
      show _ = beside (given ++ []) _
      rw [List.append_nil]
      rfl
  | swapped seen =>
      unfold advance
      dsimp only
      rw [work_journaled]
      rfl
  | worked exit =>
      show _ = beside (given ++ []) _
      rw [List.append_nil]
      unfold advance
      dsimp only
      rw [finish_journaled]
      rfl
  | returned exit =>
      show _ = beside (given ++ []) _
      rw [List.append_nil]
      rfl

end

/-! ### Calls that come late -/

/-- Where a call may stand that was not the first to swap: it saw the flag up, and a block was
refused. A start has nothing to do in its work then, and goes on to start the manager. -/
def Late : Opening → Stage → Prop
  | _, .called => True
  | _, .swapped seen => seen = true
  | .config _, .worked exit => exit = .status (-1)
  | .init, .worked exit => exit = .status 0
  | .config _, .returned exit => exit = .status (-1)
  | .init, .returned _ => True

section

variable {m : Manager abi σ} {o : Opening} {stage : Stage} {s : Session abi σ}

/-- Behind a raised flag a late call stays late. -/
theorem Late.advance (h : o.Late stage) (hseen : s.configSeen = true) :
    o.Late (o.advance m stage s).1 := by
  cases stage with
  | called => exact hseen
  | swapped seen =>
      obtain rfl : seen = true := h
      cases o <;> rfl
  | worked exit =>
      cases o with
      | config item => exact h
      | init => trivial
  | returned exit => exact h

/-- A late call registers nothing and asks the manager for nothing. It may start the manager, which
touches the world only. -/
theorem Late.registry (h : o.Late stage) : (o.advance m stage s).2.registry = s.registry := by
  cases stage with
  | called => rfl
  | swapped seen =>
      obtain rfl : seen = true := h
      cases o with
      | config item => exact (report_sameBooks s "config" .multipleConfig).registry
      | init => rfl
  | worked exit => exact (finish_sameBooks m o exit s).registry
  | returned exit => rfl

theorem Late.asks (h : o.Late stage) : o.asks stage = [] := by
  cases stage with
  | swapped seen =>
      obtain rfl : seen = true := h
      rfl
  | called => rfl
  | worked exit => rfl
  | returned exit => rfl

end

/-- A call that has been through its work stays so, and asks for nothing more: what the manager was
given does not change behind it. -/
theorem hasWorked_advance {m : Manager abi σ} {o : Opening} {stage : Stage} {s : Session abi σ}
    (h : stage.hasWorked = true) : (o.advance m stage s).1.hasWorked = true := by
  cases stage with
  | called => exact absurd h Bool.false_ne_true
  | swapped seen => exact absurd h Bool.false_ne_true
  | worked exit => rfl
  | returned exit => rfl

theorem asks_of_hasWorked {o : Opening} {stage : Stage} (h : stage.hasWorked = true) :
    o.asks stage = [] := by
  cases stage with
  | called => exact absurd h Bool.false_ne_true
  | swapped seen => exact absurd h Bool.false_ne_true
  | worked exit => rfl
  | returned exit => rfl

/-- A flag that is up stays up, whatever step any call takes. So there is one first call at most. -/
theorem advance_configSeen (m : Manager abi σ) (o : Opening) (stage : Stage) (s : Session abi σ)
    (h : s.configSeen = true) : (o.advance m stage s).2.configSeen = true := by
  cases stage with
  | called => rfl
  | swapped seen =>
      refine Eq.trans ?_ h
      show (o.work m seen s).2.configSeen = s.configSeen
      cases seen with
      | true => cases o <;> rfl
      | false =>
          cases o with
          | init => exact registerPlugins_configSeen m none s
          | config item =>
              cases item with
              | none => exact registerPlugins_configSeen m none s
              | some item =>
                  dsimp only [work]
                  cases Config.Item.ofRaw item with
                  | ok item => exact registerPlugins_configSeen m _ s
                  | error e => rfl
  | worked exit => exact (finish_sameBooks m o exit s).configSeen.trans h
  | returned exit => exact h

end Opening

/-! ### The steps of all calls -/

/-- Calls under way, and the session that they share. A call keeps its place, so that a schedule can
name it. -/
structure Race (abi : Abi) (σ : Type) where
  calls : List (Opening × Stage)
  session : Session abi σ

namespace Race

/-- No call has taken a step yet. -/
def start (openings : List Opening) (s : Session abi σ) : Race abi σ :=
  ⟨openings.map fun o => (o, .called), s⟩

/-- Takes the call at a place one step further. -/
def step (m : Manager abi σ) (r : Race abi σ) (i : Nat) : Race abi σ :=
  match r.calls[i]? with
  | none => r
  | some (o, stage) =>
    ⟨r.calls.set i (o, (o.advance m stage r.session).1), (o.advance m stage r.session).2⟩

/-- Takes the calls further in the order of a schedule. It may name a place again and again; a call
that has returned takes no more steps. -/
def run (m : Manager abi σ) (r : Race abi σ) (schedule : List Nat) : Race abi σ :=
  schedule.foldl (step m) r

/-- What the manager has been given, if the call at a place came first. -/
def given (r : Race abi σ) (k : Nat) : List (Option (List Config.Item)) :=
  match r.calls[k]? with
  | none => []
  | some (o, stage) => if stage.hasWorked then o.given.toList else []

def journaled (r : Race abi σ) (given : List (Option (List Config.Item))) :
    Race abi (Journaled σ) :=
  ⟨r.calls, r.session.journaled given⟩

variable {m : Manager abi σ} {r : Race abi σ} {i k : Nat} {o : Opening} {stage : Stage}

/-- A place without a call takes no step. -/
theorem step_of_none (h : r.calls[i]? = none) : r.step m i = r := by
  unfold step
  rw [h]

theorem step_of_some (h : r.calls[i]? = some (o, stage)) :
    r.step m i = ⟨r.calls.set i (o, (o.advance m stage r.session).1),
      (o.advance m stage r.session).2⟩ := by
  unfold step
  rw [h]

theorem calls_step_self (h : r.calls[i]? = some (o, stage)) :
    (r.step m i).calls[i]? = some (o, (o.advance m stage r.session).1) := by
  obtain ⟨hi, -⟩ := List.getElem?_eq_some_iff.mp h
  rw [step_of_some h]
  exact List.getElem?_set_self hi

/-- A step of one call leaves the others where they are. -/
theorem calls_step_of_ne (hne : i ≠ k) : (r.step m i).calls[k]? = r.calls[k]? := by
  cases h : r.calls[i]? with
  | none => rw [step_of_none h]
  | some call =>
      rw [step_of_some h]
      exact List.getElem?_set_ne hne

/-- A step beside a journal is the step without it, and what the call asks for joins the journal. -/
theorem step_journaled (h : r.calls[i]? = some (o, stage))
    (given : List (Option (List Config.Item))) :
    (r.journaled given).step m.journaled i
      = (r.step m i).journaled (given ++ o.asks stage) := by
  have hjournaled : (r.journaled given).calls[i]? = some (o, stage) := h
  rw [step_of_some h, step_of_some hjournaled]
  show (⟨r.calls.set i (o, (o.advance m.journaled stage (r.session.journaled given)).1),
    (o.advance m.journaled stage (r.session.journaled given)).2⟩ : Race abi (Journaled σ)) = _
  rw [Opening.advance_journaled]
  rfl

/-! ### The first call -/

/-- A call has come first: it saw the flag down, the flag is up, and every other call is late. This
is the invariant of the race from the first swap on. -/
structure Ordered (k : Nat) (first : Opening) (r : Race abi σ) : Prop where
  raised : r.session.configSeen = true
  leads : ∃ stage, r.calls[k]? = some (first, stage) ∧
    (stage.hasWorked = true ∨ stage = .swapped false)
  late : ∀ i o stage, i ≠ k → r.calls[i]? = some (o, stage) → o.Late stage

/-- The invariant is kept by a step of any call. The first call goes on, and a late one stays
late. -/
theorem ordered_step {first : Opening} (h : Ordered k first r) (i : Nat) :
    Ordered k first (r.step m i) := by
  cases hcall : r.calls[i]? with
  | none => rwa [step_of_none hcall]
  | some call =>
      obtain ⟨o, stage⟩ := call
      refine ⟨?_, ?_, fun j other at_ hj hother => ?_⟩
      · rw [step_of_some hcall]
        exact Opening.advance_configSeen m o stage r.session h.raised
      · obtain ⟨leading, hleading, hstage⟩ := h.leads
        by_cases hik : i = k
        · subst hik
          obtain ⟨rfl, rfl⟩ := Prod.mk.inj (Option.some.inj (hcall.symm.trans hleading))
          refine ⟨_, calls_step_self hcall, Or.inl ?_⟩
          -- whatever it does next, the first call has then been through its work
          rcases hstage with hworked | rfl
          · exact Opening.hasWorked_advance hworked
          · rfl
        · exact ⟨leading, (calls_step_of_ne hik).trans hleading, hstage⟩
      · by_cases hij : i = j
        · subst hij
          obtain ⟨rfl, rfl⟩ := Prod.mk.inj
            (Option.some.inj ((calls_step_self hcall).symm.trans hother))
          exact (h.late i o stage hj hcall).advance h.raised
        · rw [calls_step_of_ne hij] at hother
          exact h.late j other at_ hj hother

/-- Once a call has come first, the journal holds what that call has had built, whichever call takes
the next step. -/
theorem Ordered.step_journaled {first : Opening} (h : Ordered k first r) (i : Nat) :
    (r.journaled (r.given k)).step m.journaled i
      = (r.step m i).journaled ((r.step m i).given k) := by
  cases hcall : r.calls[i]? with
  | none =>
      have hjournaled : (r.journaled (r.given k)).calls[i]? = none := hcall
      rw [step_of_none hcall, step_of_none hjournaled]
  | some call =>
      obtain ⟨o, stage⟩ := call
      rw [Race.step_journaled hcall]
      refine congrArg (Race.journaled (r.step m i)) ?_
      unfold Race.given
      -- Only the first opening asks for plugins; any other was late, and a late one asks for none.
      by_cases hik : i = k
      · subst hik
        rw [calls_step_self hcall, hcall]
        obtain ⟨leading, hleading, hstage⟩ := h.leads
        obtain ⟨rfl, rfl⟩ := Prod.mk.inj (Option.some.inj (hcall.symm.trans hleading))
        dsimp only
        rcases hstage with hworked | rfl
        · rw [Opening.asks_of_hasWorked hworked, Opening.hasWorked_advance hworked, hworked,
            List.append_nil]
        · rfl
      · rw [calls_step_of_ne hik, (h.late i o stage hik hcall).asks, List.append_nil]

/-! ### Runs of the race -/

theorem ordered_run {first : Opening} (h : Ordered k first r) (schedule : List Nat) :
    Ordered k first (r.run m schedule) := by
  induction schedule generalizing r with
  | nil => exact h
  | cons i rest ih => exact ih (ordered_step h i)

/-- Along a run the journal holds what the first call has had built, at every moment of it. -/
theorem Ordered.run_journaled {first : Opening} (h : Ordered k first r) (schedule : List Nat) :
    (r.journaled (r.given k)).run m.journaled schedule
      = (r.run m schedule).journaled ((r.run m schedule).given k) := by
  induction schedule generalizing r with
  | nil => rfl
  | cons i rest ih =>
      show run m.journaled ((r.journaled (r.given k)).step m.journaled i) rest = _
      rw [h.step_journaled i]
      exact ih (ordered_step h i)

section

variable {openings : List Opening} {s : Session abi σ} {first : Opening}

theorem calls_start (h : openings[k]? = some first) :
    (start openings s).calls[k]? = some (first, .called) := by
  show (openings.map fun o => (o, Stage.called))[k]? = _
  rw [List.getElem?_map, h]
  rfl

/-- The call that swaps first sees the flag down. Every other call has yet to swap, and calls that
have not swapped count as late, since the flag is up by now. -/
theorem ordered_start (h : openings[k]? = some first) (hs : s.configSeen = false) :
    Ordered k first ((start openings s).step m k) := by
  refine ⟨?_, ⟨.swapped false, ?_, Or.inr rfl⟩, fun i o stage hne hcall => ?_⟩
  · rw [step_of_some (calls_start h)]
    rfl
  · rw [calls_step_self (calls_start h)]
    show some (first, Stage.swapped s.configSeen) = _
    rw [hs]
  · rw [calls_step_of_ne (Ne.symm hne)] at hcall
    have hstage : stage = .called := by
      have hmap : (openings.map fun o => (o, Stage.called))[i]? = some (o, stage) := hcall
      rw [List.getElem?_map] at hmap
      cases hopening : openings[i]? with
      | none => rw [hopening] at hmap; cases hmap
      | some other => rw [hopening] at hmap; cases hmap; rfl
    rw [hstage]
    trivial

/-- Places without a call take no steps. -/
theorem run_skip {skip : List Nat} (h : ∀ i ∈ skip, ¬ i < openings.length) (rest : List Nat) :
    (start openings s).run m (skip ++ rest) = (start openings s).run m rest := by
  induction skip with
  | nil => rfl
  | cons i later ih =>
      have hnone : (start openings s).calls[i]? = none := by
        refine List.getElem?_eq_none ?_
        show (openings.map _).length ≤ i
        rw [List.length_map]
        exact Nat.le_of_not_lt (h i List.mem_cons_self)
      show run m ((start openings s).step m i) (later ++ rest) = _
      rw [step_of_none hnone]
      exact ih fun j hj => h j (List.mem_cons_of_mem i hj)

/-- The schedule decides which call comes first: the one that it names first. -/
theorem run_of_find? {schedule : List Nat}
    (hk : schedule.find? (· < openings.length) = some k) (hfirst : openings[k]? = some first)
    (hs : s.configSeen = false) :
    Ordered k first ((start openings s).run m schedule) ∧
    (start openings (s.journaled [])).run m.journaled schedule
      = ((start openings s).run m schedule).journaled
          (((start openings s).run m schedule).given k) := by
  obtain ⟨-, skip, rest, rfl, hskip⟩ := List.find?_eq_some_iff_append.mp hk
  have hskip' : ∀ i ∈ skip, ¬ i < openings.length := fun i hi => by simpa using hskip i hi
  rw [run_skip hskip', run_skip hskip']
  have hordered := ordered_start (m := m) hfirst hs
  refine ⟨ordered_run hordered rest, ?_⟩
  -- the swap itself asks for nothing, so the journal is still empty behind it
  have hswap : (start openings (s.journaled [])).step m.journaled k
      = ((start openings s).step m k).journaled (((start openings s).step m k).given k) := by
    have hgiven : ((start openings s).step m k).given k = [] := by
      unfold given
      rw [calls_step_self (calls_start hfirst)]
      rfl
    rw [hgiven]
    exact Race.step_journaled (calls_start hfirst) []
  show run m.journaled ((start openings (s.journaled [])).step m.journaled k) rest = _
  rw [hswap]
  exact hordered.run_journaled rest

end

/-- What a call that came late does in its next step: it registers nothing and takes nothing back;
a block is refused; and a start ends as the manager's own start does. The one start that ends in no
status is that of a manager which panics when it is asked whether it wants to be started, because
nobody guards the question. -/
structure Harmless (m : Manager abi σ) (r : Race abi σ) (i : Nat) (o : Opening) (stage : Stage) :
    Prop where
  registry : (r.step m i).session.registry = r.session.registry
  refused : ∀ item seen, o = .config item → stage = .swapped seen →
    r.step m i = ⟨r.calls.set i (o, .worked (.status (-1))),
      r.session.report "config" .multipleConfig⟩
  answered : ∀ item exit, o = .config item → stage = .worked exit ∨ stage = .returned exit →
    exit = .status (-1)
  failing : ∀ exit, o = .init → stage = .worked exit →
    ((r.step m i).calls[i]? = some (.init, .returned (.status (-1))) ↔
      WantsStart m r.session ∧ StartFails m r.session)
  starting : ∀ exit, o = .init → stage = .worked exit →
    ((r.step m i).calls[i]? = some (.init, .returned (.status 0)) ↔
      ¬ Stops r.session m.wantsStart ∧ ¬ (WantsStart m r.session ∧ StartFails m r.session))
  unanswered : ∀ exit, o = .init → stage = .worked exit →
    ((r.step m i).calls[i]? = some (.init, .returned .escaped) ↔ Stops r.session m.wantsStart)

/-- A late call's next step is harmless. -/
theorem harmless_of_late (h : o.Late stage) (hcall : r.calls[i]? = some (o, stage)) :
    Harmless m r i o stage := by
  -- The last three fields are about an opening whose work is done, so how it ends is how `finish`
  -- ends.
  have hends (exit : Exit) (ho : o = .init) (hstage : stage = .worked exit) (ending : Exit) :
      (r.step m i).calls[i]? = some (.init, .returned ending) ↔
        (Opening.init.finish m (.status 0) r.session).1 = ending := by
    subst ho hstage
    obtain rfl : exit = .status 0 := h
    rw [calls_step_self hcall]
    simp [Opening.advance]
  refine ⟨?_, ?_, ?_, fun exit ho hstage => ?_, fun exit ho hstage => ?_, fun exit ho hstage => ?_⟩
  · rw [step_of_some hcall]
    exact h.registry
  · rintro item seen rfl rfl
    obtain rfl : seen = true := h
    exact step_of_some hcall
  · rintro item exit rfl (rfl | rfl)
    · exact h
    · exact h
  · exact (hends exit ho hstage (.status (-1))).trans (finish_init_iff m r.session).1
  · exact (hends exit ho hstage (.status 0)).trans (finish_init_iff m r.session).2
  · exact (hends exit ho hstage .escaped).trans (finish_init_escaped_iff m 0 r.session)

/-- Of calls from any number of threads, with any blocks and in whatever order they take their
steps, the one that swaps first is the only one for which the manager is asked for plugins: once,
when it does its work, with the lines of its block or with no block, and never if its block cannot
be read. The journal that says so changes nothing else. No other call ever touches a registration.
A call whose steps nothing comes between is the call that the session serves.

The session may be any in which no such call has been made: one with registrations of its own, with
plugins, and with a daemon that turns callbacks down. -/
theorem plugins_built_once (m : Manager abi σ) (s : Session abi σ) (hs : s.configSeen = false)
    (openings : List Opening) (schedule : List Nat) (k : Nat) (first : Opening)
    (hk : schedule.find? (· < openings.length) = some k) (hfirst : openings[k]? = some first) :
    let r := (start openings s).run m schedule
    (∃ stage, r.calls[k]? = some (first, stage) ∧
      (start openings (s.journaled [])).run m.journaled schedule
        = r.journaled (if stage.hasWorked then first.given.toList else [])) ∧
    (∀ i o stage, i ≠ k → r.calls[i]? = some (o, stage) → Harmless m r i o stage) ∧
    ∀ (o : Opening) (t : Session abi σ), ∃ exit u,
      (start [o] t).run m [0, 0, 0] = ⟨[(o, .returned exit)], u⟩ ∧
      t.serve m o.request = (.exit exit, u) := by
  intro r
  obtain ⟨hordered, hjournal⟩ := run_of_find? (m := m) hk hfirst hs
  refine ⟨?_, fun i o stage hne hcall => ?_, fun o t => ⟨_, _, rfl, Opening.serve_eq m o t⟩⟩
  · obtain ⟨stage, hstage, -⟩ := hordered.leads
    refine ⟨stage, hstage, hjournal.trans (congrArg r.journaled ?_)⟩
    unfold given
    rw [hstage]
  · exact harmless_of_late (hordered.late i o stage hne hcall) hcall

/-- A manager of one plugin that wants to be started and has nothing to start. -/
def starter : Manager .current Scripted.Journal :=
  Scripted.ManagerScript.manager
    { name := "starter", wantsStart := true, first := .succeed
      set := .single (.quiet ⟨true, false, false, false⟩)
      calls := some (.fail (Failure.plain "no device"), .succeed) }

/-- A daemon that has a callback already and turns every other one for reading down. -/
def unwilling : Session .current Scripted.Journal :=
  { within ⟨.initial, .initial, .empty⟩ with
    registry := ⟨[⟨"starter", .config, none, false⟩], [(.read, -2)]⟩ }

/-- A start overtakes a block that came with it: it alone has the plugin built, for no block,
although the block is done before the start does its work. That the daemon turns the plugin down
changes nothing in this. -/
theorem plugins_built_once_overtaken :
    unwilling.configSeen = false ∧
    [7, 1, 0, 0, 0, 1].find? (· < [Opening.config none, .init].length) = some 1 ∧
    [Opening.config none, .init][1]? = some .init ∧
    let raced := (start [.config none, .init] (unwilling.journaled [])).run
      starter.journaled [7, 1, 0, 0, 0, 1]
    raced.session.world.own.notes.given = [none] ∧
    raced.session.registry = unwilling.registry := by
  refine ⟨rfl, rfl, rfl, ?_⟩
  obtain ⟨⟨stage, hstage, hjournal⟩, -, -⟩ := plugins_built_once starter unwilling rfl
    [.config none, .init] [7, 1, 0, 0, 0, 1] 1 .init rfl rfl
  have hworked : stage = .worked (.status (-1)) := by
    cases hstage
    rfl
  intro raced
  have hraced : raced = _ := hjournal
  rw [hraced, hworked]
  exact ⟨rfl, rfl⟩

/-- A start that comes behind a block need not return at all. The manager does not say that it wants
to be started, so its start does not fail; and yet the call does not end with status zero, for the
panic that is the manager's answer leaves it. -/
theorem start_unanswered :
    let r := (start [.config none, .init] (within ⟨.initial, .initial, ()⟩)).run hesitant
      [0, 0, 0, 1, 1]
    ¬ (WantsStart hesitant r.session ∧ StartFails hesitant r.session) ∧
    (r.step hesitant 1).calls
      = [(.config none, .returned (.status 0)), (.init, .returned .escaped)] := by
  refine ⟨?_, rfl⟩
  rintro ⟨hwants, -⟩
  cases hwants

end Race

end Session

end PluginKit
