import PluginKit.Proofs.Session.Frame

/-!
# `PluginKit.Proofs.Session.Opening`: the calls that may have plugins built

Two of the daemon's calls share one flag: the block of the configuration and the start of the
daemon. Each of them sets the flag, and what the flag was before decides which of them lets the
manager build its plugins. Here the calls are taken apart at the points where another call may come
between: the swap of the flag, the work that follows from it, and what a start does in the end.

* `Opening`, `Opening.given`: the calls, and what a manager is given by one that comes first.
* `Opening.work`, `Opening.finish`: the parts behind the swap.
* `Opening.serve_eq`: the parts one after the other are the whole call.
* `finish_init_exit`, `finish_init_iff`: how a start ends.
* `hesitant`: a manager with which a start does not end.
-/

set_option autoImplicit false

namespace PluginKit

namespace Session

variable {abi : Abi} {σ : Type}

/-- A call that has the plugins built when it comes first. A block may come without a tree, and any
number of blocks and starts may come. -/
inductive Opening where
  | config (item : Option Config.RawItem)
  | init

namespace Opening

def request : Opening → Request abi
  | .config item => .config item
  | .init => .init

/-- What the manager is given by a call that comes first: the lines of the block, or no block. A
block that cannot be read gives it nothing, not even a call. -/
def given : Opening → Option (Option (List Config.Item))
  | .config none => some none
  | .config (some item) =>
    match Config.Item.ofRaw item with
    | .ok item => some (some item.children)
    | .error _ => none
  | .init => some none

/-- What a call does after it has swapped the flag; `seen` is what the flag was. A block that comes
late is refused, and a start that comes late has nothing to build. -/
def work (m : Manager abi σ) (o : Opening) (seen : Bool) (s : Session abi σ) :
    Exit × Session abi σ :=
  match o, seen with
  | .config _, true => (.status (-1), s.report "config" .multipleConfig)
  | .config none, false => s.registerPlugins m none
  | .config (some item), false =>
    match Config.Item.ofRaw item with
    | .ok item => s.registerPlugins m (some item.children)
    | .error e =>
      (.status (-1), s.report "collectd config conversion" (.daemon (Failure.ofConfig e)))
  | .init, true => (.status 0, s)
  | .init, false => s.registerPlugins m none

/-- What a call does in the end: a start lets the manager start if it wants to, whether or not it
came first and whatever came of building the plugins. -/
def finish (m : Manager abi σ) : Opening → Exit → Session abi σ → Exit × Session abi σ
  | .config _, exit, s => (exit, s)
  | .init, .escaped, s => (.escaped, s)
  | .init, .status code, s =>
    match s.attempt m.wantsStart with
    | (.error _, s) => (.escaped, s)
    | (.ok false, s) => (.status code, s)
    | (.ok true, s) =>
      match s.call m.start with
      | (.ok (), s) => (.status code, s)
      | (.error e, s) => (.status (-1), s.report "init" e)

/-- A call that nothing comes between: the swap, the work and the end, in one go. -/
def alone (m : Manager abi σ) (o : Opening) (s : Session abi σ) : Exit × Session abi σ :=
  let worked := o.work m s.configSeen { s with configSeen := true }
  o.finish m worked.1 worked.2

/-- The parts make up the calls of the session, so what is proved of the parts is about those
calls. -/
theorem serve_eq (m : Manager abi σ) (o : Opening) (s : Session abi σ) :
    s.serve m o.request = exits (o.alone m s) := by
  -- a flag that is up already is not changed by raising it
  have hraised : s.configSeen = true → { s with configSeen := true } = s := by
    intro h
    cases s
    cases h
    rfl
  cases hseen : s.configSeen with
  | false =>
      cases o with
      | config item =>
          show exits (s.config m item) = _
          unfold Session.config alone
          rw [hseen]
          cases item with
          | none => rfl
          | some item =>
              dsimp only [work, finish]
              cases Config.Item.ofRaw item <;> rfl
      | init =>
          show exits (s.init m) = _
          unfold Session.init alone
          rw [hseen]
          dsimp only [work]
          rcases registerPlugins m none { s with configSeen := true } with ⟨_ | _, t⟩ <;> rfl
  | true =>
      unfold alone
      rw [hseen, hraised hseen]
      cases o with
      | config item =>
          show exits (s.config m item) = _
          unfold Session.config
          rw [hseen]
          rfl
      | init =>
          show exits (s.init m) = _
          unfold Session.init
          rw [hseen]
          rfl

/-- What comes after the work leaves the books alone: starting a manager registers nothing. -/
theorem finish_sameBooks (m : Manager abi σ) (o : Opening) (exit : Exit) (s : Session abi σ) :
    SameBooks s (o.finish m exit s).2 := by
  cases o with
  | config item => exact SameBooks.refl s
  | init =>
      cases exit with
      | escaped => exact SameBooks.refl s
      | status code =>
          have hwants := attempt_sameBooks s m.wantsStart
          unfold finish
          dsimp only
          split <;> rename_i heq <;> rw [heq] at hwants
          · exact hwants
          · exact hwants
          · rename_i t
            have hstart := call_sameBooks t m.start
            split <;> rename_i heq <;> rw [heq] at hstart
            · exact hwants.trans hstart
            · exact (hwants.trans hstart).trans (report_sameBooks _ _ _)

end Opening

/-! ### How a start ends -/

/-- The manager wants to be started with the daemon. It is asked anew at every start. -/
def WantsStart (m : Manager abi σ) (s : Session abi σ) : Prop :=
  (s.attempt m.wantsStart).1 = .ok true

/-- The manager's start goes wrong, by an error or a panic, right after it was asked whether it
wants one. -/
def StartFails (m : Manager abi σ) (s : Session abi σ) : Prop :=
  Stops (s.attempt m.wantsStart).2 m.start

/-- How a start ends that has come through its work, in one equation. -/
theorem finish_init_exit (m : Manager abi σ) (code : Int) (s : Session abi σ) :
    (Opening.init.finish m (.status code) s).1
      = match (s.attempt m.wantsStart).1 with
        | .error _ => .escaped
        | .ok false => .status code
        | .ok true =>
          match ((s.attempt m.wantsStart).2.attempt m.start).1 with
          | .ok () => .status code
          | .error _ => .status (-1) := by
  rcases hasked : s.attempt m.wantsStart with ⟨stop | asked, t⟩
  · simp only [Opening.finish, hasked]
  · cases asked with
    | false => simp only [Opening.finish, hasked]
    | true =>
        simp only [Opening.finish, hasked]
        rw [call_eq]
        rcases (t.attempt m.start).1 with stop | _
        · cases stop <;> rfl
        · rfl

/-- It ends with minus one exactly if the manager wants to start and fails, and keeps its status
otherwise. Only the question whether the manager wants to can keep it from returning. -/
theorem finish_init_iff (m : Manager abi σ) (s : Session abi σ) :
    ((Opening.init.finish m (.status 0) s).1 = .status (-1) ↔ WantsStart m s ∧ StartFails m s) ∧
    ((Opening.init.finish m (.status 0) s).1 = .status 0 ↔
      ¬ Stops s m.wantsStart ∧ ¬ (WantsStart m s ∧ StartFails m s)) := by
  rw [finish_init_exit]
  unfold WantsStart StartFails Stops
  rcases (s.attempt m.wantsStart).1 with stop | asked
  · simp
  · cases asked with
    | false => simp
    | true => rcases ((s.attempt m.wantsStart).2.attempt m.start).1 with stop | _ <;> simp

/-- It does not return exactly if the manager does not answer whether it wants to start. -/
theorem finish_init_escaped_iff (m : Manager abi σ) (code : Int) (s : Session abi σ) :
    (Opening.init.finish m (.status code) s).1 = .escaped ↔ Stops s m.wantsStart := by
  rw [finish_init_exit]
  unfold Stops
  rcases (s.attempt m.wantsStart).1 with stop | asked
  · simp
  · cases asked with
    | false => simp
    | true => rcases ((s.attempt m.wantsStart).2.attempt m.start).1 with stop | _ <;> simp

/-- A manager without plugins that panics when it is asked whether it wants to be started. The
question stands in front of the guard that catches panics, so nothing turns this one into a
status. -/
def hesitant : Manager .current Unit :=
  { Manager.ofPlugins "hesitant" fun _ => pure (.multiple []) with
    wantsStart := Code.panic ⟨"", "no answer"⟩ }

end Session

end PluginKit
