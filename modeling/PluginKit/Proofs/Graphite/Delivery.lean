import Mathlib.Data.List.Induction
import PluginKit.Graphite.Plugin
import PluginKit.Proofs.Graphite.Line
import PluginKit.Proofs.Graphite.Link

/-!
# `PluginKit.Proofs.Graphite.Delivery`: what graphite receives from a node's plugin

The daemon calls a node's plugin from several threads. Each callback that has something to do takes
the node's lock once, so what happens to the connection is a list of visits in the order in which
they got the lock. Around a visit everything else may be in any state: the daemon, the loggers and
the other nodes.

* `Seat`, `Visit`: a node's plugin, and a callback with what is around it.
* `Seat.payload?`: what a callback has to send.
* `Seat.serve_spec`: a callback does at its node what its action says, or nothing.
* `Seat.run`: the turns of any number of visits.
* `run_framed`: no connection carries a torn payload but at its end, whatever becomes of its calls.
-/

set_option autoImplicit false

namespace PluginKit

namespace Graphite

variable {abi : Abi}

/-! ### Code that leaves the nodes alone -/

/-- A record for the log changes the diagnostics or the daemon's log, and no node. -/
theorem own_emit (w : World abi Nodes) (e : Log.Event) : (w.emit e).own = w.own := by
  unfold World.emit
  split
  · rfl
  · split <;> rfl

theorem own_reportError (w : World abi Nodes) (operation : String) (e : CallbackError) :
    (w.reportError operation e).own = w.own := by
  unfold World.reportError
  dsimp only
  split
  · rfl
  · split
    · exact own_emit w _
    · rfl

/-- Reporting a panic is no business of the nodes, however many hooks there are. -/
theorem own_reportPanic (w : World abi Nodes) (p : Panic) : (w.reportPanic p).own = w.own := by
  unfold World.reportPanic
  induction w.diagnostics.panicHooks generalizing w with
  | zero => rfl
  | succ count ih => exact (own_reportError _ _ _).trans (ih w)

/-- A call succeeds if its code returns, and the nodes are as the code has left them. The guard and
what it reports do not reach them. -/
theorem call_spec {w after : World abi Nodes} {code : Code abi Nodes Unit}
    {result : Except Stop Unit} (h : code.run.run w = (result, after)) :
    ((w.call code).1.isOk = true ↔ result = .ok ()) ∧ (w.call code).2.own = after.own := by
  unfold World.call World.attempt
  rw [h]
  rcases result with (f | p) | _
  · exact ⟨by simp [Except.isOk, Except.toBool], rfl⟩
  · exact ⟨by simp [Except.isOk, Except.toBool], own_reportPanic after p⟩
  · exact ⟨by simp [Except.isOk, Except.toBool], rfl⟩

/-! ### One callback at its node -/

/-- Code at a node takes the node's lock, acts and puts back what it has left, and nobody comes
between. -/
theorem atNode_run {index : Nat} {w : World abi Nodes} {n : Node} (h : w.own[index]? = some n)
    (act : Node → (Delivery × Bool) × Node) :
    (atNode index act).run.run w
      = (.ok (act n).1, { w with own := w.own.set index (act n).2 }) := by
  have hget : (get : Code abi Nodes (World abi Nodes)).run.run w = (.ok w, w) := rfl
  unfold atNode
  rw [run_bind_of_ok hget, h]
  rfl

/-- An end is an error of the callback unless it is the good one. So success is never reported for a
payload that was not taken in full. -/
theorem settle_run (doing : String) (delivery : Delivery) (w : World abi Nodes) :
    ∃ result, (settle doing delivery).run.run w = (result, w) ∧
      (result = .ok () ↔ delivery = .done) := by
  cases delivery with
  | done => exact ⟨_, rfl, iff_of_true rfl rfl⟩
  | poisoned => exact ⟨_, rfl, iff_of_false nofun nofun⟩
  | notConnected message => exact ⟨_, rfl, iff_of_false nofun nofun⟩
  | failed message => exact ⟨_, rfl, iff_of_false nofun nofun⟩
  | panicked message => exact ⟨_, rfl, iff_of_false nofun nofun⟩

/-- Sending changes the node as the node's own sending does, and returns exactly if that is done. -/
theorem send_run {index : Nat} {w : World abi Nodes} {n : Node} (h : w.own[index]? = some n)
    (text : String) :
    ∃ result after, (send index text).run.run w = (result, after) ∧
      (result = .ok () ↔ (n.act (.send (Utf8.encode text))).1 = .done) ∧
      after.own = w.own.set index (n.act (.send (Utf8.encode text))).2 := by
  rcases hsent : n.send (Utf8.encode text) with ⟨⟨delivery, isNew⟩, next⟩
  have hat : (atNode index fun n => n.send (Utf8.encode text)).run.run w
      = (.ok (delivery, isNew), { w with own := w.own.set index next }) := by
    rw [atNode_run h, hsent]
  simp only [Node.act, hsent]
  unfold send
  rw [run_bind_of_ok hat]
  let sent : World abi Nodes := { w with own := w.own.set index next }
  let opened : Log.Event := Log.Event.ofText .debug target "connected to graphite"
  -- a new connection is logged before the outcome is looked at
  cases isNew with
  | false =>
      obtain ⟨result, hrun, hdone⟩ := settle_run "writing to graphite" delivery sent
      exact ⟨result, sent, hrun, hdone, rfl⟩
  | true =>
      have hlogged : (Code.emit opened : Code abi Nodes Unit).run.run sent
          = (.ok (), sent.emit opened) := rfl
      obtain ⟨result, hrun, hdone⟩ := settle_run "writing to graphite" delivery (sent.emit opened)
      exact ⟨result, sent.emit opened, (run_bind_of_ok hlogged _).trans hrun, hdone,
        own_emit sent opened⟩

/-- Flushing likewise. Whether there was something to flush does not show in the result. -/
theorem flush_run {index : Nat} {w : World abi Nodes} {n : Node} (h : w.own[index]? = some n) :
    ∃ result after, (flush index).run.run w = (result, after) ∧
      (result = .ok () ↔ (n.act .flush).1 = .done) ∧
      after.own = w.own.set index (n.act .flush).2 := by
  let flushed : World abi Nodes := { w with own := w.own.set index n.flush.2 }
  have hat : (atNode index fun n => ((n.flush.1, false), n.flush.2)).run.run w
      = (.ok (n.flush.1, false), flushed) := atNode_run h _
  obtain ⟨result, hrun, hdone⟩ := settle_run "flushing graphite connection" n.flush.1 flushed
  unfold flush
  exact ⟨result, flushed, (run_bind_of_ok hat _).trans hrun, hdone, rfl⟩

/-- Without rates nothing is sent, and the callback fails: a node that stores rates does not fall
back to the values. -/
theorem writeList_run_of_none {l : ValueList} {storeRates : Bool} {w : World abi Nodes}
    (unavailable : (if storeRates then l.rates w.daemon else some l.values) = none)
    (index : Nat) (root : String) :
    (writeList index root storeRates l).run.run w
      = (.error (.failed (Failure.plain ValueList.noRates)), w) := by
  cases storeRates with
  | false => cases unavailable
  | true =>
      have hrates : l.rates w.daemon = none := unavailable
      have hcode : (Code.rates l : Code abi Nodes (List Report)).run.run w
          = (.error (.failed (Failure.plain ValueList.noRates)), w) := by
        unfold Code.rates
        have hget : (get : Code abi Nodes (World abi Nodes)).run.run w = (.ok w, w) := rfl
        rw [run_bind_of_ok hget, hrates]
        rfl
      unfold writeList
      rw [if_pos rfl, ExceptT.run_bind, StateT.run_bind, hcode]
      rfl

/-! ### Visits -/

/-- A call of the daemon that the plugin of a node answers. The two are all that a node's plugin
advertises. -/
inductive Callback where
  | write (l : ValueList)
  | flush (timeout : Option Duration) (identifier : Option String)

/-- The plugin of a node: its place, the beginning of its paths, and whether it stores rates. -/
structure Seat where
  index : Nat
  root : String
  storeRates : Bool

/-- A callback, and everything that is around it when it is its turn. The world is given anew at
every visit, so other threads may have done anything to it in between. -/
structure Visit (abi : Abi) where
  world : World abi Nodes
  callback : Callback

namespace Seat

def plugin (seat : Seat) : Plugin abi Nodes := nodePlugin seat.index seat.root seat.storeRates

def code (seat : Seat) : Callback → Code abi Nodes Unit
  | .write l => seat.plugin.write l
  | .flush timeout identifier => seat.plugin.flush timeout identifier

/-- The world of a visit, with the node as the visit finds it. What the visit's world has at the
node's place does not count. -/
def enter (seat : Seat) (v : Visit abi) (n : Node) : World abi Nodes :=
  { v.world with own := v.world.own.set seat.index n }

/-- Serves a visit: the outcome of the callback, and the node that it leaves. -/
def serve (seat : Seat) (n : Node) (v : Visit abi) : Except CallbackError Unit × Node :=
  let served := (seat.enter v n).call (seat.code v.callback)
  (served.1, served.2.own[seat.index]?.getD n)

/-- What a callback has to send: the lines of a list, if it has any. It is read off the list and the
daemon's rates, before anything is sent. -/
def payload? (seat : Seat) (v : Visit abi) : Option (List UInt8) :=
  match v.callback with
  | .flush _ _ => none
  | .write l =>
    match if seat.storeRates then l.rates v.world.daemon else some l.values with
    | none => none
    | some reports =>
      let lines := formatLines seat.root (Identity.ofList l) reports l.time
      if lines.isEmpty then none else some (Utf8.encode lines)

/-- What a callback does with its node. A list without lines does nothing, and takes no lock. -/
def action? (seat : Seat) (v : Visit abi) : Option Action :=
  match v.callback with
  | .flush _ _ => some .flush
  | .write _ => (seat.payload? v).map .send

/-- What is left of a visit whose code has been run: the node at its place, and whether the callback
succeeded. -/
theorem serve_of_run {seat : Seat} {n next : Node} {v : Visit abi} {result : Except Stop Unit}
    {after : World abi Nodes} (h : seat.index < v.world.own.length)
    (hrun : (seat.code v.callback).run.run (seat.enter v n) = (result, after))
    (hown : after.own = (seat.enter v n).own.set seat.index next) :
    (seat.serve n v).2 = next ∧ ((seat.serve n v).1.isOk = true ↔ result = .ok ()) := by
  obtain ⟨hok, hcalled⟩ := call_spec hrun
  refine ⟨?_, hok⟩
  show ((seat.enter v n).call (seat.code v.callback)).2.own[seat.index]?.getD n = next
  rw [hcalled, hown, List.getElem?_set_self (by simpa [enter] using h)]
  rfl

/-- The payload of a list, once it is known what there is to report. -/
theorem payload?_write {seat : Seat} {v : Visit abi} {l : ValueList} {reports : List Report}
    (hcallback : v.callback = .write l)
    (available : (if seat.storeRates then l.rates v.world.daemon else some l.values)
      = some reports) :
    seat.payload? v
      = if (formatLines seat.root (Identity.ofList l) reports l.time).isEmpty then none
        else some (Utf8.encode (formatLines seat.root (Identity.ofList l) reports l.time)) := by
  unfold payload?
  rw [hcallback]
  dsimp only
  rw [available]

/-- A callback does with its node what its action says, and succeeds if that is done. Without an
action it leaves the node alone. This is where callbacks meet the turns of `Link`. -/
theorem serve_spec (seat : Seat) (n : Node) (v : Visit abi)
    (h : seat.index < v.world.own.length) :
    match seat.action? v with
    | none => (seat.serve n v).2 = n
    | some a => (seat.serve n v).2 = (n.act a).2 ∧
        ((seat.serve n v).1.isOk = true ↔ (n.act a).1 = .done) := by
  have hnode : (seat.enter v n).own[seat.index]? = some n := List.getElem?_set_self h
  have hsame : (seat.enter v n).own = (seat.enter v n).own.set seat.index n := by
    simp [enter]
  rcases hcallback : v.callback with l | ⟨timeout, identifier⟩
  · have hcode : (seat.code v.callback : Code abi Nodes Unit)
        = writeList seat.index seat.root seat.storeRates l := by
      rw [hcallback]
      rfl
    have haction : seat.action? v = (seat.payload? v).map .send := by
      unfold action?
      rw [hcallback]
    rw [haction]
    cases available : (if seat.storeRates then l.rates v.world.daemon else some l.values) with
    | none =>
        -- without rates the callback fails before it comes to its node
        have hnone : seat.payload? v = none := by
          unfold payload?
          rw [hcallback]
          dsimp only
          rw [available]
        rw [hnone]
        have hrun := writeList_run_of_none (w := seat.enter v n) available seat.index seat.root
        rw [← hcode] at hrun
        exact (serve_of_run h hrun hsame).1
    | some reports =>
        have hrun := writeList_run (w := seat.enter v n) available seat.index seat.root
        rw [payload?_write hcallback available]
        rw [← hcode] at hrun
        -- a list without lines is done with at once
        cases hempty : (formatLines seat.root (Identity.ofList l) reports l.time).isEmpty with
        | true =>
            rw [hempty] at hrun
            exact (serve_of_run h hrun hsame).1
        | false =>
            rw [hempty] at hrun
            obtain ⟨result, after, hsend, hdone, hown⟩ := send_run hnode
              (formatLines seat.root (Identity.ofList l) reports l.time)
            have hserved := serve_of_run h (hrun.trans hsend) hown
            exact ⟨hserved.1, hserved.2.trans hdone⟩
  · have hcode : (seat.code v.callback : Code abi Nodes Unit) = Graphite.flush seat.index := by
      rw [hcallback]
      rfl
    have haction : seat.action? v = some .flush := by
      unfold action?
      rw [hcallback]
    rw [haction]
    obtain ⟨result, after, hflush, hdone, hown⟩ := flush_run hnode
    have hserved := serve_of_run h (hcode ▸ hflush) hown
    exact ⟨hserved.1, hserved.2.trans hdone⟩

/-- The turn of a visit at the node, with the success that the daemon was told of and not one that
the node has worked out. -/
def turn (seat : Seat) (n : Node) (v : Visit abi) : Turn where
  before := n
  payload := seat.payload? v
  calls := (seat.action? v).elim [] n.calls
  reported := (seat.serve n v).1.isOk
  after := (seat.serve n v).2

/-- The turns of visits that come after each other, and the node after them. The node is the only
thing that is handed from one visit to the next. -/
def run (seat : Seat) (start : Node) (visits : List (Visit abi)) : List Turn × Node :=
  visits.foldl
    (fun past v => (past.1 ++ [seat.turn past.2 v], (seat.turn past.2 v).after)) ([], start)

/-- What a callback has to send is the payload of its action. -/
theorem payload?_eq (seat : Seat) (v : Visit abi) :
    seat.payload? v = (seat.action? v).bind Action.payload? := by
  unfold action?
  rcases hcallback : v.callback with l | ⟨timeout, identifier⟩
  · cases hpayload : seat.payload? v with
    | none => rfl
    | some payload => rfl
  · unfold payload?
    rw [hcallback]
    rfl

/-- A visit is a turn of its action, or one that does nothing. Both are proper, as `Link` has it. -/
theorem turn_proper {seat : Seat} {v : Visit abi} (h : seat.index < v.world.own.length)
    (n : Node) : (seat.turn n v).Proper := by
  have hserved := seat.serve_spec n v h
  have hpayload := seat.payload?_eq v
  -- A callback that does not get to its node leaves an idle turn, any other the turn of its action.
  cases haction : seat.action? v with
  | none =>
      rw [haction] at hserved hpayload
      have hturn : seat.turn n v = .idle n none (seat.serve n v).1.isOk := by
        unfold turn Turn.idle
        rw [haction, hpayload, hserved]
        rfl
      rw [hturn]
      exact Turn.proper_idle n fun _ => rfl
  | some a =>
      rw [haction] at hserved hpayload
      have hreported : (seat.serve n v).1.isOk = decide ((n.act a).1 = .done) :=
        Bool.eq_iff_iff.mpr (hserved.2.trans decide_eq_true_iff.symm)
      have hturn : seat.turn n v = .acting n a := by
        unfold turn Turn.acting
        rw [haction, hpayload, hserved.1, hreported]
        rfl
      rw [hturn]
      exact Turn.proper_acting n a

end Seat

/-! ### Any number of visits -/

namespace Seat

/-- One more visit comes behind the turns of the others. -/
theorem run_concat (seat : Seat) (start : Node) (visits : List (Visit abi)) (v : Visit abi) :
    seat.run start (visits ++ [v])
      = ((seat.run start visits).1 ++ [seat.turn (seat.run start visits).2 v],
          (seat.turn (seat.run start visits).2 v).after) := by
  unfold run
  rw [List.foldl_append]
  rfl

/-- Every turn starts with the node that the one before has left. -/
theorem run_chained (seat : Seat) (start : Node) (visits : List (Visit abi)) :
    Chained start (seat.run start visits).1 (seat.run start visits).2 := by
  induction visits using List.reverseRecOn with
  | nil => exact .nil
  | append_singleton visits v ih =>
      rw [run_concat]
      exact .snoc ih

/-- Every turn of a run is proper, since each is proper from whatever node it starts with. -/
theorem run_proper {seat : Seat} {visits : List (Visit abi)}
    (h : ∀ v ∈ visits, seat.index < v.world.own.length) (start : Node) :
    ∀ t ∈ (seat.run start visits).1, t.Proper := by
  induction visits using List.reverseRecOn with
  | nil => exact nofun
  | append_singleton visits v ih =>
      rw [run_concat]
      intro t ht
      rcases List.mem_append.mp ht with ht | ht
      · exact ih (fun u hu => h u (List.mem_append_left [v] hu)) t ht
      · cases List.mem_singleton.mp ht
        exact turn_proper (h v (List.mem_append_right visits (List.mem_singleton_self v))) _

end Seat

/-- A node as it starts out, whatever its calls on the other end will come to. -/
def startingNode (connects writes flushes : List Reply) (refusal : Option String) : Node :=
  { Node.idle (Wire.ofReplies connects writes flushes) with refusal := refusal }

/-- Whatever the daemon asks of a node's plugin, in whatever order, and whatever becomes of
connecting, writing and flushing: each turn keeps its connection in order, each connection receives
whole payloads one after the other, with the beginning of a last one at most behind them, and there
are no more attempts to connect than payloads. -/
theorem run_framed (seat : Seat) (connects writes flushes : List Reply)
    (refusal : Option String) (visits : List (Visit abi))
    (inhabited : ∀ v ∈ visits, seat.index < v.world.own.length) :
    let history := seat.run (startingNode connects writes flushes refusal) visits
    (∀ t ∈ history.1, t.Proper) ∧
    (∀ id, Framed history.1 id (history.2.wire.received id)) ∧
    history.2.wire.attempts ≤ history.1.countP fun t => t.payload.isSome := by
  intro history
  have hproper : ∀ t ∈ history.1, t.Proper :=
    Seat.run_proper inhabited (startingNode connects writes flushes refusal)
  have hchained : Chained (startingNode connects writes flushes refusal) history.1 history.2 :=
    seat.run_chained (startingNode connects writes flushes refusal) visits
  have hattempts := hchained.attempts_le hproper
  rw [show (startingNode connects writes flushes refusal).wire.attempts = 0 from rfl,
    Nat.zero_add] at hattempts
  exact ⟨hproper, fun id => (hchained.standing ⟨rfl, rfl, rfl⟩ hproper id).framed, hattempts⟩

/-- One list three times, and a flush: the second write breaks off, and the third opens another
connection. -/
def brokenVisits : List (Visit .current) :=
  let world : World .current Nodes :=
    ⟨.initial, .initial, [Node.idle (Wire.ofReplies [] [] [])]⟩
  [⟨world, .write spoofed⟩, ⟨world, .write spoofed⟩, ⟨world, .flush none none⟩,
    ⟨world, .write spoofed⟩]

/-- The first connection ends with the three bytes that the second write got through. -/
theorem run_framed_broken :
    let history := (Seat.mk 0 "" false).run
      (startingNode [] [.success, .short 3, .failure "broken pipe"] [] none) brokenVisits
    let payload := Utf8.encode
      (formatLines "" (Identity.ofList spoofed) spoofed.values spoofed.time)
    (∀ v ∈ brokenVisits, 0 < v.world.own.length) ∧
    history.1.map (·.reported) = [true, false, true, true] ∧
    history.2.wire.received 0 = payload ++ payload.take 3 ∧
    history.2.wire.received 1 = payload ∧
    (∀ t ∈ history.1, t.Proper) ∧
    (∀ id, Framed history.1 id (history.2.wire.received id)) ∧
    history.2.wire.attempts ≤ history.1.countP fun t => t.payload.isSome := by
  have hworlds : ∀ v ∈ brokenVisits, 0 < v.world.own.length := by decide
  exact ⟨hworlds, rfl, rfl, rfl, run_framed ⟨0, "", false⟩ []
    [.success, .short 3, .failure "broken pipe"] [] none brokenVisits hworlds⟩

end Graphite

end PluginKit
