import Mathlib.Data.List.Basic
import PluginKit.Graphite.Link

/-!
# `PluginKit.Proofs.Graphite.Link`: no connection carries a torn payload before its end

A node sends payloads over a connection that it opens when it needs one and gives up when something
goes wrong with it. What a turn of the node does at the other end is written down as `WireCall`s,
which account for all that becomes of the other end. A turn can go in a few ways only, and in each
of them it keeps its connection in order. From this follows what a connection has received after any
number of turns: the payloads of the sends that succeeded on it, and after them at most the
beginning of one more.

* `Performs`: calls lead from one state of the other end to another.
* `Course`, `course_act`: what a turn does, one case for each way that it can go.
* `Turn.Proper`, `Turn.proper_acting`: a turn keeps its connection in order.
* `Framed`, `Standing.snoc`: what a connection has received, and what each turn makes of it.
* `Chained.standing`, `Chained.attempts_le`: how things stand after any number of turns.
-/

set_option autoImplicit false

namespace PluginKit

namespace Graphite

/-- A call that a node makes on the other end, and what it came to. A write carries what it was
offered and what was taken of it, which are not the same when it fails. -/
inductive WireCall where
  | connect (result : Result ConnectionId)
  | write (id : ConnectionId) (offered taken : List UInt8) (result : Result Unit)
  | flush (id : ConnectionId) (result : Result Unit)
  deriving DecidableEq, Repr

namespace WireCall

/-- The connection that a call is made on. An attempt to connect is made on none. -/
def on? : WireCall → Option ConnectionId
  | .connect _ => none
  | .write id _ _ _ => some id
  | .flush id _ => some id

def Succeeds : WireCall → Prop
  | .connect result => ∃ id, result = .ok id
  | .write _ _ _ result => result = .ok ()
  | .flush _ result => result = .ok ()

def Panics : WireCall → Prop
  | .connect result => ∃ message, result = .panicked message
  | .write _ _ _ result => ∃ message, result = .panicked message
  | .flush _ result => ∃ message, result = .panicked message

def isConnect : WireCall → Bool
  | .connect _ => true
  | _ => false

def isWrite : WireCall → Bool
  | .write .. => true
  | _ => false

/-- The bytes that a connection accepts in a call. Other connections accept nothing in it. -/
def takenOn (id : ConnectionId) : WireCall → List UInt8
  | .write other _ taken _ => if other == id then taken else []
  | _ => []

/-- Only a write on a connection gives it anything. -/
theorem takenOn_eq_nil {id : ConnectionId} {call : WireCall}
    (h : (call.isWrite && call.on? == some id) = false) : call.takenOn id = [] := by
  cases call with
  | connect result => rfl
  | flush other result => rfl
  | write other offered taken result =>
      have hother : (other == id) = false := h
      show (if other == id then taken else []) = []
      rw [hother]
      rfl

end WireCall

/-! ### The other end -/

namespace Wire

/-- A write takes all that it is offered if it succeeds, and some beginning of it otherwise. One
write may be many replies of the other end: pieces taken, and interruptions after which it goes
on. -/
theorem writeReplies_taken (replies : List Reply) (offered : List UInt8) :
    (writeReplies replies offered).2.1 <+: offered ∧
      ((writeReplies replies offered).1 = .ok () →
        (writeReplies replies offered).2.1 = offered) := by
  induction replies, offered using writeReplies.induct with
  | case1 replies => simp [writeReplies]
  | case2 offered => simp [writeReplies]
  | case3 => simp [writeReplies]
  | case4 => simp [writeReplies]
  | case5 => simp [writeReplies]
  | case6 rest offered _ ih => simpa [writeReplies] using ih
  | case7 => simp [writeReplies]
  | case8 n rest offered hoffered result more left hrest ih =>
      -- what a short write has left is written next, and may break off in its turn
      rw [hrest] at ih
      have hsplit : offered.take (n + 1) ++ offered.drop (n + 1) = offered :=
        List.take_append_drop (n + 1) offered
      simp only [writeReplies, hrest]
      constructor
      · calc offered.take (n + 1) ++ more
            <+: offered.take (n + 1) ++ offered.drop (n + 1) :=
              (List.prefix_append_right_inj _).mpr ih.1
          _ = offered := hsplit
      · intro hok
        have hmore : more = offered.drop (n + 1) := ih.2 hok
        rw [hmore, hsplit]

/-- An attempt is counted and opens a connection if it succeeds. Nothing is accepted by it, so what
other connections have received stays as it is. -/
theorem connect_spec {w next : Wire} {result : Result ConnectionId}
    (h : w.connect = (result, next)) :
    next.accepted = w.accepted ∧ next.attempts = w.attempts + 1 ∧
      ((result = .ok w.opened ∧ next.opened = w.opened + 1) ∨
        (∀ id, result ≠ .ok id) ∧ next.opened = w.opened) := by
  unfold connect at h
  rcases hreply : nextReply w.connects with ⟨reply, rest⟩
  rw [hreply] at h
  -- a reply that is neither a failure nor a panic opens a connection, short ones too
  cases reply <;> cases h <;> simp

/-- A write adds one piece to what was accepted, and opens nothing. -/
theorem writeAll_spec {w next : Wire} {id : ConnectionId} {offered taken : List UInt8}
    {result : Result Unit} (h : w.writeAll id offered = (result, next))
    (htaken : (writeReplies w.writes offered).2.1 = taken) :
    next.accepted = w.accepted ++ [(id, taken)] ∧ next.attempts = w.attempts ∧
      next.opened = w.opened ∧ taken <+: offered ∧ (result = .ok () → taken = offered) := by
  have hoffered := writeReplies_taken w.writes offered
  subst htaken
  cases h
  exact ⟨rfl, rfl, rfl, hoffered⟩

/-- A flush changes nothing that is accounted for, whatever comes of it. -/
theorem flush_spec {w next : Wire} {result : Result Unit} (h : w.flush = (result, next)) :
    next.accepted = w.accepted ∧ next.attempts = w.attempts ∧ next.opened = w.opened := by
  unfold flush at h
  rcases hreply : nextReply w.flushes with ⟨reply, rest⟩
  rw [hreply] at h
  cases reply <;> cases h <;> exact ⟨rfl, rfl, rfl⟩

theorem received_of_accepted {w next : Wire} (h : next.accepted = w.accepted)
    (id : ConnectionId) : next.received id = w.received id := by
  unfold received
  rw [h]

/-- A piece that was accepted last is received by its connection alone. -/
theorem received_of_piece {w next : Wire} {other : ConnectionId} {taken : List UInt8}
    (h : next.accepted = w.accepted ++ [(other, taken)]) (id : ConnectionId) :
    next.received id = w.received id ++ if other == id then taken else [] := by
  unfold received
  rw [h, List.filter_append, List.flatMap_append]
  cases hid : other == id <;> simp [hid]

end Wire

/-- Calls that lead from one state of the other end to another. An attempt to connect may also be
refused before the other end hears of it, as an address that cannot be read is. -/
inductive Performs : Wire → List WireCall → Wire → Prop
  | nothing {w : Wire} : Performs w [] w
  | refused {w last : Wire} {message : String} {calls : List WireCall}
      (rest : Performs { w with attempts := w.attempts + 1 } calls last) :
      Performs w (.connect (.failed message) :: calls) last
  | connect {w next last : Wire} {result : Result ConnectionId} {calls : List WireCall}
      (call : w.connect = (result, next)) (rest : Performs next calls last) :
      Performs w (.connect result :: calls) last
  | write {w next last : Wire} {id : ConnectionId} {offered taken : List UInt8}
      {result : Result Unit} {calls : List WireCall} (call : w.writeAll id offered = (result, next))
      (accepted : (Wire.writeReplies w.writes offered).2.1 = taken)
      (rest : Performs next calls last) : Performs w (.write id offered taken result :: calls) last
  | flush {w next last : Wire} {id : ConnectionId} {result : Result Unit} {calls : List WireCall}
      (call : w.flush = (result, next)) (rest : Performs next calls last) :
      Performs w (.flush id result :: calls) last

namespace Performs

variable {w last : Wire} {calls : List WireCall}

/-- What a connection has received at the end is what it had before and what the calls have added.
All statements about connections are read off the calls by this. -/
theorem received_eq (h : Performs w calls last) (id : ConnectionId) :
    last.received id = w.received id ++ calls.flatMap (WireCall.takenOn id) := by
  induction h with
  | nothing => simp
  | refused rest ih =>
      rw [ih]
      rfl
  | connect call rest ih =>
      rw [ih, Wire.received_of_accepted (Wire.connect_spec call).1]
      rfl
  | write call accepted rest ih =>
      rw [ih, Wire.received_of_piece (Wire.writeAll_spec call accepted).1, List.append_assoc]
      rfl
  | flush call rest ih =>
      rw [ih, Wire.received_of_accepted (Wire.flush_spec call).1]
      rfl

/-- Every attempt to connect is counted. -/
theorem attempts_eq (h : Performs w calls last) :
    last.attempts = w.attempts + calls.countP WireCall.isConnect := by
  induction h with
  | nothing => rfl
  | refused rest ih =>
      rw [ih, List.countP_cons_of_pos rfl]
      show _ + 1 + _ = _
      omega
  | connect call rest ih =>
      rw [ih, (Wire.connect_spec call).2.1, List.countP_cons_of_pos rfl]
      omega
  | write call accepted rest ih =>
      rw [ih, (Wire.writeAll_spec call accepted).2.1, List.countP_cons_of_neg Bool.false_ne_true]
  | flush call rest ih =>
      rw [ih, (Wire.flush_spec call).2.1, List.countP_cons_of_neg Bool.false_ne_true]

/-- Connections are numbered as they are opened, and none is closed from this end's point of
view. -/
theorem opened_le (h : Performs w calls last) : w.opened ≤ last.opened := by
  induction h with
  | nothing => exact Nat.le_refl _
  | refused rest ih => exact ih
  | connect call rest ih =>
      rcases (Wire.connect_spec call).2.2 with ⟨-, hopened⟩ | ⟨-, hopened⟩ <;> omega
  | write call accepted rest ih => exact (Wire.writeAll_spec call accepted).2.2.1 ▸ ih
  | flush call rest ih => exact (Wire.flush_spec call).2.2 ▸ ih

/-- A connection that is opened gets a number that none had before, so it has received nothing
yet. -/
theorem opened_of_mem (h : Performs w calls last) {id : ConnectionId}
    (hmem : .connect (.ok id) ∈ calls) : w.opened ≤ id ∧ id < last.opened := by
  induction h with
  | nothing => cases hmem
  | refused rest ih => exact ih ((List.mem_cons.mp hmem).resolve_left nofun)
  | connect call rest ih =>
      -- this attempt has opened it, or a later one has
      rcases List.mem_cons.mp hmem with hhead | hmem
      · cases hhead
        rcases (Wire.connect_spec call).2.2 with ⟨hid, hopened⟩ | ⟨hnone, -⟩
        · cases hid
          exact ⟨Nat.le_refl _, Nat.lt_of_lt_of_le (hopened ▸ Nat.lt_succ_self _) (opened_le rest)⟩
        · exact absurd rfl (hnone id)
      · have hlater := ih hmem
        exact ⟨Nat.le_trans (opened_le (.connect call .nothing)) hlater.1, hlater.2⟩
  | write call accepted rest ih =>
      rw [← (Wire.writeAll_spec call accepted).2.2.1]
      exact ih ((List.mem_cons.mp hmem).resolve_left nofun)
  | flush call rest ih =>
      rw [← (Wire.flush_spec call).2.2]
      exact ih ((List.mem_cons.mp hmem).resolve_left nofun)

/-- Every write takes a beginning of what it is offered, and all of it if it succeeds. -/
theorem taken_of_mem (h : Performs w calls last) {id : ConnectionId}
    {offered taken : List UInt8} {result : Result Unit}
    (hmem : .write id offered taken result ∈ calls) :
    taken <+: offered ∧ (result = .ok () → taken = offered) := by
  induction h with
  | nothing => cases hmem
  | refused rest ih => exact ih ((List.mem_cons.mp hmem).resolve_left nofun)
  | connect call rest ih => exact ih ((List.mem_cons.mp hmem).resolve_left nofun)
  | write call accepted rest ih =>
      rcases List.mem_cons.mp hmem with hhead | hmem
      · cases hhead
        exact (Wire.writeAll_spec call accepted).2.2.2
      · exact ih hmem
  | flush call rest ih => exact ih ((List.mem_cons.mp hmem).resolve_left nofun)

end Performs

/-! ### The courses of a turn -/

/-- What a callback does with its node. -/
inductive Action where
  | send (payload : List UInt8)
  | flush
  deriving DecidableEq, Repr

/-- The payload of an action. -/
def Action.payload? : Action → Option (List UInt8)
  | .send payload => some payload
  | .flush => none

def Delivery.ofResult : Result Unit → Delivery
  | .ok () => .done
  | .failed message => .failed message
  | .panicked message => .panicked message

/-- How a payload goes over a connection: it is written, and flushed if all of it was taken. A write
that fails is not repeated. -/
inductive Carries (id : ConnectionId) (payload : List UInt8) : Result Unit → List WireCall → Prop
  | torn {taken : List UInt8} {result : Result Unit} (fails : result ≠ .ok ()) :
      Carries id payload result [.write id payload taken result]
  | written {taken : List UInt8} {result : Result Unit} :
      Carries id payload result [.write id payload taken (.ok ()), .flush id result]

/-- The calls that carry a payload over a connection. -/
def Wire.carriage (w : Wire) (id : ConnectionId) (payload : List UInt8) : List WireCall :=
  let written := w.writeAll id payload
  let call := WireCall.write id payload (writeReplies w.writes payload).2.1 written.1
  match written.1 with
  | .ok () => [call, .flush id written.2.flush.1]
  | _ => [call]

theorem Wire.carriage_spec (w : Wire) (id : ConnectionId) (payload : List UInt8) :
    Carries id payload (w.writeAndFlush id payload).1 (w.carriage id payload) ∧
      Performs w (w.carriage id payload) (w.writeAndFlush id payload).2 := by
  unfold writeAndFlush carriage
  rcases hwrite : w.writeAll id payload with ⟨_ | message | message, next⟩
  · exact ⟨.written, .write hwrite rfl (.flush rfl .nothing)⟩
  · exact ⟨.torn nofun, .write hwrite rfl .nothing⟩
  · exact ⟨.torn nofun, .write hwrite rfl .nothing⟩

namespace Node

/-- Does what a callback asks for. -/
def act (n : Node) : Action → Delivery × Node
  | .send payload => ((n.send payload).1.1, (n.send payload).2)
  | .flush => n.flush

/-- The connection that the next turn finds. Behind a poisoned lock there is none, though the node
may hold one. -/
def connection (n : Node) : Option ConnectionId := if n.poisoned then none else n.held

/-- The calls that a turn makes on the other end. -/
def calls (n : Node) (a : Action) : List WireCall :=
  if n.poisoned then []
  else
    match a, n.held with
    | .flush, none => []
    | .flush, some id => [.flush id n.wire.flush.1]
    | .send payload, some id => n.wire.carriage id payload
    | .send payload, none =>
      match n.refusal, n.wire.connect with
      | some message, _ => [.connect (.failed message)]
      | none, (.ok id, opened) => .connect (.ok id) :: opened.carriage id payload
      | none, (result, _) => [.connect result]

/-- A node after calls on its connection: it keeps a connection that works and gives up one that
fails; a panic makes it unusable. -/
def leave (n : Node) (wire : Wire) : Result Unit → Node
  | .ok () => { n with wire := wire }
  | .failed _ => { n with wire := wire, held := none }
  | .panicked _ => { n with wire := wire, poisoned := true }

theorem wire_leave (n : Node) (wire : Wire) (result : Result Unit) :
    (n.leave wire result).wire = wire := by
  rcases result with _ | message | message <;> rfl

theorem connection_of_usable {n : Node} (h : n.poisoned = false) : n.connection = n.held := by
  unfold connection
  rw [h]
  rfl

/-- After calls on a connection a node has that connection exactly if they went well. -/
theorem connection_leave {n : Node} (h : n.poisoned = false) (wire : Wire)
    (result : Result Unit) (id : ConnectionId) :
    (n.leave wire result).connection = some id ↔ n.held = some id ∧ result = .ok () := by
  rcases result with _ | message | message <;> simp [leave, connection, h]

/-- The lock is poisoned by a panic and by nothing else. -/
theorem poisoned_leave {n : Node} (h : n.poisoned = false) (wire : Wire)
    (result : Result Unit) :
    (n.leave wire result).poisoned = true ↔ ∃ message, result = .panicked message := by
  rcases result with _ | message | message <;> simp [leave, h]

end Node

/-- How a turn goes that does what it is asked for: the calls it makes, how it ends, and the node
that it leaves. There is one case for each way through the code. -/
inductive Course (n : Node) : Action → List WireCall → Delivery → Node → Prop
  /-- The lock is poisoned. -/
  | locked {a : Action} (poisoned : n.poisoned = true) : Course n a [] .poisoned n
  /-- There is nothing to flush. -/
  | idle (usable : n.poisoned = false) (held : n.held = none) : Course n .flush [] .done n
  | flushed {id : ConnectionId} {result : Result Unit} {wire : Wire}
      (usable : n.poisoned = false) (held : n.held = some id)
      (call : n.wire.flush = (result, wire)) :
      Course n .flush [.flush id result] (.ofResult result) (n.leave wire result)
  /-- No connection can be had. -/
  | unconnected {payload : List UInt8} {message : String} {wire : Wire}
      (usable : n.poisoned = false) (held : n.held = none)
      (performs : Performs n.wire [.connect (.failed message)] wire) :
      Course n (.send payload) [.connect (.failed message)] (.notConnected message)
        { n with wire := wire }
  /-- Connecting panics. -/
  | broken {payload : List UInt8} {message : String} {wire : Wire}
      (usable : n.poisoned = false) (held : n.held = none)
      (performs : Performs n.wire [.connect (.panicked message)] wire) :
      Course n (.send payload) [.connect (.panicked message)] (.panicked message)
        { n with wire := wire, poisoned := true }
  /-- The payload goes over the connection that is held. -/
  | kept {payload : List UInt8} {id : ConnectionId} {result : Result Unit} {wire : Wire}
      {calls : List WireCall} (usable : n.poisoned = false) (held : n.held = some id)
      (carries : Carries id payload result calls) (performs : Performs n.wire calls wire) :
      Course n (.send payload) calls (.ofResult result) (n.leave wire result)
  /-- The payload goes over a connection that is opened for it. -/
  | opened {payload : List UInt8} {id : ConnectionId} {result : Result Unit} {wire next : Wire}
      {calls : List WireCall} (usable : n.poisoned = false) (held : n.held = none)
      (call : n.wire.connect = (.ok id, next)) (carries : Carries id payload result calls)
      (performs : Performs next calls wire) :
      Course n (.send payload) (.connect (.ok id) :: calls) (.ofResult result)
        ({ n with wire := next, held := some id }.leave wire result)

/-- How a turn ends that has carried a payload. It is used twice, for a connection that was held and
for one that was just opened. -/
theorem course_carried {n : Node} {a : Action} {calls : List WireCall} {fresh : Bool} {next : Node}
    {w : Wire} {id : ConnectionId} {payload : List UInt8}
    (h : ∀ result wire, Carries id payload result (w.carriage id payload) →
      Performs w (w.carriage id payload) wire →
      Course n a calls (.ofResult result) (next.leave wire result)) :
    let ended : (Delivery × Bool) × Node := match w.writeAndFlush id payload with
      | (.ok (), wire) => ((.done, fresh), { next with wire := wire })
      | (.failed message, wire) =>
        ((.failed message, fresh), { next with wire := wire, held := none })
      | (.panicked message, wire) =>
        ((.panicked message, fresh), { next with wire := wire, poisoned := true })
    Course n a calls ended.1.1 ended.2 := by
  have hcarriage := w.carriage_spec id payload
  rcases hcarried : w.writeAndFlush id payload with ⟨_ | message | message, wire⟩ <;>
    rw [hcarried] at hcarriage
  · exact h _ _ hcarriage.1 hcarriage.2
  · exact h _ _ hcarriage.1 hcarriage.2
  · exact h _ _ hcarriage.1 hcarriage.2

/-- A turn takes one of the courses. This is the only proof that goes through the code of a turn. -/
theorem course_act (n : Node) (a : Action) : Course n a (n.calls a) (n.act a).1 (n.act a).2 := by
  obtain ⟨held, poisoned, refusal, wire⟩ := n
  cases poisoned with
  | true =>
      -- the lock is asked for before anything else
      cases a <;> exact .locked rfl
  | false =>
      cases a with
      | flush =>
          cases held with
          | none => exact .idle rfl rfl
          | some id =>
              rcases hflush : wire.flush with ⟨_ | message | message, next⟩ <;>
                simp only [Node.calls, Node.act, Node.flush, hflush]
              · exact .flushed rfl rfl hflush
              · exact .flushed rfl rfl hflush
              · exact .flushed rfl rfl hflush
      | send payload =>
          cases held with
          | some id =>
              exact course_carried fun result next hcarries hperforms =>
                .kept rfl rfl hcarries hperforms
          | none =>
              -- a connection has to be had first, if there is nothing against it
              cases refusal with
              | some message => exact .unconnected rfl rfl (.refused .nothing)
              | none =>
                  rcases hconnect : wire.connect with ⟨id | message | message, next⟩ <;>
                    simp only [Node.calls, Node.act, Node.send, Node.obtain, hconnect]
                  · exact course_carried fun result last hcarries hperforms =>
                      .opened rfl rfl hconnect hcarries hperforms
                  · exact .unconnected rfl rfl (.connect hconnect .nothing)
                  · exact .broken rfl rfl (.connect hconnect .nothing)

/-! ### Turns -/

/-- What is known of a callback's turn at a node: the node before and after it, what it had to send,
the calls that it made, and whether it reported success. -/
structure Turn where
  before : Node
  /-- What it had to send. -/
  payload : Option (List UInt8)
  calls : List WireCall
  /-- The callback reported success. -/
  reported : Bool
  after : Node

namespace Turn

/-- A turn that does something. -/
def acting (n : Node) (a : Action) : Turn :=
  ⟨n, a.payload?, n.calls a, (n.act a).1 = .done, (n.act a).2⟩

/-- A turn that does nothing. -/
def idle (n : Node) (payload : Option (List UInt8)) (reported : Bool) : Turn :=
  ⟨n, payload, [], reported, n⟩

/-- The turn has a connection of this number, one that was held before or one that it opened. It has
one at most. -/
def Has (t : Turn) (id : ConnectionId) : Prop :=
  t.before.connection = some id ∨ .connect (.ok id) ∈ t.calls

/-- The turn writes to a connection. -/
def writesTo (id : ConnectionId) (t : Turn) : Bool :=
  t.calls.any fun call => call.isWrite && call.on? == some id

/-- What a connection accepts in the turn. -/
def takenOn (id : ConnectionId) (t : Turn) : List UInt8 :=
  t.calls.flatMap (WireCall.takenOn id)

/-- A turn that stays with one connection and leaves it as it should: held if it works, given up if
not, and out of reach after a panic. -/
structure Settled (t : Turn) : Prop where
  /-- Calls are made on the turn's own connection. -/
  own : ∀ call ∈ t.calls, ∀ id, call.on? = some id → t.Has id
  /-- The connection stays exactly if everything on it went well. -/
  held_iff : ∀ id, t.after.connection = some id ↔
    t.Has id ∧ ∀ call ∈ t.calls, call.on? = some id → call.Succeeds
  /-- The lock is poisoned by panics and by nothing else. -/
  poisoned_iff : t.after.poisoned = true ↔
    t.before.poisoned = true ∨ ∃ call ∈ t.calls, call.Panics

/-- A turn that keeps its connection in order. The fields are what a reader at the other end and the
daemon at this end can rely on. -/
structure Proper (t : Turn) : Prop extends Settled t where
  /-- The calls are all that has happened at the other end. -/
  performs : Performs t.before.wire t.calls t.after.wire
  /-- Only the payload is written, and it is written once at most. -/
  offered : ∀ id offered taken result, .write id offered taken result ∈ t.calls →
    t.payload = some offered
  once : t.calls.countP WireCall.isWrite ≤ 1
  /-- A connection is attempted for a payload that finds none, and once at most. -/
  attempted : ∀ result, .connect result ∈ t.calls → t.payload ≠ none ∧ t.before.connection = none
  one_attempt : t.calls.countP WireCall.isConnect ≤ 1
  /-- Success is reported for a payload that was taken as a whole and flushed. -/
  delivered : t.reported = true → ∀ payload, t.payload = some payload →
    ∃ id, .write id payload payload (.ok ()) ∈ t.calls ∧ .flush id (.ok ()) ∈ t.calls
  /-- After a payload was written and no success reported, something has gone wrong on its
  connection. -/
  noticed : ∀ id, t.writesTo id = true → t.reported = false →
    ∃ call ∈ t.calls, call.on? = some id ∧ ¬ call.Succeeds

/-- A turn that does nothing is proper, unless it claims to have sent a payload. -/
theorem proper_idle (n : Node) {payload : Option (List UInt8)} {reported : Bool}
    (h : reported = true → payload = none) : (idle n payload reported).Proper where
  performs := .nothing
  offered _ _ _ _ h := by cases h
  once := Nat.zero_le 1
  attempted _ h := by cases h
  one_attempt := Nat.zero_le 1
  own _ h := by cases h
  held_iff id := by simp [idle, Has]
  poisoned_iff := by simp [idle]
  delivered hreported _ hpayload := by cases (h hreported).symm.trans hpayload
  noticed _ h := by cases h

/-! ### Every turn is proper -/

/-- Calls on one connection, and what they come to together. The last of them decides, as a call
that fails is the last. -/
structure Uses (id : ConnectionId) (result : Result Unit) (calls : List WireCall) : Prop where
  on : ∀ call ∈ calls, call.on? = some id
  succeeds_iff : result = .ok () ↔ ∀ call ∈ calls, call.Succeeds
  panics_iff : (∃ message, result = .panicked message) ↔ ∃ call ∈ calls, call.Panics

theorem uses_flush (id : ConnectionId) (result : Result Unit) :
    Uses id result [.flush id result] where
  on call hcall := by
    cases List.mem_singleton.mp hcall
    rfl
  succeeds_iff := by simp [WireCall.Succeeds]
  panics_iff := by simp [WireCall.Panics]

variable {id : ConnectionId} {payload : List UInt8} {result : Result Unit}
  {calls : List WireCall}

/-- Carrying a payload comes to what its last call comes to. -/
theorem uses_of_carries (h : Carries id payload result calls) : Uses id result calls := by
  -- a write that fails is the last call; one that succeeds leaves the outcome to the flush
  cases h with
  | torn hfails => constructor <;> simp [WireCall.on?, WireCall.Succeeds, WireCall.Panics]
  | written => constructor <;> simp [WireCall.on?, WireCall.Succeeds, WireCall.Panics]

/-- A turn that uses one connection is settled by leaving that connection. What the turn did to get
it is `opening`, which is nothing or one call that opened it. -/
theorem settled_of_uses {t : Turn} {n : Node} {opening : List WireCall} {wire : Wire}
    (huses : Uses id result calls) (hcalls : t.calls = opening ++ calls)
    (hopening : ∀ call ∈ opening, call = .connect (.ok id))
    (hhas : ∀ other, t.Has other ↔ n.held = some other) (hheld : n.held = some id)
    (husable : t.before.poisoned = false) (hn : n.poisoned = false)
    (hafter : t.after = n.leave wire result) : t.Settled := by
  -- what stands before the calls on the connection has succeeded, on no connection
  have hon (call : WireCall) (hcall : call ∈ t.calls) (other : ConnectionId)
      (hother : call.on? = some other) : call ∈ calls ∧ other = id := by
    rw [hcalls] at hcall
    rcases List.mem_append.mp hcall with hcall | hcall
    · rw [hopening call hcall] at hother
      cases hother
    · exact ⟨hcall, Option.some.inj (hother.symm.trans (huses.on call hcall))⟩
  refine ⟨fun call hcall other hother => ?_, fun other => ?_, ?_⟩
  · obtain ⟨-, rfl⟩ := hon call hcall other hother
    exact (hhas other).mpr hheld
  · rw [hafter, Node.connection_leave hn, huses.succeeds_iff, hhas]
    refine and_congr_right fun hother => ⟨fun hall call hcall hon' => ?_, fun hall call hcall => ?_⟩
    · exact hall call (hon call hcall other hon').1
    · have hid : other = id := Option.some.inj (hother.symm.trans hheld)
      refine hall call ?_ ((huses.on call hcall).trans (congrArg some hid.symm))
      rw [hcalls]
      exact List.mem_append_right opening hcall
  · rw [hafter, Node.poisoned_leave hn, huses.panics_iff, husable, hcalls]
    constructor
    · rintro ⟨call, hcall, hpanics⟩
      exact Or.inr ⟨call, List.mem_append_right opening hcall, hpanics⟩
    · rintro (hfalse | ⟨call, hcall, hpanics⟩)
      · cases hfalse
      · rcases List.mem_append.mp hcall with hcall | hcall
        · rw [hopening call hcall] at hpanics
          obtain ⟨message, hmessage⟩ := hpanics
          cases hmessage
        · exact ⟨call, hcall, hpanics⟩

/-- A turn with a connection of its own opens no other. -/
theorem has_iff_of_held {t : Turn} (huses : Uses id result t.calls)
    (husable : t.before.poisoned = false) (other : ConnectionId) :
    t.Has other ↔ t.before.held = some other := by
  unfold Has
  rw [Node.connection_of_usable husable]
  refine or_iff_left fun hconnect => ?_
  cases huses.on _ hconnect

/-- A turn without a connection has the one that it opens. -/
theorem has_iff_of_opened {t : Turn} (huses : Uses id result calls)
    (hcalls : t.calls = .connect (.ok id) :: calls) (hnone : t.before.connection = none)
    (other : ConnectionId) : t.Has other ↔ some id = some other := by
  unfold Has
  rw [hnone, hcalls]
  constructor
  · rintro (hheld | hconnect)
    · cases hheld
    · rcases List.mem_cons.mp hconnect with hhead | hconnect
      · cases hhead
        rfl
      · cases huses.on _ hconnect
  · intro hid
    cases hid
    exact Or.inr List.mem_cons_self

/-- A payload that is carried is written once, as a whole if carrying it comes to success, and the
write is followed by a flush at most. -/
theorem write_of_carries (h : Carries id payload result calls) :
    ∃ taken written rest, calls = .write id payload taken written :: rest ∧
      (∀ call ∈ rest, call.isWrite = false ∧ call.isConnect = false) ∧
      (result = .ok () → written = .ok () ∧ .flush id (.ok ()) ∈ rest) := by
  cases h with
  | @torn taken _ hfails => exact ⟨taken, result, [], rfl, nofun, fun h => absurd h hfails⟩
  | @written taken =>
      refine ⟨taken, .ok (), [.flush id result], rfl, ?_, ?_⟩
      · intro call hcall
        cases List.mem_singleton.mp hcall
        exact ⟨rfl, rfl⟩
      · rintro rfl
        exact ⟨rfl, List.mem_singleton_self _⟩

/-- A turn that carries its payload over its connection is proper. What is left to show of such a
turn is how it came by the connection. -/
theorem proper_of_carries {t : Turn} {opening : List WireCall} (hsettled : t.Settled)
    (hperforms : Performs t.before.wire t.calls t.after.wire)
    (hcarries : Carries id payload result calls) (hcalls : t.calls = opening ++ calls)
    (hopening : ∀ call ∈ opening, call = .connect (.ok id) ∧ t.before.connection = none)
    (hlength : opening.length ≤ 1) (hpayload : t.payload = some payload)
    (hreported : t.reported = true ↔ result = .ok ()) : t.Proper := by
  have huses := uses_of_carries hcarries
  obtain ⟨taken, written, rest, hwrite, hrest, hok⟩ := write_of_carries hcarries
  have hmem : .write id payload taken written ∈ t.calls := by
    rw [hcalls, hwrite]
    exact List.mem_append_right opening List.mem_cons_self
  -- the payload's write is the only one, and there is no attempt but the opening one
  have hwrites (call : WireCall) (hcall : call ∈ t.calls) (hiswrite : call.isWrite = true) :
      call = .write id payload taken written := by
    rw [hcalls, hwrite] at hcall
    rcases List.mem_append.mp hcall with hcall | hcall
    · rw [(hopening call hcall).1] at hiswrite
      cases hiswrite
    · rcases List.mem_cons.mp hcall with hcall | hcall
      · exact hcall
      · exact absurd hiswrite (Bool.eq_false_iff.mp (hrest call hcall).1)
  have hconnects (call : WireCall) (hcall : call ∈ t.calls) (hisconnect : call.isConnect = true) :
      call ∈ opening := by
    rw [hcalls, hwrite] at hcall
    rcases List.mem_append.mp hcall with hcall | hcall
    · exact hcall
    · rcases List.mem_cons.mp hcall with rfl | hcall
      · cases hisconnect
      · exact absurd hisconnect (Bool.eq_false_iff.mp (hrest call hcall).2)
  refine { hsettled with
    performs := hperforms, offered := ?_, once := ?_, attempted := ?_, one_attempt := ?_
    delivered := ?_, noticed := ?_ }
  · intro other offered part ended hcall
    cases hwrites _ hcall rfl
    exact hpayload
  · have hnone : opening.countP WireCall.isWrite = 0 := List.countP_eq_zero.mpr fun call hcall => by
      rw [(hopening call hcall).1]
      exact Bool.false_ne_true
    have hlater : rest.countP WireCall.isWrite = 0 := List.countP_eq_zero.mpr fun call hcall =>
      Bool.eq_false_iff.mp (hrest call hcall).1
    rw [hcalls, hwrite, List.countP_append, List.countP_cons, hnone, hlater]
    exact Nat.le_refl 1
  · intro ended hcall
    refine ⟨by rw [hpayload]; exact nofun, ?_⟩
    exact (hopening _ (hconnects _ hcall rfl)).2
  · have hlater : rest.countP WireCall.isConnect = 0 := List.countP_eq_zero.mpr fun call hcall =>
      Bool.eq_false_iff.mp (hrest call hcall).2
    rw [hcalls, hwrite, List.countP_append, List.countP_cons, hlater]
    exact Nat.le_trans List.countP_le_length hlength
  · intro hsuccess whole hwhole
    obtain ⟨rfl, hflush⟩ := hok (hreported.mp hsuccess)
    cases hpayload.symm.trans hwhole
    obtain rfl : taken = payload := (hperforms.taken_of_mem hmem).2 rfl
    refine ⟨id, hmem, ?_⟩
    rw [hcalls, hwrite]
    exact List.mem_append_right opening (List.mem_cons_of_mem _ hflush)
  · intro other hother hfailure
    obtain ⟨call, hcall, hiswrite⟩ := List.any_eq_true.mp hother
    rw [Bool.and_eq_true] at hiswrite
    obtain rfl : other = id := by
      have hon := hiswrite.2
      rw [hwrites call hcall hiswrite.1] at hon
      exact (Option.some.inj (eq_of_beq hon)).symm
    have hfails : ¬ ∀ call ∈ calls, call.Succeeds := fun h => by
      rw [hreported.mpr (huses.succeeds_iff.mpr h)] at hfailure
      cases hfailure
    push Not at hfails
    obtain ⟨call, hcall, hfails⟩ := hfails
    refine ⟨call, ?_, huses.on call hcall, hfails⟩
    rw [hcalls]
    exact List.mem_append_right opening hcall

theorem ofResult_eq_done_iff (result : Result Unit) :
    Delivery.ofResult result = .done ↔ result = .ok () := by
  rcases result with _ | message | message <;> simp [Delivery.ofResult]

/-- An attempt that comes to nothing is all that its turn does, and the next payload makes
another. -/
theorem proper_of_unconnected {n after : Node} {ended : Result ConnectionId}
    (husable : n.poisoned = false) (hheld : n.held = none) (hfails : ∀ id, ended ≠ .ok id)
    (hafter : after.held = none)
    (hpoisoned : after.poisoned = true ↔ ∃ message, ended = .panicked message)
    (hperforms : Performs n.wire [.connect ended] after.wire) :
    (⟨n, some payload, [.connect ended], false, after⟩ : Turn).Proper where
  -- The one call is an attempt that opened nothing, so whatever is asked of a payload is void.
  own call hcall id hid := by
    cases List.mem_singleton.mp hcall
    cases hid
  held_iff id := by
    have hnone : after.connection = none := by
      unfold Node.connection
      rw [hafter, ite_self]
    have hbefore : n.connection = none := (Node.connection_of_usable husable).trans hheld
    rw [hnone]
    refine iff_of_false nofun ?_
    rintro ⟨hheld | hopened, -⟩
    · cases hbefore.symm.trans hheld
    · cases List.mem_singleton.mp hopened
      exact hfails id rfl
  poisoned_iff := by
    simpa [husable, WireCall.Panics] using hpoisoned
  performs := hperforms
  offered id offered taken result h := by cases List.mem_singleton.mp h
  once := Nat.zero_le 1
  attempted result h := ⟨nofun, (Node.connection_of_usable husable).trans hheld⟩
  one_attempt := Nat.le_refl 1
  delivered h := by cases h
  noticed id h := by cases h

/-- Every course is one of a proper turn. -/
theorem proper_of_course {n after : Node} {a : Action} {delivery : Delivery}
    (h : Course n a calls delivery after) :
    (⟨n, a.payload?, calls, delivery = .done, after⟩ : Turn).Proper := by
  -- By the ways a callback can go. Where a connection is used, what it does to the node is
  -- `settled_of_uses`, and what it carries is `proper_of_carries`.
  cases h with
  | locked hpoisoned => exact proper_idle n nofun
  | idle husable hheld => exact proper_idle n fun _ => rfl
  | @flushed id result wire husable hheld hcall =>
      have huses := uses_flush id result
      have hsettled : (⟨n, none, [.flush id result], Delivery.ofResult result = .done,
          n.leave wire result⟩ : Turn).Settled :=
        settled_of_uses huses (List.nil_append _).symm nofun
          (has_iff_of_held huses husable) hheld husable husable rfl
      have hperformed : Performs n.wire [.flush id result] (n.leave wire result).wire := by
        rw [Node.wire_leave]
        exact .flush hcall .nothing
      exact { hsettled with
        performs := hperformed
        offered := fun _ _ _ _ hmem => by cases List.mem_singleton.mp hmem
        once := Nat.zero_le 1
        attempted := fun _ hmem => by cases List.mem_singleton.mp hmem
        one_attempt := Nat.zero_le 1
        delivered := nofun
        noticed := nofun }
  | @unconnected payload message wire husable hheld hperforms =>
      exact proper_of_unconnected husable hheld nofun hheld (by simp [husable]) hperforms
  | @broken payload message wire husable hheld hperforms =>
      exact proper_of_unconnected husable hheld nofun hheld (by simp) hperforms
  | @kept payload id result wire calls husable hheld hcarries hperforms =>
      have huses := uses_of_carries hcarries
      have hsettled : (⟨n, some payload, calls, Delivery.ofResult result = .done,
          n.leave wire result⟩ : Turn).Settled :=
        settled_of_uses huses (List.nil_append _).symm nofun
          (has_iff_of_held huses husable) hheld husable husable rfl
      have hperformed : Performs n.wire calls (n.leave wire result).wire := by
        rw [Node.wire_leave]
        exact hperforms
      exact proper_of_carries hsettled hperformed hcarries (List.nil_append _).symm nofun
        (Nat.zero_le 1) rfl (decide_eq_true_iff.trans (ofResult_eq_done_iff result))
  | @opened payload id result wire next calls husable hheld hcall hcarries hperforms =>
      have huses := uses_of_carries hcarries
      have hnone : n.connection = none := (Node.connection_of_usable husable).trans hheld
      let opened : Node := { n with wire := next, held := some id }
      have hsettled : (⟨n, some payload, .connect (.ok id) :: calls,
          Delivery.ofResult result = .done, opened.leave wire result⟩ : Turn).Settled :=
        settled_of_uses (n := opened) huses
          (show _ = [WireCall.connect (.ok id)] ++ calls from rfl)
          (fun _ => List.mem_singleton.mp) (has_iff_of_opened huses rfl hnone) rfl husable husable
          rfl
      have hperformed : Performs n.wire (.connect (.ok id) :: calls)
          (opened.leave wire result).wire := by
        rw [Node.wire_leave]
        exact .connect hcall hperforms
      exact proper_of_carries hsettled hperformed hcarries
        (show _ = [WireCall.connect (.ok id)] ++ calls from rfl)
        (fun call hmem => ⟨List.mem_singleton.mp hmem, hnone⟩) (Nat.le_refl 1) rfl
        (decide_eq_true_iff.trans (ofResult_eq_done_iff result))

/-- A node keeps its connection in order in all that it is asked to do, from whatever state it is
in. -/
theorem proper_acting (n : Node) (a : Action) : (acting n a).Proper :=
  proper_of_course (course_act n a)

end Turn

/-! ### One turn after the other -/

/-- Turns that follow each other at a node, and the node after them. It grows at the end, because
what a turn finds is what all turns before it have left. -/
inductive Chained (start : Node) : List Turn → Node → Prop
  | nil : Chained start [] start
  | snoc {turns : List Turn} {t : Turn} (earlier : Chained start turns t.before) :
      Chained start (turns ++ [t]) t.after

/-- What a connection has received in turns that come after each other: the payloads of the turns
that wrote to it and succeeded, in their order, and then at most the beginning of one payload more,
from a turn that failed and was the last to write to it. -/
structure Framed (turns : List Turn) (id : ConnectionId) (received : List UInt8) : Prop where
  frames : ∃ whole broken, turns.filter (Turn.writesTo id) = whole ++ broken ∧
    broken.length ≤ 1 ∧
    received = whole.flatMap (fun t => t.payload.getD []) ++ broken.flatMap (Turn.takenOn id) ∧
    (∀ t ∈ whole, t.reported = true) ∧
    ∀ t ∈ broken, t.reported = false ∧ t.takenOn id <+: t.payload.getD []

/-- How things stand with a connection after some turns. `Framed` alone is no invariant: a turn may
go on with a connection only if nothing is torn on it, which is `whole`. -/
structure Standing (turns : List Turn) (n : Node) (id : ConnectionId) : Prop where
  framed : Framed turns id (n.wire.received id)
  /-- The connection that is held carries whole payloads only. -/
  whole : n.connection = some id → ∀ t ∈ turns, t.writesTo id = true → t.reported = true
  /-- Turns only write to connections that were opened. -/
  opened : n.connection = some id ∨ (∃ t ∈ turns, t.writesTo id = true) → id < n.wire.opened

namespace Turn

variable {t : Turn} {id : ConnectionId}

/-- A connection that is not written to accepts nothing. -/
theorem takenOn_of_not_writesTo (h : t.writesTo id = false) : t.takenOn id = [] :=
  List.flatMap_eq_nil_iff.mpr fun call hcall =>
    WireCall.takenOn_eq_nil (Bool.eq_false_iff.mpr (List.any_eq_false.mp h call hcall))

/-- A turn that writes once at most has no two writes, so the bytes that it adds come from one
payload. -/
theorem write_unique (honce : t.calls.countP WireCall.isWrite ≤ 1) {call other : WireCall}
    (hcall : call ∈ t.calls) (hother : other ∈ t.calls) (hwrite : call.isWrite = true)
    (hwrites : other.isWrite = true) : other = call := by
  obtain ⟨before, after, hcalls⟩ := List.append_of_mem hcall
  rw [hcalls, List.countP_append, List.countP_cons_of_pos hwrite] at honce
  have hnone (calls : List WireCall) (h : calls.countP WireCall.isWrite = 0) : other ∉ calls :=
    fun hmem => List.countP_eq_zero.mp h other hmem hwrites
  rw [hcalls] at hother
  rcases List.mem_append.mp hother with hmem | hmem
  · exact absurd hmem (hnone before (by omega))
  · rcases List.mem_cons.mp hmem with rfl | hmem
    · rfl
    · exact absurd hmem (hnone after (by omega))

/-- What a connection accepts in a turn that writes to it is what that one write has taken. -/
theorem takenOn_of_write (honce : t.calls.countP WireCall.isWrite ≤ 1)
    {offered taken : List UInt8} {result : Result Unit}
    (hwrite : .write id offered taken result ∈ t.calls) : t.takenOn id = taken := by
  obtain ⟨before, after, hcalls⟩ := List.append_of_mem hwrite
  rw [hcalls, List.countP_append, List.countP_cons_of_pos rfl] at honce
  -- before the write and after it there is none, so nothing is taken there
  have hnone (calls : List WireCall) (h : calls.countP WireCall.isWrite = 0) :
      calls.flatMap (WireCall.takenOn id) = [] := by
    refine List.flatMap_eq_nil_iff.mpr fun call hcall => WireCall.takenOn_eq_nil ?_
    rw [Bool.eq_false_iff.mpr (List.countP_eq_zero.mp h call hcall), Bool.false_and]
  unfold takenOn
  rw [hcalls, List.flatMap_append, List.flatMap_cons, hnone before (by omega),
    hnone after (by omega)]
  show [] ++ ((if id == id then taken else []) ++ []) = taken
  rw [beq_self_eq_true, if_pos rfl, List.nil_append, List.append_nil]

/-- A proper turn that writes to a connection has it, and the connection accepts a beginning of its
payload: all of it if the turn reports success. -/
theorem Proper.of_writesTo (hproper : t.Proper) (h : t.writesTo id = true) :
    t.Has id ∧ t.takenOn id <+: t.payload.getD [] ∧
      (t.reported = true → t.takenOn id = t.payload.getD []) := by
  obtain ⟨call, hcall, hwrites⟩ := List.any_eq_true.mp h
  rw [Bool.and_eq_true] at hwrites
  cases call with
  | connect result => cases hwrites.1
  | flush other result => cases hwrites.1
  | write other offered taken result =>
      obtain rfl : other = id := Option.some.inj (eq_of_beq hwrites.2)
      have hpayload := hproper.offered other offered taken result hcall
      rw [takenOn_of_write hproper.once hcall, hpayload]
      refine ⟨hproper.own _ hcall other rfl, (hproper.performs.taken_of_mem hcall).1, ?_⟩
      intro hreported
      -- the write that success was reported for is this one
      obtain ⟨id, hwhole, -⟩ := hproper.delivered hreported offered hpayload
      cases write_unique hproper.once hcall hwhole rfl rfl
      rfl

end Turn

/-- A proper turn keeps the standing of every connection: of one that it does not write to, because
nothing is added; of its own, because nothing was torn on it before. -/
theorem Standing.snoc {turns : List Turn} {t : Turn} {id : ConnectionId} (hproper : t.Proper)
    (h : Standing turns t.before id) : Standing (turns ++ [t]) t.after id := by
  have hreceived : t.after.wire.received id = t.before.wire.received id ++ t.takenOn id :=
    hproper.performs.received_eq id
  have hgrows := hproper.performs.opened_le
  have hlater (hhas : t.Has id) : id < t.after.wire.opened := by
    rcases hhas with hheld | hopened
    · exact Nat.lt_of_lt_of_le (h.opened (Or.inl hheld)) hgrows
    · exact (hproper.performs.opened_of_mem hopened).2
  -- a connection that the turn has carries whole payloads, also when it is new
  have hwhole (hhas : t.Has id) : ∀ u ∈ turns, u.writesTo id = true → u.reported = true := by
    rcases hhas with hheld | hopened
    · exact h.whole hheld
    · intro u hu hwrites
      have hold := h.opened (Or.inr ⟨u, hu, hwrites⟩)
      exact absurd hold (Nat.not_lt.mpr (hproper.performs.opened_of_mem hopened).1)
  obtain ⟨whole, broken, hfilter, hlength, hframes, hgood, hbad⟩ := h.framed.frames
  cases hwrites : t.writesTo id with
  | false =>
      have hsame : (turns ++ [t]).filter (Turn.writesTo id) = turns.filter (Turn.writesTo id) := by
        rw [List.filter_append, List.filter_cons_of_neg (by rw [hwrites]; exact nofun),
          List.filter_nil, List.append_nil]
      refine ⟨⟨whole, broken, hsame.trans hfilter, hlength, ?_, hgood, hbad⟩, ?_, ?_⟩
      · rw [hreceived, Turn.takenOn_of_not_writesTo hwrites, List.append_nil, hframes]
      · intro hheld u hu hu'
        rcases List.mem_append.mp hu with hu | hu
        · exact hwhole ((hproper.held_iff id).mp hheld).1 u hu hu'
        · cases List.mem_singleton.mp hu
          cases hwrites.symm.trans hu'
      · rintro (hheld | ⟨u, hu, hu'⟩)
        · exact hlater ((hproper.held_iff id).mp hheld).1
        · rcases List.mem_append.mp hu with hu | hu
          · exact Nat.lt_of_lt_of_le (h.opened (Or.inr ⟨u, hu, hu'⟩)) hgrows
          · cases List.mem_singleton.mp hu
            cases hwrites.symm.trans hu'
  | true =>
      obtain ⟨hhas, hpart, hall⟩ := hproper.of_writesTo hwrites
      -- nothing has gone wrong on the connection before
      obtain rfl : broken = [] := by
        refine List.eq_nil_iff_forall_not_mem.mpr fun u hu => ?_
        have hmem : u ∈ turns.filter (Turn.writesTo id) := by
          rw [hfilter]
          exact List.mem_append_right whole hu
        have hreported := hwhole hhas u (List.mem_filter.mp hmem).1 (List.mem_filter.mp hmem).2
        cases hreported.symm.trans (hbad u hu).1
      rw [List.append_nil] at hfilter
      rw [List.flatMap_nil, List.append_nil] at hframes
      have hmore : (turns ++ [t]).filter (Turn.writesTo id) = whole ++ [t] := by
        rw [List.filter_append, List.filter_cons_of_pos hwrites, List.filter_nil, hfilter]
      refine ⟨⟨?_⟩, ?_, fun _ => hlater hhas⟩
      · cases hreported : t.reported with
        | true =>
            refine ⟨whole ++ [t], [], ?_, Nat.zero_le 1, ?_, ?_, List.forall_mem_nil _⟩
            · rw [hmore, List.append_nil]
            · rw [hreceived, hframes, hall hreported]
              simp
            · intro u hu
              rcases List.mem_append.mp hu with hu | hu
              · exact hgood u hu
              · cases List.mem_singleton.mp hu
                exact hreported
        | false =>
            refine ⟨whole, [t], hmore, Nat.le_refl 1, ?_, hgood, ?_⟩
            · rw [hreceived, hframes, List.flatMap_cons, List.flatMap_nil, List.append_nil]
            · intro u hu
              cases List.mem_singleton.mp hu
              exact ⟨hreported, hpart⟩
      · intro hheld u hu hu'
        rcases List.mem_append.mp hu with hu | hu
        · exact hwhole hhas u hu hu'
        · cases List.mem_singleton.mp hu
          -- a turn that reports no success does not keep its connection
          cases hreported : t.reported with
          | true => rfl
          | false =>
              obtain ⟨call, hcall, hon, hfails⟩ := hproper.noticed id hwrites hreported
              exact absurd (((hproper.held_iff id).mp hheld).2 call hcall hon) hfails

/-- A node as it starts out: no connection, and an other end that has seen none. -/
structure Node.Fresh (n : Node) : Prop where
  held : n.held = none
  opened : n.wire.opened = 0
  accepted : n.wire.accepted = []

/-- What each connection has received after any number of proper turns, by induction on the
turns. -/
theorem Chained.standing {start n : Node} {turns : List Turn} (h : Chained start turns n)
    (hstart : start.Fresh) (hproper : ∀ t ∈ turns, t.Proper) (id : ConnectionId) :
    Standing turns n id := by
  induction h with
  | nil =>
      -- nothing is held, and nothing was received or written
      have hnone : start.connection = none := by
        unfold Node.connection
        rw [hstart.held, ite_self]
      have hempty : start.wire.received id = [] := by
        unfold Wire.received
        rw [hstart.accepted]
        rfl
      refine ⟨⟨[], [], rfl, Nat.zero_le 1, hempty, List.forall_mem_nil _, List.forall_mem_nil _⟩,
        ?_, ?_⟩
      · intro hheld
        cases hnone.symm.trans hheld
      · rintro (hheld | ⟨t, ht, -⟩)
        · cases hnone.symm.trans hheld
        · cases ht
  | @snoc turns t earlier ih =>
      refine Standing.snoc (hproper t (List.mem_append_right turns (List.mem_singleton_self t))) ?_
      exact ih fun u hu => hproper u (List.mem_append_left [t] hu)

/-- Connections are attempted once for each payload at most, so a node whose other end is gone does
not try again and again for one payload. -/
theorem Chained.attempts_le {start n : Node} {turns : List Turn} (h : Chained start turns n)
    (hproper : ∀ t ∈ turns, t.Proper) :
    n.wire.attempts ≤ start.wire.attempts + turns.countP fun t => t.payload.isSome := by
  induction h with
  | nil => exact Nat.le_refl _
  | @snoc turns t earlier ih =>
      have hbefore := ih fun u hu => hproper u (List.mem_append_left [t] hu)
      have ht := hproper t (List.mem_append_right turns (List.mem_singleton_self t))
      have hattempts := ht.performs.attempts_eq
      have hone := ht.one_attempt
      rw [List.countP_append, List.countP_singleton]
      cases hpayload : t.payload with
      | some payload => simp only [Option.isSome_some, if_true]; omega
      | none =>
          -- a turn without a payload attempts nothing
          have hnone : t.calls.countP WireCall.isConnect = 0 :=
            List.countP_eq_zero.mpr fun call hcall hconnect => by
              cases call with
              | connect result => exact (ht.attempted result hcall).1 hpayload
              | write id offered taken result => cases hconnect
              | flush id result => cases hconnect
          omega

end Graphite

end PluginKit
