import PluginKit.Text.Utf8

/-!
# `PluginKit.Graphite.Link`: the connection to graphite

A node's connection is opened by the first payload and kept until a write or flush fails; the next
payload opens another one. A panic while the connection is in use poisons its lock for good.

* `Wire`: the other end, with what the next calls on it come to and the bytes that it accepted.
* `Wire.connect`, `Wire.writeAll`, `Wire.flush`: calls on the other end.
* `Node.send`, `Node.flush`: what a node does with them.
-/

set_option autoImplicit false

namespace PluginKit

namespace Graphite

/-- What a call on the other end comes to. -/
inductive Reply where
  | success
  | failure (message : String)
  | interrupted
  | panic (message : String)
  /-- A write that takes at most so many bytes. -/
  | short (most : Nat)
  deriving DecidableEq, Repr

/-- The number of a connection in the order in which connections were opened. -/
abbrev ConnectionId := Nat

/-- The other end. A call without a reply of its own succeeds. -/
structure Wire where
  connects : List Reply
  writes : List Reply
  flushes : List Reply
  /-- How many times a connection was attempted. -/
  attempts : Nat
  /-- How many connections were opened. -/
  opened : Nat
  /-- The bytes that were accepted, piece by piece. -/
  accepted : List (ConnectionId × List UInt8)
  deriving DecidableEq, Repr

/-- How a call ends. -/
inductive Result (α : Type) where
  | ok (a : α)
  | failed (message : String)
  | panicked (message : String)
  deriving DecidableEq, Repr

/-- The text of an interruption that is not retried. -/
def interruption : String := "operation interrupted"

namespace Wire

/-- Nothing has happened yet. -/
def ofReplies (connects writes flushes : List Reply) : Wire :=
  ⟨connects, writes, flushes, 0, 0, []⟩

/-- All bytes that a connection has accepted. -/
def received (w : Wire) (id : ConnectionId) : List UInt8 :=
  (w.accepted.filter fun piece => piece.1 == id).flatMap Prod.snd

/-- The reply to the next call, and those after it. -/
def nextReply : List Reply → Reply × List Reply
  | [] => (.success, [])
  | r :: rest => (r, rest)

/-- Attempts a connection. -/
def connect (w : Wire) : Result ConnectionId × Wire :=
  let (reply, rest) := nextReply w.connects
  let w := { w with connects := rest, attempts := w.attempts + 1 }
  match reply with
  | .failure message => (.failed message, w)
  | .interrupted => (.failed interruption, w)
  | .panic message => (.panicked message, w)
  | _ => (.ok w.opened, { w with opened := w.opened + 1 })

/-- Writes bytes as the replies allow: an interrupted write is tried again, and what a short one has
left is written next. Returns how it ended, what was accepted, and the replies that are left. -/
def writeReplies : List Reply → List UInt8 → Result Unit × List UInt8 × List Reply
  | replies, [] => (.ok (), [], replies)
  | [], bytes => (.ok (), bytes, [])
  | .success :: rest, bytes => (.ok (), bytes, rest)
  | .failure message :: rest, _ => (.failed message, [], rest)
  | .panic message :: rest, _ => (.panicked message, [], rest)
  | .interrupted :: rest, bytes => writeReplies rest bytes
  | .short 0 :: rest, _ => (.failed "failed to write whole buffer", [], rest)
  | .short (n + 1) :: rest, bytes =>
    let (result, more, left) := writeReplies rest (bytes.drop (n + 1))
    (result, bytes.take (n + 1) ++ more, left)

/-- Writes all bytes to a connection. -/
def writeAll (w : Wire) (id : ConnectionId) (bytes : List UInt8) : Result Unit × Wire :=
  let (result, taken, rest) := writeReplies w.writes bytes
  (result, { w with writes := rest, accepted := w.accepted ++ [(id, taken)] })

/-- Flushes a connection. -/
def flush (w : Wire) : Result Unit × Wire :=
  let (reply, rest) := nextReply w.flushes
  let w := { w with flushes := rest }
  match reply with
  | .failure message => (.failed message, w)
  | .interrupted => (.failed interruption, w)
  | .panic message => (.panicked message, w)
  | _ => (.ok (), w)

/-- Writes all bytes to a connection and flushes it. -/
def writeAndFlush (w : Wire) (id : ConnectionId) (bytes : List UInt8) : Result Unit × Wire :=
  match w.writeAll id bytes with
  | (.ok (), w) => w.flush
  | result => result

end Wire

/-- A node's end of its connection. -/
structure Node where
  /-- The connection that is held. -/
  held : Option ConnectionId
  /-- A panic happened while the connection was in use. -/
  poisoned : Bool
  /-- Why no connection can be attempted, if there is a reason. -/
  refusal : Option String
  wire : Wire
  deriving DecidableEq, Repr

/-- How sending or flushing ends. -/
inductive Delivery where
  | done
  | poisoned
  | notConnected (message : String)
  | failed (message : String)
  | panicked (message : String)
  deriving DecidableEq, Repr

namespace Node

/-- A node without a connection. -/
def idle (wire : Wire) : Node := ⟨none, false, none, wire⟩

/-- The connection to use: the one that is held or a new one. The flag says that it is new. -/
def obtain (n : Node) : Result (ConnectionId × Bool) × Node :=
  match n.held with
  | some id => (.ok (id, false), n)
  | none =>
    match n.refusal with
    | some message => (.failed message, { n with wire.attempts := n.wire.attempts + 1 })
    | none =>
      match n.wire.connect with
      | (.ok id, wire) => (.ok (id, true), { n with wire := wire, held := some id })
      | (.failed message, wire) => (.failed message, { n with wire := wire })
      | (.panicked message, wire) => (.panicked message, { n with wire := wire, poisoned := true })

/-- Sends a payload. The flag says that a connection was opened for it. -/
def send (n : Node) (payload : List UInt8) : (Delivery × Bool) × Node :=
  if n.poisoned then ((.poisoned, false), n)
  else
    match n.obtain with
    | (.failed message, n) => ((.notConnected message, false), n)
    | (.panicked message, n) => ((.panicked message, false), n)
    | (.ok (id, isNew), n) =>
      match n.wire.writeAndFlush id payload with
      | (.ok (), wire) => ((.done, isNew), { n with wire := wire })
      | (.failed message, wire) => ((.failed message, isNew), { n with wire := wire, held := none })
      | (.panicked message, wire) =>
        ((.panicked message, isNew), { n with wire := wire, poisoned := true })

/-- Flushes the connection, if there is one. -/
def flush (n : Node) : Delivery × Node :=
  if n.poisoned then (.poisoned, n)
  else
    match n.held with
    | none => (.done, n)
    | some _ =>
      match n.wire.flush with
      | (.ok (), wire) => (.done, { n with wire := wire })
      | (.failed message, wire) => (.failed message, { n with wire := wire, held := none })
      | (.panicked message, wire) => (.panicked message, { n with wire := wire, poisoned := true })

end Node

end Graphite

end PluginKit
