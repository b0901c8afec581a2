/-
# Trace records

A trace record has a level, a message and named fields, the connection's device always among them.
What a device does is traced at the lowest level; what an operator should look at is a warning.

Key definitions: `Trace.Record`, `Event.record`.
-/
import LongPoll.Event
import LongPoll.Message

namespace LongPoll
namespace Trace

inductive Level
  | trace | debug | info | warn | error
deriving DecidableEq

def Level.text : Level → String
  | trace => "TRACE"
  | debug => "DEBUG"
  | info => "INFO"
  | warn => "WARN"
  | error => "ERROR"

inductive Value
  | number (n : Nat)
  | flag (b : Bool)
  | text (s : String)
deriving DecidableEq

structure Record where
  level : Level
  message : String
  fields : List (String × Value)
deriving DecidableEq

end Trace

open Trace

def Event.record (id : ConnId) (event : Event) : Record :=
  let make (level : Level) (fields : List (String × Value)) (message : String) : Record :=
    { level, message, fields := ("conn", .text id.deviceId) :: fields }
  match event with
  | .unknownPosition position => make .trace [("pos", .number position.val)] "unknown pos"
  | .replayed position served =>
    make .trace [("pos", .number position.val), ("replayed", .number served.val)]
      "returning cached response for pos"
  | .bodyChanged position =>
    make .info [("pos", .number position.val)]
      "client has resent this pos with different request data"
  | .timeoutShrunk before after =>
    make .trace [("from_ms", .number before.millis), ("to_ms", .number after.millis)]
      "buffered response pending, shrinking timeout"
  | .bufferFull limit =>
    make .warn [("limit", .number limit)] "response buffer full, rejecting request"
  | .preempted => make .debug [] "cancelled outstanding request"
  | .handlerFailed status message =>
    make .warn [("status", .number status.toNat), ("error", .text message)] "handler failed"
  | .handlerPanicked message => make .error [("panic", .text message)] "handler panicked"
  | .finished f =>
    make .trace
      ([("num_res_acks", .number f.acked), ("is_retransmit", .flag f.standing.isRetransmit),
        ("acks_oldest", .flag f.standing.acksOldest), ("acks_newest", .flag f.standing.acksNewest),
        ("is_first", .flag f.standing.isInitial), ("is_same", .flag f.standing.isSame),
        ("pos", .number f.standing.position.val), ("user", .text f.userId)]
        ++ (f.newPosition.map fun p => ("new_pos", Value.number p.val)).toList)
      "on_incoming_request finished"

end LongPoll
