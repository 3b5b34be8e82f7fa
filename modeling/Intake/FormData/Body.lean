import Intake.Bytes

/-!
Bodies of requests, as a reader meets them.

A body is a list of events. Reading one takes the frames that are there until the body
has nothing for the moment, ends, or fails; `Body.deliver` is that step. What has been
read and what is still to come together are a `Stream`, whose `weight` falls with every
octet and event that is used up.
-/

namespace Intake.FormData

/-- What happens when a body is asked for more. -/
inductive BodyEvent where
  /-- A frame is there. -/
  | frame (octets : Bytes)
  /-- Nothing is there for the moment. -/
  | wait
  /-- The connection fails. -/
  | fail (message : String)
deriving DecidableEq, Repr

/-- The events of a body, which ends behind the last. -/
abbrev Body := List BodyEvent

/-- Why a body delivers no more. -/
inductive Stop where
  /-- It has nothing for the moment; the rest comes later. -/
  | paused (later : Body)
  | ended
  | failed (message : String)
deriving DecidableEq, Repr

namespace Body

/-- The octets that a body delivers at once, and why it stops. -/
def deliver : Body → Bytes × Stop
  | [] => ([], .ended)
  | .frame octets :: rest =>
    let next := deliver rest
    (octets ++ next.1, next.2)
  | .wait :: rest => ([], .paused rest)
  | .fail message :: _ => ([], .failed message)

/-- The octets and events of a body. -/
def weight : Body → Nat
  | [] => 0
  | .frame octets :: rest => octets.length + 1 + weight rest
  | .wait :: rest => 1 + weight rest
  | .fail _ :: rest => 1 + weight rest

/-- All octets of a body. -/
def octets : Body → Bytes
  | [] => []
  | .frame octets :: rest => octets ++ Body.octets rest
  | .wait :: rest => Body.octets rest
  | .fail _ :: rest => Body.octets rest

theorem length_of_paused {body later : Body} (h : (deliver body).2 = .paused later) :
    later.length < body.length := by
  induction body with
  | nil => simp [deliver] at h
  | cons event rest ih =>
    cases event with
    | frame octets => exact Nat.lt_succ_of_lt (ih h)
    | wait =>
      simp only [deliver, Stop.paused.injEq] at h
      simp [h]
    | fail message => simp [deliver] at h

theorem weight_of_paused {body later : Body} (h : (deliver body).2 = .paused later) :
    (deliver body).1.length + weight later < weight body := by
  induction body with
  | nil => simp [deliver] at h
  | cons event rest ih =>
    cases event with
    | frame octets =>
      have less := ih h
      simp only [deliver, weight, List.length_append]
      omega
    | wait =>
      simp only [deliver, Stop.paused.injEq] at h
      simp [deliver, weight, h]
    | fail message => simp [deliver] at h

theorem length_deliver_le (body : Body) : (deliver body).1.length ≤ weight body := by
  induction body with
  | nil => simp [deliver, weight]
  | cons event rest ih =>
    cases event with
    | frame octets =>
      simp only [deliver, weight, List.length_append]
      omega
    | wait => simp [deliver]
    | fail message => simp [deliver]

end Body

/-- Octets that were read but not used yet, and the body behind them. -/
structure Stream where
  buffer : Bytes
  body : Body
deriving DecidableEq, Repr

namespace Stream

/-- The octets and events that are not used up. -/
def weight (s : Stream) : Nat :=
  s.buffer.length + s.body.weight

/-- The buffer with what the body delivers at once. -/
def filled (s : Stream) : Bytes :=
  match s.body.deliver.1 with
  | [] => s.buffer
  | more => s.buffer ++ more

theorem filled_eq (s : Stream) : s.filled = s.buffer ++ s.body.deliver.1 := by
  simp only [filled]
  split
  · next empty => simp [empty]
  · rfl

/-- Why nothing more came into the buffer. -/
def stop (s : Stream) : Stop :=
  s.body.deliver.2

theorem weight_later {s : Stream} {later : Body} {rest : Bytes} (h : s.stop = .paused later)
    (le : rest.length ≤ s.filled.length) : (Stream.mk rest later).weight < s.weight := by
  have less := Body.weight_of_paused h
  rw [filled_eq, List.length_append] at le
  simp only [weight]
  omega

theorem weight_ended {s : Stream} {rest : Bytes} (le : rest.length ≤ s.filled.length) :
    (Stream.mk rest []).weight ≤ s.weight := by
  have less := Body.length_deliver_le s.body
  rw [filled_eq, List.length_append] at le
  simp only [weight, Body.weight]
  omega

end Stream

end Intake.FormData
