import Intake.Failure

/-!
Events, and computations that log them.

A `Traced α` is what a computation comes to, together with the events that it logged on
the way. Events are kept when a later step fails.
-/

namespace Intake

inductive Level where
  | error
  | warn
  | info
  | debug
deriving DecidableEq, Repr

namespace Level

def name : Level → String
  | error => "ERROR"
  | warn => "WARN"
  | info => "INFO"
  | debug => "DEBUG"

/-- The severest level is 0. -/
def rank : Level → Nat
  | error => 0
  | warn => 1
  | info => 2
  | debug => 3

end Level

/-- The value of a field of an event. -/
inductive FieldValue where
  | text (s : String)
  | count (n : Nat)
deriving DecidableEq, Repr

/-- Something that was logged. -/
structure Event where
  level : Level
  message : String
  fields : List (String × FieldValue) := []
  /-- The part of the program that speaks. -/
  target : String := "ingestctl"
deriving DecidableEq, Repr

/-- The events of a computation, and its result. -/
structure Traced (α : Type) where
  events : List Event
  result : Except Failure α

namespace Traced

variable {α β : Type}

/-- Logs one event. -/
def log (event : Event) : Traced Unit :=
  ⟨[event], .ok ()⟩

/-- Logs several events. -/
def logAll (events : List Event) : Traced Unit :=
  ⟨events, .ok ()⟩

def fail (failure : Failure) : Traced α :=
  ⟨[], .error failure⟩

/-- A result without events. -/
def lift (result : Except Failure α) : Traced α :=
  ⟨[], result⟩

/-- Goes on with `next` after a success. -/
def andThen (first : Traced α) (next : α → Traced β) : Traced β :=
  match first.result with
  | .ok a => ⟨first.events ++ (next a).events, (next a).result⟩
  | .error failure => ⟨first.events, .error failure⟩

instance : Monad Traced where
  pure a := ⟨[], .ok a⟩
  bind := andThen

/-- Logs what `events` makes of the result behind it. -/
def noting (t : Traced α) (events : Except Failure α → List Event) : Traced α :=
  ⟨t.events ++ events t.result, t.result⟩

@[simp]
theorem bind_of_ok {t : Traced α} {a : α} (h : t.result = .ok a) (next : α → Traced β) :
    t >>= next = ⟨t.events ++ (next a).events, (next a).result⟩ := by
  simp [bind, andThen, h]

@[simp]
theorem bind_of_error {t : Traced α} {failure : Failure} (h : t.result = .error failure)
    (next : α → Traced β) : t >>= next = ⟨t.events, .error failure⟩ := by
  simp [bind, andThen, h]

/-- A computation in two parts succeeds if both parts do. -/
theorem result_bind_eq_ok_iff {t : Traced α} {next : α → Traced β} {b : β} :
    (t >>= next).result = .ok b ↔ ∃ a, t.result = .ok a ∧ (next a).result = .ok b := by
  cases ended : t.result with
  | error failure => simp [bind_of_error ended]
  | ok a => simp [bind_of_ok ended]

end Traced

end Intake
