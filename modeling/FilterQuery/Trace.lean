import FilterQuery.Keyword

/-!
# The event log

Building SQL reports what it does: one event for each field whose conditions were compiled, one for
each finished `WHERE` clause, one for each finished statement.  An event is data, and an operation
that emits events is a value of `Logged α`: its result and the events in the order of emission.

A log line is the level, the message and the attributes of an event, separated by spaces.
-/

namespace FilterQuery

/-- How important an event is. -/
inductive Level where
  | trace
  | debug
  deriving DecidableEq

/-- The name of a level in a log. -/
def Level.name : Level → String
  | trace => "TRACE"
  | debug => "DEBUG"

/-- The value of an attribute: arbitrary text, a keyword, or a count. -/
inductive Attribute where
  | text (s : String)
  | word (s : String)
  | count (n : Nat)

/-- What building SQL reports. -/
inductive Event where
  /-- The conditions of `field` were compiled to `sql`, which may be empty. -/
  | field (name sql : String)
  /-- A `WHERE` clause with so many question marks was compiled, and its parts joined by `join`. -/
  | clause (placeholders : Nat) (join : Join)
  /-- A statement on `table` with so many bind values was built. -/
  | statement (table : String) (params : Nat)
  /-- A statement with so many bind values is about to be printed. -/
  | generated (placeholders : Nat)

namespace Event

/-- Events of single fields are details; all others are worth a reader's while. -/
def level : Event → Level
  | field .. => .trace
  | _ => .debug

/-- The event in words. -/
def message : Event → String
  | field .. => "compiled field conditions"
  | clause .. => "compiled where clause"
  | statement .. => "built select statement"
  | generated .. => "generated statement"

/-- The named attributes of an event, in the order in which a log line gives them. -/
def attributes : Event → List (String × Attribute)
  | field name sql => [("field", .text name), ("sql", .text sql)]
  | clause placeholders join => [("placeholders", .count placeholders), ("join", .word join.sql)]
  | statement table params => [("table", .text table), ("params", .count params)]
  | generated placeholders => [("placeholders", .count placeholders)]

end Event

/-! ## Results with a log -/

/-- A result together with the events emitted on the way to it. -/
structure Logged (α : Type) where
  value : α
  events : List Event

namespace Logged

variable {α β : Type}

/-- The operation that only emits one event. -/
def emit (event : Event) : Logged Unit :=
  ⟨(), [event]⟩

instance : Monad Logged where
  pure a := ⟨a, []⟩
  bind first next :=
    let second := next first.value
    ⟨second.value, first.events ++ second.events⟩

@[simp] theorem value_pure (a : α) : (pure a : Logged α).value = a := rfl

@[simp] theorem events_pure (a : α) : (pure a : Logged α).events = [] := rfl

@[simp] theorem value_bind (first : Logged α) (next : α → Logged β) :
    (first >>= next).value = (next first.value).value := rfl

@[simp] theorem events_bind (first : Logged α) (next : α → Logged β) :
    (first >>= next).events = first.events ++ (next first.value).events := rfl

@[simp] theorem value_map (f : α → β) (result : Logged α) :
    (f <$> result).value = f result.value := rfl

@[simp] theorem events_map (f : α → β) (result : Logged α) :
    (f <$> result).events = result.events := List.append_nil _

@[simp] theorem events_emit (event : Event) : (emit event).events = [event] := rfl

instance : LawfulMonad Logged :=
  LawfulMonad.mk' Logged
    (fun x => by cases x; simp [Functor.map])
    (fun _ _ => rfl)
    (fun x f g => by simp [bind, List.append_assoc])

end Logged

end FilterQuery
