import Numeral128.Event

/-!
# Logging libraries

Events are emitted to a library, and where they go is decided once in a program, when a subscriber
is installed. `LogLibrary` is what the program asks of the library, and `LogLibrary.Lawful` is what
it relies on: the first subscriber stays, and it writes the events that its filter enables, each
once. Which filters there are, what they enable and how events are written is left open.
-/

namespace Numeral128.Log

/-- Where in a program events of a kind are emitted. -/
structure Place where
  file : String
  line : Nat
  deriving DecidableEq, Repr

/-- When and where an event is emitted. -/
structure Stamp where
  time : String
  place : Place
  deriving DecidableEq, Repr

/-- How a subscriber writes events. -/
inductive Style where
  /-- One record of named values for each event. -/
  | record
  /-- Lines of text. -/
  | lines
  deriving DecidableEq, Repr

/-- How a subscriber writes events, and what of them. -/
structure Layer where
  style : Style
  /-- Whether the values of an event stand beside its level in a record. -/
  flattened : Bool := false
  showTarget : Bool := true
  showFile : Bool := false
  showLine : Bool := false
  deriving DecidableEq, Repr

/-- A `filter` and what becomes of the events that it enables. -/
structure Subscriber (φ : Type) where
  filter : φ
  layer : Layer
  deriving DecidableEq, Repr

/-- Why a subscriber is not installed. -/
inductive InstallError where
  | alreadyInstalled
  deriving DecidableEq, Repr

/-- The wording of an error. -/
def InstallError.message : InstallError → String
  | alreadyInstalled => "a global default trace dispatcher has already been set"

/-- The operations of a logging library. -/
structure LogLibrary where
  Filter : Type
  /-- The filter that a text describes, if all of it can be read. -/
  parse? : String → Option Filter
  /-- The filter of what can be read of a text. -/
  lossy : String → Filter
  enabled : Filter → Event → Bool
  /-- What is written for an event. -/
  Output : Type
  render : Layer → Stamp → Event → Output
  /-- What a program knows of its subscriber. -/
  Dispatcher : Type
  /-- The dispatcher of a program that has just begun. -/
  fresh : Dispatcher
  installed? : Dispatcher → Option (Subscriber Filter)
  tryInit : Subscriber Filter → Dispatcher → Except InstallError Unit × Dispatcher
  /-- What is written when an event is emitted. -/
  emit : Dispatcher → Stamp → Event → List Output

/-- What is known of every logging library `T`. -/
structure LogLibrary.Lawful (T : LogLibrary) : Prop where
  installed?_fresh : T.installed? T.fresh = none
  /-- A first subscriber is installed. -/
  tryInit_of_none : ∀ {d}, T.installed? d = none → ∀ s,
    (T.tryInit s d).1 = .ok () ∧ T.installed? (T.tryInit s d).2 = some s
  /-- After that there is no other. -/
  tryInit_of_some : ∀ {d s}, T.installed? d = some s → ∀ s',
    (T.tryInit s' d).1 = .error .alreadyInstalled ∧ T.installed? (T.tryInit s' d).2 = some s
  /-- Without a subscriber events are lost. -/
  emit_of_none : ∀ {d}, T.installed? d = none → ∀ stamp e, T.emit d stamp e = []
  /-- A subscriber writes what its filter enables. -/
  emit_of_some : ∀ {d s}, T.installed? d = some s → ∀ stamp e,
    T.emit d stamp e = if T.enabled s.filter e then [T.render s.layer stamp e] else []

end Numeral128.Log
