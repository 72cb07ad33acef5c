import Numeral128.Log.Setup
import Numeral128.Scanner.Session

/-!
# Programs that log

A program scans a text in a session, and may be asked to set up a log at any time. Each event is
emitted when it happens, with its time and its place.
-/

namespace Numeral128.Log

/-- What a program can be told to do. -/
inductive Action where
  | install (setup : Setup)
  | command (command : ScanCommand)
  deriving DecidableEq, Repr

/-- A program with all that has come of what it was told. -/
structure Program (T : LogLibrary) where
  /-- The directives that the environment asks for. -/
  environment : Option String := none
  /-- The time at which the event with a number, from zero on, is emitted. -/
  clock : Nat → String
  /-- Where events are emitted. -/
  place : Event → Place
  session : Session
  dispatcher : T.Dispatcher := T.fresh
  /-- How many events have been emitted. -/
  emitted : Nat := 0
  /-- What became of each request for a log. -/
  installs : List (Except InstallError Unit) := []
  /-- What each command did. -/
  steps : List SessionStep := []
  /-- What has been written. -/
  log : List T.Output := []

namespace Program

variable {T : LogLibrary}

/-- What is known of the event `e` with the number `n` when it is emitted. -/
def stamp (p : Program T) (e : Event) (n : Nat) : Stamp := { time := p.clock n, place := p.place e }

/-- Emits the event `e` at the next time of the clock. -/
def emit (p : Program T) (e : Event) : Program T :=
  { p with
    emitted := p.emitted + 1
    log := p.log ++ T.emit p.dispatcher (p.stamp e p.emitted) e }

/-- The program `p` after `step` of its session. -/
def advance (p : Program T) (step : SessionStep) : Program T :=
  { p with session := step.session, steps := p.steps ++ [step] }

/-- Does what the program `p` is told. -/
def step (p : Program T) : Action → Program T
  | .install setup =>
    let (result, dispatcher) := setup.install T p.environment p.dispatcher
    { p with dispatcher, installs := p.installs ++ [result] }
  | .command command =>
    let step := p.session.step command
    step.events.foldl emit (p.advance step)

/-- Does what the program `p` is told by `actions`, one after the other. -/
def run (p : Program T) (actions : List Action) : Program T := actions.foldl step p

end Program

end Numeral128.Log
