import Numeral128.Log.Library

/-!
# Setting up the log

A request for a log names directives and a format. The directives of the environment go before, if
they can be read.
-/

namespace Numeral128.Log

/-- The directives of a log that nothing else is said of. -/
def standardDirectives : String := "info,int128io=debug"

/-- How events are written. -/
inductive Format where
  /-- One record of named values for each event, with its place but without its target. -/
  | json
  /-- Lines of text with everything that is known of an event. -/
  | pretty
  deriving DecidableEq, Inhabited, Repr

/-- What a subscriber does for a format. -/
def Format.layer : Format → Layer
  | json => { style := .record, flattened := true, showTarget := false, showLine := true,
              showFile := true }
  | pretty => { style := .lines, showLine := true, showFile := true }

/-- The filter of a log: the one that `environment` describes, if it describes one, else that of
`directives`. -/
def selectFilter (T : LogLibrary) (environment : Option String) (directives : String) : T.Filter :=
  match environment.bind T.parse? with
  | some f => f
  | none => T.lossy directives

/-- A request for a log. -/
structure Setup where
  directives : String := standardDirectives
  format : Format := .json
  deriving DecidableEq, Repr

/-- The subscriber that is to be installed for the request `setup`. -/
def Setup.subscriber (T : LogLibrary) (environment : Option String) (setup : Setup) :
    Subscriber T.Filter where
  filter := selectFilter T environment setup.directives
  layer := setup.format.layer

/-- Installs the log that `setup` asks for, unless there is one. -/
def Setup.install (T : LogLibrary) (environment : Option String) (setup : Setup)
    (d : T.Dispatcher) : Except InstallError Unit × T.Dispatcher :=
  T.tryInit (setup.subscriber T environment) d

end Numeral128.Log
