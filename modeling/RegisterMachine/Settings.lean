import RegisterMachine.Journal.Level
import RegisterMachine.Machine
import RegisterMachine.SocketAddress

/-!
# Server settings

What a server is told when it starts: the address to listen on, and flags that each take a value.
A flag counts for more than the environment, and the environment for more than the default; of a
flag that is given twice, the last one counts.
-/

namespace RegisterMachine

/-- What a server is told when it starts. -/
structure Settings where
  listen : SocketAddress
  /-- The most bytes that a program may have. -/
  maxProgram : Nat := 1024 * 1024
  /-- The level of the journal, if a flag asks for one. -/
  level : Option Level := none
  machine : MachineSize := {}
deriving DecidableEq, Repr

/-- Why arguments are no settings. -/
inductive SettingsError where
  | missingAddress
  | invalidAddress (address : String)
  | missingValue (flag : String)
  | invalidValue (flag value : String)
  | unexpectedArgument (argument : String)
deriving DecidableEq, Repr

/-- The text of the error. -/
def SettingsError.message : SettingsError → String
  | missingAddress              => "missing listen address"
  | invalidAddress address      => "invalid listen address: " ++ address
  | missingValue flag           => flag ++ " requires an argument"
  | invalidValue flag value     => "invalid value '" ++ value ++ "' for " ++ flag
  | unexpectedArgument argument => "unexpected argument: " ++ argument

/-- A flag. -/
inductive Flag where
  | maxProgram
  | level
deriving DecidableEq, Repr

/-- The name of a flag. -/
def Flag.name : Flag → String
  | maxProgram => "--max-program-len"
  | level      => "--log"

/-- The flag of that name. -/
def Flag.ofName? (s : String) : Option Flag :=
  [maxProgram, level].find? fun f => f.name == s

namespace Settings

/-- The environment variable that limits the length of programs. -/
def maxProgramVariable : String := "VASM_MAX_PROGRAM_LEN"

/-- Reads a number of bytes that is given for a flag or a variable. -/
def readSize (flag value : String) : Except SettingsError Nat :=
  match Text.unsigned? Text.uint64Max value.toList with
  | some n => .ok n
  | none   => .error (.invalidValue flag value)

/-- The settings after a flag is given a value. -/
def withFlag (s : Settings) (flag : Flag) (value : String) : Except SettingsError Settings :=
  match flag with
  | .maxProgram => (readSize flag.name value).map fun n => { s with maxProgram := n }
  | .level      =>
    match Level.read value with
    | .ok l    => .ok { s with level := some l }
    | .error _ => .error (.invalidValue flag.name value)

/-- The settings after the flags in a list of arguments. -/
def withFlags (s : Settings) : List String → Except SettingsError Settings
  | []                    => .ok s
  | [argument]            =>
    match Flag.ofName? argument with
    | some _ => .error (.missingValue argument)
    | none   => .error (.unexpectedArgument argument)
  | argument :: value :: rest =>
    match Flag.ofName? argument with
    | some flag =>
      match s.withFlag flag value with
      | .ok s    => s.withFlags rest
      | .error e => .error e
    | none      => .error (.unexpectedArgument argument)

/-- The settings after the environment is looked at. -/
def withEnvironment (s : Settings) (environment : String → Option String) :
    Except SettingsError Settings :=
  match environment maxProgramVariable with
  | some value => (readSize maxProgramVariable value).map fun n => { s with maxProgram := n }
  | none       => .ok s

/-- The settings that arguments and environment ask for. -/
def read (args : List String) (environment : String → Option String) :
    Except SettingsError Settings :=
  match args with
  | []              => .error .missingAddress
  | address :: rest =>
    match SocketAddress.read? address with
    | none        => .error (.invalidAddress address)
    | some listen => do
      let s ← withEnvironment { listen } environment
      s.withFlags rest

end Settings

end RegisterMachine
