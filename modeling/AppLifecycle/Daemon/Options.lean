import AppLifecycle.Policy

/-!
# The daemon's command line

Four options with a value each, in a long or a short form, and a request for help. What is not given
is taken from the environment, then from the configuration.
-/

namespace AppLifecycle

/-- An option with a value. -/
inductive Setting where
  | config
  | socket
  | compositorSocket
  | logLevel
deriving DecidableEq

namespace Setting

/-- The option of a long name. -/
def ofName? : String → Option Setting
  | "config" => some .config
  | "socket" => some .socket
  | "compositor-socket" => some .compositorSocket
  | "log-level" => some .logLevel
  | _ => none

/-- The option of a letter. -/
def ofLetter? : Char → Option Setting
  | 'c' => some .config
  | 's' => some .socket
  | 'l' => some .logLevel
  | _ => none

/-- Whether the value is a path, which is never empty. -/
def isPath (s : Setting) : Bool := s ≠ .logLevel

end Setting

/-- Why a command line is not carried out. -/
inductive UsageError where
  | unknownArgument
  /-- A value is missing, or is empty where a path is wanted. -/
  | invalidValue
  /-- An option is given twice. -/
  | repeated
  /-- A value is given to an option that takes none. -/
  | surplusValue
  | helpWanted
deriving DecidableEq

/-- A command line up to some argument. -/
structure ArgumentReader where
  /-- The options that have been read. -/
  given : List (Setting × String)
  /-- An option that stands last so far, and its value if that came as an argument of its own. -/
  pending : Option (Setting × Option String)
  /-- No options come any more. -/
  literal : Bool

namespace ArgumentReader

def start : ArgumentReader := ⟨[], none, false⟩

def get? (r : ArgumentReader) (s : Setting) : Option String :=
  (r.given.find? (·.1 = s)).map (·.2)

/-- Takes the value of an option. -/
def record (r : ArgumentReader) (s : Setting) (value : String) : Except UsageError ArgumentReader :=
  if (r.get? s).isSome then .error .repeated
  else if s.isPath ∧ value.isEmpty then .error .invalidValue
  else .ok { r with given := r.given ++ [(s, value)] }

/-- Finishes the option that stands last. -/
def settle (r : ArgumentReader) : Except UsageError ArgumentReader :=
  let done := { r with pending := none }
  match r.pending with
  | none => .ok done
  | some (_, none) => .error .invalidValue
  | some (s, some value) => done.record s value

/-- An option whose value has yet to come. -/
def await (r : ArgumentReader) (s : Setting) : Except UsageError ArgumentReader := do
  return { ← r.settle with pending := some (s, none) }

/-- An option with its value in the same argument. -/
def attach (r : ArgumentReader) (s : Setting) (value : List Char) :
    Except UsageError ArgumentReader := do
  (← r.settle).record s (String.ofList value)

/-- Help is wanted, if what came before is in order. -/
def help (r : ArgumentReader) : Except UsageError ArgumentReader := do
  let _ ← r.settle
  .error .helpWanted

/-- Reads a long option without its dashes. -/
def readLong (r : ArgumentReader) (s : List Char) : Except UsageError ArgumentReader :=
  let name := String.ofList (s.takeWhile (· ≠ '='))
  let value := (s.dropWhile (· ≠ '=')).tail?
  match name, value with
  | "help", none => r.help
  | "help", some _ => .error .surplusValue
  | name, value =>
    match Setting.ofName? name, value with
    | none, _ => .error .unknownArgument
    | some s, none => r.await s
    | some s, some value => r.attach s value

/-- Reads a short option without its dash. -/
def readShort (r : ArgumentReader) (letter : Char) (rest : List Char) :
    Except UsageError ArgumentReader :=
  if letter = 'h' then r.help
  else
    match Setting.ofLetter? letter, rest with
    | none, _ => .error .unknownArgument
    | some s, [] => r.await s
    | some s, '=' :: value => r.attach s value
    | some s, value => r.attach s value

/-- Reads an argument. -/
def read (r : ArgumentReader) (arg : String) : Except UsageError ArgumentReader :=
  match r.literal, arg.toList with
  | true, _ => .error .unknownArgument
  | false, ['-', '-'] => .ok { r with literal := true }
  | false, '-' :: '-' :: s => r.readLong s
  | false, '-' :: c :: s => r.readShort c s
  | false, _ =>
    match r.pending with
    | some (s, none) => .ok { r with pending := some (s, some arg) }
    | _ => .error .unknownArgument

/-- Takes an option from the environment, unless it was given. -/
def inherit (r : ArgumentReader) (s : Setting) (value : Option String) :
    Except UsageError ArgumentReader :=
  match r.get? s, value with
  | none, some value => r.record s value
  | _, _ => .ok r

end ArgumentReader

/-- What the command line and the environment say. -/
structure Options where
  config : Option Path
  socket : Option Path
  compositorSocket : Option Path
  logLevel : String

namespace Options

/-- Reads the arguments behind the name of the program. The place of the configuration file has to
be a path even where it comes from the environment. -/
def ofArgs (env : Environment) (args : List String) : Except UsageError Options := do
  let r ← args.foldlM ArgumentReader.read .start
  let r ← r.settle
  let config := r.get? .config
  let r ← r.inherit .socket (env.get? "TETHER_SOCKET")
  let r ← r.inherit .compositorSocket (env.get? "TETHER_COMPOSITOR_SOCKET")
  let _ ← r.inherit .config (some env.configPath.text)
  return {
    config := config.map Path.mk
    socket := (r.get? .socket).map Path.mk
    compositorSocket := (r.get? .compositorSocket).map Path.mk
    logLevel := (r.get? .logLevel).getD "info" }

/-- The configuration file that is read. -/
def configPath (env : Environment) (o : Options) : Path := o.config.getD env.configPath

/-- The socket for shells. -/
def shellSocket (o : Options) (paths : DaemonPaths) : Path := o.socket.getD paths.socket

/-- The socket for compositors. It moves with a socket for shells that is given. -/
def compositorSocketPath (o : Options) (paths : DaemonPaths) : Path :=
  match o.compositorSocket, o.socket with
  | some path, _ => path
  | none, some socket => compositorSocketBeside socket
  | none, none => paths.compositorSocket

end Options

end AppLifecycle
