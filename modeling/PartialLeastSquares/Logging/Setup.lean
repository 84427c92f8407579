/-
# The logging set-up

Nothing is written until logging is configured.  `configure_logging` attaches a console, and a
file if one is named, and replaces whatever was attached before; `reset_logging` takes both away
again.  The state is kept as a value: what is attached to the package's logger, what configuring
has installed there (the module's `_handlers`), its `_config`, what each console has been given so
far, and the files.

A configuration goes through several steps, and some of them can fail: the stream of the console
may be closed, what names the file may be no path, and the file system may refuse it.  What has
been done by then stays done.  A configuration that fails at its file has already attached its
console: that is visible in the handlers afterwards, while there is still no active configuration.
-/
import PartialLeastSquares.Logging.Record

namespace PartialLeastSquares.Logging

/-- The name of the logger that everything is attached to, `ROOT_LOGGER_NAME`. -/
def packageName : String := "latentpls"

/-- **The name of a logger,** as `get_logger` gives it: a name outside the package is nested under
it. -/
def loggerName (name : String) : String :=
  if name == packageName || name.startsWith (packageName ++ ".") then name
  else packageName ++ "." ++ name

/-! ## 1. The state -/

/-- Where records go: nowhere, to a console by its number with the least level it takes, or to a
file by its path, which takes every record from the level of details on. -/
inductive Handler where
  | silent
  | console (index : Nat) (level : Int) (style : ConsoleStyle)
  | file (path : String)
deriving DecidableEq

namespace Handler

def level : Handler → Int
  | silent => 0
  | console _ l _ => l
  | file _ => debug

def className : Handler → String
  | silent => "NullHandler"
  | console _ _ _ => "StreamHandler"
  | file _ => "FileHandler"

end Handler

/-- An active configuration, `LoggingConfig`; the values are kept as `configure_logging` was given
them. -/
structure LoggingConfig where
  verbose : Value
  useColors : Value
  logFile : Option String

/-- What is in force without a configuration, `LoggingConfig()`. -/
def LoggingConfig.default : LoggingConfig := ⟨.int 0, .bool true, none⟩

/-- **The state of logging:** the handlers of the package's logger (`attached`) and those in
`_handlers` (`installed`), the logger's level, zero when it has none, and `_config`.  For each
console it is kept what it has been given, and whether its configuration succeeded; for each file
its path and its text. -/
structure Setup where
  attached : List Handler
  installed : List Handler
  level : Int
  config : Option LoggingConfig
  consoles : List (Bool × String)
  files : List (String × String)

/-- Why logging cannot be configured: a negative `verbose`, a setting of the wrong kind, or a path
that cannot be opened.  A stream or a file system with a reason of its own gives it in `refused`.
-/
inductive SetupError where
  | negative (verbose : Value)
  | wrongKind
  | noProperty
  | fileInTheWay (path : String)
  | notDirectory (path : String)
  | isDirectory (path : String)
  | refused (kind : FailureKind) (reason : String)

namespace SetupError

def kind : SetupError → FailureKind
  | negative _ => .value
  | wrongKind => .wrongKind
  | noProperty => .missingProperty
  | fileInTheWay _ => .fileInTheWay
  | notDirectory _ => .notDirectory
  | isDirectory _ => .isDirectory
  | refused kind _ => kind

def message : SetupError → String
  | negative v => "verbose must be >= 0, got " ++ v.plain
  | wrongKind => ""
  | noProperty => ""
  | fileInTheWay path => "[Errno 17] File exists: " ++ Text.quoted path
  | notDirectory path => "[Errno 20] Not a directory: " ++ Text.quoted path
  | isDirectory path => "[Errno 21] Is a directory: " ++ Text.quoted path
  | refused _ reason => reason

end SetupError

/-! ## 2. Paths -/

/-- The parts of a path, without empty ones and ones that stay where they are. -/
def pathParts (path : String) : List String :=
  (path.splitOn "/").filter fun part => part != "" && part != "."

def plainPath (path : String) : String :=
  let joined := "/".intercalate (pathParts path)
  if path.startsWith "/" then "/" ++ joined else if joined.isEmpty then "." else joined

/-- Whether a path can only be that of a directory: it has no last part, or its last part is the
step upwards. -/
def isDirectoryPath (path : String) : Bool := (pathParts path).getLast?.all (· == "..")

/-- The paths that lead to a path, from the outermost: the parents that `mkdir` makes. -/
def ancestors (path : String) : List String :=
  let parts := pathParts path
  let front := if path.startsWith "/" then "/" else ""
  (List.range (parts.length - 1)).map fun k => front ++ "/".intercalate (parts.take (k + 1))

namespace Setup

/-- The state before any call: the package's logger carries a handler that writes nothing. -/
def initial : Setup := ⟨[.silent], [], 0, none, [], []⟩

def hasFile (s : Setup) (path : String) : Bool := s.files.any (·.1 == path)

def isAncestor (s : Setup) (path : String) : Bool :=
  s.files.any fun f => (ancestors f.1).contains path

def fileText? (s : Setup) (path : String) : Option String :=
  (s.files.find? (·.1 == plainPath path)).map Prod.snd

/-- A text added to a file, which is made if there is none. -/
def append (s : Setup) (path text : String) : Setup :=
  if s.hasFile path then
    { s with files := s.files.map fun f => if f.1 == path then (path, f.2 ++ text) else f }
  else { s with files := s.files ++ [(path, text)] }

/-- **Why a file cannot be opened for adding to it,** with the directories on the way; nothing if
it can.  No directory and no file has a null character in its path, and the directories come
first: `mkdir` fails before `FileHandler` is made. -/
def refusal? (s : Setup) (path : String) : Option SetupError :=
  let above := ancestors path
  let null : SetupError := .refused .value "embedded null byte"
  if above.any (·.contains '\x00') then some null
  else
    match above.find? s.hasFile with
    | some blocking =>
      match above.getLast? with
      | some parent =>
        if parent == blocking then some (.fileInTheWay parent) else some (.notDirectory parent)
      | none => some (.fileInTheWay blocking)
    | none =>
      if isDirectoryPath path || s.isAncestor path then some (.isDirectory path)
      else if path.contains '\x00' then some null
      else none

end Setup

/-! ## 3. Configuring -/

/-- The stream that a console writes to.  It is open, and a terminal or not, or it fails when
`configure_logging` asks whether it is a terminal, as a closed one does. -/
inductive Stream where
  | opened (terminal : Bool)
  | failing (e : SetupError)

namespace Stream

def isTerminal : Stream → Except SetupError Bool
  | opened terminal => .ok terminal
  | failing e => .error e

end Stream

/-- **What a configuration is asked for,** the arguments of `configure_logging`. -/
structure Request where
  verbose : Value
  useColors : Value
  stream : Stream
  logFile : Value

/-- The level of a console for a verbosity, `_VERBOSITY_LEVELS` with the level of details for all
others. -/
def consoleLevel (verbose : Number) : Int :=
  if verbose.same (.whole 0) then warning
  else if verbose.same (.whole 1) then info
  else debug

/-- The style of a console for a verbosity: levels are shown from three on. -/
def consoleStyle (verbose : Number) (colours : Bool) : ConsoleStyle :=
  ⟨colours, !verbose.below 3 && verbose.above 2⟩

namespace Setup

/-- **Takes away what configuring has installed,** `reset_logging`: one handler of `_handlers`
after the other.  Every record has been written out when it was logged, so that closing a file has
nothing left to do. -/
def reset (s : Setup) : Setup :=
  { s with
    attached := s.installed.foldl List.erase s.attached
    installed := []
    level := 0
    config := none }

/-- Attaches a handler, and keeps in mind that configuring has installed it. -/
def install (s : Setup) (h : Handler) : Setup :=
  { s with attached := s.attached ++ [h], installed := s.installed ++ [h] }

/-- A console on a stream that no console has had before. -/
def newConsole (s : Setup) (verbose : Number) (colours : Bool) : Handler :=
  .console s.consoles.length (consoleLevel verbose) (consoleStyle verbose colours)

/-- Installs a new console; from then on every record is made. -/
def installConsole (s : Setup) (verbose : Number) (colours : Bool) : Setup :=
  { s with level := debug, consoles := s.consoles ++ [(false, "")] }.install
    (s.newConsole verbose colours)

/-- Installs the file that is named, if one is and the file system has nothing against it.  What
is no path is found here, when the console is installed already. -/
def installFile (s : Setup) (disk : String → Option SetupError) (logFile : Value) :
    Except SetupError (Setup × Option String) :=
  match logFile with
  | .null => .ok (s, none)
  | .text name =>
    let path := plainPath name
    match disk path with
    | some e => .error e
    | none => .ok ((s.append path "").install (.file path), some path)
  | _ => .error .wrongKind

def activate (s : Setup) (config : LoggingConfig) : Setup :=
  { s with
    config := some config
    consoles := s.consoles.dropLast ++ [(true, "")] }

/-- Installs the handlers that a request asks for, the console first, and puts its configuration
into force: `configure_logging` after its `reset_logging`.  `disk` says for each path why it
cannot be opened, if it cannot. -/
def establish (s : Setup) (disk : String → Option SetupError) (r : Request) (verbose : Number) :
    Setup × Except SetupError LoggingConfig :=
  match r.stream.isTerminal with
  | .error e => (s, .error e)
  | .ok terminal =>
    let s := s.installConsole verbose (r.useColors.truthy && terminal)
    match s.installFile disk r.logFile with
    | .error e => (s, .error e)
    | .ok (s, path) =>
      let config : LoggingConfig := ⟨r.verbose, r.useColors, path⟩
      (s.activate config, .ok config)

/-- **Configures logging,** `configure_logging` on a file system that answers for each path:
everything that was installed is replaced by a console and, if one is named, a file.  Only
`verbose` is looked at before anything changes. -/
def configureOn (s : Setup) (disk : String → Option SetupError) (r : Request) :
    Setup × Except SetupError LoggingConfig :=
  match r.verbose.number? with
  | none => (s, .error .wrongKind)
  | some verbose =>
    if verbose.below 0 then (s, .error (.negative r.verbose))
    else s.reset.establish disk r verbose

/-- Configures logging on the files that there are. -/
def configure (s : Setup) (r : Request) : Setup × Except SetupError LoggingConfig :=
  s.configureOn s.refusal? r

/-- Whether there is an active configuration, `is_configured`. -/
def isConfigured (s : Setup) : Bool := s.config.isSome

/-- The configuration in force, `get_config`, which is the default one when there is none. -/
def active (s : Setup) : LoggingConfig := s.config.getD .default

/-! ## 4. Logging -/

/-- The least level of records that are made at all. -/
def threshold (s : Setup) : Int := if s.level = 0 then warning else s.level

/-- A record handed to one handler; one that cannot be written is dropped. -/
def hand (time : String) (r : Record) (s : Setup) (h : Handler) : Setup :=
  if r.level < h.level then s
  else
    match h with
    | .silent => s
    | .console index _ style =>
      match style.format r with
      | .ok text =>
        { s with consoles := (s.consoles.zipIdx).map fun (c, i) =>
            if i = index then (c.1, c.2 ++ text ++ "\n") else c }
      | .error _ => s
    | .file path =>
      match fileLine time r with
      | .ok line => s.append path (line ++ "\n")
      | .error _ => s

/-- **Logs a record** at a time: every handler that takes its level writes it in its own form. -/
def log (s : Setup) (time : String) (r : Record) : Setup :=
  if r.level < s.threshold then s else s.attached.foldl (hand time r) s

/-- What the consoles of successful configurations have been given, in order. -/
def output (s : Setup) : List String := (s.consoles.filter Prod.fst).map Prod.snd

end Setup

/-! ## 5. Courses of calls -/

/-- **A call on the set-up:** `configure_logging`, on a disk that says why it does not open a
path, or `reset_logging`. -/
inductive Call where
  | configure (request : Request) (disk : String → Option SetupError)
  | reset

namespace Setup

/-- **A call, with its answer:** the configuration of one that configures, or why it has failed. -/
def call (s : Setup) : Call → Setup × Except SetupError (Option LoggingConfig)
  | .configure r disk =>
    let (s, answer) := s.configureOn disk r
    (s, answer.map some)
  | .reset => (s.reset, .ok none)

/-- What calls leave, one after the other, from the start on. -/
def run (calls : List Call) : Setup := calls.foldl (fun s c => (s.call c).1) initial

end Setup

end PartialLeastSquares.Logging
