/-
# Configuration files

A configuration is kept in a JSON or a YAML file, and `load_config` goes by the ending of the
file's name.  What is read from a file is the text with every line end as a line feed, or nothing
when the file does not exist; the ending is looked at first.

`Format.write` and `Format.read` are the two directions, each through the table of the
configuration: `to_json_file` and `to_yaml_file`, `from_json_file` and `from_yaml_file`.  A YAML
file without content is the empty table.
-/
import PartialLeastSquares.Config
import PartialLeastSquares.Json.Reader
import PartialLeastSquares.Json.Writer
import PartialLeastSquares.Yaml.Reader
import PartialLeastSquares.Yaml.Writer

namespace PartialLeastSquares

/-! ## 1. Formats -/

/-- The formats of configuration files, which `load_config` tells apart. -/
inductive Format where
  | json
  | yaml
deriving DecidableEq, Repr

/-- Why a configuration file is not read or written: it is missing, its ending is not known, its
text is none of its format or holds no table, or the table is no configuration. -/
inductive ConfigFileError where
  | missing (name : String)
  | unsupported (ending : String)
  | noTable (name kind : String)
  | json
  | layout
  | yaml (error : Yaml.Error)
  | config (error : ConfigError)

namespace ConfigFileError

def kind : ConfigFileError → FailureKind
  | missing _ => .missingFile
  | unsupported _ => .validation
  | noTable _ _ => .validation
  | json => .json
  | layout => .wrongKind
  | yaml e => e.kind
  | config e => e.kind

def message : ConfigFileError → String
  | missing name => "[Errno 2] No such file or directory: " ++ Text.quoted name
  | unsupported ending => "Unsupported configuration file type: " ++ Text.quoted ending
  | noTable name kind => name ++ ": expected a mapping at top level, got " ++ kind
  | json => ""
  | layout => ""
  | yaml e => e.message
  | config e => e.message

end ConfigFileError

/-! ## 2. Names -/

def lastPart (path : List Char) : List Char :=
  ((path.splitOn '/').filter fun part => !part.isEmpty && part != ['.']).getLast?.getD []

/-- The ending of a name: from its last point on, unless the name starts or ends with it. -/
def endingOf (name : List Char) : List Char :=
  let afterPoint := (name.reverse.takeWhile (· != '.')).reverse
  let before := name.length - afterPoint.length - 1
  if afterPoint.length < name.length ∧ 0 < before ∧ afterPoint ≠ [] then '.' :: afterPoint else []

def pathEnding (path : String) : String :=
  Text.lowered (String.ofList (endingOf (lastPart path.toList)))

namespace Format

/-- The format of a file by its ending, in any case, as in `load_config`. -/
def ofPath (path : String) : Except ConfigFileError Format :=
  let ending := pathEnding path
  if ending == ".json" then .ok json
  else if ending == ".yaml" || ending == ".yml" then .ok yaml
  else .error (.unsupported ending)

/-! ## 3. Reading -/

/-- A text with every line end as a line feed. -/
def withLineFeeds : List Char → List Char
  | [] => []
  | '\r' :: '\n' :: rest => '\n' :: withLineFeeds rest
  | '\r' :: rest => '\n' :: withLineFeeds rest
  | c :: rest => c :: withLineFeeds rest

/-- The value that a text holds; a YAML text with a value that counts as false holds the empty
table, and with any other that is no table it is refused under its name. -/
def value (f : Format) (name text : String) : Except ConfigFileError Value :=
  let text := String.ofList (withLineFeeds text.toList)
  match f with
  | json =>
    match Json.read? text with
    | some v => .ok v
    | none => .error .json
  | yaml =>
    match Yaml.read text with
    | .error e => .error (.yaml e)
    | .ok v =>
      if !v.truthy then .ok (.table [])
      else
        match v with
        | .table entries => .ok (.table entries)
        | v => .error (.noTable name v.kind)

/-- **The configuration in a text,** `from_json_file` or `from_yaml_file` with the file's name for
its message. -/
def read (f : Format) (name text : String) : Except ConfigFileError Config :=
  match f.value name text with
  | .error e => .error e
  | .ok v => (Config.ofValue v).mapError .config

/-! ## 4. Writing -/

/-- **The text of a configuration,** `to_json_file` or `to_yaml_file`; JSON is indented as the
setting says. -/
def write (f : Format) (indent : Value) (c : Config) : Except ConfigFileError String :=
  match c.toTable with
  | .error e => .error (.config e)
  | .ok v =>
    match f with
    | yaml => .ok (Yaml.write v)
    | json =>
      match Json.Layout.ofValue? indent with
      | some layout => .ok (Json.write layout v)
      | none => .error .layout

end Format

/-- **The configuration in a file,** `load_config`, given the name of the file and its text if it
exists. -/
def Config.load (name : String) (text : Option String) : Except ConfigFileError Config :=
  match Format.ofPath name, text with
  | .error e, _ => .error e
  | .ok _, none => .error (.missing name)
  | .ok f, some text => f.read name text

end PartialLeastSquares
