/-
# Model configurations

A configuration, `ModelConfig`, describes one model: its method, the settings of that method, and
for an orthogonal filter the configuration of the model that follows it.  It is made from a table
of settings by `from_dict`, where a missing setting has its default and an unknown one is refused;
`Config.toTable` is `to_dict`, the table it came from with the defaults filled in.

Settings may hold anything until `validate` has looked at them.  In the place of a following
configuration there may be a value that is none; it is kept, and refused by whatever looks at it.
`Config.build` is `build_model`.
-/
import PartialLeastSquares.Model.Estimator
import PartialLeastSquares.Preprocessing

namespace PartialLeastSquares

/-! ## 1. Configurations -/

/-- The settings of one model: the fields of `ModelConfig` but for `base`, with their defaults. -/
structure ModelSettings where
  algorithm : Value := .text "pls1"
  nComponents : Value := .int 5
  preprocessing : Value := .text "center"
  kernel : Value := .text "rbf"
  kernelParams : Value := .table []
  tol : Value := .float 1e-6
  maxIter : Value := .int 500
  seed : Value := .int 0
  numCoefficients : Value := .int 0

/-- **A configuration,** `ModelConfig`: settings, and its `base`, which is none, a configuration,
or any other value (`stray`). -/
inductive Config where
  | single (s : ModelSettings)
  | followed (s : ModelSettings) (base : Config)
  | stray (s : ModelSettings) (base : Value)

/-- Why a configuration cannot be made, accepted or used: unknown keys, a list with a member that
is no pair, a value of a kind that its use does not allow, a `base` that is no configuration, and
one case for each `ValidationError` of `validate`. -/
inductive ConfigError where
  | unknown (keys : List String)
  | notPair (index length : Nat)
  | wrongKind
  | noConfig
  | algorithm (v : Value)
  | nComponents (v : Value)
  | preprocessing (v : Value)
  | kernel (v : Value)
  | tol (v : Value)
  | maxIter (v : Value)
  | seed (v : Value)
  | numCoefficients (v : Value)
  | baseUnused
  | choice (error : KernelChoiceError)

namespace ConfigError

def kind : ConfigError → FailureKind
  | notPair _ _ => .value
  | wrongKind => .wrongKind
  | noConfig => .missingProperty
  | choice e => e.kind
  | _ => .validation

def message : ConfigError → String
  | unknown keys => "Unknown configuration key(s): " ++ ", ".intercalate keys
  | notPair index length =>
    "dictionary update sequence element #" ++ toString index ++ " has length " ++ toString length ++
      "; 2 is required"
  | wrongKind => ""
  | noConfig => ""
  | algorithm v =>
    "algorithm must be one of ('pls1', 'simpls', 'kernel_pls', 'opls'), got " ++ v.display
  | nComponents v => "n_components must be a positive integer, got " ++ v.display
  | preprocessing v => Scheme.refusal v
  | kernel v => "kernel must be one of ['linear', 'poly', 'rbf'], got " ++ v.display
  | tol v => "tol must be positive, got " ++ v.display
  | maxIter v => "max_iter must be a positive integer, got " ++ v.display
  | seed v => "seed must be a non-negative integer, got " ++ v.display
  | numCoefficients v => "num_coefficients must be a non-negative integer, got " ++ v.display
  | baseUnused => "base is only used by the 'opls' algorithm"
  | choice e => e.message

end ConfigError

/-! ## 2. Tables of settings -/

/-- The members of a value that can be gone through. -/
def Value.members? : Value → Option (List Value)
  | .list items => some items
  | .text s => some (s.toList.map fun c => .text c.toString)
  | .table entries => some (entries.map Prod.fst)
  | _ => none

/-- Whether a value can be the key of a table. -/
def Value.isKey : Value → Bool
  | .list _ => false
  | .table _ => false
  | _ => true

/-- The table that a list of pairs makes; `index` is the place of the next member, for the
message. -/
def tableOfPairs : (index : Nat) → (seen : List (Value × Value)) → List Value →
    Except ConfigError (List (Value × Value))
  | _, seen, [] => .ok seen
  | index, seen, item :: rest =>
    match item.members? with
    | none => .error .wrongKind
    | some [k, v] =>
      if k.isKey then tableOfPairs (index + 1) (Value.insert seen k v) rest
      else .error .wrongKind
    | some members => .error (.notPair index members.length)

/-- **A value as a table,** which `from_dict` copies first: a table, or anything that goes through
pairs. -/
def tableOf (v : Value) : Except ConfigError (List (Value × Value)) :=
  match v with
  | .table entries => .ok entries
  | _ =>
    match v.members? with
    | none => .error .wrongKind
    | some items => tableOfPairs 0 [] items

namespace ModelSettings

/-- The names of the settings, in the order of the fields of `ModelConfig`. -/
def names : List String :=
  ["algorithm", "n_components", "preprocessing", "kernel", "kernel_params", "tol", "max_iter",
    "seed", "num_coefficients"]

def set (s : ModelSettings) (name : String) (v : Value) : ModelSettings :=
  if name == "algorithm" then { s with algorithm := v }
  else if name == "n_components" then { s with nComponents := v }
  else if name == "preprocessing" then { s with preprocessing := v }
  else if name == "kernel" then { s with kernel := v }
  else if name == "kernel_params" then { s with kernelParams := v }
  else if name == "tol" then { s with tol := v }
  else if name == "max_iter" then { s with maxIter := v }
  else if name == "seed" then { s with seed := v }
  else if name == "num_coefficients" then { s with numCoefficients := v }
  else s

def entries (s : ModelSettings) : List (Value × Value) :=
  [(.text "algorithm", s.algorithm), (.text "n_components", s.nComponents),
    (.text "preprocessing", s.preprocessing), (.text "kernel", s.kernel),
    (.text "kernel_params", s.kernelParams), (.text "tol", s.tol), (.text "max_iter", s.maxIter),
    (.text "seed", s.seed), (.text "num_coefficients", s.numCoefficients)]

/-- The settings that a table gives, the others by default. -/
def ofEntries (entries : List (Value × Value)) : ModelSettings :=
  entries.foldl (fun s (k, v) => match k with
    | .text name => s.set name v
    | _ => s) {}

def same (s t : ModelSettings) : Bool :=
  Value.sameItems (s.entries.map Prod.snd) (t.entries.map Prod.snd)

end ModelSettings

/-- The keys of a table that name no setting, sorted as `from_dict` lists them; a key that is no
text cannot be sorted among them. -/
def unknownKeys (entries : List (Value × Value)) : Except ConfigError (List String) :=
  let strange := entries.filter fun (k, _) =>
    match k with
    | .text name => name != "base" && !ModelSettings.names.contains name
    | _ => true
  let named := strange.mapM fun (k, _) =>
    match k with
    | .text name => some name
    | _ => none
  match named with
  | none => .error .wrongKind
  | some keys => .ok (keys.mergeSort fun a b => decide (a ≤ b))

namespace Config

/-- The configuration of a table whose keys are given as a list, `ModelConfig.from_dict`; `fuel`
bounds how deep the configurations of what follows are nested. -/
def ofEntries : (fuel : Nat) → List (Value × Value) → Except ConfigError Config
  | 0, _ => .error .wrongKind
  | fuel + 1, entries =>
    match unknownKeys entries with
    | .error e => .error e
    | .ok (key :: rest) => .error (.unknown (key :: rest))
    | .ok [] =>
      let settings := ModelSettings.ofEntries entries
      match Value.find? entries "base" with
      | none => .ok (.single settings)
      | some .null => .ok (.single settings)
      | some (.table inner) =>
        match ofEntries fuel inner with
        | .ok base => .ok (.followed settings base)
        | .error e => .error e
      | some other => .ok (.stray settings other)

mutual

def depth : Value → Nat
  | .table entries => depthOfEntries entries + 1
  | _ => 0

def depthOfEntries : List (Value × Value) → Nat
  | [] => 0
  | (_, v) :: rest => max (depth v) (depthOfEntries rest)

end

/-- **The configuration that a value gives,** `ModelConfig.from_dict` of anything.  The depth of
the tables in it is fuel enough. -/
def ofValue (v : Value) : Except ConfigError Config :=
  match tableOf v with
  | .error e => .error e
  | .ok entries => ofEntries (depthOfEntries entries + 1) entries

/-- **The table of a configuration,** `ModelConfig.to_dict`, with all settings; none when a value
that is no configuration stands in it. -/
def toTable : Config → Except ConfigError Value
  | single s => .ok (.table (s.entries ++ [(.text "base", .null)]))
  | followed s base =>
    match base.toTable with
    | .ok v => .ok (.table (s.entries ++ [(.text "base", v)]))
    | .error e => .error e
  | stray _ _ => .error .noConfig

def same : Config → Config → Bool
  | single s, single t => s.same t
  | followed s b, followed t c => s.same t && same b c
  | stray s v, stray t w => s.same t && v.same w
  | _, _ => false

end Config

/-! ## 3. Acceptance -/

/-- The names in `ALGORITHMS`. -/
def methodNames : List String := ["pls1", "simpls", "kernel_pls", "opls"]

def Value.isOneOf (v : Value) (texts : List String) : Bool :=
  match v with
  | .text s => texts.contains s
  | _ => false

namespace ModelSettings

/-- Checks an integer against a least value: `read` decides whether a truth value passes for one,
in which the tests of `validate` differ. -/
def checkInteger (v : Value) (read : Value → Option Int) (least : Int) (refusal : ConfigError) :
    Except ConfigError Unit :=
  match read v with
  | none => .error refusal
  | some n => if n < least then .error refusal else .ok ()

/-- **The requirements on the settings of one model,** the tests of `ModelConfig.validate` in
their order.  A truth value passes for `max_iter` and `num_coefficients`, and not for
`n_components` and `seed`; a `tol` that is no number fails in the comparison itself. -/
def validate (s : ModelSettings) : Except ConfigError Unit := do
  if !s.algorithm.isOneOf methodNames then throw (.algorithm s.algorithm)
  checkInteger s.nComponents Value.strictInteger? 1 (.nComponents s.nComponents)
  if (Scheme.ofValue? s.preprocessing).isNone then throw (.preprocessing s.preprocessing)
  if !Kernel.names.contains (Text.lowered s.kernel.plain) then throw (.kernel s.kernel)
  match s.tol.number? with
  | none => throw .wrongKind
  | some bound => if !bound.above 0 then throw (.tol s.tol)
  checkInteger s.maxIter Value.integer? 1 (.maxIter s.maxIter)
  checkInteger s.seed Value.strictInteger? 0 (.seed s.seed)
  checkInteger s.numCoefficients Value.integer? 0 (.numCoefficients s.numCoefficients)

def isFilter (s : ModelSettings) : Bool := s.algorithm.isOneOf ["opls"]

/-- The parameters of the kernel by name, as they are handed to `create_kernel`. -/
def parameters (s : ModelSettings) : Except ConfigError (List (String × Value)) :=
  match s.kernelParams with
  | .table entries =>
    entries.mapM fun (k, v) =>
      match k with
      | .text name => .ok (name, v)
      | _ => .error ConfigError.wrongKind
  | _ => .error .wrongKind

/-- The method that the settings describe, given what follows it: the branches of `build_model`.
-/
def method (s : ModelSettings) (base : Estimator) : Except ConfigError Estimator :=
  if s.algorithm.isOneOf ["pls1"] then .ok .pls1
  else if s.algorithm.isOneOf ["simpls"] then .ok (.simpls s.numCoefficients)
  else if s.algorithm.isOneOf ["kernel_pls"] then do
    let parameters ← s.parameters
    match Kernel.create s.kernel parameters with
    | .ok kernel => .ok (.kernelPls (.kernel kernel) s.tol s.maxIter s.seed)
    | .error e => .error (.choice e)
  else .ok (.opls base)

/-- The model that the settings describe, given what follows its method. -/
def model (s : ModelSettings) (base : Estimator) : Except ConfigError Estimator :=
  (s.method base).map fun method => .model method s.nComponents s.preprocessing

end ModelSettings

namespace Config

/-- **Checks a configuration,** `ModelConfig.validate`: its own settings first, then whether it
may have a `base`, and then that. -/
def validate : Config → Except ConfigError Unit
  | single s => s.validate
  | followed s base => do
    s.validate
    if !s.isFilter then throw .baseUnused
    base.validate
  | stray s _ => do
    s.validate
    if !s.isFilter then throw .baseUnused
    throw .noConfig

/-- The model of a configuration that has been accepted, a chain of `OPLS` around the last `base`.
-/
def assemble : Config → Except ConfigError Estimator
  | single s => s.model (.plain .null)
  | followed s base =>
    match base.assemble with
    | .ok b => s.model b
    | .error e => .error e
  | stray _ _ => .error .noConfig

/-- **The unfitted model that a configuration describes,** `build_model`. -/
def build (c : Config) : Except ConfigError Estimator := do
  c.validate
  c.assemble

end Config

end PartialLeastSquares
