import JointController.Library.Checks
import JointController.Library.Double
import JointController.Library.Runs

/-!
# The configuration store

`ConfigStore` of the hardware server: the configuration in memory, a transaction on a copy of it,
and the file that a commit replaces.

* `Environment`: what the libraries of Python compute.
* `ConfigStore.validate`: the checks of a configuration.
* `ConfigStore.begin`, `patch`, `commit`, `rollback`: the operations, with the replies.
* `FaultPoint`: the file actions of a commit, any of which may fail.
* `ConfigStore.step`: an operation with its arguments and the file action that fails in it.
-/

namespace JointController

namespace Network

/-! ## Configurations -/

/-- A value of a section. -/
inductive Leaf where
  | int (n : ℤ)
  | float (x : Double)
  | str (s : String)
  | bool (b : Bool)
  /-- A null, a list or a mapping, which the store does not look into. -/
  | other (text : String)
  deriving DecidableEq

/-- An item of the root mapping. -/
inductive Entry where
  | leaf (v : Leaf)
  | mapping (items : List (String × Leaf))
  deriving DecidableEq

/-- A configuration: a root mapping, in the order of its items. -/
abbrev Config := List (String × Entry)

/-- `mapping[key] = value`: the item is replaced, or appended. -/
def setItem {α : Type*} (key : String) (value : α) : List (String × α) → List (String × α)
  | [] => [(key, value)]
  | (k, v) :: items =>
    if k = key then (key, value) :: items else (k, v) :: setItem key value items

/-- What the libraries compute.  `none` is an exception. -/
structure Environment where
  /-- What a file holds. -/
  Content : Type
  /-- `float` of a string. -/
  parseFloat : String → Option Double
  /-- `int` of a string. -/
  parseInt : String → Option ℤ
  /-- `float` of an integer: rounded, and an exception when it is too large. -/
  floatOfInt : ℤ → Option Double
  /-- `_hash`: the digest of the canonical JSON text. -/
  hash : Config → Option String
  /-- `yaml.safe_dump`. -/
  safeDump : Config → Option Content
  /-- `yaml.safe_load`, of a root mapping. -/
  safeLoad : Content → Option Config

variable (env : Environment)

/-- `ConfigError`, with its message, or an exception of Python itself. -/
inductive StoreError where
  | config (message : String)
  | builtin
  deriving DecidableEq

/-- `float(value)`. -/
def Environment.float : Leaf → Option Double
  | .int n => env.floatOfInt n
  | .float x => some x
  | .str s => env.parseFloat s
  | .bool b => some (if b then .finite 1 else .finite 0)
  | .other _ => none

/-- `int(value)`. -/
def Environment.int : Entry → Option ℤ
  | .leaf (.int n) => some n
  | .leaf (.float (.finite q)) => some (if 0 ≤ q then q.floor else q.ceil)
  | .leaf (.str s) => env.parseInt s
  | .leaf (.bool b) => some (if b then 1 else 0)
  | _ => none

/-! ## Validation -/

/-- `candidate.get(name, {})`, when it is a mapping. -/
def section? (candidate : Config) (name : String) : Option (List (String × Leaf)) :=
  match candidate.lookup name with
  | none => some []
  | some (.mapping items) => some items
  | some (.leaf _) => none

/-- `float(items.get(key, default))`. -/
def Environment.getFloat (items : List (String × Leaf)) (key : String) (default : ℚ) :
    Except StoreError Double :=
  match items.lookup key with
  | none => .ok (.finite default)
  | some v =>
    match env.float v with
    | some x => .ok x
    | none => .error .builtin

/-- One round of the loops of `validate`. -/
def Environment.checkRange (name : String) (items : List (String × Leaf)) (key : String)
    (upper : ℚ) (upperText : String) : Except StoreError Unit := do
  let value ← env.getFloat items key 0
  Checks.refuse (¬ value.isFinite ∨ ¬ (.finite 0 < value ∧ value ≤ .finite upper))
    (.config (name ++ "." ++ key ++ " must be in (0, " ++ upperText ++ "]"))

/-- The double `0.1`. -/
def tenth : ℚ := 3602879701896397 / 36028797018963968

/-- The checks of `validate`. -/
def Environment.check (candidate : Config) : Except StoreError Unit :=
  match section? candidate "arm", section? candidate "lift" with
  | some arm, some lift => do
    env.checkRange "arm" arm "jog_step_rad" tenth "0.1"
    env.checkRange "arm" arm "max_step_rad" tenth "0.1"
    env.checkRange "arm" arm "max_speed_rad_s" 1 "1.0"
    let jogRad ← env.getFloat arm "jog_step_rad" 0
    let maxRad ← env.getFloat arm "max_step_rad" 0
    Checks.refuse (maxRad < jogRad) (.config "arm.jog_step_rad must not exceed arm.max_step_rad")
    let minM ← env.getFloat lift "min_position_m" (-1)
    let maxM ← env.getFloat lift "max_position_m" 0
    Checks.refuse (¬ minM < maxM) (.config "lift.min_position_m must be less than max_position_m")
    env.checkRange "lift" lift "jog_step_m" tenth "0.1"
    env.checkRange "lift" lift "max_step_m" tenth "0.1"
    env.checkRange "lift" lift "max_speed_mps" tenth "0.1"
    env.checkRange "lift" lift "acceleration_mps2" 1 "1.0"
    let jogM ← env.getFloat lift "jog_step_m" 0
    let stepM ← env.getFloat lift "max_step_m" 0
    Checks.refuse (stepM < jogM) (.config "lift.jog_step_m must not exceed lift.max_step_m")
  | _, _ => .error (.config "arm and lift sections are required mappings")

/-! ## The store -/

/-- `history_entry`, without the time. -/
structure HistoryEntry where
  revision : ℤ
  previousRevision : ℤ
  oldHash : String
  newHash : String
  deriving DecidableEq

/-- The name of a file in `history_dir`: a backup or the record of a commit, with the revision and
the digest in it. -/
inductive HistoryName where
  | backup (revision : ℤ) (hash : String)
  | commit (revision : ℤ) (hash : String)
  deriving DecidableEq

/-- `ConfigStore`, with the configuration file and the names in `history_dir`. -/
structure ConfigStore where
  config : Config
  revision : ℤ
  transaction : Option Config
  transactionBase : ℤ
  history : List HistoryEntry
  file : env.Content
  historyDir : List HistoryName

/-- What an operation returns. -/
inductive Reply where
  | snapshot (config : Config) (revision : ℤ) (hash : String)
  | transactionSnapshot (config : Config) (baseRevision : ℤ) (hash : String)
  | valid (hash : String)
  deriving DecidableEq

/-- A file action of `_write_atomic`. -/
inductive WriteAction where
  | makeDirectory | makeTemporary | openStream | write | flush | sync | closeStream | replace
  | openDirectory | syncDirectory | closeDirectory
  deriving DecidableEq

/-- The action comes after the replacement of the file. -/
def WriteAction.late : WriteAction → Bool
  | .makeDirectory | .makeTemporary | .openStream | .write | .flush | .sync | .closeStream
  | .replace => false
  | .openDirectory | .syncDirectory | .closeDirectory => true

/-- The file actions of a commit. -/
inductive FaultPoint where
  | makeHistoryDir
  | backupExists
  | readFile
  | backup (a : WriteAction)
  | file (a : WriteAction)
  | historyEntry (a : WriteAction)
  deriving DecidableEq

/-- A field of `remote_mutable`. -/
structure MutableField where
  sectionName : String
  key : String

/-- The path of a field. -/
def MutableField.path (f : MutableField) : String := f.sectionName ++ "." ++ f.key

/-- `remote_mutable` of `schema`. -/
def remoteMutable : List MutableField :=
  [⟨"arm", "jog_step_rad"⟩, ⟨"arm", "max_speed_rad_s"⟩, ⟨"arm", "max_step_rad"⟩,
    ⟨"lift", "jog_step_m"⟩, ⟨"lift", "max_speed_mps"⟩, ⟨"lift", "acceleration_mps2"⟩]

/-- A number or a string, and no boolean. -/
def Leaf.isScalar : Leaf → Bool
  | .int _ | .float _ | .str _ => true
  | .bool _ | .other _ => false

namespace ConfigStore

variable {env} (s : ConfigStore env)

/-- What an operation leads to: a reply or an exception, and the store. -/
abbrev Result (env : Environment) := Except StoreError Reply × ConfigStore env

/-- `_hash`, or the exception that it raises. -/
def hash (env : Environment) (config : Config) : Except StoreError String :=
  match env.hash config with
  | some h => .ok h
  | none => .error .builtin

/-- `snapshot`. -/
def snapshot : Except StoreError Reply :=
  (hash env s.config).map fun h => .snapshot s.config s.revision h

/-- `transaction_snapshot`. -/
def transactionSnapshot : Except StoreError Reply :=
  let config := s.transaction.getD s.config
  (hash env config).map fun h => .transactionSnapshot config s.transactionBase h

/-- `validate`, of a configuration. -/
def validateConfig (env : Environment) (candidate : Config) : Except StoreError Reply := do
  env.check candidate
  (hash env candidate).map fun h => .valid h

/-- The transaction that `begin` opens, unless one is open. -/
def opened : ConfigStore env :=
  match s.transaction with
  | none => { s with transaction := some s.config, transactionBase := s.revision }
  | some _ => s

/-- `begin`. -/
def begin : Result env := (s.opened.transactionSnapshot, s.opened)

/-- The end of `patch`, on the section of the field. -/
def patchSection (f : MutableField) (value : Leaf) (tx : Config) (items : List (String × Leaf)) :
    Result env :=
  if ¬ value.isScalar then
    (.error (.config "configuration value must be a scalar number/string"), s)
  else
    let tx := setItem f.sectionName (.mapping (setItem f.key value items)) tx
    let s := { s with transaction := some tx }
    match validateConfig env tx with
    | .error e => (.error e, s)
    | .ok _ => (s.transactionSnapshot, s)

/-- `patch` of a mutable field, with the search of `_get_parent`. -/
def patchField (f : MutableField) (value : Leaf) : Result env :=
  match s.transaction with
  | none => (.error .builtin, s)
  | some tx =>
    match tx.lookup f.sectionName with
    | none => (.error (.config ("unknown configuration path: " ++ f.path)), s)
    | some (.leaf _) => (.error (.config "configuration path parent is not a mapping"), s)
    | some (.mapping items) => s.patchSection f value tx items

/-- `patch`. -/
def patch (path : String) (value : Leaf) : Result env :=
  match remoteMutable.find? (·.path == path) with
  | none => (.error (.config ("configuration field is not remotely mutable: " ++ path)), s)
  | some f =>
    if s.transaction = none then
      match s.begin with
      | (.error e, s) => (.error e, s)
      | (.ok _, s) => s.patchField f value
    else s.patchField f value

/-- `validate`.  An empty transaction counts as none. -/
def validate : Result env :=
  let candidate := match s.transaction with
    | some tx => if tx = [] then s.config else tx
    | none => s.config
  (validateConfig env candidate, s)

/-- The configuration that a commit installs. -/
def nextConfig (tx : Config) : Config :=
  setItem "config_revision" (.leaf (.int (s.revision + 1))) tx

/-- The first part of `commit`, which changes nothing: the checks and the digests. -/
def prepareCommit (expected : ℤ) (tx : Config) : Except StoreError HistoryEntry := do
  Checks.refuse (expected ≠ s.revision ∨ s.transactionBase ≠ s.revision)
    (.config ("revision conflict: current=" ++ toString s.revision ++ ", expected=" ++
      toString expected))
  let _ ← validateConfig env tx
  let oldHash ← hash env s.config
  let newHash ← hash env (s.nextConfig tx)
  return ⟨s.revision + 1, s.revision, oldHash, newHash⟩

/-- The backup of the file, unless there is one.  The first component says whether `commit` goes
on. -/
def backUp (fault : Option FaultPoint) (name : HistoryName) : Bool × ConfigStore env :=
  if fault = some .makeHistoryDir ∨ fault = some .backupExists then (false, s)
  else if name ∈ s.historyDir then (true, s)
  else
    let written := { s with historyDir := name :: s.historyDir }
    match fault with
    | some .readFile => (false, s)
    | some (.backup a) => (false, if a.late then written else s)
    | _ => (true, written)

/-- The memory after `commit`. -/
def install (tx : Config) (entry : HistoryEntry) : ConfigStore env :=
  let history := s.history ++ [entry]
  { s with
    history := history.drop (history.length - 20)
    config := s.nextConfig tx
    revision := s.revision + 1
    transaction := none }

/-- The end of `commit`: the record of the commit is written, and the memory follows. -/
def finishCommit (fault : Option FaultPoint) (tx : Config) (entry : HistoryEntry) : Result env :=
  let name := HistoryName.commit entry.revision (entry.newHash.take 12).toString
  let written := { s with historyDir := name :: s.historyDir }
  match fault with
  | some (.historyEntry a) => (.error .builtin, if a.late then written else s)
  | _ => ((written.install tx entry).snapshot, written.install tx entry)

/-- The middle of `commit`: the configuration file is replaced. -/
def writeConfig (fault : Option FaultPoint) (tx : Config) (content : env.Content)
    (entry : HistoryEntry) : Result env :=
  match fault with
  | some (.file a) => (.error .builtin, if a.late then { s with file := content } else s)
  | _ => { s with file := content }.finishCommit fault tx entry

/-- `commit`. -/
def commit (expected : ℤ) (fault : Option FaultPoint) : Result env :=
  match s.transaction with
  | none => (.error (.config "no configuration transaction"), s)
  | some tx =>
    match s.prepareCommit expected tx with
    | .error e => (.error e, s)
    | .ok entry =>
      match s.backUp fault (.backup s.revision (entry.oldHash.take 12).toString) with
      | (false, s) => (.error .builtin, s)
      | (true, s) =>
        match env.safeDump (s.nextConfig tx) with
        | none => (.error .builtin, s)
        | some content => s.writeConfig fault tx content entry

/-- `rollback`. -/
def rollback : Result env :=
  let s := { s with transaction := none }
  (s.snapshot, s)

end ConfigStore

/-! ## Runs -/

/-- An operation with its arguments. -/
inductive Operation where
  | begin
  | patch (path : String) (value : Leaf)
  | validate
  | commit (expectedRevision : ℤ)
  | rollback
  deriving DecidableEq

/-- An operation, and the file action that fails in it. -/
structure Call where
  operation : Operation
  fault : Option FaultPoint

namespace ConfigStore

variable {env} (s : ConfigStore env)

/-- What a call leads to. -/
def perform (call : Call) : Result env :=
  match call.operation with
  | .begin => s.begin
  | .patch path value => s.patch path value
  | .validate => s.validate
  | .commit expected => s.commit expected call.fault
  | .rollback => s.rollback

/-- The store after a call. -/
def step (s : ConfigStore env) (call : Call) : Option (ConfigStore env) := some (s.perform call).2

/-- The store of a server that starts: the configuration of the file, with the records in
`history_dir`. -/
def load (env : Environment) (file : env.Content) (history : List HistoryEntry)
    (historyDir : List HistoryName) : Option (ConfigStore env) :=
  match env.safeLoad file with
  | none => none
  | some config =>
    (env.int ((config.lookup "config_revision").getD (.leaf (.int 0)))).map fun revision =>
      { config := config, revision := revision, transaction := none, transactionBase := 0,
        history := history.drop (history.length - 20), file := file, historyDir := historyDir }

end ConfigStore

end Network

end JointController
