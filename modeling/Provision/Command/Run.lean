import Provision.Command.Options
import Provision.Http
import Provision.Settings
import Provision.Snapshot.Decode

/-!
# Running a command

The arguments say which report is asked for, the settings how strict it is and where a snapshot is
by default. What a run needs from the outside it gets from its surroundings, whatever they are.

What is printed is the report or the refusal. Log records are no part of it: those that `--verbose`,
`--log-json` or a filter in the environment ask for go to standard error besides, and nothing here
speaks of them.
-/

namespace Provision.Command

/-- Where a snapshot is. -/
inductive Source where
  | file (path : String)
  | url (url : Url)
  deriving DecidableEq, Repr

/-- Why a command fails. -/
inductive Refusal where
  | settings (problem : Settings.Problem)
  | noSource
  | invalidUrl
  | unreadableFile (path : String)
  | noResponse
  | rejected (response : Http.Response)
  | malformedSnapshot
  | failure (failure : Failure)

/-- The refusal, and its cause if there is one. -/
def Refusal.chain : Refusal → List String
  | settings problem => [problem.message]
  | noSource => ["No snapshot given; pass --snapshot <path> or --url <url>"]
  | invalidUrl => ["Invalid snapshot URL"]
  | unreadableFile path => ["Failed to read snapshot file " ++ path]
  | noResponse => ["Failed to send request"]
  | rejected response =>
    ["API error (" ++ response.statusText ++ "): " ++ response.content]
  | malformedSnapshot => ["Failed to parse snapshot"]
  | failure f => f.chain

/-- The refusal as it is printed; the lines of a cause are indented. -/
def Refusal.lines (r : Refusal) : List String :=
  match r.chain with
  | [] => []
  | [message] => ["Error: " ++ message]
  | message :: causes =>
    ["Error: " ++ message, "", "Caused by:"] ++
      causes.flatMap fun cause => (cause.splitOn "\n").map ("    " ++ ·)

/-- What a run leaves behind. -/
structure Outcome where
  code : UInt8
  printed : Printed

namespace Outcome

def refused (r : Refusal) : Outcome := ⟨1, ⟨[], r.lines⟩⟩

def ofReport (report : Report) (colour : Bool) (layout : Layout) : Outcome :=
  { code := if report.allowed? = some false then 1 else 0
    printed := report.print colour layout }

def programVersion : String := "kres 0.1.0"

def helpLines : List String := [
  "Resource headroom and deploy checks for Kubernetes applications", "",
  "Usage: kres [OPTIONS] <COMMAND>", "",
  "Commands:",
  "  headroom  Show the allowable per-replica CPU and memory range",
  "  compat    Show what the persisted storage allows",
  "  validate  Check whether the application can be deployed",
  "  cluster   Show cluster capacity against scheduled pod requests",
  "  help      Print this message", "",
  "Options:",
  "  -s, --snapshot <SNAPSHOT>  Snapshot file to evaluate (takes precedence over --url)",
  "      --url <URL>            Snapshot endpoint URL [env: KRES_SNAPSHOT_URL]",
  "  -f, --format <FORMAT>      Output format [default: table] [possible values: table, json]",
  "  -v, --verbose              Enable verbose output",
  "      --log-json             Emit logs as JSON",
  "  -h, --help                 Print help",
  "  -V, --version              Print version"]

/-- Nothing is run; misuse is told on standard error. -/
def ofStop : Stop → Outcome
  | .help => ⟨0, .lines helpLines⟩
  | .version => ⟨0, .line programVersion⟩
  | .misuse => ⟨2, ⟨[], helpLines⟩⟩

end Outcome

/-- What a run can see. -/
structure Surroundings (m : Type → Type) where
  environment : List (String × String)
  /-- The text of the settings file, if there is one. -/
  settingsFile : Option String
  /-- The text of a file, if it reads. -/
  file : String → m (Option String)
  /-- The response to a request, if there is one. -/
  fetch : Url → m (Option Http.Response)

/-- The value of a variable. -/
def valueOf? (environment : List (String × String)) (name : String) : Option String :=
  environment.lookup name

/-- Output that is not on a terminal has colour only if that is forced. -/
def isColoured (environment : List (String × String)) : Bool :=
  match valueOf? environment "CLICOLOR_FORCE" with
  | some value => value != "0"
  | none => false

/-- A file comes before a locator, and one that is given before the one in the settings. -/
def Source.resolve (options : Options) (environment : List (String × String))
    (settings : Settings) : Except Refusal Source :=
  match options.snapshot with
  | some path => .ok (.file path)
  | none =>
    let given := options.url.or (valueOf? environment "KRES_SNAPSHOT_URL")
    match given.or settings.snapshotUrl with
    | none => .error .noSource
    | some text => match Url.read? text with
      | some place => .ok (.url place)
      | none => .error .invalidUrl

/-- The snapshot in a document. -/
def snapshotOf (text : String) : Except Refusal Snapshot :=
  match Snapshot.read? text with
  | some snapshot => .ok snapshot
  | none => .error .malformedSnapshot

/-- The snapshot in a response. -/
def snapshotOfResponse (response : Http.Response) : Except Refusal Snapshot :=
  if response.isSuccess then snapshotOf response.content else .error (.rejected response)

variable {m : Type → Type} [Monad m]

def Source.load (around : Surroundings m) : Source → m (Except Refusal Snapshot)
  | .file path => do
    match ← around.file path with
    | some text => return snapshotOf text
    | none => return .error (.unreadableFile path)
  | .url place => do
    match ← around.fetch place with
    | some response => return snapshotOfResponse response
    | none => return .error .noResponse

/-- The report on a snapshot, printed. -/
def reportOn (topic : Topic) (options : Options) (settings : Settings) (colour : Bool)
    (snapshot : Except Refusal Snapshot) : Outcome :=
  let report := do
    (Report.ofSnapshot settings.policy (← snapshot) topic).mapError Refusal.failure
  match report with
  | .ok report => .ofReport report colour (options.layout.getD .table)
  | .error refusal => .refused refusal

/-- Settings come before the source, and the source before the snapshot. -/
def report (around : Surroundings m) (topic : Topic) (options : Options) : m Outcome := do
  let prepared : Except Refusal (Settings × Source) := do
    let settings ← (Settings.load around.settingsFile around.environment).mapError .settings
    return (settings, ← Source.resolve options around.environment settings)
  match prepared with
  | .error refusal => return .refused refusal
  | .ok (settings, source) =>
    return reportOn topic options settings (isColoured around.environment) (← source.load around)

def run (around : Surroundings m) (arguments : List String) : m Outcome :=
  match asked arguments with
  | .ok (topic, options) => report around topic options
  | .error stop => return .ofStop stop

end Provision.Command
