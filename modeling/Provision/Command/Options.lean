import Provision.Report

/-!
# Arguments of the command line

Options stand in front of the command or behind it. In each of the two places an option is given
once at most; of two values the one behind the command counts. A value is attached to its option, or
it is the next argument, which must not look like an option.
-/

namespace Provision.Command

/-- What the options of one place say. -/
structure Options where
  snapshot : Option String
  url : Option String
  layout : Option Layout
  verbose : Bool
  logsAsJson : Bool
  deriving DecidableEq, Repr

/-- Why there is no report to make. -/
inductive Stop where
  | help
  | version
  | misuse
  deriving DecidableEq, Repr

/-- An option that takes a value. -/
inductive Valued where
  | snapshot
  | url
  | format
  deriving DecidableEq, Repr

/-- An option that takes none. -/
inductive Plain where
  | verbose
  | logsAsJson
  | help
  | version
  deriving DecidableEq, Repr

inductive Name where
  | valued (option : Valued)
  | plain (option : Plain)
  deriving DecidableEq, Repr

def Name.ofLong? : String → Option Name
  | "snapshot" => some (.valued .snapshot)
  | "url" => some (.valued .url)
  | "format" => some (.valued .format)
  | "verbose" => some (.plain .verbose)
  | "log-json" => some (.plain .logsAsJson)
  | "help" => some (.plain .help)
  | "version" => some (.plain .version)
  | _ => none

def Name.ofShort? : Char → Option Name
  | 's' => some (.valued .snapshot)
  | 'f' => some (.valued .format)
  | 'v' => some (.plain .verbose)
  | 'h' => some (.plain .help)
  | 'V' => some (.plain .version)
  | _ => none

/-- The place in front of the command, or behind it. -/
inductive Place where
  | front
  | behind
  deriving DecidableEq, Repr

namespace Options

def none : Options := ⟨.none, .none, .none, false, false⟩

/-- The options behind the command, and what they leave open by those in front of it. -/
def overriding (behind front : Options) : Options :=
  { snapshot := behind.snapshot.or front.snapshot
    url := behind.url.or front.url
    layout := behind.layout.or front.layout
    verbose := behind.verbose || front.verbose
    logsAsJson := behind.logsAsJson || front.logsAsJson }

/-- A path is not empty, and a format is one of those there are. -/
def setValue (o : Options) (value : String) : Valued → Except Stop Options
  | .snapshot =>
    if o.snapshot.isSome || value.isEmpty then .error .misuse
    else .ok { o with snapshot := some value }
  | .url => if o.url.isSome then .error .misuse else .ok { o with url := some value }
  | .format => match o.layout, Layout.ofName? value with
    | .none, some layout => .ok { o with layout := some layout }
    | _, _ => .error .misuse

/-- The version can be asked for in front of the command only. -/
def setPlain (o : Options) (place : Place) : Plain → Except Stop Options
  | .verbose => if o.verbose then .error .misuse else .ok { o with verbose := true }
  | .logsAsJson => if o.logsAsJson then .error .misuse else .ok { o with logsAsJson := true }
  | .help => .error .help
  | .version => .error (if place = .front then .version else .misuse)

/-- Letters behind one dash; the option that is returned still needs a value. -/
def readShort (place : Place) : Options → List Char → Except Stop (Options × Option Valued)
  | o, [] => .ok (o, .none)
  | o, c :: r => match Name.ofShort? c with
    | .none => .error .misuse
    | some (.plain option) => do readShort place (← o.setPlain place option) r
    | some (.valued option) => match r with
      | [] => .ok (o, some option)
      | '=' :: value => do return (← o.setValue (String.ofList value) option, .none)
      | value => do return (← o.setValue (String.ofList value) option, .none)

/-- A name behind two dashes, and what is attached to it. -/
def readLong (place : Place) (o : Options) (s : List Char) :
    Except Stop (Options × Option Valued) :=
  let name := Name.ofLong? (String.ofList (s.takeWhile (· != '=')))
  match name, s.dropWhile (· != '=') with
  | some (.plain option), [] => do return (← o.setPlain place option, .none)
  | some (.valued option), [] => .ok (o, some option)
  | some (.valued option), _ :: value => do
    return (← o.setValue (String.ofList value) option, .none)
  | _, _ => .error .misuse

/-- A lone dash is a word, and so is what does not start with one. -/
def isWord (argument : String) : Bool :=
  match argument.toList with
  | '-' :: _ :: _ => false
  | _ => true

def readOption (place : Place) (o : Options) (argument : String) :
    Except Stop (Options × Option Valued) :=
  match argument.toList with
  | '-' :: '-' :: name => o.readLong place name
  | '-' :: letters => o.readShort place letters
  | _ => .error .misuse

/-- What ends the options: two dashes, or a word. -/
def endsOptions (argument : String) : Bool := isWord argument || argument = "--"

/-- The options up to the first argument that is none, and the arguments from there on. -/
def read (place : Place) : Options → List String → Except Stop (Options × List String)
  | o, [] => .ok (o, [])
  | o, argument :: rest =>
    if endsOptions argument then .ok (o, argument :: rest)
    else match o.readOption place argument with
      | .error stop => .error stop
      | .ok (o, .none) => read place o rest
      | .ok (o, some option) => match rest with
        | [] => .error .misuse
        | value :: rest =>
          if isWord value then match o.setValue value option with
            | .error stop => .error stop
            | .ok o => read place o rest
          else .error .misuse

end Options

/-- A command that help can be asked on, or none. -/
def isHelpTopic : List String → Bool
  | [] => true
  | [name] => name = "help" || (Topic.ofName? name).isSome
  | _ => false

/-- The report that is asked for, and its options. -/
def asked (arguments : List String) : Except Stop (Topic × Options) := do
  let (front, rest) ← Options.none.read .front arguments
  match rest with
  | [] => .error .misuse
  | "help" :: names => .error (if isHelpTopic names then .help else .misuse)
  | name :: rest => match Topic.ofName? name with
    | none => .error .misuse
    | some topic => do
      let (behind, rest) ← Options.none.read .behind rest
      if rest = [] ∨ rest = ["--"] then .ok (topic, behind.overriding front) else .error .misuse

end Provision.Command
