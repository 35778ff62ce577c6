import Forwarding.CommandLine.Command
import Forwarding.Config.Load
import Forwarding.Range.Private
import Forwarding.Report
import Forwarding.Text.Lines

/-!
A run of the program: what it writes, and the status it ends with. Bytes are read as UTF-8 without
leniency, and nothing limits the depth of a configuration or the characters of the output.
-/
namespace Forwarding.CommandLine

/-- What a run finds around it: files, the environment variable, and standard input. -/
structure Surroundings where
  files : Files
  environment : Option Text
  input : List UInt8

structure Outcome where
  status : Nat
  stdout : Text
  stderr : Text
  deriving DecidableEq

inductive RunFault where
  | config (access : FailedAccess)
  /-- The path of the configuration is no text. -/
  | configPathErased
  /-- The path of the header lines is no path. -/
  | headerPath (access : FailedAccess)
  | undecodable (error : Text.Utf8.DecodeError)
  /-- A header line is no text. -/
  | headerErased
  deriving DecidableEq

def RunFault.message : RunFault → Text
  | .config access | .headerPath access => access.message
  | .configPathErased => "the path of the configuration is no text"
  | .undecodable error => error.message
  | .headerErased => "a header line is no text"

inductive Halt where
  | outcome (o : Outcome)
  | fault (f : RunFault)
  deriving DecidableEq

def line (t : Text) : Text := t ++ ['\n']

/-- A run that ends with a message and status 1. -/
def failed (message : Text) : Halt := .outcome ⟨1, [], line ("Error: " ++ message)⟩

/-- What a missing configuration does to a run. A missing file and a wrong content end it with a
message. -/
def configHalt (path : Text) (e : ConfigError) : Halt :=
  match e with
  | .unreadable access =>
    match access.error with
    | .notFound => failed ("config file not found: " ++ path)
    | .embeddedNull => failed ("invalid config: " ++ access.message)
    | _ => .fault (.config access)
  | e => failed ("invalid config: " ++ e.message)

def loadConfig (s : Surroundings) (given : Option Operand) : Except Halt Config :=
  match given with
  | some .erased => .error (.fault .configPathErased)
  | some (.text path) =>
    (Config.load s.files (some path) s.environment).mapError (configHalt path)
  | none => (Config.load s.files none s.environment).mapError (configHalt Config.standardPath)

def readLines (bytes : List UInt8) : Except Halt (List Text) :=
  match Text.Utf8.decode bytes with
  | .ok text => .ok (Text.lines (Text.unifyLineEnds text))
  | .error e => .error (.fault (.undecodable e))

/-- The header lines of a file; a dash stands for standard input. -/
def fileLines (s : Surroundings) : Option Operand → Except Halt (List Text)
  | some (.text path) =>
    if path = [] then .ok []
    else if path = ['-'] then readLines s.input
    else
      match s.files.read path with
      | .ok bytes => readLines bytes
      | .error access =>
        if access.error = .embeddedNull then .error (.fault (.headerPath access))
        else .error (failed ("cannot read headers: " ++ access.message))
  | _ => .ok []

def optionLines : List Operand → Except Halt (List Text)
  | [] => .ok []
  | .erased :: _ => .error (.fault .headerErased)
  | .text t :: rest => (optionLines rest).map (t :: ·)

/-- The configuration with a nonempty trusted header from the options in its place. -/
def withTrusted (config : Config) : Option Operand → Config
  | some (.text name) => if name = [] then config else .trusting (some name)
  | _ => config

/-- Records as lines of the log. Warnings are always written, the others when asked for. -/
def logLines (verbose : Bool) (logs : List LogRecord) : Text :=
  (logs.filter fun r => verbose || r.level = "WARNING".toList).flatMap fun r =>
    line (r.level ++ " clientip.resolver: " ++ r.message)

def showResolution (config : Config) (headers : HeaderSet) (report : Bool) :
    Outcome × List LogRecord :=
  let r := Resolver.resolve config (some headers.accessor) (some (.fresh none))
  let tag := r.span.bind (·.tag? multipleHeadersKey)
  let status := if r.result.isSome then 0 else 1
  if report then
    match Resolver.candidates config headers.accessor with
    | .ok (candidates, logs) =>
      (⟨status, Report.render candidates r.result tag (some headers.present), []⟩, r.logs ++ logs)
    | .error _ => (⟨status, [], []⟩, r.logs)
  else (⟨status, line (Report.resultText r.result) ++ Report.tagLine tag, []⟩, r.logs)

def runResolve (s : Surroundings) (i : Invocation) (options : ResolveOptions) :
    Except Halt Outcome := do
  let config := withTrusted (← loadConfig s i.config) options.trustHeader
  let fromFile ← fileLines s options.file
  let fromOptions ← optionLines options.headers
  let headers := HeaderSet.ofLines (fromFile ++ fromOptions) config.trusted
  let (outcome, logs) := showResolution config headers options.report
  return { outcome with stderr := logLines i.verbose logs }

def classifyLine (t : Text) : Text :=
  match Literal.parse? t with
  | some l => line (t ++ ' ' :: l.address.privacy.word)
  | none => line (t ++ " invalid")

def runClassify (addresses : List Text) : Outcome :=
  ⟨if addresses.all fun t => (Literal.parse? t).isSome then 0 else 1,
    addresses.flatMap classifyLine, []⟩

def trustLines (config : Config) : List Text :=
  match config.trusted with
  | some name => ["Trusted header: " ++ name]
  | none =>
    "Trusted header: (none, using fixed header priority)" :: [] :: "Header priority:"
      :: Role.all.zipIdx.map fun (role, i) =>
        "  " ++ Text.decimal (i + 1) ++ ". " ++ role.headerName ++ " (" ++ role.form.word ++ ")"

def rangeLines (title : Text) (ranges : List AddressRange) : List Text :=
  title :: ranges.map fun r => "  " ++ r.label

def runInfo (s : Surroundings) (i : Invocation) : Except Halt Outcome := do
  let config ← loadConfig s i.config
  let lines := trustLines config ++ [] :: rangeLines "Private IPv4 ranges:" privateIpv4Ranges
    ++ [] :: rangeLines "Private IPv6 ranges:" privateIpv6Ranges
  return ⟨0, lines.flatMap line, []⟩

def Invocation.paths (i : Invocation) : List Text :=
  let config := match i.config with
    | some (.text path) => [path]
    | some .erased => []
    | none => [Config.standardPath]
  match i.command with
  | .resolve { file := some (.text path), .. } => path :: config
  | _ => config

def Invocation.readsInput (i : Invocation) : Bool :=
  match i.command with
  | .resolve options => options.file = some (.text ['-'])
  | _ => false

def runCommand (s : Surroundings) (i : Invocation) : Except Halt Outcome :=
  match i.command with
  | .resolve options => runResolve s i options
  | .classify addresses => .ok (runClassify addresses)
  | .info => runInfo s i

def stopped : Stop → Outcome
  | .help page => ⟨0, page.text, []⟩
  | .usage page e =>
    ⟨2, [], HelpPage.joined page.usage ++ line (page.program ++ ": error: " ++ e.message)⟩

def Invocation.run (s : Surroundings) (i : Invocation) : Except RunFault Outcome :=
  match runCommand s i with
  | .ok outcome => .ok outcome
  | .error (.outcome outcome) => .ok outcome
  | .error (.fault fault) => .error fault

def run (s : Surroundings) (arguments : List Text) : Except RunFault Outcome :=
  match Invocation.read arguments with
  | .error stop => .ok (stopped stop)
  | .ok i => i.run s

end Forwarding.CommandLine
