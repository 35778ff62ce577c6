import Forwarding.CommandLine.Help
import Forwarding.CommandLine.Trace

/-! The commands of the program, and the command that arguments ask for. -/
namespace Forwarding.CommandLine

structure ResolveOptions where
  headers : List Operand
  file : Option Operand
  trustHeader : Option Operand
  report : Bool
  deriving DecidableEq

inductive Command where
  | resolve (options : ResolveOptions)
  | classify (addresses : List Text)
  | info
  deriving DecidableEq

structure Invocation where
  config : Option Operand
  verbose : Bool
  command : Command
  deriving DecidableEq

/-- Why arguments ask for no command. -/
inductive Stop where
  | help (page : HelpPage)
  | usage (page : HelpPage) (error : UsageError)
  deriving DecidableEq

def commandWords : List Text := ["resolve", "classify", "info"]

inductive ProgramKey where
  | help
  | config
  | verbose

inductive ResolveKey where
  | help
  | header
  | file
  | trustHeader
  | report

inductive HelpKey where
  | help

def programOptions : List (OptionSpec ProgramKey) :=
  [⟨.help, ["-h", "--help"], false⟩, ⟨.config, ["-c", "--config"], true⟩,
   ⟨.verbose, ["-v", "--verbose"], false⟩]

def resolveOptions : List (OptionSpec ResolveKey) :=
  [⟨.help, ["-h", "--help"], false⟩, ⟨.header, ["-H"], true⟩, ⟨.file, ["-f", "--file"], true⟩,
   ⟨.trustHeader, ["--trust-header"], true⟩, ⟨.report, ["--report"], false⟩]

def helpOptions : List (OptionSpec HelpKey) := [⟨.help, ["-h", "--help"], false⟩]

/-- A command read from its arguments, with the arguments that are left over. -/
abbrev Remainder (α : Type) := α × List Text

def finish {κ : Type} (page : HelpPage) (t : Trace κ) : Except Stop Unit :=
  match t.error with
  | some e => .error (.usage page e)
  | none => .ok ()

def resolveStep (s : Remainder ResolveOptions) :
    Event ResolveKey → Except Stop (Remainder ResolveOptions)
  | .flag .help => .error (.help .resolve)
  | .flag .report => .ok ({ s.1 with report := true }, s.2)
  | .argument .header operand => .ok ({ s.1 with headers := s.1.headers ++ [operand] }, s.2)
  | .argument .file operand => .ok ({ s.1 with file := some operand }, s.2)
  | .argument .trustHeader operand => .ok ({ s.1 with trustHeader := some operand }, s.2)
  | .stray argument => .ok (s.1, s.2 ++ [argument])
  | _ => .ok s

def readResolve (arguments : List Text) : Except Stop (Remainder Command) := do
  let t := trace resolveOptions .none arguments
  let (options, rest) ← t.events.foldlM resolveStep (⟨[], none, none, false⟩, [])
  finish .resolve t
  return (.resolve options, rest)

/-- One effect on the operands of `classify`. The first separator among operands does not count. -/
def classifyStep (s : Remainder (Option (List Text))) :
    Event HelpKey → Except Stop (Remainder (Option (List Text)))
  | .flag .help => .error (.help .classify)
  | .operands arguments => .ok (some (arguments.erase separatorText), s.2)
  | .stray argument => .ok (s.1, s.2 ++ [argument])
  | _ => .ok s

def readClassify (arguments : List Text) : Except Stop (Remainder Command) := do
  let t := trace helpOptions .oneOrMore arguments
  let (addresses, rest) ← t.events.foldlM classifyStep (none, [])
  finish .classify t
  match addresses with
  | some addresses => return (.classify addresses, rest)
  | none => throw (.usage .classify (.missingOperands "addresses"))

def infoStep (s : List Text) : Event HelpKey → Except Stop (List Text)
  | .flag .help => .error (.help .info)
  | .stray argument => .ok (s ++ [argument])
  | _ => .ok s

def readInfo (arguments : List Text) : Except Stop (Remainder Command) := do
  let t := trace helpOptions .none arguments
  let rest ← t.events.foldlM infoStep []
  finish .info t
  return (.info, rest)

def readCommand : List Text → Except Stop (Remainder Command)
  | [] => .error (.help .main)
  | word :: arguments =>
    if word = "resolve".toList then readResolve arguments
    else if word = "classify".toList then readClassify arguments
    else if word = "info".toList then readInfo arguments
    else .error (.usage .main (.unknownCommand word commandWords))

structure Progress where
  config : Option Operand
  verbose : Bool
  command : Option (Remainder Command)
  strays : List Text

def programStep (s : Progress) : Event ProgramKey → Except Stop Progress
  | .flag .help => .error (.help .main)
  | .flag .verbose => .ok { s with verbose := true }
  | .argument .config operand => .ok { s with config := some operand }
  | .command arguments => do return { s with command := some (← readCommand arguments) }
  | .stray argument => .ok { s with strays := s.strays ++ [argument] }
  | _ => .ok s

/-- Reads the arguments of the program. Arguments that are left over are an error; without a command
the page of the program is shown. -/
def Invocation.read (arguments : List Text) : Except Stop Invocation := do
  let t := trace programOptions .command arguments
  let s ← t.events.foldlM programStep ⟨none, false, none, []⟩
  finish .main t
  let strays := s.strays ++ (s.command.map (·.2)).getD []
  if strays ≠ [] then throw (.usage .main (.unrecognized strays))
  match s.command with
  | some (command, _) => return ⟨s.config, s.verbose, command⟩
  | none => throw (.help .main)

end Forwarding.CommandLine
