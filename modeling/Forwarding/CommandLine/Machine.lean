import Forwarding.CommandLine.Run

/-!
Runs on a machine. A configuration can be nested more deeply than the calls that read it or show it
may be, and an output can hold a character that its encoding lacks. No message tells of either: the
run breaks down. Standard input can be read leniently, so that bytes which are not in UTF-8 pass as
characters.
-/
namespace Forwarding

def Config.text? (files : Files) (path : Option Text) : Option Text :=
  match files.read (path.getD standardPath) with
  | .ok bytes => (Text.Utf8.decode bytes).toOption
  | .error _ => none

def ConfigError.shown? : ConfigError → Option Toml.Value
  | .resolverNotATable value | .headerNotAText value => some value
  | _ => none

def Config.shown? (files : Files) (path environment : Option Text) : Option Toml.Value :=
  match load files path environment with
  | .ok _ => none
  | .error e => e.shown?

namespace CommandLine

/-- What a run depends on besides its surroundings: the documents that are read and the values that
are shown within the calls that may nest, how standard input is received, and the characters that
the encoding of the output has. -/
structure Machine where
  reads : Text → Bool
  shows : Toml.Value → Bool
  receives : List UInt8 → List UInt8
  encodes : Char → Bool

def Machine.boundless : Machine := ⟨fun _ => true, fun _ => true, id, fun _ => true⟩

inductive Breakdown where
  | fault (f : RunFault)
  | exhausted
  | unencodable
  deriving DecidableEq

def Breakdown.message : Breakdown → Text
  | .fault f => f.message
  | .exhausted => "the configuration is nested too deeply"
  | .unencodable => "the output cannot be encoded"

namespace Machine

def receive (m : Machine) (s : Surroundings) : Surroundings :=
  { s with input := m.receives s.input }

/-- The configuration is nested too deeply: all of it to be read, or a value of it to be shown. -/
def isExhausted (m : Machine) (s : Surroundings) (path : Option Text) : Bool :=
  (Config.text? s.files path).any (!m.reads ·) ||
    (Config.shown? s.files path s.environment).any (!m.shows ·)

/-- Writes an outcome. Messages are written with escapes, so only the output has to be encoded. -/
def write (m : Machine) (o : Outcome) : Except Breakdown Outcome :=
  if o.stdout.all m.encodes then .ok o else .error .unencodable

end Machine

def Invocation.exhausts (m : Machine) (s : Surroundings) (i : Invocation) : Bool :=
  match i.command, i.config with
  | .classify _, _ | _, some .erased => false
  | _, some (.text path) => m.isExhausted s (some path)
  | _, none => m.isExhausted s none

def Invocation.runOn (m : Machine) (s : Surroundings) (i : Invocation) :
    Except Breakdown Outcome :=
  if i.exhausts m s then .error .exhausted
  else
    match i.run s with
    | .ok outcome => m.write outcome
    | .error fault => .error (.fault fault)

/-- A run on a machine. The pages of help are in characters that every encoding has. -/
def runOn (m : Machine) (s : Surroundings) (arguments : List Text) : Except Breakdown Outcome :=
  match Invocation.read arguments with
  | .error stop => .ok (stopped stop)
  | .ok i => i.runOn m (m.receive s)

@[simp] theorem Machine.receive_boundless (s : Surroundings) : boundless.receive s = s := rfl

theorem Machine.isExhausted_boundless (s : Surroundings) (path : Option Text) :
    boundless.isExhausted s path = false := by
  unfold isExhausted boundless
  cases Config.text? s.files path <;> cases Config.shown? s.files path s.environment <;> rfl

theorem Invocation.exhausts_boundless (s : Surroundings) (i : Invocation) :
    i.exhausts .boundless s = false := by
  unfold exhausts
  split <;> simp [Machine.isExhausted_boundless]

/-- Without bounds a run ends as it is described. -/
theorem runOn_boundless (s : Surroundings) (arguments : List Text) :
    runOn .boundless s arguments = (run s arguments).mapError .fault := by
  unfold runOn run
  cases Invocation.read arguments with
  | error stop => rfl
  | ok i =>
    simp only [Machine.receive_boundless, Invocation.runOn, Invocation.exhausts_boundless,
      Bool.false_eq_true, if_false]
    cases i.run s with
    | error fault => rfl
    | ok outcome => exact if_pos (List.all_eq_true.mpr fun _ _ => rfl)

end CommandLine
end Forwarding
