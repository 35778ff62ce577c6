import Forwarding.Text.Basic

/-! The pages that explain the usage of the program and of its commands. -/
namespace Forwarding.CommandLine

/-- A page of help about a program. Its usage also goes before the words of an error. -/
structure HelpPage where
  program : Text
  usage : List Text
  body : List Text
  deriving DecidableEq

namespace HelpPage

def joined (lines : List Text) : Text := lines.flatMap fun line => line ++ ['\n']

def text (page : HelpPage) : Text := joined (page.usage ++ [] :: page.body)

def main : HelpPage where
  program := "clientip"
  usage := ["usage: clientip [-h] [-c CONFIG] [-v] \x7bresolve,classify,info\x7d ..."]
  body :=
    ["Infer the client IP address of a request from forwarding headers.",
     "",
     "positional arguments:",
     "  \x7bresolve,classify,info\x7d",
     "    resolve             Resolve the client IP from request headers",
     "    classify            Classify addresses as private or public",
     "    info                Show resolver configuration",
     "",
     "options:",
     "  -h, --help            show this help message and exit",
     "  -c CONFIG, --config CONFIG",
     "                        Path to clientip.toml (default: ./clientip.toml if",
     "                        present)",
     "  -v, --verbose         Enable debug logging"]

def resolve : HelpPage where
  program := "clientip resolve"
  usage :=
    ["usage: clientip resolve [-h] [-H 'NAME: VALUE'] [-f FILE]",
     "                        [--trust-header NAME] [--report]"]
  body :=
    ["options:",
     "  -h, --help            show this help message and exit",
     "  -H 'NAME: VALUE'      Request header (repeatable)",
     "  -f FILE, --file FILE  Read raw header lines from a file ('-' for stdin)",
     "  --trust-header NAME   Trust only this header (overrides config)",
     "  --report              Show a per-header breakdown"]

def classify : HelpPage where
  program := "clientip classify"
  usage := ["usage: clientip classify [-h] addresses [addresses ...]"]
  body :=
    ["positional arguments:",
     "  addresses   IP addresses",
     "",
     "options:",
     "  -h, --help  show this help message and exit"]

def info : HelpPage where
  program := "clientip info"
  usage := ["usage: clientip info [-h]"]
  body :=
    ["options:",
     "  -h, --help  show this help message and exit"]

end HelpPage
end Forwarding.CommandLine
