import Forwarding.HeaderValue.Selection
import Forwarding.Text.LowerCase

/-!
Header values made of parameters `key=value`, where a value is a token or stands in double quotes.
The scan takes one character at a time; only the values of `for` are offered.
-/
namespace Forwarding.Forwarded

/-- Where the scan stands. Keys and values read so far are kept in reverse; `wanted` says that the
value belongs to `for`. -/
inductive State where
  | between
  | key (read : Text)
  | beforeValue (wanted : Bool)
  | token (wanted : Bool) (read : Text)
  | quoted (wanted : Bool) (read : Text) (escaped : Bool)
  deriving DecidableEq

def isDelimiter (c : Char) : Bool := c = ' ' || c = ';' || c = ','

theorem isDelimiter_iff {c : Char} : isDelimiter c ↔ c = ' ' ∨ c = ';' ∨ c = ',' := by
  simp [isDelimiter, or_assoc]

def isFor (key : Text) : Bool := key.length = 3 && Text.lower key = ['f', 'o', 'r']

/-- Removes the backslash of every quoted pair. A backslash at the end stays. -/
def unquote : Text → Text
  | [] => []
  | '\\' :: c :: rest => c :: unquote rest
  | c :: rest => c :: unquote rest

namespace State

def next : State → Char → State
  | .between, c => if isDelimiter c then .between else .key [c]
  | .key read, c => if c = '=' then .beforeValue (isFor read.reverse) else .key (c :: read)
  | .beforeValue wanted, c =>
    if c = '"' then .quoted wanted [] false
    else if isDelimiter c then .between
    else .token wanted [c]
  | .token wanted read, c => if isDelimiter c then .between else .token wanted (c :: read)
  | .quoted wanted read true, c => .quoted wanted (c :: read) false
  | .quoted wanted read false, c =>
    if c = '"' then .between else .quoted wanted (c :: read) (c = '\\')

def completed? : State → Char → Option Text
  | .token true read, c => if isDelimiter c then some read.reverse else none
  | .quoted true read false, c => if c = '"' then some (unquote read.reverse) else none
  | _, _ => none

/-- The wanted value that the end of the text completes. A quoted value without its closing quote
is dropped. -/
def atEnd? : State → Option Text
  | .token true read => some read.reverse
  | _ => none

end State

/-- Continues a scan until a public address is found or the text ends. -/
def scan (state : State) (s : Selection) : Text → Selection
  | [] => s.offer (state.atEnd?.bind Literal.ofHostPort?)
  | c :: rest =>
    let found := (state.completed? c).bind Literal.ofHostPort?
    if Selection.settles found then s.offer found
    else scan (state.next c) (s.offer found) rest

def choose (value : Text) : Option Literal := (scan .between Selection.empty value).result

end Forwarding.Forwarded
