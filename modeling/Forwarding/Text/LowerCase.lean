import Forwarding.Text.CaseTable

/-!
Lower case by the full Unicode mapping. Two characters need care: the dotted capital I becomes two
characters, and a capital sigma at the end of a word takes its final form.
-/
namespace Forwarding.Text

def inRanges (ranges : List (Nat × Nat)) (c : Char) : Bool :=
  ranges.any fun range => range.1 ≤ c.toNat && c.toNat ≤ range.2

def isCased (c : Char) : Bool := inRanges casedRanges c

def isCaseIgnorable (c : Char) : Bool := inRanges ignorableRanges c

def CaseRun.covers (run : CaseRun) (n : Nat) : Bool :=
  run.first ≤ n && n ≤ run.last && (n - run.first) % run.step = 0

def lowerChar (c : Char) : Text :=
  if c = '\u0130' then ['i', '\u0307']
  else
    match caseRuns.find? (·.covers c.toNat) with
    | some run => [Char.ofNat (c.toNat + run.shift).toNat]
    | none => [c]

/-- The first character that is not passed over is a letter with case. -/
def continuesWord (rest : Text) : Bool :=
  match rest.dropWhile isCaseIgnorable with
  | [] => false
  | c :: _ => isCased c

/-- Lower case of a text that follows, or does not follow, a letter with case. -/
def lowerAfter : Bool → Text → Text
  | _, [] => []
  | afterCased, c :: rest =>
    let lowered :=
      if c = 'Σ' then (if afterCased && !continuesWord rest then ['ς'] else ['σ'])
      else lowerChar c
    lowered ++ lowerAfter (if isCaseIgnorable c then afterCased else isCased c) rest

def lower (t : Text) : Text := lowerAfter false t

end Forwarding.Text
