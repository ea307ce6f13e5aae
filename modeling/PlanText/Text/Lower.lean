import PlanText.Text.CaseTable

/-!
Lower case text. A character has one lower case form, with two exceptions: a capital I with
a dot above becomes two characters, and a capital sigma takes its final form at the end of a
word.
-/

namespace PlanText.Text

def CaseRun.image? (run : CaseRun) (code : Nat) : Option Nat :=
  if run.first ≤ code ∧ code ≤ run.last ∧ (code - run.first) % run.step = 0 then
    some (run.image + (code - run.first))
  else none

/-- The table ascends, so the search ends at the first run that starts after the code. -/
def lowerCode? : List CaseRun → Nat → Option Nat
  | [], _ => none
  | run :: runs, code =>
    if code < run.first then none
    else match run.image? code with
      | some image => some image
      | none => lowerCode? runs code

/-- The lower case form of a character away from any other. -/
def lowerChar (c : Char) : List Char :=
  if c = '\u0130' then ['i', '\u0307']
  else match lowerCode? caseRuns c.toNat with
    | some code => [Char.ofNat code]
    | none => [c]

def isCased (c : Char) : Bool := inRanges casedRanges c.toNat

def isCaseIgnorable (c : Char) : Bool := inRanges caseIgnorableRanges c.toNat

/-- Whether the first character that counts is a letter with a case. -/
def startsCased (text : List Char) : Bool :=
  match text.dropWhile isCaseIgnorable with
  | [] => false
  | c :: _ => isCased c

/-- A sigma is final when a cased letter comes before it and none after it. The text before
is given nearest character first. -/
def isWordFinal (before after : List Char) : Bool :=
  startsCased before && !startsCased after

def lowerAfter (before : List Char) : List Char → List Char
  | [] => []
  | c :: rest =>
    let form :=
      if c = 'Σ' then if isWordFinal before rest then ['ς'] else ['σ']
      else lowerChar c
    form ++ lowerAfter (c :: before) rest

/-- The lower case form of a text that stands alone. -/
def lower (text : List Char) : List Char := lowerAfter [] text

end PlanText.Text
