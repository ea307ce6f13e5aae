import PlanText.Text.Control

/-!
Log records, and the choice of which to show.
-/

namespace PlanText

inductive LogLevel
  | error
  | warn
  | info
  | debug
  | trace
deriving DecidableEq, Repr

namespace LogLevel

def name : LogLevel → String
  | error => "ERROR"
  | warn => "WARN"
  | info => "INFO"
  | debug => "DEBUG"
  | trace => "TRACE"

/-- The more a level tells, the higher its rank. -/
def rank : LogLevel → Nat
  | error => 1
  | warn => 2
  | info => 3
  | debug => 4
  | trace => 5

/-- The greatest rank that a word of a filter lets through. -/
def rankOf? (word : String) : Option Nat :=
  let lowered := String.ofList (word.toList.map Char.toLower)
  if lowered = "off" then some 0
  else
    ([error, warn, info, debug, trace].find? fun level =>
      level.name.toList.map Char.toLower == lowered.toList).map rank

end LogLevel

structure LogRecord where
  level : LogLevel
  /-- The part of the program that speaks. -/
  target : String
  message : String
deriving DecidableEq, Repr

namespace LogRecord

/-- The message with all lines but the first indented. -/
def indented (message : String) : String :=
  String.ofList (message.toList.flatMap fun c =>
    if c = '\n' then '\n' :: List.replicate 4 ' ' else [c])

/-- A record as it is shown, with the level padded to five characters. -/
def text (r : LogRecord) : String :=
  let padding := String.ofList (List.replicate (5 - r.level.name.length) ' ')
  Text.withoutControls
    ("[" ++ r.level.name ++ padding ++ " " ++ r.target ++ "] " ++ indented r.message ++ "\n")

end LogRecord

/-- Targets with the greatest rank shown for them. The empty target stands for all. -/
structure LogFilter where
  directives : List (String × Nat)

namespace LogFilter

/-- Reads directives that stand between commas: a level, a target, or a target with a level. -/
def parse (text : String) : LogFilter :=
  ⟨(text.splitOn ",").filterMap fun directive =>
    match directive.splitOn "=" with
    | [""] => none
    | [word] =>
      match LogLevel.rankOf? word with
      | some rank => some ("", rank)
      | none => some (word, 5)
    | [target, word] => (LogLevel.rankOf? word).map fun rank => (target, rank)
    | _ => none⟩

def silent : LogFilter := ⟨[]⟩

/-- The directive with the longest target in front of the record's target decides. -/
def allows (f : LogFilter) (r : LogRecord) : Bool :=
  let fitting := f.directives.filter fun d => d.1.toList.isPrefixOf r.target.toList
  let best := fitting.foldl
    (fun best d => if best.1.length ≤ d.1.length then d else best) ("", 1)
  r.level.rank ≤ best.2

end LogFilter

end PlanText
