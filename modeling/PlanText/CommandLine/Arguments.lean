import PlanText.Decimal.Digit
import PlanText.Text.Control

/-!
The arguments of the command line. An option that takes a value is settled when the next
argument that is known comes up, or at the end: only then is it found to lack its value, to
be given twice or to hold a bad value. An argument that is not known is reported before
that.
-/

namespace PlanText.CommandLine

/-- The options that take a value. -/
inductive ValueOption
  | format
  | config
  | maxDepth
deriving DecidableEq, Repr

inductive Switch
  | tokens
  | listFormats
deriving DecidableEq, Repr

def ValueOption.name : ValueOption → String
  | format => "format"
  | config => "config"
  | maxDepth => "max-depth"

def ValueOption.shown (o : ValueOption) : String := "--" ++ o.name ++ " <" ++ o.name ++ ">"

def Switch.name : Switch → String
  | tokens => "tokens"
  | listFormats => "list-formats"

/-- Why a value is no depth. -/
inductive DepthFault
  | empty
  | noDigit
  | tooLarge
  | tooSmall
  | outOfRange (value : Int)
deriving DecidableEq, Repr

def DepthFault.message : DepthFault → String
  | empty => "cannot parse integer from empty string"
  | noDigit => "invalid digit found in string"
  | tooLarge => "number too large to fit in target type"
  | tooSmall => "number too small to fit in target type"
  | outOfRange value => toString value ++ " is not in 0..=4294967295"

inductive UsageError
  | missingDomain
  | missingValue (option : ValueOption)
  | unexpected (argument : String)
  | badDepth (value : String) (fault : DepthFault)
  | repeatedOption (option : ValueOption)
  | repeatedSwitch (switch : Switch)
  /-- A value that is attached to an argument that takes none. -/
  | unneededValue (value name : String)
deriving DecidableEq, Repr

/-- What the user wrote is shown without control characters. -/
def UsageError.message : UsageError → String
  | missingDomain => "error: the following required arguments were not provided:"
  | missingValue option =>
    "error: a value is required for '" ++ option.shown ++ "' but none was supplied"
  | unexpected argument =>
    "error: unexpected argument '" ++ Text.withoutControls argument ++ "' found"
  | badDepth value fault =>
    "error: invalid value '" ++ Text.withoutControls value ++ "' for '" ++
      ValueOption.maxDepth.shown ++ "': " ++ fault.message
  | repeatedOption option =>
    "error: the argument '" ++ option.shown ++ "' cannot be used multiple times"
  | repeatedSwitch switch =>
    "error: the argument '--" ++ switch.name ++ "' cannot be used multiple times"
  | unneededValue value name =>
    "error: unexpected value '" ++ Text.withoutControls value ++ "' for '--" ++ name ++
      "' found; no more were expected"

structure Arguments where
  domain : Option String := none
  problem : Option String := none
  format : Option String := none
  config : Option String := none
  maxDepth : Option UInt32 := none
  tokens : Bool := false
  listFormats : Bool := false
deriving DecidableEq, Repr

/-- Why the arguments are not carried out. -/
inductive Stop
  | help
  | version
  | noArguments
  | usage (error : UsageError)
deriving DecidableEq, Repr

/-- The digits of a number, up to the bounds of sixty four bits with a sign. -/
def boundedDigits (negative : Bool) (value : Int) : List Char → Except DepthFault Int
  | [] => .ok value
  | c :: rest =>
    match Decimal.digit? c with
    | none => .error .noDigit
    | some d =>
      let next := if negative then value * 10 - d else value * 10 + d
      if next < Int64.minValue.toInt then .error .tooSmall
      else if Int64.maxValue.toInt < next then .error .tooLarge
      else boundedDigits negative next rest

def parseDepth (text : String) : Except DepthFault UInt32 :=
  let signed : Except DepthFault Int :=
    match text.toList with
    | [] => .error .empty
    | ['+'] => .error .noDigit
    | ['-'] => .error .noDigit
    | '+' :: digits => boundedDigits false 0 digits
    | '-' :: digits => boundedDigits true 0 digits
    | digits => boundedDigits false 0 digits
  match signed with
  | .error fault => .error fault
  | .ok value =>
    if 0 ≤ value ∧ value < UInt32.size then .ok (UInt32.ofNat value.toNat)
    else .error (.outOfRange value)

/-- The arguments so far. An option that awaits its value or its settling is pending. -/
structure Parse where
  args : Arguments
  pending : Option (ValueOption × Option String)
  /-- Whether all further arguments are files. -/
  filesOnly : Bool

namespace Parse

def start : Parse := ⟨{}, none, false⟩

/-- Gives an option its value. -/
def give (args : Arguments) (option : ValueOption) (value : String) :
    Except UsageError Arguments :=
  match option with
  | .format =>
    if args.format.isSome then .error (.repeatedOption .format)
    else .ok { args with format := some value }
  | .config =>
    if args.config.isSome then .error (.repeatedOption .config)
    else .ok { args with config := some value }
  | .maxDepth =>
    if args.maxDepth.isSome then .error (.repeatedOption .maxDepth)
    else
      match parseDepth value with
      | .ok depth => .ok { args with maxDepth := some depth }
      | .error fault => .error (.badDepth value fault)

/-- The arguments once the pending option is settled. -/
def settled (p : Parse) : Except UsageError Arguments :=
  match p.pending with
  | none => .ok p.args
  | some (option, none) => .error (.missingValue option)
  | some (option, some value) => give p.args option value

/-- Settles the pending option and goes on with the arguments. -/
def andThen (p : Parse) (next : Arguments → Except Stop Parse) : Except Stop Parse :=
  match p.settled with
  | .error e => .error (.usage e)
  | .ok args => next args

def optionWith (p : Parse) (option : ValueOption) (attached : Option String) :
    Except Stop Parse :=
  p.andThen fun args =>
    match attached with
    | none => .ok { p with args := args, pending := some (option, none) }
    | some value =>
      match give args option value with
      | .ok args => .ok { p with args := args, pending := none }
      | .error e => .error (.usage e)

def switch (p : Parse) (s : Switch) : Except Stop Parse :=
  p.andThen fun args =>
    match s with
    | .tokens =>
      if args.tokens then .error (.usage (.repeatedSwitch .tokens))
      else .ok { p with args := { args with tokens := true }, pending := none }
    | .listFormats =>
      if args.listFormats then .error (.usage (.repeatedSwitch .listFormats))
      else .ok { p with args := { args with listFormats := true }, pending := none }

/-- Stops for an argument that asks for a text. -/
def stop (p : Parse) (s : Stop) : Except Stop Parse := p.andThen fun _ => .error s

/-- What a long name without its dashes stands for. -/
inductive LongName
  | option (o : ValueOption)
  | switch (s : Switch)
  | stop (s : Stop)

def longName? (name : String) : Option LongName :=
  [("format", LongName.option .format), ("config", .option .config),
    ("max-depth", .option .maxDepth), ("tokens", .switch .tokens),
    ("list-formats", .switch .listFormats), ("help", .stop .help),
    ("version", .stop .version)].lookup name

def long (p : Parse) (name : String) (attached : Option String) : Except Stop Parse :=
  match longName? name, attached with
  | none, _ => .error (.usage (.unexpected ("--" ++ name)))
  | some (.option o), _ => p.optionWith o attached
  | some (.switch _), some value => .error (.usage (.unneededValue value name))
  | some (.stop _), some value => .error (.usage (.unneededValue value name))
  | some (.switch s), none => p.switch s
  | some (.stop s), none => p.stop s

/-- The text that follows an option's letter, if there is any, is its value. An equals sign
between them does not belong to it. -/
def attachedText : List Char → Option String
  | [] => none
  | '=' :: rest => some (String.ofList rest)
  | rest => some (String.ofList rest)

def short (p : Parse) (letter : Char) (rest : List Char) : Except Stop Parse :=
  if letter = 'f' then p.optionWith .format (attachedText rest)
  else if letter = 'c' then p.optionWith .config (attachedText rest)
  else if letter = 'h' then p.stop .help
  else if letter = 'V' then p.stop .version
  else .error (.usage (.unexpected (String.ofList ['-', letter])))

def file (p : Parse) (argument : String) : Except Stop Parse :=
  if p.args.domain.isNone then
    p.andThen fun args =>
      .ok { p with args := { args with domain := some argument }, pending := none }
  else if p.args.problem.isNone then
    p.andThen fun args =>
      .ok { p with args := { args with problem := some argument }, pending := none }
  else .error (.usage (.unexpected argument))

/-- An argument that is no option: the value that an option awaits, or a file. -/
def plain (p : Parse) (argument : String) : Except Stop Parse :=
  match p.pending with
  | some (option, none) => .ok { p with pending := some (option, some argument) }
  | _ => p.file argument

def step (p : Parse) (argument : String) : Except Stop Parse :=
  if p.filesOnly then p.file argument
  else
    match argument.toList with
    | ['-', '-'] => .ok { p with filesOnly := true }
    | '-' :: '-' :: body =>
      let name := body.takeWhile (· ≠ '=')
      match body.drop name.length with
      | [] => p.long (String.ofList name) none
      | _ :: value => p.long (String.ofList name) (some (String.ofList value))
    | '-' :: letter :: rest => p.short letter rest
    | _ => p.plain argument

def steps (p : Parse) : List String → Except Stop Parse
  | [] => .ok p
  | argument :: rest =>
    match p.step argument with
    | .ok p => steps p rest
    | .error s => .error s

end Parse

/-- Reads all arguments. Without any there is nothing to do, and unless formats are to be
listed there has to be a domain file. -/
def parse (arguments : List String) : Except Stop Arguments :=
  match Parse.start.steps arguments with
  | .error s => .error s
  | .ok p =>
    match p.settled with
    | .error e => .error (.usage e)
    | .ok args =>
      if args = {} then .error .noArguments
      else if args.domain.isNone && !args.listFormats then .error (.usage .missingDomain)
      else .ok args

end PlanText.CommandLine
