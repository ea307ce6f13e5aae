import PlanText.CommandLine.Arguments
import PlanText.CommandLine.Texts
import PlanText.Format.Builtin
import PlanText.Log
import PlanText.PlanFile
import PlanText.Settings

/-!
What a run of the program does with a file system: the status it ends with and what it
writes. Files are handled one after the other, and the first that fails ends the run; what
was written for the files before it stays.
-/

namespace PlanText.CommandLine

structure Report where
  code : Nat
  stdout : String
  stderr : String
deriving DecidableEq, Repr

def Report.errorLines (r : Report) : List String :=
  (Text.lines r.stderr.toList).map String.ofList

def logTarget : String := "pddl_reader"

def effectiveRecord (s : Settings) : LogRecord :=
  ⟨.debug, logTarget,
    "effective configuration: ReaderConfig \x7b parser: ParserConfig \x7b max_depth: " ++
      toString s.maxDepth ++ " \x7d, output: OutputConfig \x7b format: " ++
      Text.quoted s.format ++ " \x7d \x7d"⟩

def countRecord (kind : PlanKind) (path : String) (count : Nat) : LogRecord :=
  ⟨.debug, logTarget, kind.name ++ " file " ++ path ++ " has " ++ toString count ++ " tokens"⟩

/-- The layers that the arguments ask for: a file, and values that override it. -/
def layers (args : Arguments) : List Layer :=
  (args.config.map Layer.file).toList ++
    (args.format.map fun f => Layer.value "output.format" (.leaf none (.text f))).toList ++
    (args.maxDepth.map fun d =>
      Layer.value "parser.max_depth" (.leaf none (.integer d.toNat))).toList

/-- The report on a file that cannot be loaded. Lines and columns count from one. -/
def loadReport (e : LoadError) : String :=
  "Error: " ++ e.message ++ "\n" ++
    match e.readError?.bind ReadError.place? with
    | none => ""
    | some p =>
      "  --> " ++ e.path ++ ":" ++ toString (p.line + 1) ++ ":" ++ toString (p.column + 1) ++
        "\n"

def formatReport (e : FormatError) : String :=
  "Error: " ++ e.message ++ "\nAvailable formats: " ++
    ", ".intercalate Registry.builtin.names ++ "\n"

/-- The output for one file in the format of the settings. -/
def showTree (disk : Disk) (s : Settings) (kind : PlanKind) (path : String) :
    Logged (Except String String) :=
  match PlanFile.load disk s.limit kind path with
  | ⟨.error e, log⟩ => ⟨.error (loadReport e), log⟩
  | ⟨.ok file, log⟩ =>
    match Registry.builtin.render s.format file.items with
    | .ok output => ⟨.ok output, log⟩
    | .error e => ⟨.error (formatReport e), log⟩

/-- The tokens of one file, one on a line. -/
def showTokens (disk : Disk) (kind : PlanKind) (path : String) :
    Logged (Except String String) :=
  match disk.readText path with
  | .error e =>
    ⟨.error ("Error reading " ++ kind.name ++ " file " ++ path ++ ": " ++ e.message ++ "\n"), []⟩
  | .ok source =>
    let texts := tokenTexts source
    ⟨.ok (unlines texts), [countRecord kind path texts.length]⟩

def logText (filter : LogFilter) (log : List LogRecord) : String :=
  String.join ((log.filter filter.allows).map LogRecord.text)

def runFiles (filter : LogFilter)
    (handle : PlanKind → String → Logged (Except String String)) :
    List (PlanKind × String) → Report
  | [] => ⟨0, "", ""⟩
  | (kind, path) :: rest =>
    match handle kind path with
    | ⟨.error report, log⟩ => ⟨1, "", logText filter log ++ report⟩
    | ⟨.ok output, log⟩ =>
      let others := runFiles filter handle rest
      ⟨others.code, output ++ others.stdout, logText filter log ++ others.stderr⟩

/-- The files to handle, the domain first. -/
def inputs (args : Arguments) : List (PlanKind × String) :=
  (args.domain.map fun path => (PlanKind.domain, path)).toList ++
    (args.problem.map fun path => (PlanKind.problem, path)).toList

def formatList : String :=
  unlines ("Available output formats:" :: "" ::
    Registry.builtin.formats.flatMap fun f => ["  " ++ f.name, "    " ++ f.description, ""])

/-- Carries out arguments that are well formed. -/
def execute (disk : Disk) (filter : LogFilter) (args : Arguments)
    (complaint : String → String) : Report :=
  if args.listFormats then ⟨0, formatList, ""⟩
  else
    match Settings.ofLayers disk (layers args) with
    | .error e => ⟨1, "", "Configuration error: " ++ e.message complaint ++ "\n"⟩
    | .ok s =>
      let report :=
        if args.tokens then runFiles filter (showTokens disk) (inputs args)
        else runFiles filter (showTree disk s) (inputs args)
      { report with stderr := logText filter [effectiveRecord s] ++ report.stderr }

def run (disk : Disk) (filter : LogFilter) (arguments : List String)
    (complaint : String → String := fun _ => "") : Report :=
  match parse arguments with
  | .ok args => execute disk filter args complaint
  | .error .help => ⟨0, helpText, ""⟩
  | .error .version => ⟨0, versionText, ""⟩
  | .error .noArguments => ⟨2, "", helpText⟩
  | .error (.usage e) => ⟨2, "", e.message ++ "\n"⟩

/-- Every path that a run with these arguments may read. -/
def pathsRead (arguments : List String) : List String :=
  match parse arguments with
  | .ok args =>
    (args.config.map SettingsFile.candidates).getD [] ++ (inputs args).map (·.2)
  | .error _ => []

end PlanText.CommandLine
