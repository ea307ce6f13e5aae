import Mathlib
import PlanText.Proofs.FilesAtFault
import PlanText.Proofs.RunSettings

/-!
A run that has settings handles its files in turn. The first that fails ends it: the outputs of
the files before it stand on standard output, whole, and the report on that file stands alone on
standard error. A run without settings reads none of them and says what is wrong.
-/

namespace PlanText

open Text

namespace Registry

theorem formats_builtin :
    builtin.formats = [Format.json, Format.canonical, Format.outline, Format.yaml] := rfl

theorem mem_formats_builtin (format : Format) :
    format ∈ builtin.formats ↔ format ∈ Format.builtin := by
  simp only [formats_builtin, Format.builtin, List.mem_cons, List.not_mem_nil, or_false]
  tauto

theorem intercalate_names_builtin :
    ", ".intercalate builtin.names = "json, sexpr, treeviz, yaml" := by
  rw [names, formats_builtin]
  rfl

end Registry

/-- None of the formats that are always there fails. -/
theorem Format.render_of_mem_builtin {format : Format} (h : format ∈ Format.builtin)
    (items : List Node) : ∃ output, format.render items = .ok output := by
  simp only [builtin, List.mem_cons, List.not_mem_nil, or_false] at h
  rcases h with rfl | rfl | rfl | rfl
  · exact ⟨_, rfl⟩
  · exact ⟨_, rfl⟩
  · exact ⟨_, rfl⟩
  · exact ⟨_, rfl⟩

theorem LogFilter.allows_silent (r : LogRecord) (h : silent.allows r = true) :
    r.level = .error := by
  obtain ⟨level, target, message⟩ := r
  cases level with
  | error => rfl
  | warn => simp [allows, silent, LogLevel.rank] at h
  | info => simp [allows, silent, LogLevel.rank] at h
  | debug => simp [allows, silent, LogLevel.rank] at h
  | trace => simp [allows, silent, LogLevel.rank] at h

namespace CommandLine

/-- What is written on a file that prints: its tokens, or all of its items in the format of
the settings. -/
inductive Prints (disk : Disk) (args : Arguments) (s : Settings) (path : String) : String → Prop
  | tokens {text} (hargs : args.tokens = true) (htext : disk.readText path = .ok text) :
    Prints disk args s path (String.join ((tokenTexts text).map fun token => token ++ "\n"))
  | tree {text items output} {format : Format} (hargs : args.tokens = false)
    (htext : disk.readText path = .ok text) (hitems : readText s.limit text = .ok items)
    (hformat : format ∈ Format.builtin) (hname : format.name = s.format)
    (hrender : format.render items = .ok output) :
    Prints disk args s path output

/-- The line that points at a place in a file. Lines and columns count from one. -/
def pointer (path : String) : Option Position → String
  | none => ""
  | some p =>
    "  --> " ++ path ++ ":" ++ toString (p.line + 1) ++ ":" ++ toString (p.column + 1) ++ "\n"

/-- The report on a file that fails. -/
inductive Fails (disk : Disk) (args : Arguments) (s : Settings) (kind : PlanKind)
    (path : String) : String → Prop
  | tokensUnreadable {cause : FileError} (hargs : args.tokens = true)
    (hcause : disk.readText path = .error cause) :
    Fails disk args s kind path
      ("Error reading " ++ kind.word ++ " file " ++ path ++ ": " ++ cause.message ++ "\n")
  | unreadable {cause : FileError} (hargs : args.tokens = false)
    (hcause : disk.readText path = .error cause) :
    Fails disk args s kind path
      ("Error: could not read " ++ kind.word ++ " file " ++ path ++ ": " ++ cause.message ++ "\n")
  | unparsable {text} {cause : ReadError Position} (hargs : args.tokens = false)
    (htext : disk.readText path = .ok text) (hcause : readText s.limit text = .error cause) :
    Fails disk args s kind path
      ("Error: could not parse " ++ kind.word ++ " file " ++ path ++ ": " ++ cause.message ++
        "\n" ++ pointer path cause.place?)
  | unknownFormat {text items} (hargs : args.tokens = false)
    (htext : disk.readText path = .ok text) (hitems : readText s.limit text = .ok items)
    (hformat : ∀ format ∈ Format.builtin, format.name ≠ s.format) :
    Fails disk args s kind path
      ("Error: Format '" ++ s.format ++
        "' not found\nAvailable formats: json, sexpr, treeviz, yaml\n")

variable {disk : Disk} {args : Arguments} {s : Settings}

theorem Fails.not_prints {kind : PlanKind} {path report output : String}
    (h : Fails disk args s kind path report) : ¬Prints disk args s path output := by
  intro hprints
  cases hprints with
  | tokens hargs htext =>
      cases h with
      | tokensUnreadable _ hcause => simp [htext] at hcause
      | unreadable hnot _ => simp [hargs] at hnot
      | unparsable hnot _ _ => simp [hargs] at hnot
      | unknownFormat hnot _ _ _ => simp [hargs] at hnot
  | tree hargs htext hitems hformat hname _ =>
      cases h with
      | tokensUnreadable hnot _ => simp [hargs] at hnot
      | unreadable _ hcause => simp [htext] at hcause
      | unparsable _ hother hcause =>
          rw [htext] at hother
          cases hother
          simp [hitems] at hcause
      | unknownFormat _ _ _ hnone => exact hnone _ hformat hname

theorem formatReport_notFound (name : String) :
    formatReport (.notFound name) =
      "Error: Format '" ++ name ++
        "' not found\nAvailable formats: json, sexpr, treeviz, yaml\n" := by
  have hmessage : (FormatError.notFound name).message = "Format '" ++ name ++ "' not found" := rfl
  rw [formatReport, Registry.intercalate_names_builtin, hmessage]
  apply String.toList_inj.mp
  simp only [String.toList_append, List.append_assoc]
  rfl

theorem loadReport_unreadable (kind : PlanKind) (path : String) (cause : FileError) :
    loadReport (.unreadable kind path cause) =
      "Error: could not read " ++ kind.word ++ " file " ++ path ++ ": " ++ cause.message ++
        "\n" := by
  have hreport : loadReport (.unreadable kind path cause) =
      "Error: " ++ ("could not read " ++ kind.name ++ " file " ++ path ++ ": " ++
        cause.message) ++ "\n" ++ "" := rfl
  rw [hreport, kind.name_eq_word]
  apply String.toList_inj.mp
  simp only [String.toList_append, List.append_assoc]
  rfl

theorem loadReport_unparsable (kind : PlanKind) (path : String) (cause : ReadError Position) :
    loadReport (.unparsable kind path cause) =
      "Error: could not parse " ++ kind.word ++ " file " ++ path ++ ": " ++ cause.message ++
        "\n" ++ pointer path cause.place? := by
  have hreport : loadReport (.unparsable kind path cause) =
      "Error: " ++ ("could not parse " ++ kind.name ++ " file " ++ path ++ ": " ++
        cause.message) ++ "\n" ++ pointer path cause.place? := by
    rw [loadReport]
    cases cause <;> rfl
  rw [hreport, kind.name_eq_word]
  apply String.toList_inj.mp
  simp only [String.toList_append, List.append_assoc]
  rfl

/-- No error is logged. -/
def Quiet (log : List LogRecord) : Prop := ∀ r ∈ log, r.level ≠ .error

theorem Quiet.logText_eq {filter : LogFilter}
    (hfilter : ∀ r, filter.allows r = true → r.level = .error) {log : List LogRecord}
    (h : Quiet log) : logText filter log = "" := by
  have hnone : log.filter filter.allows = [] := by
    apply List.filter_eq_nil_iff.mpr
    intro r hr hallowed
    exact h r hr (hfilter r hallowed)
  rw [logText, hnone]
  rfl

/-- What handling one file comes to, with no error logged. -/
inductive Outcome (disk : Disk) (args : Arguments) (s : Settings) (kind : PlanKind)
    (path : String) : Logged (Except String String) → Prop
  | prints {output log} (hlog : Quiet log) (h : Prints disk args s path output) :
    Outcome disk args s kind path ⟨.ok output, log⟩
  | fails {report log} (hlog : Quiet log) (h : Fails disk args s kind path report) :
    Outcome disk args s kind path ⟨.error report, log⟩

theorem showTokens_outcome (hargs : args.tokens = true) (kind : PlanKind) (path : String) :
    Outcome disk args s kind path (showTokens disk kind path) := by
  rw [showTokens]
  cases htext : disk.readText path with
  | error cause =>
      simp only [kind.name_eq_word]
      apply Outcome.fails
      · simp [Quiet]
      · exact .tokensUnreadable hargs htext
  | ok text =>
      apply Outcome.prints
      · simp [Quiet, countRecord]
      · exact .tokens hargs htext

theorem render_builtin (name : String) (items : List Node) :
    (∃ format ∈ Format.builtin, format.name = name ∧ ∃ output, format.render items = .ok output ∧
      Registry.builtin.render name items = .ok output) ∨
    ((∀ format ∈ Format.builtin, format.name ≠ name) ∧
      Registry.builtin.render name items = .error (.notFound name)) := by
  cases hfind : Registry.builtin.get? name with
  | none =>
      right
      constructor
      · intro format hformat hname
        have hmem := (Registry.mem_formats_builtin format).mpr hformat
        have hnot := List.find?_eq_none.mp hfind format hmem
        simp [hname] at hnot
      · rw [Registry.render, hfind]
  | some format =>
      left
      have hmem := List.mem_of_find?_eq_some hfind
      have hformat := (Registry.mem_formats_builtin format).mp hmem
      have hname : format.name = name := by simpa using List.find?_some hfind
      obtain ⟨output, houtput⟩ := Format.render_of_mem_builtin hformat items
      refine ⟨format, hformat, hname, output, houtput, ?_⟩
      rw [Registry.render, hfind]
      exact houtput

theorem showTree_outcome (hargs : args.tokens = false) (kind : PlanKind) (path : String) :
    Outcome disk args s kind path (showTree disk s kind path) := by
  rw [showTree]
  cases htext : disk.readText path with
  | error cause =>
      simp only [PlanFile.load_of_error htext, loadReport_unreadable]
      apply Outcome.fails
      · simp [Quiet]
      · exact .unreadable hargs htext
  | ok text =>
      simp only [PlanFile.load_of_ok htext, PlanFile.ofText]
      cases hitems : readText s.limit text with
      | error cause =>
          simp only [loadReport_unparsable]
          apply Outcome.fails
          · simp [Quiet, PlanFile.sizeRecord]
          · exact .unparsable hargs htext hitems
      | ok items =>
          have hlog : Quiet [PlanFile.sizeRecord kind path text.utf8ByteSize,
              PlanFile.itemsRecord kind path items.length] := by
            simp [Quiet, PlanFile.sizeRecord, PlanFile.itemsRecord]
          obtain ⟨format, hformat, hname, output, houtput, hrender⟩ | ⟨hnone, hrender⟩ :=
            render_builtin s.format items
          · simp only [hrender]
            exact .prints hlog (.tree hargs htext hitems hformat hname houtput)
          · simp only [hrender, formatReport_notFound]
            exact .fails hlog (.unknownFormat hargs htext hitems hnone)

/-- Either all files print, or those before the first that fails do, and nothing is written
on that one but the report. -/
def InTurn (disk : Disk) (args : Arguments) (s : Settings) (files : List (PlanKind × String))
    (report : Report) : Prop :=
  (∃ outputs, List.Forall₂ (fun file output => Prints disk args s file.2 output) files outputs ∧
    report = ⟨0, String.join outputs, ""⟩) ∨
  ∃ before kind path after outputs text, files = before ++ (kind, path) :: after ∧
    List.Forall₂ (fun file output => Prints disk args s file.2 output) before outputs ∧
    Fails disk args s kind path text ∧ (∀ output, ¬Prints disk args s path output) ∧
    report = ⟨1, String.join outputs, text⟩

theorem InTurn.cons {kind : PlanKind} {path output : String} {files : List (PlanKind × String)}
    {report : Report} (hfirst : Prints disk args s path output)
    (h : InTurn disk args s files report) :
    InTurn disk args s ((kind, path) :: files)
      ⟨report.code, output ++ report.stdout, report.stderr⟩ := by
  obtain ⟨outputs, hall, rfl⟩ | ⟨before, other, failed, after, outputs, text, rfl, hbefore, hfails,
    hnot, rfl⟩ := h
  · left
    exact ⟨output :: outputs, .cons hfirst hall, by rw [String.join_cons]⟩
  · right
    exact ⟨(kind, path) :: before, other, failed, after, output :: outputs, text, rfl,
      .cons hfirst hbefore, hfails, hnot, by rw [String.join_cons]⟩

theorem runFiles_inTurn {filter : LogFilter}
    (hfilter : ∀ r, filter.allows r = true → r.level = .error)
    {handle : PlanKind → String → Logged (Except String String)}
    (hhandle : ∀ kind path, Outcome disk args s kind path (handle kind path))
    (files : List (PlanKind × String)) :
    InTurn disk args s files (runFiles filter handle files) := by
  induction files with
  | nil => exact .inl ⟨[], .nil, rfl⟩
  | cons file rest ih =>
      obtain ⟨kind, path⟩ := file
      have hone := hhandle kind path
      rw [runFiles]
      generalize handle kind path = result at hone
      cases hone with
      | prints hlog hprints =>
          simp only [hlog.logText_eq hfilter, String.empty_append]
          exact ih.cons hprints
      | fails hlog hfails =>
          right
          simp only [hlog.logText_eq hfilter, String.empty_append]
          exact ⟨[], kind, path, rest, [], _, rfl, .nil, hfails,
            fun output => hfails.not_prints, rfl⟩

/-- A run on a domain, and perhaps a problem, that shows no log records below errors. If it has
no settings it says why and writes nothing else. Otherwise the domain and then the problem are
handled in turn with these settings. A settings file that sets nothing but the two settings stands
between the flags and the built-in values. -/
theorem execute_in_turn (disk : Disk) {filter : LogFilter}
    (hfilter : ∀ r, filter.allows r = true → r.level = .error) (complaint : String → String)
    {args : Arguments} (hlist : args.listFormats = false) {domain : String}
    (hdomain : args.domain = some domain) :
    ((∀ s, ¬Configured disk args s) →
      ∃ text, Misconfigured disk complaint args text ∧
        execute disk filter args complaint =
          ⟨1, "", "Configuration error: " ++ text ++ "\n"⟩) ∧
      (∀ text, Misconfigured disk complaint args text → ∀ s, ¬Configured disk args s) ∧
      (∀ s, Configured disk args s →
        InTurn disk args s
          ((.domain, domain) :: (args.problem.map fun path => (PlanKind.problem, path)).toList)
          (execute disk filter args complaint)) ∧
      ∀ choices, FileChooses disk args.config choices → ∀ s,
        Configured disk args s ↔
          s.maxDepth = (args.maxDepth.map UInt32.toNat).getD
              ((Settings.lastDepth? choices).getD 512) ∧
            s.format = args.format.getD ((Settings.lastFormat? choices).getD "sexpr") := by
  refine ⟨?_, fun text htext s => htext.not_configured, ?_,
    fun choices hchoices s => hchoices.configured_iff⟩
  · intro hnone
    cases hlayers : Settings.ofLayers disk (layers args) with
    | error e =>
        refine ⟨_, misconfigured_of_ofLayers hlayers complaint, ?_⟩
        simp [execute, hlist, hlayers]
    | ok s => exact absurd (ofLayers_eq_ok_iff.mp hlayers) (hnone s)
  · intro s hs
    have hlayers := ofLayers_eq_ok_iff.mpr hs
    have hquiet : Quiet [effectiveRecord s] := by simp [Quiet, effectiveRecord]
    have hinputs : inputs args =
        (.domain, domain) :: (args.problem.map fun path => (PlanKind.problem, path)).toList := by
      rw [inputs, hdomain]
      rfl
    simp only [execute, hlist, hlayers, hquiet.logText_eq hfilter, String.empty_append, hinputs]
    cases hargs : args.tokens with
    | true => exact runFiles_inTurn hfilter (showTokens_outcome hargs) _
    | false => exact runFiles_inTurn hfilter (showTree_outcome hargs) _

/-- A settings file whose depth stands and whose format gives way to a flag, a domain that prints
and a problem that is nested too deep. With a settings file that may not be read nothing is
printed. -/
theorem execute_in_turn_config :
    let disk : Disk :=
      ⟨fun path =>
        if path = "c" then .ok "parser.max_depth = 1\n[output]\nformat = \"yaml\"\n".toUTF8
        else if path = "d" then .ok "(A)".toUTF8
        else if path = "p" then .ok "(\n (b))".toUTF8
        else .error (.other "Permission denied (os error 13)"),
        fun _ => true⟩
    let args : Arguments :=
      { domain := some "d", problem := some "p", format := some "json", config := some "c" }
    let lost : Arguments := { domain := some "d", config := some "x" }
    (∀ r, LogFilter.silent.allows r = true → r.level = .error) ∧
      args.listFormats = false ∧ args.domain = some "d" ∧
      Misconfigured disk id lost "Permission denied (os error 13)" ∧
      (∃ text, execute disk .silent lost id =
        ⟨1, "", "Configuration error: " ++ text ++ "\n"⟩) ∧
      FileChooses disk args.config [.depth 1, .format "yaml"] ∧
      Configured disk args ⟨1, "json"⟩ ∧
      Prints disk args ⟨1, "json"⟩ "d" "[\n  \"a\"\n]\n" ∧
      Fails disk args ⟨1, "json"⟩ .problem "p"
        ("Error: could not parse problem file p: nesting depth exceeds limit of 1\n" ++
          "  --> p:2:2\n") ∧
      InTurn disk args ⟨1, "json"⟩ [(.domain, "d"), (.problem, "p")]
        (execute disk .silent args id) := by
  intro disk args lost
  have hread : Toml.read "parser.max_depth = 1\n[output]\nformat = \"yaml\"\n" =
      some [("parser", .table [("max_depth", .integer 1)]),
        ("output", .table [("format", .string "yaml")])] := by
    cbv
  have hunread : SettingsFile.Loads disk "x"
      (.error (@SettingsError.notText (.other "Permission denied (os error 13)"))) :=
    .unreadable (.inl ⟨rfl, rfl⟩) rfl
  have hlost : Misconfigured disk id lost "Permission denied (os error 13)" :=
    Misconfigured.file rfl hunread
  have hchooses : FileChooses disk args.config [.depth 1, .format "yaml"] := by
    apply FileChooses.file
    refine ⟨by decide, "c", _, _, SettingsFile.isAt_iff.mp (.inl ⟨rfl, rfl⟩),
      Disk.readText_of_bytes rfl, hread, ?_⟩
    exact .field (.depth 1) (SettingsPart.spells_name .parser)
      (SettingsPart.lowerName_field .parser)
      (.field (.format "yaml") (SettingsPart.spells_name .output)
        (SettingsPart.lowerName_field .output) .nil)
  have hdomain : readText (some 1) "(A)" = .ok [.atom "a"] := by cbv
  have hproblem : readText (some 1) "(\n (b))" = .error (.tooDeep 1 ⟨1, 1⟩) := by cbv
  have hrender : Format.json.render [.atom "a"] = .ok "[\n  \"a\"\n]\n" := by cbv
  have hjson : Format.json ∈ Format.builtin := by simp [Format.builtin]
  have hprints : Prints disk args ⟨1, "json"⟩ "d" "[\n  \"a\"\n]\n" :=
    .tree rfl (Disk.readText_of_bytes rfl) hdomain hjson rfl hrender
  have hfails : Fails disk args ⟨1, "json"⟩ .problem "p" _ :=
    .unparsable rfl (Disk.readText_of_bytes rfl) hproblem
  obtain ⟨hnone, hmis, _⟩ :=
    @execute_in_turn disk .silent LogFilter.allows_silent id lost rfl "d" rfl
  obtain ⟨_, _, hrun, hvalues⟩ :=
    @execute_in_turn disk .silent LogFilter.allows_silent id args rfl "d" rfl
  have hconfigured : Configured disk args ⟨1, "json"⟩ := (hvalues _ hchooses _).mpr ⟨rfl, rfl⟩
  obtain ⟨text, _, hlostrun⟩ := hnone (hmis _ hlost)
  exact ⟨LogFilter.allows_silent, rfl, rfl, hlost, ⟨text, hlostrun⟩, hchooses, hconfigured,
    hprints, hfails, hrun _ hconfigured⟩

end CommandLine

end PlanText
