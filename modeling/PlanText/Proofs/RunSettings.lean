import PlanText.CommandLine.Run
import PlanText.Proofs.Layering

/-!
The settings that a run goes by. A flag settles one of the two, whatever stands below it. Below
the flags is the tree of the built-in values, with the fields of the settings file put in. A run
has no settings if there is no document at that file's path, or if the tree has no value of the
right type for a setting that no flag settles.
-/

namespace PlanText

namespace Setting

theorem field?_put (target : Setting) (key other : String) (value : Setting) :
    (target.asTable.put key value).field? other =
      if key = other then some value else target.field? other := by
  cases target with
  | leaf origin old => simp [asTable, put, field?, Keyed.get?_put, Keyed.get?]
  | table origin fields => simp [asTable, put, field?, Keyed.get?_put]
  | array origin items => simp [asTable, put, field?, Keyed.get?_put, Keyed.get?]

theorem setAt_path (part : SettingsPart) (value : Leaf) (root : Setting) :
    setAt (leaf none value) part.path.steps root =
      root.asTable.put part.name
        (((root.asTable.field? part.name).getD nothing).asTable.put part.field
          (leaf none value)) := by
  rw [SettingsPart.path, setAt, part.lowerName_name, setAt, setField, part.lowerName_field]
  intro h
  contradiction

theorem fieldOf_put (part : SettingsPart) (target value : Setting) :
    Settings.fieldOf part (target.asTable.put part.field value) =
      .ok (value, part.name ++ "." ++ part.field) := by
  have hfield := field?_put target part.field part.field value
  rw [if_pos rfl] at hfield
  cases target <;>
    · simp only [asTable, put, Settings.fieldOf] at hfield ⊢
      rw [hfield]

/-- A value that is set for a part is found there. -/
theorem fieldOf_setAt (part : SettingsPart) (value : Leaf) (root : Setting) :
    Settings.fieldOf part (Settings.partOf part (setAt (leaf none value) part.path.steps root)) =
      .ok (leaf none value, part.name ++ "." ++ part.field) := by
  rw [setAt_path, Settings.partOf, field?_put, if_pos rfl, Option.getD_some, fieldOf_put]

theorem partOf_setAt_other {part other : SettingsPart} (h : other ≠ part) (value : Leaf)
    (root : Setting) :
    Settings.partOf part (setAt (leaf none value) other.path.steps root) =
      Settings.partOf part root := by
  have hname : other.name ≠ part.name := fun heq => h (SettingsPart.name_inj heq)
  rw [setAt_path, Settings.partOf, field?_put, if_neg hname, Settings.partOf]

end Setting

namespace Settings

theorem depthIn_setAt (n : UInt32) (root : Setting) :
    depthIn (Setting.setAt (.leaf none (.integer n.toNat)) SettingsPart.parser.path.steps root) =
      .ok n.toNat := by
  have hsize : n.toNat < UInt64.size := n.toNat_lt.trans (by decide)
  simp only [depthIn, Setting.fieldOf_setAt, sizeOf_integer hsize]

theorem depthIn_setAt_format (value : Leaf) (root : Setting) :
    depthIn (Setting.setAt (.leaf none value) SettingsPart.output.path.steps root) =
      depthIn root := by
  have hother : SettingsPart.output ≠ .parser := nofun
  rw [depthIn, Setting.partOf_setAt_other hother, depthIn]

theorem formatIn_setAt (name : String) (root : Setting) :
    formatIn (Setting.setAt (.leaf none (.text name)) SettingsPart.output.path.steps root) =
      .ok name := by
  simp only [formatIn, Setting.fieldOf_setAt, textOf]

theorem formatIn_setAt_depth (value : Leaf) (root : Setting) :
    formatIn (Setting.setAt (.leaf none value) SettingsPart.parser.path.steps root) =
      formatIn root := by
  have hother : SettingsPart.parser ≠ .output := nofun
  rw [formatIn, Setting.partOf_setAt_other hother, formatIn]

theorem ofTree_eq_ok_iff {root : Setting} {s : Settings} :
    ofTree root = .ok s ↔ depthIn root = .ok s.maxDepth ∧ formatIn root = .ok s.format := by
  obtain ⟨depth, name⟩ := s
  rw [ofTree]
  cases depthIn root with
  | error e => simp
  | ok n =>
      cases formatIn root with
      | error e => simp
      | ok format => simp

theorem error_of_ofTree {root : Setting} {e : SettingsError} (h : ofTree root = .error e) :
    depthIn root = .error e ∨ formatIn root = .error e := by
  revert h
  rw [ofTree]
  cases depthIn root with
  | error e' =>
      intro h
      cases h
      exact .inl rfl
  | ok n =>
      cases formatIn root with
      | error e' =>
          intro h
          cases h
          exact .inr rfl
      | ok format =>
          intro h
          contradiction

end Settings

namespace SettingsFile

variable {disk : Disk} {path place : String}

/-- The settings file that a path names is at this place: at the path itself, or else at the path
with the extension of settings files. -/
def IsAt (disk : Disk) (path place : String) : Prop :=
  disk.isFile path = true ∧ place = path ∨
    disk.isFile path = false ∧ disk.isFile (withExtension path) = true ∧
      place = withExtension path

theorem isAt_iff : IsAt disk path place ↔ (candidates path).find? disk.isFile = some place := by
  rw [candidates, IsAt]
  cases hpath : disk.isFile path with
  | true =>
      simp only [List.find?_cons, hpath, true_and, reduceCtorEq, false_and, or_false,
        Option.some.injEq]
      exact eq_comm
  | false =>
      cases hother : disk.isFile (withExtension path) with
      | true =>
          simp only [List.find?_cons, hpath, hother, true_and, reduceCtorEq, false_and, false_or,
            Option.some.injEq]
          exact eq_comm
      | false => simp [hpath, hother]

/-- What loading the settings file of a path comes to. -/
inductive Loads (disk : Disk) (path : String) :
    Except SettingsError (List (String × Setting)) → Prop
  | missing (hpath : disk.isFile path = false)
    (hother : disk.isFile (withExtension path) = false) :
    Loads disk path (.error (.missingFile path))
  | unreadable {place cause} (hplace : IsAt disk path place)
    (hcause : disk.readText place = .error cause) :
    Loads disk path (.error (@SettingsError.notText cause))
  | noDocument {place text} (hplace : IsAt disk path place)
    (htext : disk.readText place = .ok text) (hread : Toml.read text = none) :
    Loads disk path (.error (.badDocument (shownPath place)))
  | document {place text document} (hplace : IsAt disk path place)
    (htext : disk.readText place = .ok text) (hread : Toml.read text = some document) :
    Loads disk path (.ok (Setting.ofTomlFields (some (shownPath place)) document))

theorem load_eq_iff {loaded : Except SettingsError (List (String × Setting))} :
    load disk path = loaded ↔ Loads disk path loaded := by
  constructor
  · rintro rfl
    rw [load]
    cases hplace : (candidates path).find? disk.isFile with
    | none =>
        simp only [candidates, List.find?_eq_none, List.mem_cons, List.not_mem_nil, or_false,
          forall_eq_or_imp, forall_eq, Bool.not_eq_true] at hplace
        exact .missing hplace.1 hplace.2
    | some place =>
        have hat := isAt_iff.mpr hplace
        cases htext : disk.readText place with
        | error cause =>
            simp only [htext]
            exact .unreadable hat htext
        | ok text =>
            simp only [htext]
            cases hread : Toml.read text with
            | none => exact .noDocument hat htext hread
            | some document => exact .document hat htext hread
  · intro h
    cases h with
    | missing hpath hother =>
        have hnone : (candidates path).find? disk.isFile = none := by
          simp [candidates, hpath, hother]
        simp only [load, hnone]
    | unreadable hplace hcause => simp only [load, isAt_iff.mp hplace, hcause]
    | noDocument hplace htext hread => simp only [load, isAt_iff.mp hplace, htext, hread]
    | document hplace htext hread => simp only [load, isAt_iff.mp hplace, htext, hread]

end SettingsFile

namespace CommandLine

variable {disk : Disk} {args : Arguments} {root : Setting} {s : Settings}

/-- The values that flags override, with their paths. -/
def flagValues (args : Arguments) : List (KeyPath × Setting) :=
  (args.format.map fun f => (SettingsPart.output.path, Setting.leaf none (.text f))).toList ++
    (args.maxDepth.map fun d =>
      (SettingsPart.parser.path, Setting.leaf none (.integer d.toNat))).toList

theorem addAll_layers (args : Arguments) :
    Layers.empty.addAll (layers args) = .ok ⟨args.config.toList, flagValues args⟩ := by
  have hformat : KeyPath.parse "output.format" = .ok SettingsPart.output.path :=
    SettingsPart.parse_key .output
  have hdepth : KeyPath.parse "parser.max_depth" = .ok SettingsPart.parser.path :=
    SettingsPart.parse_key .parser
  have hpaths : SettingsPart.output.path ≠ SettingsPart.parser.path := by
    intro heq
    have hpart := SettingsPart.path_inj heq
    contradiction
  rw [layers, flagValues]
  cases args.config <;> cases args.format <;> cases args.maxDepth <;>
    simp [Layers.addAll, Layers.add, Layers.empty, hformat, hdepth, hpaths, Keyed.put]

/-- What a flag says, or else what stands below it. -/
def flagOr {α : Type} (flag : Option α) (below : Except SettingsError α) :
    Except SettingsError α :=
  match flag with
  | some value => .ok value
  | none => below

theorem depthIn_addValues (args : Arguments) (root : Setting) :
    Settings.depthIn (root.addValues (flagValues args)) =
      flagOr (args.maxDepth.map UInt32.toNat) (Settings.depthIn root) := by
  rw [flagValues]
  cases args.maxDepth with
  | none =>
      cases args.format with
      | none => rfl
      | some name => exact Settings.depthIn_setAt_format (.text name) root
  | some n =>
      cases args.format with
      | none => exact Settings.depthIn_setAt n root
      | some name => exact Settings.depthIn_setAt n _

theorem formatIn_addValues (args : Arguments) (root : Setting) :
    Settings.formatIn (root.addValues (flagValues args)) =
      flagOr args.format (Settings.formatIn root) := by
  rw [flagValues]
  cases args.format with
  | none =>
      cases args.maxDepth with
      | none => rfl
      | some n => exact Settings.formatIn_setAt_depth (.integer n.toNat) root
  | some name =>
      cases args.maxDepth with
      | none => exact Settings.formatIn_setAt name root
      | some n =>
          exact (Settings.formatIn_setAt_depth (.integer n.toNat) _).trans
            (Settings.formatIn_setAt name root)

/-- The tree below the flags: the built-in values, and over them the fields of the settings file
if there is one. -/
inductive BelowFlags (disk : Disk) : Option String → Setting → Prop
  | builtin : BelowFlags disk none Setting.builtin
  | file {path fields} (hfile : SettingsFile.Loads disk path (.ok fields)) :
    BelowFlags disk (some path) (Setting.builtin.addFields fields)

theorem addFiles_eq_ok_iff {config : Option String} :
    Setting.addFiles disk Setting.builtin config.toList = .ok root ↔
      BelowFlags disk config root := by
  constructor
  · intro hfiles
    cases config with
    | none =>
        cases hfiles
        exact .builtin
    | some path =>
        simp only [Option.toList_some, Setting.addFiles] at hfiles
        cases hload : SettingsFile.load disk path with
        | error e => simp [hload] at hfiles
        | ok fields =>
            simp only [hload, Except.ok.injEq] at hfiles
            subst hfiles
            exact .file (SettingsFile.load_eq_iff.mp hload)
  · intro h
    cases h with
    | builtin => rfl
    | file hfile =>
        simp only [Option.toList_some, Setting.addFiles, SettingsFile.load_eq_iff.mpr hfile]

/-- The settings that a run goes by: what the flags say, or else what the tree below them
holds. -/
def Configured (disk : Disk) (args : Arguments) (s : Settings) : Prop :=
  ∃ root, BelowFlags disk args.config root ∧
    flagOr (args.maxDepth.map UInt32.toNat) (Settings.depthIn root) = .ok s.maxDepth ∧
    flagOr args.format (Settings.formatIn root) = .ok s.format

/-- Why a run has no settings, and what is said about it. Where both settings lack a value,
either may be what is said. -/
inductive Misconfigured (disk : Disk) (complaint : String → String) (args : Arguments) :
    String → Prop
  | file {path e} (hconfig : args.config = some path)
    (hfile : SettingsFile.Loads disk path (.error e)) :
    Misconfigured disk complaint args (e.message complaint)
  | depth {root e} (hroot : BelowFlags disk args.config root)
    (hdepth : flagOr (args.maxDepth.map UInt32.toNat) (Settings.depthIn root) = .error e) :
    Misconfigured disk complaint args (e.message complaint)
  | format {root e} (hroot : BelowFlags disk args.config root)
    (hformat : flagOr args.format (Settings.formatIn root) = .error e) :
    Misconfigured disk complaint args (e.message complaint)

theorem BelowFlags.ofLayers_eq (h : BelowFlags disk args.config root) :
    Settings.ofLayers disk (layers args) =
      Settings.ofTree (root.addValues (flagValues args)) := by
  simp only [Settings.ofLayers, addAll_layers, Setting.ofLayers, addFiles_eq_ok_iff.mpr h]

theorem ofLayers_eq_ok_iff :
    Settings.ofLayers disk (layers args) = .ok s ↔ Configured disk args s := by
  constructor
  · intro hlayers
    cases hfiles : Setting.addFiles disk Setting.builtin args.config.toList with
    | error e => simp [Settings.ofLayers, addAll_layers, Setting.ofLayers, hfiles] at hlayers
    | ok root =>
        have hroot := addFiles_eq_ok_iff.mp hfiles
        rw [hroot.ofLayers_eq, Settings.ofTree_eq_ok_iff, depthIn_addValues,
          formatIn_addValues] at hlayers
        exact ⟨root, hroot, hlayers⟩
  · rintro ⟨root, hroot, hvalues⟩
    rw [hroot.ofLayers_eq, Settings.ofTree_eq_ok_iff, depthIn_addValues, formatIn_addValues]
    exact hvalues

theorem misconfigured_of_ofLayers {e : SettingsError}
    (h : Settings.ofLayers disk (layers args) = .error e) (complaint : String → String) :
    Misconfigured disk complaint args (e.message complaint) := by
  cases hfiles : Setting.addFiles disk Setting.builtin args.config.toList with
  | error e' =>
      simp only [Settings.ofLayers, addAll_layers, Setting.ofLayers, hfiles,
        Except.error.injEq] at h
      subst h
      cases hconfig : args.config with
      | none => simp [hconfig, Setting.addFiles] at hfiles
      | some path =>
          simp only [hconfig, Option.toList_some, Setting.addFiles] at hfiles
          cases hload : SettingsFile.load disk path with
          | error e'' =>
              simp only [hload, Except.error.injEq] at hfiles
              subst hfiles
              exact .file hconfig (SettingsFile.load_eq_iff.mp hload)
          | ok fields => simp [hload] at hfiles
  | ok root =>
      have hroot := addFiles_eq_ok_iff.mp hfiles
      rw [hroot.ofLayers_eq] at h
      rcases Settings.error_of_ofTree h with hdepth | hformat
      · rw [depthIn_addValues] at hdepth
        exact .depth hroot hdepth
      · rw [formatIn_addValues] at hformat
        exact .format hroot hformat

theorem BelowFlags.eq {config : Option String} {other : Setting}
    (h : BelowFlags disk config root) (hother : BelowFlags disk config other) :
    root = other := by
  have hfiles := addFiles_eq_ok_iff.mpr h
  rw [addFiles_eq_ok_iff.mpr hother] at hfiles
  cases hfiles
  rfl

theorem Misconfigured.not_configured {complaint : String → String} {text : String}
    (h : Misconfigured disk complaint args text) : ¬Configured disk args s := by
  rintro ⟨root, hroot, hdepth, hformat⟩
  cases h with
  | file hconfig hfile =>
      rw [hconfig] at hroot
      cases hroot with
      | file hother =>
          have hload := SettingsFile.load_eq_iff.mpr hfile
          rw [SettingsFile.load_eq_iff.mpr hother] at hload
          contradiction
  | depth hother herror =>
      rw [hother.eq hroot, hdepth] at herror
      contradiction
  | format hother herror =>
      rw [hother.eq hroot, hformat] at herror
      contradiction

/-- The choices that the settings file makes, if there is one. -/
inductive FileChooses (disk : Disk) : Option String → List Settings.Choice → Prop
  | none : FileChooses disk none []
  | file {path choices} (h : Settings.FileSays disk path choices) :
    FileChooses disk (some path) choices

theorem FileChooses.belowFlags {config : Option String} {choices : List Settings.Choice}
    (h : FileChooses disk config choices) :
    ∃ root, BelowFlags disk config root ∧
      Settings.depthIn root = .ok ((Settings.lastDepth? choices).getD 512) ∧
      Settings.formatIn root = .ok ((Settings.lastFormat? choices).getD "sexpr") := by
  obtain ⟨values, hbuiltin, hheld⟩ := Settings.holds_builtin
  cases h with
  | none =>
      refine ⟨_, .builtin, ?_, ?_⟩
      · rw [hbuiltin]
        exact hheld.depthIn
      · rw [hbuiltin]
        exact hheld.formatIn
  | file h =>
      obtain ⟨_, place, text, document, hplace, htext, hread, hsays⟩ := h
      obtain ⟨after, hadd, hafter⟩ :=
        hsays.addFields (some (SettingsFile.shownPath place)) hheld
      rw [Settings.foldl_settle] at hafter
      have hfile : SettingsFile.Loads disk _ _ :=
        .document (SettingsFile.isAt_iff.mpr hplace) htext hread
      refine ⟨_, .file hfile, ?_, ?_⟩
      · rw [hbuiltin, hadd]
        exact hafter.depthIn
      · rw [hbuiltin, hadd]
        exact hafter.formatIn

theorem flagOr_ok {α : Type} (flag : Option α) (value : α) :
    flagOr flag (.ok value) = .ok (flag.getD value) := by
  cases flag with
  | none => rfl
  | some given => rfl

/-- With a settings file that sets nothing but the two settings, or with none, there are settings:
the flags, then the file, then the built-in values. -/
theorem FileChooses.configured_iff {choices : List Settings.Choice}
    (h : FileChooses disk args.config choices) :
    Configured disk args s ↔
      s.maxDepth = (args.maxDepth.map UInt32.toNat).getD
          ((Settings.lastDepth? choices).getD 512) ∧
        s.format = args.format.getD ((Settings.lastFormat? choices).getD "sexpr") := by
  obtain ⟨root, hroot, hdepth, hformat⟩ := h.belowFlags
  rw [← ofLayers_eq_ok_iff, hroot.ofLayers_eq, Settings.ofTree_eq_ok_iff, depthIn_addValues,
    formatIn_addValues, hdepth, hformat, flagOr_ok, flagOr_ok, Except.ok.injEq, Except.ok.injEq,
    eq_comm, @eq_comm _ s.format]

end CommandLine

end PlanText
