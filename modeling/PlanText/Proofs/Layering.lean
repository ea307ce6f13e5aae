import Mathlib
import PlanText.Proofs.SettingsTree

/-!
What the settings are when files and overriding values are given in layers. Files and values
are gathered apart. Both come down to choices that replace one another, first those of the
files and then those that override, so the last choice for a setting stands.
-/

namespace PlanText

def Layer.path? : Layer → Option String
  | .file path => some path
  | .value _ _ => none

def Layer.value? : Layer → Option (String × Setting)
  | .file _ => none
  | .value key setting => some (key, setting)

namespace Layers

/-- Puts values in at their keys, one after the other. -/
def putAll (values : List (KeyPath × Setting)) :
    List (String × Setting) → Except SettingsError (List (KeyPath × Setting))
  | [] => .ok values
  | (key, value) :: rest =>
    match KeyPath.parse key with
    | .ok path => putAll (Keyed.put path value values) rest
    | .error fault => .error (.badKey fault)

/-- Files and values are gathered each for themselves, so how they take turns leaves no
trace. -/
theorem addAll_eq (layers : Layers) (more : List Layer) :
    layers.addAll more =
      (putAll layers.values (more.filterMap Layer.value?)).map fun values =>
        ⟨layers.files ++ more.filterMap Layer.path?, values⟩ := by
  induction more generalizing layers with
  | nil => simp [addAll, putAll, Except.map]
  | cons layer rest ih =>
      cases layer with
      | file path =>
          simp only [addAll, add, ih, List.filterMap_cons, Layer.path?, Layer.value?,
            List.append_assoc, List.singleton_append]
      | value key setting =>
          simp only [addAll, add, List.filterMap_cons, Layer.path?, Layer.value?, putAll]
          cases KeyPath.parse key with
          | ok path => exact ih _
          | error fault => rfl

end Layers

namespace Settings

/-- The path names a settings file that can be read, with these choices, each setting once at
most, and nothing else. -/
def FileSays (disk : Disk) (path : String) (choices : List Choice) : Prop :=
  (choices.map Choice.part).Nodup ∧
    ∃ found text fields, (SettingsFile.candidates path).find? disk.isFile = some found ∧
      disk.readText found = .ok text ∧ Toml.read text = some fields ∧
        DocumentSays fields choices

/-- A layer with what it chooses: a file, or a value that overrides. -/
inductive Given
  | file (path : String) (choices : List Choice)
  | override (choice : Choice)

namespace Given

def layer : Given → Layer
  | file path _ => .file path
  | override c => .value c.part.key (.leaf none c.leaf)

/-- The file, if it is one, says what it is given with. -/
def OnDisk (disk : Disk) : Given → Prop
  | file path choices => FileSays disk path choices
  | override _ => True

def filed : Given → List Choice
  | file _ choices => choices
  | override _ => []

def override? : Given → Option Choice
  | file _ _ => none
  | override c => some c

end Given

theorem addFiles_given {disk : Disk} {given : List Given} (h : ∀ g ∈ given, g.OnDisk disk)
    {values : SettingsPart → Setting} {s : Settings} (hvalues : Holds values s) :
    ∃ after, Setting.addFiles disk (Setting.tree values)
        ((given.map Given.layer).filterMap Layer.path?) = .ok (Setting.tree after) ∧
      Holds after ((given.flatMap Given.filed).foldl Choice.settle s) := by
  induction given generalizing values s with
  | nil => exact ⟨values, rfl, hvalues⟩
  | cons g rest ih =>
      have hrest : ∀ g ∈ rest, g.OnDisk disk := fun g hg => h g (.tail _ hg)
      cases g with
      | override c => exact ih hrest hvalues
      | file path choices =>
          obtain ⟨_, found, text, fields, hfound, htext, hfields, hsays⟩ := h _ (.head _)
          have hload : SettingsFile.load disk path =
              .ok (Setting.ofTomlFields (some (SettingsFile.shownPath found)) fields) := by
            simp [SettingsFile.load, hfound, htext, hfields]
          obtain ⟨between, hadd, hbetween⟩ :=
            hsays.addFields (some (SettingsFile.shownPath found)) hvalues
          obtain ⟨after, hfiles, hafter⟩ := ih hrest hbetween
          refine ⟨after, ?_, ?_⟩
          · simp only [List.map_cons, Given.layer, List.filterMap_cons, Layer.path?,
              Setting.addFiles, hload, hadd]
            exact hfiles
          · rw [List.flatMap_cons, List.foldl_append]
            exact hafter

/-- Overriding values with their paths. -/
def byPath (pairs : List (SettingsPart × Leaf)) : List (KeyPath × Setting) :=
  pairs.map fun pair => (pair.1.path, .leaf none pair.2)

def putLeaf (values : SettingsPart → Setting) (pair : SettingsPart × Leaf) :
    SettingsPart → Setting :=
  Function.update values pair.1 (.leaf none pair.2)

theorem addValues_byPath (pairs : List (SettingsPart × Leaf)) (values : SettingsPart → Setting) :
    (Setting.tree values).addValues (byPath pairs) =
      Setting.tree (pairs.foldl putLeaf values) := by
  induction pairs generalizing values with
  | nil => rfl
  | cons pair rest ih =>
      obtain ⟨part, value⟩ := pair
      have hfirst : (Setting.tree values).addValues (byPath ((part, value) :: rest)) =
          (Setting.setAt (.leaf none value) part.path.steps (Setting.tree values)).addValues
            (byPath rest) := rfl
      rw [hfirst, SettingsPart.path,
        Setting.setAt_tree part.lowerName_name part.lowerName_field, ih]
      rfl

theorem foldl_putLeaf_put {pairs : List (SettingsPart × Leaf)}
    (h : (pairs.map Prod.fst).Nodup) (part : SettingsPart) (value : Leaf)
    (values : SettingsPart → Setting) :
    (Keyed.put part value pairs).foldl putLeaf values =
      putLeaf (pairs.foldl putLeaf values) (part, value) := by
  apply Keyed.foldl_put _ _ h
  · intro values part old value
    exact Function.update_idem _ _ _
  · intro values part value other old hne
    exact Function.update_comm (Ne.symm hne) _ _ values

def putChoices (pairs : List (SettingsPart × Leaf)) (choices : List Choice) :
    List (SettingsPart × Leaf) :=
  choices.foldl (fun pairs c => Keyed.put c.part c.leaf pairs) pairs

theorem putAll_given (given : List Given) (pairs : List (SettingsPart × Leaf)) :
    Layers.putAll (byPath pairs) ((given.map Given.layer).filterMap Layer.value?) =
      .ok (byPath (putChoices pairs (given.filterMap Given.override?))) := by
  induction given generalizing pairs with
  | nil => rfl
  | cons g rest ih =>
      cases g with
      | file path choices => exact ih pairs
      | override c =>
          have hput : Keyed.put c.part.path (.leaf none c.leaf) (byPath pairs) =
              byPath (Keyed.put c.part c.leaf pairs) :=
            Keyed.put_map SettingsPart.path_inj c.part c.leaf pairs
          simp only [List.map_cons, Given.layer, List.filterMap_cons, Layer.value?,
            Layers.putAll, SettingsPart.parse_key, hput, ih]
          rfl

theorem Holds.putChoices {pairs : List (SettingsPart × Leaf)} {values : SettingsPart → Setting}
    {s : Settings} (h : Holds (pairs.foldl putLeaf values) s)
    (hkeys : (pairs.map Prod.fst).Nodup) (choices : List Choice) :
    Holds ((putChoices pairs choices).foldl putLeaf values) (choices.foldl Choice.settle s) := by
  induction choices generalizing pairs s with
  | nil => exact h
  | cons c rest ih =>
      have hfirst : Holds ((Keyed.put c.part c.leaf pairs).foldl putLeaf values) (c.settle s) := by
        rw [foldl_putLeaf_put hkeys]
        exact h.update c none
      exact ih hfirst (Keyed.nodup_put hkeys c.part c.leaf)

/-- For each setting the last override, else what the last file that sets it says, else the
built-in value. -/
def effective (given : List Given) : Settings where
  maxDepth :=
    (lastDepth? (given.filterMap Given.override?)).getD
      ((lastDepth? (given.flatMap Given.filed)).getD 512)
  format :=
    (lastFormat? (given.filterMap Given.override?)).getD
      ((lastFormat? (given.flatMap Given.filed)).getD "sexpr")

theorem ofLayers_given {disk : Disk} {given : List Given} (h : ∀ g ∈ given, g.OnDisk disk) :
    ofLayers disk (given.map Given.layer) = .ok (effective given) := by
  obtain ⟨values, hbuiltin, hheld⟩ := holds_builtin
  obtain ⟨filed, hadded, hfiled⟩ := addFiles_given h hheld
  have hstart : Holds (([] : List (SettingsPart × Leaf)).foldl putLeaf filed) _ := hfiled
  have hlast := hstart.putChoices List.nodup_nil (given.filterMap Given.override?)
  have hgathered : Layers.empty.addAll (given.map Given.layer) =
      .ok ⟨(given.map Given.layer).filterMap Layer.path?,
        byPath (putChoices [] (given.filterMap Given.override?))⟩ := by
    have hputs := putAll_given given []
    rw [Layers.addAll_eq]
    simp only [Layers.empty, byPath, List.map_nil] at hputs ⊢
    rw [hputs]
    rfl
  rw [ofLayers, hgathered]
  simp only [Setting.ofLayers, hbuiltin, hadded, addValues_byPath, hlast.ofTree]
  rw [foldl_settle, foldl_settle]
  rfl

/-- Files that set nothing but the two settings and overrides of the two, in any order, make
settings in which the last override of each stands, else the last file that sets it, else the
built-in value, and a depth of zero is no limit. What layers of any kind make, settings or an
error, hangs on the files among them and on the values among them, however these take turns. -/
theorem ofLayers_last (disk : Disk) {given : List Given} (h : ∀ g ∈ given, g.OnDisk disk)
    {layers others : List Layer}
    (hfiles : layers.filterMap Layer.path? = others.filterMap Layer.path?)
    (hvalues : layers.filterMap Layer.value? = others.filterMap Layer.value?) :
    ofLayers disk (given.map Given.layer) = .ok (effective given) ∧
      ((effective given).limit = none ↔ (effective given).maxDepth = 0) ∧
      ((effective given).maxDepth ≠ 0 →
        (effective given).limit = some (effective given).maxDepth) ∧
      ofLayers disk layers = ofLayers disk others := by
  refine ⟨ofLayers_given h, ?_, ?_, ?_⟩
  · simp [limit]
  · intro hne
    rw [limit, if_neg hne]
  · simp only [ofLayers, Layers.addAll_eq, hfiles, hvalues]

/-- A file between, before and after overrides, with keys in capitals and with a quoted key,
and layers with a key that is no path. -/
theorem ofLayers_last_turns :
    let disk : Disk :=
      ⟨fun path =>
        .ok (if path = "a" then "parser.max_depth = 3\n[Output]\nFormat = \"json\"\n"
          else "\"output.format\" = \"yaml\"\n[parser]\n").toUTF8,
        fun _ => true⟩
    let given : List Given :=
      [.file "a" [.depth 3, .format "json"], .override (.depth 0), .file "b" [.format "yaml"]]
    let layers : List Layer := [.file "a", .value "x[" .nothing, .file "b"]
    let others : List Layer := [.value "x[" .nothing, .file "a", .file "b"]
    (∀ g ∈ given, g.OnDisk disk) ∧
      layers.filterMap Layer.path? = others.filterMap Layer.path? ∧
      layers.filterMap Layer.value? = others.filterMap Layer.value? ∧
      ofLayers disk (given.map Given.layer) = .ok ⟨0, "yaml"⟩ ∧
      (effective given).limit = none ∧
      ofLayers disk layers = ofLayers disk others := by
  intro disk given layers others
  have hfirst : Toml.read "parser.max_depth = 3\n[Output]\nFormat = \"json\"\n" =
      some [("parser", .table [("max_depth", .integer 3)]),
        ("Output", .table [("Format", .string "json")])] := by
    cbv
  have hsecond : Toml.read "\"output.format\" = \"yaml\"\n[parser]\n" =
      some [("output.format", .string "yaml"), ("parser", .table [])] := by
    cbv
  have hcapitals : KeyPath.Spells "Output" ["output"] := by
    refine ⟨["Output"], ?_, ?_⟩
    · cbv
    · cbv
  have hfield : Setting.lowerName "Format" = "format" := by cbv
  have hdisk : ∀ g ∈ given, g.OnDisk disk := by
    intro g hg
    simp only [given, List.mem_cons, List.not_mem_nil, or_false] at hg
    rcases hg with rfl | rfl | rfl
    · refine ⟨by decide, "a", _, _, rfl, Disk.readText_of_bytes rfl, hfirst, ?_⟩
      exact .field (.depth 3) (SettingsPart.spells_name .parser)
        (SettingsPart.lowerName_field .parser) (.field (.format "json") hcapitals hfield .nil)
    · trivial
    · refine ⟨by decide, "b", _, _, rfl, Disk.readText_of_bytes rfl, hsecond, ?_⟩
      exact .path (.format "yaml") (SettingsPart.spells_key .output)
        (.nothing (SettingsPart.spells_name .parser) .nil)
  obtain ⟨hsettings, hlimit, _, hsame⟩ := @ofLayers_last disk given hdisk layers others rfl rfl
  exact ⟨hdisk, rfl, rfl, hsettings, hlimit.mpr rfl, hsame⟩

end Settings

end PlanText
