import Mathlib.Logic.Function.Basic
import PlanText.Settings

/-!
The tree of settings while nothing but the two settings is set. It keeps the shape of the
built-in tree, one value for each part, so that a document comes down to the choices that it
makes: each takes the place of what the tree held for its part.
-/

namespace PlanText

/-- The key writes these names, in letters of any case. -/
def KeyPath.Spells (key : String) (names : List String) : Prop :=
  ∃ written : List String, KeyPath.parse key = .ok ⟨written.map KeyStep.child⟩ ∧
    written.map Setting.lowerName = names

namespace SettingsPart

/-- The key of the part's field. -/
def key : SettingsPart → String
  | parser => "parser.max_depth"
  | output => "output.format"

def path (part : SettingsPart) : KeyPath := ⟨[.child part.name, .child part.field]⟩

theorem parse_key (part : SettingsPart) : KeyPath.parse part.key = .ok part.path := by
  cases part
  · cbv
  · cbv

theorem parse_name (part : SettingsPart) :
    KeyPath.parse part.name = .ok ⟨[.child part.name]⟩ := by
  cases part
  · cbv
  · cbv

theorem lowerName_name (part : SettingsPart) : Setting.lowerName part.name = part.name := by
  cases part
  · cbv
  · cbv

theorem lowerName_field (part : SettingsPart) : Setting.lowerName part.field = part.field := by
  cases part
  · cbv
  · cbv

theorem spells_name (part : SettingsPart) : KeyPath.Spells part.name [part.name] :=
  ⟨[part.name], part.parse_name, by rw [List.map_singleton, part.lowerName_name]⟩

theorem spells_key (part : SettingsPart) : KeyPath.Spells part.key [part.name, part.field] := by
  refine ⟨[part.name, part.field], part.parse_key, ?_⟩
  rw [List.map_cons, List.map_singleton, part.lowerName_name, part.lowerName_field]

theorem name_inj {part other : SettingsPart} (h : part.name = other.name) : part = other := by
  cases part with
  | parser =>
      cases other with
      | parser => rfl
      | output => simp [name] at h
  | output =>
      cases other with
      | parser => simp [name] at h
      | output => rfl

theorem path_inj {part other : SettingsPart} (h : part.path = other.path) : part = other := by
  simp only [path, KeyPath.mk.injEq, List.cons.injEq, KeyStep.child.injEq] at h
  exact name_inj h.1

end SettingsPart

namespace Setting

/-- The tree with one value for each part. -/
def tree (values : SettingsPart → Setting) : Setting :=
  table none [
    (SettingsPart.parser.name, table none [(SettingsPart.parser.field, values .parser)]),
    (SettingsPart.output.name, table none [(SettingsPart.output.field, values .output)])]

variable {values : SettingsPart → Setting} {part : SettingsPart}

theorem asTable_tree : (tree values).asTable = tree values := rfl

theorem field?_tree (part : SettingsPart) :
    (tree values).field? part.name = some (table none [(part.field, values part)]) := by
  cases part
  · rfl
  · rfl

theorem put_tree (part : SettingsPart) (value : Setting) :
    (tree values).put part.name (table none [(part.field, value)]) =
      tree (Function.update values part value) := by
  cases part
  · rfl
  · rfl

theorem setField_field {field : String} (hfield : lowerName field = part.field)
    (origin : Option String) (old : Setting) (value : Leaf) :
    setField (table none [(part.field, old)]) field (leaf origin value) =
      table none [(part.field, leaf origin value)] := by
  simp [setField, asTable, put, Keyed.put, hfield]

theorem setFields_field {field : String} (hfield : lowerName field = part.field)
    (origin : Option String) (old : Setting) (value : Leaf) :
    setFields (table none [(part.field, old)]) [(field, leaf origin value)] =
      table none [(part.field, leaf origin value)] := by
  rw [setFields, setFields, setField_field hfield]

theorem setAt_tree {name field : String} (hname : lowerName name = part.name)
    (hfield : lowerName field = part.field) (origin : Option String) (value : Leaf) :
    setAt (leaf origin value) [.child name, .child field] (tree values) =
      tree (Function.update values part (leaf origin value)) := by
  rw [setAt, asTable_tree, hname, field?_tree, Option.getD_some, setAt, setField_field hfield,
    put_tree]
  intro h
  contradiction

/-- Fields of a part's table are put in beside what is there. -/
theorem setKey_name {key : String} (hkey : KeyPath.Spells key [part.name])
    (origin : Option String) (fields : List (String × Setting)) :
    (tree values).setKey key (table origin fields) =
      (tree values).put part.name (setFields (table none [(part.field, values part)]) fields) := by
  obtain ⟨written, hparse, hwritten⟩ := hkey
  obtain ⟨name, rfl, hname⟩ := List.map_eq_singleton_iff.mp hwritten
  simp only [List.map_singleton] at hparse
  simp only [setKey, hparse, setAt, setField, asTable_tree, hname, field?_tree, Option.getD_some]

theorem setKey_key {key : String} (hkey : KeyPath.Spells key [part.name, part.field])
    (origin : Option String) (value : Leaf) :
    (tree values).setKey key (leaf origin value) =
      tree (Function.update values part (leaf origin value)) := by
  obtain ⟨written, hparse, hwritten⟩ := hkey
  obtain ⟨name, more, rfl, hname, hmore⟩ := List.map_eq_cons_iff.mp hwritten
  obtain ⟨field, rfl, hfield⟩ := List.map_eq_singleton_iff.mp hmore
  simp only [List.map_cons, List.map_nil] at hparse
  rw [setKey, hparse]
  exact setAt_tree hname hfield origin value

theorem addFields_cons (root : Setting) (origin : Option String) (key : String) (value : Toml)
    (fields : List (String × Toml)) :
    root.addFields (ofTomlFields origin ((key, value) :: fields)) =
      (root.setKey key (ofToml origin value)).addFields (ofTomlFields origin fields) := rfl

end Setting

namespace Settings

/-- One of the two settings with a value of its type. A depth has sixty four bits. -/
inductive Choice
  | depth (n : UInt64)
  | format (name : String)

namespace Choice

def part : Choice → SettingsPart
  | depth _ => .parser
  | format _ => .output

def leaf : Choice → Leaf
  | depth n => .integer n.toNat
  | format name => .text name

/-- The value as a file writes it. -/
def toml : Choice → Toml
  | depth n => .integer n.toNat
  | format name => .string name

def depth? : Choice → Option Nat
  | depth n => some n.toNat
  | format _ => none

def format? : Choice → Option String
  | depth _ => none
  | format name => some name

/-- The settings with this choice in place of what they say. -/
def settle (s : Settings) : Choice → Settings
  | depth n => { s with maxDepth := n.toNat }
  | format name => { s with format := name }

theorem ofToml_toml (c : Choice) (origin : Option String) :
    Setting.ofToml origin c.toml = .leaf origin c.leaf := by
  cases c with
  | depth n => rfl
  | format name => rfl

end Choice

def lastDepth? (choices : List Choice) : Option Nat :=
  (choices.filterMap Choice.depth?).getLast?

def lastFormat? (choices : List Choice) : Option String :=
  (choices.filterMap Choice.format?).getLast?

theorem foldl_settle (choices : List Choice) (s : Settings) :
    choices.foldl Choice.settle s =
      ⟨(lastDepth? choices).getD s.maxDepth, (lastFormat? choices).getD s.format⟩ := by
  induction choices generalizing s with
  | nil => rfl
  | cons c rest ih =>
      rw [List.foldl_cons, ih]
      cases c with
      | depth n =>
          simp only [lastDepth?, lastFormat?, List.filterMap_cons, Choice.depth?, Choice.format?,
            List.getLast?_cons, Option.getD_some]
          rfl
      | format name =>
          simp only [lastDepth?, lastFormat?, List.filterMap_cons, Choice.depth?, Choice.format?,
            List.getLast?_cons, Option.getD_some]
          rfl

/-- The values of the two parts stand for these settings, wherever they come from. -/
def Holds (values : SettingsPart → Setting) (s : Settings) : Prop :=
  s.maxDepth < UInt64.size ∧ (∃ origin, values .parser = .leaf origin (.integer s.maxDepth)) ∧
    ∃ origin, values .output = .leaf origin (.text s.format)

theorem holds_builtin :
    ∃ values, Setting.builtin = Setting.tree values ∧ Holds values ⟨512, "sexpr"⟩ := by
  let values : SettingsPart → Setting
    | .parser => .leaf none (.integer 512)
    | .output => .leaf none (.text "sexpr")
  exact ⟨values, rfl, by decide, ⟨none, rfl⟩, ⟨none, rfl⟩⟩

theorem Holds.update {values : SettingsPart → Setting} {s : Settings} (h : Holds values s)
    (c : Choice) (origin : Option String) :
    Holds (Function.update values c.part (.leaf origin c.leaf)) (c.settle s) := by
  obtain ⟨hsize, hdepth, hformat⟩ := h
  cases c with
  | depth n => exact ⟨n.toNat_lt, ⟨origin, rfl⟩, hformat⟩
  | format name => exact ⟨hsize, hdepth, ⟨origin, rfl⟩⟩

theorem sizeOf_integer {n : Nat} (h : n < UInt64.size) (key : String) (origin : Option String) :
    sizeOf key (.leaf origin (.integer n)) = .ok n := by
  have hbounds : (0 : Int) ≤ n ∧ (n : Int) < UInt64.size :=
    ⟨Int.natCast_nonneg n, Int.ofNat_lt.mpr h⟩
  simp only [sizeOf]
  rw [if_pos hbounds, Int.toNat_natCast]

theorem fieldOf_tree (values : SettingsPart → Setting) (part : SettingsPart) :
    fieldOf part (partOf part (Setting.tree values)) =
      .ok (values part, part.name ++ "." ++ part.field) := by
  rw [partOf, Setting.field?_tree, Option.getD_some]
  simp [fieldOf, Setting.field?, Keyed.get?]

section Holds

variable {values : SettingsPart → Setting} {s : Settings}

theorem Holds.depthIn (h : Holds values s) :
    Settings.depthIn (Setting.tree values) = .ok s.maxDepth := by
  obtain ⟨hsize, ⟨origin, hdepth⟩, _⟩ := h
  simp only [Settings.depthIn, fieldOf_tree, hdepth, sizeOf_integer hsize]

theorem Holds.formatIn (h : Holds values s) :
    Settings.formatIn (Setting.tree values) = .ok s.format := by
  obtain ⟨_, _, ⟨origin, hformat⟩⟩ := h
  simp only [Settings.formatIn, fieldOf_tree, hformat, textOf]

theorem Holds.ofTree (h : Holds values s) :
    Settings.ofTree (Setting.tree values) = .ok s := by
  simp only [Settings.ofTree, h.depthIn, h.formatIn]

end Holds

/-- What the fields of a document choose, if they set nothing but the two settings. -/
inductive DocumentSays : List (String × Toml) → List Choice → Prop
  | nil : DocumentSays [] []
  /-- The table of a part, without fields. -/
  | nothing {fields choices name} {part : SettingsPart}
    (hname : KeyPath.Spells name [part.name]) (rest : DocumentSays fields choices) :
    DocumentSays ((name, .table []) :: fields) choices
  /-- The table of a part with its field. -/
  | field {fields choices name field} (c : Choice) (hname : KeyPath.Spells name [c.part.name])
    (hfield : Setting.lowerName field = c.part.field) (rest : DocumentSays fields choices) :
    DocumentSays ((name, .table [(field, c.toml)]) :: fields) (c :: choices)
  /-- A single key, in quotes, that names both a part and its field. -/
  | path {fields choices key} (c : Choice)
    (hkey : KeyPath.Spells key [c.part.name, c.part.field]) (rest : DocumentSays fields choices) :
    DocumentSays ((key, c.toml) :: fields) (c :: choices)

/-- The fields of a document change what the tree holds by their choices and nothing else. -/
theorem DocumentSays.addFields {fields : List (String × Toml)} {choices : List Choice}
    (h : DocumentSays fields choices) (origin : Option String)
    {values : SettingsPart → Setting} {s : Settings} (hvalues : Holds values s) :
    ∃ after, (Setting.tree values).addFields (Setting.ofTomlFields origin fields) =
      Setting.tree after ∧ Holds after (choices.foldl Choice.settle s) := by
  induction h generalizing values s with
  | nil => exact ⟨values, rfl, hvalues⟩
  | @nothing _ _ name part hname _ ih =>
      have hset : (Setting.tree values).setKey name (Setting.ofToml origin (.table [])) =
          Setting.tree values := by
        rw [Setting.ofToml, Setting.ofTomlFields, Setting.setKey_name hname, Setting.setFields,
          Setting.put_tree, Function.update_eq_self]
      rw [Setting.addFields_cons, hset]
      exact ih hvalues
  | @field _ _ name field c hname hfield _ ih =>
      have hset : (Setting.tree values).setKey name
            (Setting.ofToml origin (.table [(field, c.toml)])) =
          Setting.tree (Function.update values c.part (.leaf origin c.leaf)) := by
        rw [Setting.ofToml, Setting.ofTomlFields, Setting.ofTomlFields, Choice.ofToml_toml,
          Setting.setKey_name hname, Setting.setFields_field hfield, Setting.put_tree]
      rw [Setting.addFields_cons, hset]
      exact ih (hvalues.update c origin)
  | path c hkey _ ih =>
      rw [Setting.addFields_cons, Choice.ofToml_toml, Setting.setKey_key hkey]
      exact ih (hvalues.update c origin)

end Settings

end PlanText
