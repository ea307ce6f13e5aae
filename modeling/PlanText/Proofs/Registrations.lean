import Mathlib.Data.List.Sort
import PlanText.Format.Builtin
import PlanText.Proofs.ByteOrder

/-!
What a registry holds after any number of registrations. Each of them keeps the names in
ascending order and free of repetition, and of the formats registered under a name only the last
one is found. So it does not show in which order formats of different names came.
-/

namespace PlanText

open Text

namespace Format

/-- The formats of a list that have a name, in their order. -/
def named (name : String) (formats : List Format) : List Format :=
  formats.filter (·.name = name)

theorem named_eq_nil_iff {name : String} {formats : List Format} :
    named name formats = [] ↔ name ∉ formats.map Format.name := by
  simp [named, List.filter_eq_nil_iff]

theorem getLast?_named_append (name : String) (formats : List Format) (format : Format) :
    (named name (formats ++ [format])).getLast? =
      if format.name = name then some format else (named name formats).getLast? := by
  by_cases h : format.name = name
  · simp [named, h]
  · simp [named, h]

end Format

namespace Registry

open Format

/-! One registration. -/

theorem mem_names_insertSorted {format : Format} {formats : List Format} {name : String} :
    name ∈ (insertSorted format formats).map Format.name ↔
      name = format.name ∨ name ∈ formats.map Format.name := by
  induction formats with
  | nil => simp [insertSorted]
  | cons other rest ih =>
      unfold insertSorted
      split
      · rw [List.map_cons, List.mem_cons]
      · split
        · next hsame => simp [hsame]
        · rw [List.map_cons, List.mem_cons, ih, List.map_cons, List.mem_cons]
          exact or_left_comm

/-- A format goes after the names that are less than its own and before those that are
greater. -/
theorem pairwise_names_insertSorted {formats : List Format}
    (h : (formats.map Format.name).Pairwise (· < ·)) (format : Format) :
    ((insertSorted format formats).map Format.name).Pairwise (· < ·) := by
  induction formats with
  | nil => exact List.pairwise_singleton _ _
  | cons other rest ih =>
      obtain ⟨hother, hrest⟩ := List.pairwise_cons.mp h
      unfold insertSorted
      split
      · next hless =>
          refine List.pairwise_cons.mpr ⟨?_, h⟩
          intro name hname
          rcases List.mem_cons.mp hname with rfl | hname
          · exact hless
          · exact String.lt_trans hless (hother name hname)
      · next hnotless =>
          split
          · next hsame =>
              refine List.pairwise_cons.mpr ⟨?_, hrest⟩
              rw [hsame]
              exact hother
          · next hdiffer =>
              refine List.pairwise_cons.mpr ⟨?_, ih hrest⟩
              intro name hname
              rcases mem_names_insertSorted.mp hname with rfl | hname
              · exact Std.lt_of_le_of_ne (String.not_lt.mp hnotless) (Ne.symm hdiffer)
              · exact hother name hname

theorem get?_register_self (r : Registry) (format : Format) :
    (r.register format).get? format.name = some format := by
  obtain ⟨formats⟩ := r
  unfold register get?
  induction formats with
  | nil => simp [insertSorted]
  | cons other rest ih =>
      unfold insertSorted
      split
      · simp
      · split
        · simp
        · next hdiffer => simpa [Ne.symm hdiffer] using ih

theorem get?_register_of_ne (r : Registry) {format : Format} {name : String}
    (h : format.name ≠ name) : (r.register format).get? name = r.get? name := by
  obtain ⟨formats⟩ := r
  unfold register get?
  induction formats with
  | nil => simp [insertSorted, h]
  | cons other rest ih =>
      unfold insertSorted
      split
      · simp [h]
      · split
        · next hsame => simp [h, ← hsame]
        · rw [List.find?_cons, ih, List.find?_cons]

/-- What a registry holds if these formats were registered, in this order. -/
structure Holds (r : Registry) (history : List Format) : Prop where
  ascending : r.names.Pairwise (· < ·)
  names : ∀ name, name ∈ r.names ↔ name ∈ history.map Format.name
  last : ∀ name, r.get? name = (named name history).getLast?

namespace Holds

theorem empty : Registry.empty.Holds [] where
  ascending := List.Pairwise.nil
  names := by simp [Registry.names, Registry.empty]
  last _ := rfl

theorem register {r : Registry} {history : List Format} (h : r.Holds history)
    (format : Format) : (r.register format).Holds (history ++ [format]) where
  ascending := pairwise_names_insertSorted h.ascending format
  names name := by
    have hnames : name ∈ r.formats.map Format.name ↔ name ∈ history.map Format.name := h.names name
    rw [Registry.names, Registry.register, mem_names_insertSorted, hnames, List.map_append,
      List.mem_append, List.map_singleton, List.mem_singleton, or_comm]
  last name := by
    rw [getLast?_named_append]
    split
    · next hsame => rw [← hsame, get?_register_self]
    · next hdiffer => rw [get?_register_of_ne r hdiffer, h.last]

/-- A run keeps what each registration keeps. -/
theorem foldl {r : Registry} {history : List Format} (h : r.Holds history)
    (formats : List Format) : (formats.foldl Registry.register r).Holds (history ++ formats) := by
  induction formats generalizing r history with
  | nil => simpa using h
  | cons format rest ih => simpa using ih (h.register format)

variable {r : Registry} {history : List Format} {name : String}

theorem get?_eq_none_iff (h : r.Holds history) :
    r.get? name = none ↔ name ∉ history.map Format.name := by
  rw [h.last, List.getLast?_eq_none_iff, named_eq_nil_iff]

theorem render_of_notMem (h : r.Holds history) (hname : name ∉ history.map Format.name)
    (items : List Node) : r.render name items = .error (.notFound name) := by
  rw [render, h.get?_eq_none_iff.mpr hname]

theorem render_of_last (h : r.Holds history) {format : Format}
    (hlast : (named name history).getLast? = some format) (items : List Node) :
    r.render name items = format.render items := by
  rw [render, h.last, hlast]

/-- A format that was registered may itself answer that there is none. -/
theorem render_eq_notFound_iff (h : r.Holds history) (items : List Node) :
    r.render name items = .error (.notFound name) ↔ name ∉ history.map Format.name ∨
      ∃ format, (named name history).getLast? = some format ∧
        format.render items = .error (.notFound name) := by
  cases hlast : (named name history).getLast? with
  | none =>
      have hname : name ∉ history.map Format.name := by
        rw [← h.get?_eq_none_iff, h.last, hlast]
      simp [h.render_of_notMem hname, hname]
  | some format =>
      have hname : name ∈ history.map Format.name := by
        by_contra hnot
        rw [← h.get?_eq_none_iff, h.last, hlast] at hnot
        cases hnot
      simp [h.render_of_last hlast, hname]

/-- Two registries that hold what was registered under each name in the same order are told
apart by nothing. -/
theorem indistinguishable {r' : Registry} {history' : List Format}
    (h : r.Holds history) (h' : r'.Holds history')
    (hsame : ∀ name, named name history = named name history') :
    r.names = r'.names ∧ ∀ name, r.get? name = r'.get? name ∧
      ∀ items, r.render name items = r'.render name items := by
  have hget : ∀ name, r.get? name = r'.get? name := by
    intro name
    rw [h.last, h'.last, hsame]
  constructor
  · apply List.Pairwise.eq_of_mem_iff h.ascending h'.ascending
    intro name
    rw [h.names, h'.names, ← not_iff_not, ← named_eq_nil_iff, ← named_eq_nil_iff, hsame]
  · intro name
    constructor
    · exact hget name
    · intro items
      rw [render, render, hget]

end Holds

/-- What a run starts from: a registry without formats, or the one with the formats that are
always there. -/
inductive Origin
  | empty
  | builtin

namespace Origin

def formats : Origin → List Format
  | empty => []
  | builtin => Format.builtin

def registry : Origin → Registry
  | empty => Registry.empty
  | builtin => Registry.builtin

theorem holds : (o : Origin) → o.registry.Holds o.formats
  | empty => .empty
  | builtin => Holds.empty.foldl Format.builtin

/-- The registry after these formats are registered one after another. -/
def after (o : Origin) (added : List Format) : Registry := added.foldl register o.registry

/-- All formats that were registered by then, those of the start included. -/
def history (o : Origin) (added : List Format) : List Format := o.formats ++ added

theorem after_holds (o : Origin) (added : List Format) :
    (o.after added).Holds (o.history added) := o.holds.foldl added

end Origin

/-- A registry lists the names that were registered, each once and in the order of their bytes,
and under a name it has the format that was registered last, whose result it passes on, be it
an error. Without one it says that there is none. Of the order in which formats were registered
nothing shows but the order of those with one name. -/
theorem register_lastWins (start : Origin) (added : List Format) :
    let r := start.after added
    let history := start.history added
    (r.names.Pairwise fun a b => utf8Bytes a.toList < utf8Bytes b.toList) ∧
      (∀ name, name ∈ r.names ↔ name ∈ history.map Format.name) ∧
      (∀ name, r.get? name = (named name history).getLast? ∧
        (r.get? name = none ↔ name ∉ history.map Format.name)) ∧
      (∀ name items,
        (∀ format, (named name history).getLast? = some format →
          r.render name items = format.render items) ∧
        (r.render name items = .error (.notFound name) ↔ name ∉ history.map Format.name ∨
          ∃ format, (named name history).getLast? = some format ∧
            format.render items = .error (.notFound name))) ∧
      ∀ (other : Origin) (others : List Format),
        (∀ name, named name history = named name (other.history others)) →
          r.names = (other.after others).names ∧
            ∀ name, r.get? name = (other.after others).get? name ∧
              ∀ items, r.render name items = (other.after others).render name items := by
  intro r history
  have h : r.Holds history := start.after_holds added
  refine ⟨?_, h.names, fun name => ⟨h.last name, h.get?_eq_none_iff⟩, ?_, ?_⟩
  · exact h.ascending.imp utf8Bytes_lt
  · intro name items
    exact ⟨fun format hlast => h.render_of_last hlast items, h.render_eq_notFound_iff items⟩
  · intro other others hsame
    exact h.indistinguishable (other.after_holds others) hsame

/-- A format that takes the place of one that is always there, and fails, before or after one of
another name. -/
theorem register_lastWins_swapped :
    let refusing : Format := ⟨"json", "", fun _ => .error (.failed "no room")⟩
    let counting : Format := ⟨"été", "", fun items => .ok (toString items.length)⟩
    let run := Origin.builtin.after [refusing, counting]
    let swapped := Origin.builtin.after [counting, refusing]
    (∀ name, named name (Origin.builtin.history [refusing, counting]) =
        named name (Origin.builtin.history [counting, refusing])) ∧
      run.render "json" [] = .error (.failed "no room") ∧ run.names = swapped.names ∧
        ∀ name items, run.render name items = swapped.render name items := by
  intro refusing counting run swapped
  have hsame : ∀ name, named name (Origin.builtin.history [refusing, counting]) =
      named name (Origin.builtin.history [counting, refusing]) := by
    intro name
    by_cases h : "json" = name
    · subst h
      rfl
    · simp [named, Origin.history, List.filter_append, List.filter_cons, refusing, h]
  obtain ⟨_, _, _, hrender, hother⟩ := register_lastWins .builtin [refusing, counting]
  obtain ⟨hnames, hshow⟩ := hother .builtin [counting, refusing] hsame
  exact ⟨hsame, (hrender "json" []).1 refusing rfl, hnames, fun name => (hshow name).2⟩

/-- A format that answers that there is none of its name. The answer does not tell that no
format was registered under that name. -/
theorem register_lastWins_notFound :
    let absent : Format := ⟨"xml", "", fun _ => .error (.notFound "xml")⟩
    let run := Origin.empty.after [absent]
    "xml" ∈ (Origin.empty.history [absent]).map Format.name ∧
      run.render "xml" [] = .error (.notFound "xml") ∧
      ¬∀ name items, run.render name items = .error (.notFound name) ↔
        name ∉ (Origin.empty.history [absent]).map Format.name := by
  intro absent run
  have hregistered : "xml" ∈ (Origin.empty.history [absent]).map Format.name := .head _
  have hlast : (named "xml" (Origin.empty.history [absent])).getLast? = some absent := rfl
  have hanswer : run.render "xml" [] = .error (.notFound "xml") :=
    (Origin.empty.after_holds [absent]).render_of_last hlast []
  refine ⟨hregistered, hanswer, ?_⟩
  intro hclaim
  exact (hclaim "xml" []).mp hanswer hregistered

end Registry

end PlanText
