import Mathlib
import PlanText.Disk.Tree
import PlanText.PlanFile

/-!
The two files of a task, and what loading them comes to. The bytes of a file decide whether
there is a text to read, and the text decides the rest; every failure names the file at fault,
and the records that were logged are those about the files up to it. A domain that fails leaves
the problem unread.
-/

namespace PlanText

namespace Disk

variable {disk : Disk} {path : String}

theorem readText_of_error {cause : FileError} (h : disk.bytes path = .error cause) :
    disk.readText path = .error cause := by
  rw [readText, h]

theorem readText_of_notText {bytes : ByteArray} (h : disk.bytes path = .ok bytes)
    (hbytes : ∀ text : String, text.toUTF8 ≠ bytes) : disk.readText path = .error .notText := by
  have hnone : String.fromUTF8? bytes = none := by
    apply dif_neg
    intro hvalid
    exact hbytes (.ofByteArray bytes hvalid) rfl
  rw [readText, h]
  simp only [hnone]

/-- Reads from a disk and notes which paths were asked for. -/
def noting (disk : Disk) (path : String) : StateM (List String) (Except FileError String) := do
  modify (· ++ [path])
  return disk.readText path

end Disk

/-- The word for a kind of file in what is written about it. -/
def PlanKind.word : PlanKind → String
  | .domain => "domain"
  | .problem => "problem"

theorem PlanKind.name_eq_word (kind : PlanKind) : kind.name = kind.word := by
  cases kind with
  | domain => rfl
  | problem => rfl

namespace PlanFile

/-- What a text comes to that is said to come from a file. -/
inductive TextLoads (limit : Option Nat) (kind : PlanKind) (path text : String) :
    Logged (Except LoadError PlanFile) → Prop
  | parsed {items} (hitems : readText limit text = .ok items) :
    TextLoads limit kind path text
      ⟨.ok ⟨kind, path, items⟩,
        [⟨.info, "pddl_reader::pddl::loader",
          "parsed " ++ kind.word ++ " file " ++ path ++ " (" ++ toString items.length ++
            " top-level items)"⟩]⟩
  | unparsable {cause} (hcause : readText limit text = .error cause) :
    TextLoads limit kind path text ⟨.error (.unparsable kind path cause), []⟩

/-- What a file comes to. Where its bytes are those of a text, their number is logged ahead of
what the text comes to. -/
inductive FileLoads (disk : Disk) (limit : Option Nat) (kind : PlanKind) (path : String) :
    Logged (Except LoadError PlanFile) → Prop
  | noFile {cause} (hfile : disk.bytes path = .error cause) :
    FileLoads disk limit kind path ⟨.error (.unreadable kind path cause), []⟩
  | noText {bytes} (hfile : disk.bytes path = .ok bytes)
    (hbytes : ∀ text : String, text.toUTF8 ≠ bytes) :
    FileLoads disk limit kind path ⟨.error (.unreadable kind path .notText), []⟩
  | text {bytes text value log} (hfile : disk.bytes path = .ok bytes)
    (hbytes : text.toUTF8 = bytes) (htext : TextLoads limit kind path text ⟨value, log⟩) :
    FileLoads disk limit kind path
      ⟨value,
        ⟨.debug, "pddl_reader::pddl::loader",
          "read " ++ toString bytes.size ++ " bytes from " ++ kind.word ++ " file " ++ path⟩ ::
            log⟩

/-- What both files of a task come to, and the paths that are read on the way. -/
inductive PairLoads (disk : Disk) (limit : Option Nat) (domain problem : String) :
    Logged (Except LoadError (PlanFile × PlanFile)) → List String → Prop
  | domainFails {e log} (hdomain : FileLoads disk limit .domain domain ⟨.error e, log⟩) :
    PairLoads disk limit domain problem ⟨.error e, log⟩ [domain]
  | problemFails {first log e more}
    (hdomain : FileLoads disk limit .domain domain ⟨.ok first, log⟩)
    (hproblem : FileLoads disk limit .problem problem ⟨.error e, more⟩) :
    PairLoads disk limit domain problem ⟨.error e, log ++ more⟩ [domain, problem]
  | both {first log second more}
    (hdomain : FileLoads disk limit .domain domain ⟨.ok first, log⟩)
    (hproblem : FileLoads disk limit .problem problem ⟨.ok second, more⟩) :
    PairLoads disk limit domain problem ⟨.ok (first, second), log ++ more⟩ [domain, problem]

variable {disk : Disk} {limit : Option Nat} {kind : PlanKind} {path text : String}

theorem itemsRecord_eq (kind : PlanKind) (path : String) (count : Nat) :
    itemsRecord kind path count =
      ⟨.info, "pddl_reader::pddl::loader",
        "parsed " ++ kind.word ++ " file " ++ path ++ " (" ++ toString count ++
          " top-level items)"⟩ := by
  rw [itemsRecord, kind.name_eq_word, logTarget]

theorem sizeRecord_eq (kind : PlanKind) (path : String) (size : Nat) :
    sizeRecord kind path size =
      ⟨.debug, "pddl_reader::pddl::loader",
        "read " ++ toString size ++ " bytes from " ++ kind.word ++ " file " ++ path⟩ := by
  rw [sizeRecord, kind.name_eq_word, logTarget]

theorem ofText_eq_iff {loaded : Logged (Except LoadError PlanFile)} :
    ofText limit kind path text = loaded ↔ TextLoads limit kind path text loaded := by
  constructor
  · rintro rfl
    rw [ofText]
    cases htext : readText limit text with
    | ok items =>
        simp only [itemsRecord_eq]
        exact .parsed htext
    | error cause => exact .unparsable htext
  · rintro (hitems | hcause)
    · rw [ofText, hitems]
      simp only [itemsRecord_eq]
    · rw [ofText, hcause]

theorem load_eq_iff {loaded : Logged (Except LoadError PlanFile)} :
    load disk limit kind path = loaded ↔ FileLoads disk limit kind path loaded := by
  constructor
  · rintro rfl
    cases hfile : disk.bytes path with
    | error cause =>
        rw [load_of_error (Disk.readText_of_error hfile)]
        exact .noFile hfile
    | ok bytes =>
        by_cases hbytes : ∃ text : String, text.toUTF8 = bytes
        · obtain ⟨text, rfl⟩ := hbytes
          rw [load_of_ok (Disk.readText_of_bytes hfile), sizeRecord_eq]
          exact .text hfile rfl (ofText_eq_iff.mp rfl)
        · rw [not_exists] at hbytes
          rw [load_of_error (Disk.readText_of_notText hfile hbytes)]
          exact .noText hfile hbytes
  · intro h
    cases h with
    | noFile hfile => exact load_of_error (Disk.readText_of_error hfile)
    | noText hfile hbytes => exact load_of_error (Disk.readText_of_notText hfile hbytes)
    | text hfile hbytes htext =>
        subst hbytes
        rw [load_of_ok (Disk.readText_of_bytes hfile), ofText_eq_iff.mpr htext, sizeRecord_eq]
        rfl

/-- A file is unreadable just where no text has its bytes. -/
theorem load_unreadable_iff :
    (∃ cause, load disk limit kind path = ⟨.error (.unreadable kind path cause), []⟩) ↔
      ∀ text : String, disk.bytes path ≠ .ok text.toUTF8 := by
  constructor
  · rintro ⟨cause, hload⟩ text hfile
    rw [load_of_ok (Disk.readText_of_bytes hfile)] at hload
    exact List.cons_ne_nil _ _ (congrArg Logged.log hload)
  · intro hnone
    cases hfile : disk.bytes path with
    | error cause => exact ⟨cause, load_of_error (Disk.readText_of_error hfile)⟩
    | ok bytes =>
        refine ⟨.notText, load_of_error (Disk.readText_of_notText hfile ?_)⟩
        rintro text rfl
        exact hnone text hfile

theorem TextLoads.names_file {e : LoadError} {log : List LogRecord}
    (h : TextLoads limit kind path text ⟨.error e, log⟩) : e.kind = kind ∧ e.path = path := by
  cases h with
  | unparsable => exact ⟨rfl, rfl⟩

theorem FileLoads.names_file {e : LoadError} {log : List LogRecord}
    (h : FileLoads disk limit kind path ⟨.error e, log⟩) : e.kind = kind ∧ e.path = path := by
  cases h with
  | noFile => exact ⟨rfl, rfl⟩
  | noText => exact ⟨rfl, rfl⟩
  | text _ _ htext => exact htext.names_file

/-! Both files, with a note of the paths that are read. -/

theorem loadWith_noting (asked : List String) :
    ((loadWith disk.noting limit kind path).run asked).run =
      (load disk limit kind path, asked ++ [path]) := by
  cases htext : disk.readText path with
  | error cause =>
      rw [load_of_error htext]
      simp [loadWith, Disk.noting, htext]
  | ok text =>
      rw [load_of_ok htext]
      simp [loadWith, Disk.noting, htext]

section Pair

variable {domain problem : String} {asked : List String}
  {loaded : Logged (Except LoadError (PlanFile × PlanFile))}

theorem exists_pairLoads (disk : Disk) (limit : Option Nat) (domain problem : String) :
    ∃ loaded asked, PairLoads disk limit domain problem loaded asked := by
  rcases hdomain : load disk limit .domain domain with ⟨e | first, log⟩
  · exact ⟨_, _, .domainFails (load_eq_iff.mp hdomain)⟩
  · rcases hproblem : load disk limit .problem problem with ⟨e | second, more⟩
    · exact ⟨_, _, .problemFails (load_eq_iff.mp hdomain) (load_eq_iff.mp hproblem)⟩
    · exact ⟨_, _, .both (load_eq_iff.mp hdomain) (load_eq_iff.mp hproblem)⟩

theorem PairLoads.noting_eq (h : PairLoads disk limit domain problem loaded asked) :
    ((loadPairWith disk.noting limit domain problem).run []).run = (loaded, asked) := by
  cases h with
  | domainFails hdomain =>
      simp [loadPairWith, loadWith_noting, load_eq_iff.mpr hdomain]
  | problemFails hdomain hproblem =>
      simp [loadPairWith, loadWith_noting, load_eq_iff.mpr hdomain, load_eq_iff.mpr hproblem]
  | both hdomain hproblem =>
      simp [loadPairWith, loadWith_noting, load_eq_iff.mpr hdomain, load_eq_iff.mpr hproblem]

theorem PairLoads.loadPair_eq (h : PairLoads disk limit domain problem loaded asked) :
    loadPair disk limit domain problem = loaded := by
  have hload : ∀ kind path, loadWith (m := Id) (fun path => pure (disk.readText path)) limit
      kind path = pure (load disk limit kind path) := fun _ _ => rfl
  cases h with
  | domainFails hdomain =>
      simp [loadPair, loadPairWith, hload, load_eq_iff.mpr hdomain]
  | problemFails hdomain hproblem =>
      simp [loadPair, loadPairWith, hload, load_eq_iff.mpr hdomain, load_eq_iff.mpr hproblem]
  | both hdomain hproblem =>
      simp [loadPair, loadPairWith, hload, load_eq_iff.mpr hdomain, load_eq_iff.mpr hproblem]

theorem loadPairWith_noting_iff :
    ((loadPairWith disk.noting limit domain problem).run []).run = (loaded, asked) ↔
      PairLoads disk limit domain problem loaded asked := by
  constructor
  · intro hrun
    obtain ⟨_, _, h⟩ := exists_pairLoads disk limit domain problem
    rw [h.noting_eq] at hrun
    cases hrun
    exact h
  · exact PairLoads.noting_eq

/-- Noting what is read changes nothing else. -/
theorem loadPairWith_noting :
    ((loadPairWith disk.noting limit domain problem).run []).run.1 =
      loadPair disk limit domain problem := by
  obtain ⟨_, _, h⟩ := exists_pairLoads disk limit domain problem
  rw [h.noting_eq, h.loadPair_eq]

theorem loadPair_ok_iff {first second : PlanFile} :
    (loadPair disk limit domain problem).value = .ok (first, second) ↔
      (load disk limit .domain domain).value = .ok first ∧
        (load disk limit .problem problem).value = .ok second := by
  obtain ⟨_, _, h⟩ := exists_pairLoads disk limit domain problem
  rw [h.loadPair_eq]
  cases h with
  | domainFails hdomain => simp [load_eq_iff.mpr hdomain]
  | problemFails hdomain hproblem =>
      simp [load_eq_iff.mpr hdomain, load_eq_iff.mpr hproblem]
  | both hdomain hproblem =>
      simp [load_eq_iff.mpr hdomain, load_eq_iff.mpr hproblem]

end Pair

/-- A text comes to its items or to the fault in it. A file comes to what its text does, or is
unreadable if its bytes are those of no text. Both files come to the failure of the domain, with
the problem not even read, or else to that of the problem, or else to both. -/
theorem loadPair_blames (disk : Disk) (limit : Option Nat) (domain problem : String) :
    (∀ kind path text loaded,
        ofText limit kind path text = loaded ↔ TextLoads limit kind path text loaded) ∧
      (∀ kind path loaded,
        load disk limit kind path = loaded ↔ FileLoads disk limit kind path loaded) ∧
      (∀ kind path,
        (∃ cause, load disk limit kind path = ⟨.error (.unreadable kind path cause), []⟩) ↔
          ∀ text : String, disk.bytes path ≠ .ok text.toUTF8) ∧
      (∀ loaded asked,
        ((loadPairWith disk.noting limit domain problem).run []).run = (loaded, asked) ↔
          PairLoads disk limit domain problem loaded asked) ∧
      ((loadPairWith disk.noting limit domain problem).run []).run.1 =
        loadPair disk limit domain problem ∧
      (∀ first second,
        (loadPair disk limit domain problem).value = .ok (first, second) ↔
          (load disk limit .domain domain).value = .ok first ∧
            (load disk limit .problem problem).value = .ok second) ∧
      (∀ kind path text e log, TextLoads limit kind path text ⟨.error e, log⟩ →
        e.kind = kind ∧ e.path = path) ∧
      ∀ kind path e log, FileLoads disk limit kind path ⟨.error e, log⟩ →
        e.kind = kind ∧ e.path = path := by
  refine ⟨?_, ?_, ?_, ?_, loadPairWith_noting, ?_, ?_, ?_⟩
  · intro kind path text loaded
    exact ofText_eq_iff
  · intro kind path loaded
    exact load_eq_iff
  · intro kind path
    exact load_unreadable_iff
  · intro loaded asked
    exact loadPairWith_noting_iff
  · intro first second
    exact loadPair_ok_iff
  · intro kind path text e log h
    exact h.names_file
  · intro kind path e log h
    exact h.names_file

/-- A domain that loads and a problem that is no text, the same files the other way round, and a
file that loads as the domain and as the problem. -/
theorem loadPair_blames_notText :
    let disk := (FileTree.ofPaths
      [("d", .file "(Define x)".toUTF8), ("p", .file ⟨#[0x28, 0xff]⟩)]).disk
    loadPair disk none "d" "p" =
        ⟨.error (.unreadable .problem "p" .notText),
          [⟨.debug, "pddl_reader::pddl::loader", "read 10 bytes from domain file d"⟩,
            ⟨.info, "pddl_reader::pddl::loader", "parsed domain file d (2 top-level items)"⟩]⟩ ∧
      ((loadPairWith disk.noting none "p" "d").run []).run =
        (⟨.error (.unreadable .domain "p" .notText), []⟩, ["p"]) ∧
      loadPair disk none "d" "d" =
        ⟨.ok (⟨.domain, "d", [.atom "define", .atom "x"]⟩,
            ⟨.problem, "d", [.atom "define", .atom "x"]⟩),
          [⟨.debug, "pddl_reader::pddl::loader", "read 10 bytes from domain file d"⟩,
            ⟨.info, "pddl_reader::pddl::loader", "parsed domain file d (2 top-level items)"⟩,
            ⟨.debug, "pddl_reader::pddl::loader", "read 10 bytes from problem file d"⟩,
            ⟨.info, "pddl_reader::pddl::loader",
              "parsed problem file d (2 top-level items)"⟩]⟩ := by
  intro disk
  have hd : disk.bytes "d" = .ok "(Define x)".toUTF8 := by cbv
  have hp : disk.bytes "p" = .ok ⟨#[0x28, 0xff]⟩ := by cbv
  have hread : readText none "(Define x)" = .ok [.atom "define", .atom "x"] := by cbv
  have hnone : ∀ text : String, text.toUTF8 ≠ ⟨#[0x28, 0xff]⟩ := by
    intro text h
    have hinvalid : ¬ByteArray.IsValidUTF8 ⟨#[0x28, 0xff]⟩ := by decide
    exact hinvalid (h ▸ text.isValidUTF8)
  obtain ⟨_, _, _, hpair, hvalue, _⟩ := loadPair_blames disk none "d" "p"
  obtain ⟨_, _, _, hswapped, _⟩ := loadPair_blames disk none "p" "d"
  obtain ⟨_, _, _, hboth, hsame, _⟩ := loadPair_blames disk none "d" "d"
  refine ⟨?_, ?_, ?_⟩
  · rw [← hvalue, (hpair _ _).mpr (.problemFails (.text hd rfl (.parsed hread)) (.noText hp hnone))]
    rfl
  · exact (hswapped _ _).mpr (.domainFails (.noText hp hnone))
  · have hloads : ∀ kind, FileLoads disk none kind "d" _ :=
      fun kind => .text hd rfl (.parsed hread)
    rw [← hsame, (hboth _ _).mpr (.both (hloads .domain) (hloads .problem))]
    rfl

end PlanFile

end PlanText
