import PlanText.Text.Position

/-!
The lines of a text, by the offsets where they start. Offsets are placed by searching the
table: the line of an offset is the one that starts there, or else the last that starts
before it, so an offset beyond the end counts on from the start of the last line. Searching
could run out of the table, and measuring could go below zero; `LineTable.isSome_position?`
says that neither happens.
-/

namespace PlanText.Text

/-- Where a number stands in a row of numbers, or where it could be put in. -/
inductive Slot
  | found (index : Nat)
  | vacant (index : Nat)
deriving DecidableEq, Repr

namespace Slot

variable {row : Array Nat} {n : Nat}

/-- Looks for a number between two indices of a row. Each step halves what is left. -/
def searchFrom (row : Array Nat) (n low high : Nat) (hhigh : high ≤ row.size) : Slot :=
  if hopen : low < high then
    let middle := low + (high - low) / 2
    have hmiddle : middle < row.size := by omega
    if row[middle] = n then found middle
    else if row[middle] < n then searchFrom row n (middle + 1) high hhigh
    else searchFrom row n low middle (by omega)
  else vacant low
termination_by high - low

def search (row : Array Nat) (n : Nat) : Slot := searchFrom row n 0 row.size (Nat.le_refl _)

/-- The slot holds the number, or parts the numbers below it from those above it. -/
def Fits (row : Array Nat) (n : Nat) : Slot → Prop
  | found i => row[i]? = some n
  | vacant i => i ≤ row.size ∧
    ∀ j (hj : j < row.size), (j < i → row[j] < n) ∧ (i ≤ j → n < row[j])

theorem lt_of_increasing (hrow : row.toList.Pairwise (· < ·)) {i j : Nat} (hj : j < row.size)
    (hij : i < j) : row[i] < row[j] :=
  List.pairwise_iff_getElem.mp hrow i j (Nat.lt_trans hij hj) hj hij

/-- What lies outside the stretch is known to be below the number or above it. -/
theorem searchFrom_fits (hrow : row.toList.Pairwise (· < ·)) {low high : Nat}
    {hhigh : high ≤ row.size} (hlow : low ≤ high)
    (hbelow : ∀ j (hj : j < row.size), j < low → row[j] < n)
    (habove : ∀ j (hj : j < row.size), high ≤ j → n < row[j]) :
    (searchFrom row n low high hhigh).Fits row n := by
  fun_induction searchFrom row n low high hhigh with
  | case1 low high hhigh hopen middle hmiddle hfound =>
      simp only [Fits, Array.getElem?_eq_getElem hmiddle, hfound]
  | case2 low high hhigh hopen middle hmiddle hother hless ih =>
      apply ih
      · omega
      · intro j hj hlt
        rcases Nat.lt_or_eq_of_le (Nat.le_of_lt_succ hlt) with hbefore | rfl
        · exact Nat.lt_trans (lt_of_increasing hrow hmiddle hbefore) hless
        · exact hless
      · exact habove
  | case3 low high hhigh hopen middle hmiddle hother hless ih =>
      have hmore : n < row[middle] := by omega
      apply ih
      · omega
      · exact hbelow
      · intro j hj hle
        rcases Nat.lt_or_eq_of_le hle with hafter | rfl
        · exact Nat.lt_trans hmore (lt_of_increasing hrow hj hafter)
        · exact hmore
  | case4 low high hhigh hclosed =>
      refine ⟨by omega, ?_⟩
      intro j hj
      constructor
      · exact hbelow j hj
      · intro hle
        exact habove j hj (by omega)

theorem search_fits (hrow : row.toList.Pairwise (· < ·)) (n : Nat) :
    (search row n).Fits row n := by
  apply searchFrom_fits hrow (Nat.zero_le _)
  · intro j _ hlt
    omega
  · intro j hj hle
    omega

end Slot

/-- The difference, unless it lies below zero. -/
def minus? (a b : Nat) : Option Nat := if b ≤ a then some (a - b) else none

/-- The line that starts at a slot, or else the one before it. -/
def Slot.line? : Slot → Option Nat
  | found line => some line
  | vacant next => minus? next 1

/-- The offsets where lines start. The first line starts the text. -/
structure LineTable where
  starts : Array Nat
  first : starts[0]? = some 0
  increasing : starts.toList.Pairwise (· < ·)

/-- The offsets just after each line break, for a text that starts at an offset. -/
def lineStartsFrom (offset : Nat) : List Char → List Nat
  | [] => []
  | c :: rest =>
    let next := offset + c.utf8Size
    if c = '\n' then next :: lineStartsFrom next rest else lineStartsFrom next rest

def lineStarts (text : List Char) : List Nat := 0 :: lineStartsFrom 0 text

theorem lt_of_mem_lineStartsFrom {offset start : Nat} {text : List Char}
    (h : start ∈ lineStartsFrom offset text) : offset < start := by
  induction text generalizing offset with
  | nil => cases h
  | cons c rest ih =>
      have hsize := c.utf8Size_pos
      simp only [lineStartsFrom] at h
      split at h
      · rcases List.mem_cons.mp h with rfl | hrest
        · omega
        · have := ih hrest
          omega
      · have := ih h
        omega

theorem pairwise_lineStartsFrom (offset : Nat) (text : List Char) :
    (lineStartsFrom offset text).Pairwise (· < ·) := by
  induction text generalizing offset with
  | nil => exact .nil
  | cons c rest ih =>
      simp only [lineStartsFrom]
      split
      · exact List.pairwise_cons.mpr ⟨fun _ hstart => lt_of_mem_lineStartsFrom hstart, ih _⟩
      · exact ih _

theorem pairwise_lineStarts (text : List Char) : (lineStarts text).Pairwise (· < ·) :=
  List.pairwise_cons.mpr
    ⟨fun _ hstart => lt_of_mem_lineStartsFrom hstart, pairwise_lineStartsFrom 0 text⟩

namespace LineTable

def ofText (text : List Char) : LineTable where
  starts := (lineStarts text).toArray
  first := rfl
  increasing := pairwise_lineStarts text

/-- The position of an offset. There is none if the slot of the offset has no line before it,
if that line is not in the table, or if it starts beyond the offset. -/
def position? (t : LineTable) (offset : Nat) : Option Position := do
  let line ← (Slot.search t.starts offset).line?
  let start ← t.starts[line]?
  let column ← minus? offset start
  return ⟨line, column⟩

/-- The line of an offset starts at the offset or before it, and the next line beyond it. -/
structure IsLineOf (t : LineTable) (offset line start : Nat) : Prop where
  starts_line : t.starts[line]? = some start
  le_offset : start ≤ offset
  lt_next : ∀ next, t.starts[line + 1]? = some next → offset < next

variable {t : LineTable}

theorem lt_of_starts {i j a b : Nat} (hi : t.starts[i]? = some a) (hj : t.starts[j]? = some b)
    (h : i < j) : a < b := by
  obtain ⟨hi', rfl⟩ := Array.getElem?_eq_some_iff.mp hi
  obtain ⟨hj', rfl⟩ := Array.getElem?_eq_some_iff.mp hj
  exact Slot.lt_of_increasing t.increasing hj' h

/-- The search always ends at the line of the offset. -/
theorem exists_isLineOf (t : LineTable) (offset : Nat) :
    ∃ line start, (Slot.search t.starts offset).line? = some line ∧
      t.IsLineOf offset line start := by
  have hfits := Slot.search_fits t.increasing offset
  cases hslot : Slot.search t.starts offset with
  | found line =>
      rw [hslot] at hfits
      refine ⟨line, offset, rfl, hfits, Nat.le_refl _, ?_⟩
      intro next hnext
      exact lt_of_starts hfits hnext (Nat.lt_succ_self line)
  | vacant slot =>
      rw [hslot] at hfits
      obtain ⟨hbound, hparted⟩ := hfits
      -- The first line starts at zero, so no offset has its slot before it.
      obtain ⟨line, rfl⟩ : ∃ line, slot = line + 1 := by
        apply Nat.exists_eq_succ_of_ne_zero
        rintro rfl
        obtain ⟨hsome, hzero⟩ := Array.getElem?_eq_some_iff.mp t.first
        have habove := (hparted 0 hsome).2 (Nat.le_refl _)
        omega
      have hline : line < t.starts.size := hbound
      refine ⟨line, t.starts[line], rfl, Array.getElem?_eq_getElem hline, ?_, ?_⟩
      · exact Nat.le_of_lt ((hparted line hline).1 (Nat.lt_succ_self line))
      · intro next hnext
        obtain ⟨hsome, rfl⟩ := Array.getElem?_eq_some_iff.mp hnext
        exact (hparted (line + 1) hsome).2 (Nat.le_refl _)

theorem position?_of_isLineOf {offset line start : Nat}
    (hslot : (Slot.search t.starts offset).line? = some line) (h : t.IsLineOf offset line start) :
    t.position? offset = some ⟨line, offset - start⟩ := by
  simp [position?, hslot, h.starts_line, minus?, h.le_offset]

theorem isSome_position? (t : LineTable) (offset : Nat) : (t.position? offset).isSome := by
  obtain ⟨line, start, hslot, hline⟩ := t.exists_isLineOf offset
  rw [position?_of_isLineOf hslot hline]
  rfl

def position (t : LineTable) (offset : Nat) : Position :=
  (t.position? offset).get (t.isSome_position? offset)

theorem position?_eq_some (t : LineTable) (offset : Nat) :
    t.position? offset = some (t.position offset) :=
  (Option.some_get _).symm

theorem exists_position_eq (t : LineTable) (offset : Nat) :
    ∃ line start, t.IsLineOf offset line start ∧ t.position offset = ⟨line, offset - start⟩ := by
  obtain ⟨line, start, hslot, hline⟩ := t.exists_isLineOf offset
  refine ⟨line, start, hline, ?_⟩
  apply Option.some.inj
  rw [← position?_eq_some, position?_of_isLineOf hslot hline]

end LineTable

def Position.ofOffset (text : List Char) (offset : Nat) : Position :=
  (LineTable.ofText text).position offset

end PlanText.Text
