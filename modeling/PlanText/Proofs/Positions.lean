import Mathlib.Data.List.DropRight
import PlanText.Text.LineTable
import PlanText.Text.Utf8

/-!
Positions against the bytes of the text. The table of line starts is built from characters;
here a line is counted by the bytes that break lines, and a column by the bytes after the last
of them. In UTF-8 no other character holds that byte, so the two agree at every offset, also
inside a character and beyond the end. Where a text goes on, the positions in it stay as they
are, and after a line break columns start anew.
-/

namespace PlanText.Text

def utf8Bytes (text : List Char) : List UInt8 := text.flatMap String.utf8EncodeChar

/-- The byte that ends a line. -/
def lineBreak : UInt8 := 10

/-- The bytes up to the last line break and with it. -/
def lineStart (before : List UInt8) : Nat :=
  (before.rdropWhile (· ≠ lineBreak)).length

/-- The line breaks among the bytes before an offset, and the bytes from the start of the line
up to the offset. -/
def Position.counted (text : List Char) (offset : Nat) : Position :=
  let before := (utf8Bytes text).take offset
  ⟨before.count lineBreak, offset - lineStart before⟩

theorem utf8EncodeChar_newline : String.utf8EncodeChar '\n' = [lineBreak] := by decide

theorem lineBreak_not_mem_utf8EncodeChar {c : Char} (h : c ≠ '\n') :
    lineBreak ∉ String.utf8EncodeChar c := by
  have hcode : c.val.toNat ≠ 10 := by
    intro heq
    apply h
    apply Char.toNat_inj.mp
    exact heq
  have hvalid : c.val.toNat < 0x110000 := by
    rcases c.valid with hlow | ⟨_, hhigh⟩ <;> omega
  have hbyte : ∀ n, n % 256 ≠ 10 → lineBreak ≠ UInt8.ofNat n := by
    intro n hn heq
    have hnat := congrArg UInt8.toNat heq
    simp only [UInt8.toNat_ofNat'] at hnat
    exact hn hnat.symm
  intro hmem
  simp only [String.utf8EncodeChar] at hmem
  split at hmem
  · simp only [List.mem_singleton] at hmem
    exact hbyte _ (by omega) hmem
  · split at hmem
    · simp only [List.mem_cons, List.not_mem_nil, or_false] at hmem
      rcases hmem with hmem | hmem <;> exact hbyte _ (by omega) hmem
    · split at hmem
      · simp only [List.mem_cons, List.not_mem_nil, or_false] at hmem
        rcases hmem with hmem | hmem | hmem <;> exact hbyte _ (by omega) hmem
      · simp only [List.mem_cons, List.not_mem_nil, or_false] at hmem
        rcases hmem with hmem | hmem | hmem | hmem <;> exact hbyte _ (by omega) hmem

theorem dropWhile_reverse_eq_nil {bytes : List UInt8} (h : lineBreak ∉ bytes) :
    bytes.reverse.dropWhile (· ≠ lineBreak) = [] := by
  rw [List.dropWhile_eq_nil_iff]
  intro b hb
  have hne : b ≠ lineBreak := by
    rintro rfl
    exact h (List.mem_reverse.mp hb)
  simpa using hne

theorem lineStart_eq_zero {before : List UInt8} (h : lineBreak ∉ before) :
    lineStart before = 0 := by
  rw [lineStart, List.rdropWhile, dropWhile_reverse_eq_nil h]
  rfl

theorem lineStart_append {before after : List UInt8} (h : lineBreak ∈ after) :
    lineStart (before ++ after) = before.length + lineStart after := by
  have hkeep : after.reverse.dropWhile (· ≠ lineBreak) ≠ [] := by
    rw [Ne, List.dropWhile_eq_nil_iff]
    intro hall
    simpa using hall lineBreak (List.mem_reverse.mpr h)
  have hdrop : (before ++ after).rdropWhile (· ≠ lineBreak) =
      before ++ after.rdropWhile (· ≠ lineBreak) := by
    rw [List.rdropWhile, List.reverse_append, List.dropWhile_append, if_neg]
    · simp [List.rdropWhile]
    · simpa [List.isEmpty_iff] using hkeep
  rw [lineStart, hdrop, List.length_append, lineStart]

theorem lineStart_break_cons (after : List UInt8) :
    lineStart (lineBreak :: after) = 1 + lineStart after := by
  by_cases hmem : lineBreak ∈ after
  · exact @lineStart_append [lineBreak] after hmem
  · rw [lineStart_eq_zero hmem, lineStart, List.rdropWhile, List.reverse_cons,
      List.dropWhile_append, dropWhile_reverse_eq_nil hmem]
    simp

theorem take_utf8Bytes_cons (c : Char) (rest : List Char) (n : Nat) :
    (utf8Bytes (c :: rest)).take n =
      (String.utf8EncodeChar c).take n ++ (utf8Bytes rest).take (n - c.utf8Size) := by
  rw [utf8Bytes, List.flatMap_cons, List.take_append, String.length_utf8EncodeChar]
  rfl

/-- Counts the line starts up to the offset, one by one, and measures from the last of them. -/
def Position.locate (line start offset : Nat) : List Nat → Position
  | [] => ⟨line, offset - start⟩
  | next :: rest =>
    if next ≤ offset then locate (line + 1) next offset rest else ⟨line, offset - start⟩

/-- The walk ends at the last line start that is not beyond the offset. -/
theorem locate_eq {offset index last : Nat} {rest : List Nat} :
    ∀ {line start : Nat}, (start :: rest).Pairwise (· < ·) →
      (start :: rest)[index]? = some last → last ≤ offset →
      (∀ next, (start :: rest)[index + 1]? = some next → offset < next) →
      Position.locate line start offset rest = ⟨line + index, offset - last⟩ := by
  induction rest generalizing index with
  | nil =>
      intro line start _ hlast _ _
      obtain ⟨rfl, rfl⟩ : index = 0 ∧ start = last := by
        simpa [List.getElem?_cons, Option.ite_none_right_eq_some] using hlast
      rfl
  | cons next rest ih =>
      intro line start hincreasing hlast hle hnext
      cases index with
      | zero =>
          obtain rfl : start = last := by simpa using hlast
          have hbeyond : ¬next ≤ offset := Nat.not_le.mpr (hnext next (by simp))
          rw [Position.locate, if_neg hbeyond]
          rfl
      | succ index =>
          rw [List.pairwise_cons] at hincreasing
          rw [List.getElem?_cons_succ] at hlast
          have hreached : next ≤ offset := by
            apply Nat.le_trans _ hle
            rcases List.mem_cons.mp (List.mem_of_getElem? hlast) with rfl | hmem
            · exact Nat.le_refl _
            · exact Nat.le_of_lt ((List.pairwise_cons.mp hincreasing.2).1 _ hmem)
          rw [Position.locate, if_pos hreached, ih hincreasing.2 hlast hle hnext]
          simp only [Position.mk.injEq, and_true]
          omega

/-- Searching the table of a text ends where walking its line starts does. -/
theorem ofOffset_eq_locate (text : List Char) (offset : Nat) :
    Position.ofOffset text offset = Position.locate 0 0 offset (lineStartsFrom 0 text) := by
  obtain ⟨line, start, hline, hposition⟩ := (LineTable.ofText text).exists_position_eq offset
  have hstarts : (LineTable.ofText text).starts = (0 :: lineStartsFrom 0 text).toArray := rfl
  have hlast := hline.starts_line
  have hnext := hline.lt_next
  simp only [hstarts, List.getElem?_toArray] at hlast hnext
  rw [locate_eq (pairwise_lineStarts text) hlast hline.le_offset hnext, Nat.zero_add]
  exact hposition

/-- Walking the line starts of a text that starts at `base` counts the line breaks among the
bytes between `base` and the offset. -/
theorem locate_lineStartsFrom (offset : Nat) (text : List Char) :
    ∀ line start base : Nat,
      Position.locate line start offset (lineStartsFrom base text) =
        let before := (utf8Bytes text).take (offset - base)
        ⟨line + before.count lineBreak,
          offset - if lineBreak ∈ before then base + lineStart before else start⟩ := by
  induction text with
  | nil =>
      intro line start base
      simp [lineStartsFrom, Position.locate, utf8Bytes]
  | cons c rest ih =>
      intro line start base
      have hbytes := take_utf8Bytes_cons c rest (offset - base)
      rw [Nat.sub_sub] at hbytes
      by_cases hc : c = '\n'
      · subst hc
        have hsize : '\n'.utf8Size = 1 := by decide
        rw [hbytes, utf8EncodeChar_newline, hsize]
        simp only [lineStartsFrom, if_pos, hsize, Position.locate]
        by_cases hnext : base + 1 ≤ offset
        · obtain ⟨k, hk⟩ : ∃ k, offset - base = k + 1 := ⟨offset - base - 1, by omega⟩
          rw [if_pos hnext, ih, hk]
          simp only [List.take_succ_cons, List.take_nil, List.singleton_append,
            List.count_cons_self, List.mem_cons_self, if_pos, lineStart_break_cons]
          have hcolumn : ∀ before : List UInt8,
              (if lineBreak ∈ before then base + 1 + lineStart before else base + 1) =
                base + (1 + lineStart before) := by
            intro before
            split
            · omega
            · next hnone => rw [lineStart_eq_zero hnone]
          rw [hcolumn]
          simp only [Position.mk.injEq, and_true]
          omega
        · have hzero : offset - base = 0 := by omega
          have hnone : offset - (base + 1) = 0 := by omega
          rw [if_neg hnext, hzero, hnone]
          simp
      · have hnone : lineBreak ∉ (String.utf8EncodeChar c).take (offset - base) :=
          fun hmem => lineBreak_not_mem_utf8EncodeChar hc (List.mem_of_mem_take hmem)
        rw [hbytes]
        simp only [lineStartsFrom, if_neg hc, ih, List.count_append, List.mem_append, hnone,
          false_or, List.count_eq_zero_of_not_mem hnone, Nat.zero_add]
        split
        · next hmem =>
            have hlong : c.utf8Size ≤ offset - base := by
              by_contra hshort
              have hzero : offset - (base + c.utf8Size) = 0 := by omega
              rw [hzero] at hmem
              simp at hmem
            rw [lineStart_append hmem, List.length_take, String.length_utf8EncodeChar,
              Nat.min_eq_right hlong, Nat.add_assoc]
        · rfl

theorem ofOffset_eq_counted (text : List Char) (offset : Nat) :
    Position.ofOffset text offset = Position.counted text offset := by
  rw [ofOffset_eq_locate, locate_lineStartsFrom]
  simp only [Position.counted, Nat.sub_zero, Nat.zero_add]
  split
  · rfl
  · next hnone => rw [lineStart_eq_zero hnone]

/-! Positions in a text that is put together. -/

theorem utf8Bytes_append (a b : List Char) : utf8Bytes (a ++ b) = utf8Bytes a ++ utf8Bytes b := by
  simp [utf8Bytes]

theorem utf8Bytes_toList (text : String) : utf8Bytes text.toList = text.toUTF8.data.toList := by
  obtain ⟨chars, rfl⟩ : ∃ chars, text = String.ofList chars := ⟨text.toList, by simp⟩
  have hbytes : (String.ofList chars).toUTF8 = (utf8Bytes chars).toByteArray := rfl
  rw [hbytes, String.toList_ofList]
  simp

theorem length_utf8Bytes (text : List Char) : (utf8Bytes text).length = utf8Length text := by
  induction text with
  | nil => rfl
  | cons c rest ih =>
      rw [← List.singleton_append, utf8Bytes_append, List.length_append, ih]
      simp [utf8Bytes, utf8Length]

theorem count_utf8Bytes (text : List Char) :
    (utf8Bytes text).count lineBreak = text.count '\n' := by
  induction text with
  | nil => rfl
  | cons c rest ih =>
      rw [← List.singleton_append, utf8Bytes_append, List.count_append, List.count_append, ih]
      congr 1
      by_cases hc : c = '\n'
      · subst hc
        decide
      · have hnone : lineBreak ∉ utf8Bytes [c] := by
          simpa [utf8Bytes] using lineBreak_not_mem_utf8EncodeChar hc
        rw [List.count_eq_zero_of_not_mem hnone]
        simp [hc]

/-- What comes after an offset does not move it. -/
theorem ofOffset_append {text : List Char} {offset : Nat} (h : offset ≤ utf8Length text)
    (more : List Char) :
    Position.ofOffset (text ++ more) offset = Position.ofOffset text offset := by
  have htake : (utf8Bytes (text ++ more)).take offset = (utf8Bytes text).take offset := by
    rw [utf8Bytes_append, List.take_append_of_le_length]
    rwa [length_utf8Bytes]
  simp only [ofOffset_eq_counted, Position.counted, htake]

/-- The line of the place after a stretch of text is the number of line breaks in it. -/
theorem line_ofOffset (before after : List Char) :
    (Position.ofOffset (before ++ after) (utf8Length before)).line = before.count '\n' := by
  rw [ofOffset_append (Nat.le_refl _), ofOffset_eq_counted, Position.counted,
    ← length_utf8Bytes, List.take_length, count_utf8Bytes]

/-- After a line break positions are those of the rest of the text, so many lines further. -/
theorem ofOffset_newline (before after : List Char) (offset : Nat) :
    Position.ofOffset (before ++ '\n' :: after) (utf8Length before + 1 + offset) =
      let place := Position.ofOffset after offset
      ⟨before.count '\n' + 1 + place.line, place.column⟩ := by
  have hbytes : (utf8Bytes (before ++ '\n' :: after)).take (utf8Length before + 1 + offset) =
      utf8Bytes before ++ lineBreak :: (utf8Bytes after).take offset := by
    have hlength : utf8Length before + 1 + offset =
        (utf8Bytes before).length + (offset + 1) := by
      rw [length_utf8Bytes]
      omega
    have hbreak : utf8Bytes ('\n' :: after) = lineBreak :: utf8Bytes after := by
      rw [utf8Bytes, List.flatMap_cons, utf8EncodeChar_newline]
      rfl
    rw [utf8Bytes_append, hlength, List.take_length_add_append, hbreak, List.take_succ_cons]
  simp only [ofOffset_eq_counted, Position.counted, hbytes, List.count_append,
    List.count_cons_self, count_utf8Bytes,
    lineStart_append List.mem_cons_self, lineStart_break_cons, length_utf8Bytes,
    Position.mk.injEq]
  constructor <;> omega

end PlanText.Text
