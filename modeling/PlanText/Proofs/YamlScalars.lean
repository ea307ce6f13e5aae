import Mathlib.Algebra.Group.Nat.Defs
import PlanText.Toml.Strings
import PlanText.Yaml.Scalar

/-!
Strings in YAML against what can be read off them. Each character in quotes can be told from
what is written for it, whatever comes after, and the first character of a written form tells
in which of the three ways it is written. So no two strings are written the same, and none is
written as a list is.
-/

namespace PlanText.Yaml

open Decimal Toml.Strings

/-! Code points in hexadecimal digits. -/

/-- The digit that an escape writes for a number below sixteen. -/
def digitOf (d : Nat) : Char := (Nat.digitChar d).toUpper

theorem hexDigit?_digitOf {d : Nat} (h : d < 16) : hexDigit? (digitOf d) = some d := by
  have hall : ∀ d < 16, hexDigit? (digitOf d) = some d := by decide
  exact hall d h

theorem ofDigits_append (base : Nat) (first second : List Nat) :
    ofDigits base (first ++ second) =
      second.foldl (fun n d => n * base + d) (ofDigits base first) := by
  rw [ofDigits, ofDigits, List.foldl_append]

/-- The digits of a number stand for numbers below sixteen that make it up. -/
theorem toDigits_eq_map (n : Nat) :
    ∃ ds : List Nat, (Nat.toDigits 16 n).map Char.toUpper = ds.map digitOf ∧
      (∀ d ∈ ds, d < 16) ∧ ofDigits 16 ds = n := by
  induction n using Nat.strongRecOn with
  | ind n ih =>
      by_cases hsmall : n < 16
      · refine ⟨[n], ?_, by simpa using hsmall, by simp [ofDigits]⟩
        rw [Nat.toDigits_of_lt_base hsmall]
        rfl
      · obtain ⟨ds, hdigits, hbelow, hvalue⟩ := ih (n / 16) (by omega)
        refine ⟨ds ++ [n % 16], ?_, ?_, ?_⟩
        · rw [Nat.toDigits_of_base_le (by omega) (by omega), List.map_append, hdigits,
            List.map_append]
          rfl
        · intro d hd
          rcases List.mem_append.mp hd with hd | hd
          · exact hbelow d hd
          · have heq : d = n % 16 := by simpa using hd
            omega
        · rw [ofDigits_append, hvalue]
          simp only [List.foldl_cons, List.foldl_nil]
          omega

theorem ofDigits_zeros (count : Nat) (ds : List Nat) :
    ofDigits 16 (List.replicate count 0 ++ ds) = ofDigits 16 ds := by
  have hzeros : ofDigits 16 (List.replicate count 0) = 0 := by
    induction count with
    | zero => rfl
    | succ count ih => simpa [ofDigits, List.replicate_succ] using ih
  rw [ofDigits_append, hzeros]
  rfl

/-- A number that fits a width is written with that many digits. -/
theorem hexDigits_eq_map {width n : Nat} (hwidth : 0 < width) (hfits : n < 16 ^ width) :
    ∃ ds : List Nat, hexDigits width n = ds.map digitOf ∧ ds.length = width ∧
      (∀ d ∈ ds, d < 16) ∧ ofDigits 16 ds = n := by
  obtain ⟨ds, hdigits, hbelow, hvalue⟩ := toDigits_eq_map n
  have hlength : ds.length ≤ width := by
    have hle := (Nat.length_toDigits_le_iff (by omega) hwidth).mpr hfits
    have hsame := congrArg List.length hdigits
    simp only [List.length_map] at hsame
    omega
  refine ⟨List.replicate (width - ds.length) 0 ++ ds, ?_, ?_, ?_, ?_⟩
  · rw [hexDigits, padded, hdigits, List.map_append, List.map_replicate, List.length_map]
    rfl
  · simp only [List.length_append, List.length_replicate]
    omega
  · intro d hd
    rcases List.mem_append.mp hd with hd | hd
    · have hzero := List.eq_of_mem_replicate hd
      omega
    · exact hbelow d hd
  · rw [ofDigits_zeros, hvalue]

theorem toNat_lt (c : Char) : c.toNat < 16 ^ 8 := by
  have hvalid : c.toNat.isValidChar := c.valid
  unfold Nat.isValidChar at hvalid
  omega

theorem mapM_hexDigit? {ds : List Nat} (h : ∀ d ∈ ds, d < 16) :
    (ds.map digitOf).mapM hexDigit? = some ds := by
  induction ds with
  | nil => rfl
  | cons d ds ih =>
      have hfirst := hexDigit?_digitOf (h d (by simp))
      have hrest := ih fun e he => h e (by simp [he])
      simp [List.mapM_cons, hfirst, hrest]

/-- A code point in hexadecimal digits is read back. -/
theorem codePoint_hexDigits {width : Nat} {c : Char} (hwidth : 0 < width)
    (hfits : c.toNat < 16 ^ width) (rest : List Char) :
    codePoint width (hexDigits width c.toNat ++ rest) = some (c, rest) := by
  obtain ⟨ds, hdigits, hlength, hbelow, hvalue⟩ := hexDigits_eq_map hwidth hfits
  have htaken : (hexDigits width c.toNat ++ rest).take width = ds.map digitOf := by
    rw [hdigits]
    exact List.take_left' (by simpa using hlength)
  have hleft : (hexDigits width c.toNat ++ rest).drop width = rest := by
    rw [hdigits]
    exact List.drop_left' (by simpa using hlength)
  have hvalid : c.toNat.isValidChar := c.valid
  rw [codePoint, htaken, hleft, mapM_hexDigit? hbelow]
  simp only [hlength, hvalue, hvalid, and_self, if_true, Char.ofNat_toNat]

/-! Characters in quotes. -/

/-- The character that an escape of two characters stands for, by the second of them. -/
def named? (mark : Char) : Option Char :=
  [('"', '"'), ('\\', '\\'), ('0', '\x00'), ('a', '\x07'), ('b', '\x08'), ('t', '\t'),
    ('n', '\n'), ('v', '\x0b'), ('f', '\x0c'), ('r', '\r'), ('e', '\x1b'), ('N', '\u0085'),
    ('L', '\u2028'), ('P', '\u2029')].lookup mark

/-- The first character that the text in double quotes stands for, and the text after it. -/
def unescape? : List Char → Option (Char × List Char)
  | [] => none
  | '\\' :: 'x' :: rest => codePoint 2 rest
  | '\\' :: 'u' :: rest => codePoint 4 rest
  | '\\' :: 'U' :: rest => codePoint 8 rest
  | '\\' :: mark :: rest => (named? mark).map (·, rest)
  | c :: rest => some (c, rest)

/-- The characters whose escape is named. -/
def hasName (c : Char) : Bool :=
  ['"', '\\', '\x00', '\x07', '\x08', '\t', '\n', '\x0b', '\x0c', '\r', '\x1b', '\u0085',
    '\u2028', '\u2029'].contains c

/-- The name of such a character stands after a backslash. -/
theorem escapeChar_of_hasName {c : Char} (h : hasName c = true) :
    ∃ mark, mark ≠ '\n' ∧ escapeChar c = ['\\', mark] ∧
      ∀ rest, unescape? ('\\' :: mark :: rest) = some (c, rest) := by
  simp only [hasName, List.contains_eq_mem, List.mem_cons, List.not_mem_nil, or_false,
    decide_eq_true_eq] at h
  rcases h with
    rfl | rfl | rfl | rfl | rfl | rfl | rfl | rfl | rfl | rfl | rfl | rfl | rfl | rfl
  all_goals exact ⟨_, by decide, rfl, fun _ => rfl⟩

theorem escapeChar_of_not_hasName {c : Char} (h : hasName c = false) :
    c ≠ '\\' ∧ c ≠ '\n' ∧
      escapeChar c =
        if isPrintable c then [c]
        else if c.toNat ≤ 0xFF then '\\' :: 'x' :: hexDigits 2 c.toNat
        else if c.toNat ≤ 0xFFFF then '\\' :: 'u' :: hexDigits 4 c.toNat
        else '\\' :: 'U' :: hexDigits 8 c.toNat := by
  simp only [hasName, List.contains_eq_mem, List.mem_cons, List.not_mem_nil, or_false,
    decide_eq_false_iff_not, not_or] at h
  simp [escapeChar, h]

theorem unescape?_plain {c : Char} (h : c ≠ '\\') (rest : List Char) :
    unescape? (c :: rest) = some (c, rest) := by
  unfold unescape?
  split
  all_goals simp_all

/-- Every character can be told from what is written for it, whatever comes after. -/
theorem unescape?_escapeChar (c : Char) (rest : List Char) :
    unescape? (escapeChar c ++ rest) = some (c, rest) := by
  cases hname : hasName c with
  | true =>
      obtain ⟨mark, _, hescape, hread⟩ := escapeChar_of_hasName hname
      rw [hescape]
      exact hread rest
  | false =>
      obtain ⟨hslash, _, hescape⟩ := escapeChar_of_not_hasName hname
      rw [hescape]
      split
      · exact unescape?_plain hslash rest
      split
      · exact codePoint_hexDigits (by omega) (by omega) rest
      split
      · exact codePoint_hexDigits (by omega) (by omega) rest
      · exact codePoint_hexDigits (by omega) (toNat_lt c) rest

/-- The character that a quote or another character in single quotes stands for. -/
def undouble? : List Char → Option (Char × List Char)
  | [] => none
  | '\x27' :: '\x27' :: rest => some ('\x27', rest)
  | c :: rest => some (c, rest)

theorem undouble?_doubled (c : Char) (rest : List Char) :
    undouble? ((if c = '\x27' then ['\x27', '\x27'] else [c]) ++ rest) = some (c, rest) := by
  by_cases hquote : c = '\x27'
  · subst hquote
    rfl
  · simp only [hquote, if_false, List.singleton_append]
    unfold undouble?
    split
    all_goals simp_all

/-- A text is told from its characters' written forms if each character can be told. -/
theorem eq_of_flatMap_eq {write : Char → List Char} {read? : List Char → Option (Char × List Char)}
    (hread : ∀ c rest, read? (write c ++ rest) = some (c, rest)) (hnil : read? [] = none)
    {first second : List Char} (h : first.flatMap write = second.flatMap write) :
    first = second := by
  induction first generalizing second with
  | nil =>
      cases second with
      | nil => rfl
      | cons d second =>
          have hsome := hread d (second.flatMap write)
          rw [← List.flatMap_cons, ← h, List.flatMap_nil, hnil] at hsome
          contradiction
  | cons c first ih =>
      have hfirst := hread c (first.flatMap write)
      rw [← List.flatMap_cons, h] at hfirst
      cases second with
      | nil =>
          rw [List.flatMap_nil, hnil] at hfirst
          contradiction
      | cons d second =>
          rw [List.flatMap_cons, hread, Option.some.injEq, Prod.mk.injEq] at hfirst
          obtain ⟨rfl, hrest⟩ := hfirst
          rw [ih hrest.symm]

/-! Strings. -/

theorem singleQuoted_inj {first second : List Char}
    (h : singleQuoted first = singleQuoted second) : first = second := by
  apply eq_of_flatMap_eq undouble?_doubled rfl
  simpa [singleQuoted] using h

theorem doubleQuoted_inj {first second : List Char}
    (h : doubleQuoted first = doubleQuoted second) : first = second := by
  apply eq_of_flatMap_eq unescape?_escapeChar rfl
  simpa [doubleQuoted] using h

/-- A plain text starts neither with a quote or a bracket nor with a dash before a blank. -/
theorem isPlain_opens {text : List Char} (h : isPlain text = true) :
    ∃ c rest, text = c :: rest ∧ c ∉ indicators ∧ (c = '-' → atBlank rest = false) := by
  simp only [isPlain, Bool.and_eq_true, Bool.not_eq_true'] at h
  obtain ⟨⟨⟨⟨⟨⟨hother, _⟩, hstarts⟩, _⟩, _⟩, _⟩, _⟩ := h
  cases text with
  | nil => simp [readsAsOther] at hother
  | cons c rest =>
      simp only [startsStructure, Bool.or_eq_false_iff, List.contains_eq_mem,
        decide_eq_false_iff_not] at hstarts
      refine ⟨c, rest, rfl, hstarts.1, ?_⟩
      rintro rfl
      simpa using hstarts.2

theorem scalar_cases (text : List Char) :
    (isPlain text = true ∧ scalar text = text) ∨ scalar text = singleQuoted text ∨
      scalar text = doubleQuoted text := by
  by_cases hplain : isPlain text = true
  · exact Or.inl ⟨hplain, by simp [scalar, hplain]⟩
  · by_cases hprintable : text.all isPrintable = true
    · exact Or.inr (Or.inl (by simp [scalar, hplain, hprintable]))
    · exact Or.inr (Or.inr (by simp [scalar, hplain, hprintable]))

/-- The first character of the written form tells how the string is written. -/
theorem scalar_eq_by_head (text : List Char) :
    scalar text =
      if (scalar text).head? = some '\x27' then singleQuoted text
      else if (scalar text).head? = some '"' then doubleQuoted text
      else text := by
  rcases scalar_cases text with ⟨hplain, heq⟩ | heq | heq
  · obtain ⟨c, rest, htext, hindicator, _⟩ := isPlain_opens hplain
    have hsingle : c ≠ '\x27' := by
      rintro rfl
      exact hindicator (by decide)
    have hdouble : c ≠ '"' := by
      rintro rfl
      exact hindicator (by decide)
    rw [heq, htext]
    simp [hsingle, hdouble]
  · rw [heq]
    simp [singleQuoted]
  · rw [heq]
    simp [doubleQuoted]

theorem scalar_inj {first second : List Char} (h : scalar first = scalar second) :
    first = second := by
  have hfirst := scalar_eq_by_head first
  have hsecond := scalar_eq_by_head second
  rw [h] at hfirst
  by_cases hsingle : (scalar second).head? = some '\x27'
  · rw [if_pos hsingle] at hfirst hsecond
    exact singleQuoted_inj (hfirst.symm.trans hsecond)
  · rw [if_neg hsingle] at hfirst hsecond
    by_cases hdouble : (scalar second).head? = some '"'
    · rw [if_pos hdouble] at hfirst hsecond
      exact doubleQuoted_inj (hfirst.symm.trans hsecond)
    · rw [if_neg hdouble] at hfirst hsecond
      exact hfirst.symm.trans hsecond

/-- No string is written as a list is: with a dash and a blank in front or as two brackets. -/
theorem scalar_ne_structure (text : List Char) :
    (∀ rest, scalar text ≠ '-' :: ' ' :: rest) ∧ scalar text ≠ ['[', ']'] := by
  rcases scalar_cases text with ⟨hplain, heq⟩ | heq | heq
  · obtain ⟨c, rest, htext, hindicator, hdash⟩ := isPlain_opens hplain
    rw [heq, htext]
    constructor
    · intro more hmore
      obtain ⟨rfl, rfl⟩ := List.cons.inj hmore
      exact absurd (hdash rfl) (by simp [atBlank, isBlank])
    · intro hmore
      obtain ⟨rfl, _⟩ := List.cons.inj hmore
      exact hindicator (by decide)
  · simp [heq, singleQuoted]
  · simp [heq, doubleQuoted]

/-! A string without a line break is written on one line. -/

theorem newline_not_mem_hexDigits {width : Nat} {c : Char} (hwidth : 0 < width)
    (hfits : c.toNat < 16 ^ width) : '\n' ∉ hexDigits width c.toNat := by
  obtain ⟨ds, hdigits, _, hbelow, _⟩ := hexDigits_eq_map hwidth hfits
  have hbreak : hexDigit? '\n' = none := by decide
  rw [hdigits]
  intro hmem
  obtain ⟨d, hd, heq⟩ := List.mem_map.mp hmem
  rw [← heq, hexDigit?_digitOf (hbelow d hd)] at hbreak
  contradiction

theorem newline_not_mem_escapeChar (c : Char) : '\n' ∉ escapeChar c := by
  cases hname : hasName c with
  | true =>
      obtain ⟨mark, hbreak, hescape, _⟩ := escapeChar_of_hasName hname
      rw [hescape]
      simpa using Ne.symm hbreak
  | false =>
      obtain ⟨_, hbreak, hescape⟩ := escapeChar_of_not_hasName hname
      rw [hescape]
      split
      · simpa using Ne.symm hbreak
      split
      · simpa using @newline_not_mem_hexDigits 2 c (by omega) (by omega)
      split
      · simpa using @newline_not_mem_hexDigits 4 c (by omega) (by omega)
      · simpa using @newline_not_mem_hexDigits 8 c (by omega) (toNat_lt c)

theorem newline_not_mem_scalar {text : List Char} (h : '\n' ∉ text) : '\n' ∉ scalar text := by
  rcases scalar_cases text with ⟨_, heq⟩ | heq | heq
  · rwa [heq]
  · rw [heq, singleQuoted]
    intro hmem
    simp only [List.cons_append, List.mem_append, List.mem_cons, List.mem_flatMap,
      List.not_mem_nil, or_false] at hmem
    rcases hmem with hquote | ⟨c, hc, hmem⟩ | hquote
    · exact absurd hquote (by decide)
    · split at hmem
      · exact absurd hmem (by decide)
      · have heq : '\n' = c := by simpa using hmem
        exact h (heq ▸ hc)
    · exact absurd hquote (by decide)
  · have hescaped := newline_not_mem_escapeChar
    rw [heq, doubleQuoted]
    simp [hescaped]

end PlanText.Yaml
