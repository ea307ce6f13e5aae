import PlanText.Token.Scan

/-!
What lower case does to a text. The forms that the table gives have no lower case form of
their own, so that lower case text is a fixed point. The characters that part tokens, and the
question mark that starts one, are no letters: lower case leaves them alone and makes none of
them. Both facts are read off the table once and carried to texts by induction.
-/

namespace PlanText.Text

namespace CaseRun

theorem image?_eq_some {run : CaseRun} {code image : Nat} :
    run.image? code = some image ↔
      run.first ≤ code ∧ code ≤ run.last ∧ (code - run.first) % run.step = 0 ∧
        run.image + (code - run.first) = image := by
  simp [image?, and_assoc]

/-- The last of the lower case forms. -/
def lastImage (run : CaseRun) : Nat := run.image + (run.last - run.first)

/-- No lower case form in the first run has one in the second, for the forms come after it, or
the two take turns: the second holds every other code, and the forms fall between them. -/
def passes (run other : CaseRun) : Bool :=
  Nat.blt other.last run.image ||
    (Nat.beq other.step 2 && (Nat.beq run.step 2 || Nat.beq run.first run.last) &&
      Nat.beq ((run.image + other.first) % 2) 1)

theorem image?_eq_none_of_passes {run other : CaseRun} {code image : Nat}
    (hpasses : run.passes other = true) (himage : run.image? code = some image) :
    other.image? image = none := by
  obtain ⟨hfirst, hlast, hstep, rfl⟩ := image?_eq_some.mp himage
  simp only [passes, Bool.or_eq_true, Bool.and_eq_true, Nat.blt_eq, Nat.beq_eq] at hpasses
  rw [image?, if_neg]
  rintro ⟨hstart, hstop, hturn⟩
  rcases hpasses with hafter | ⟨⟨htwo, hrun⟩, hodd⟩
  · omega
  · rw [htwo] at hturn
    rcases hrun with hrun | hrun
    · rw [hrun] at hstep
      omega
    · omega

/-- Looking up a form of the run finds nothing: it passes run after run, up to one that starts
beyond all forms. -/
def clears (run : CaseRun) : List CaseRun → Bool
  | [] => true
  | other :: others =>
    Nat.blt run.lastImage other.first || (run.passes other && run.clears others)

theorem lowerCode?_eq_none_of_clears {run : CaseRun} {code image : Nat} {runs : List CaseRun}
    (hclears : run.clears runs = true) (himage : run.image? code = some image) :
    lowerCode? runs image = none := by
  induction runs with
  | nil => rfl
  | cons other others ih =>
      simp only [clears, Bool.or_eq_true, Bool.and_eq_true, Nat.blt_eq, lastImage] at hclears
      rw [lowerCode?]
      rcases hclears with hbeyond | ⟨hpasses, hothers⟩
      · obtain ⟨_, hlast, _, rfl⟩ := image?_eq_some.mp himage
        rw [if_pos (by omega)]
      · rw [image?_eq_none_of_passes hpasses himage]
        split
        · rfl
        · exact ih hothers

/-- Neither the letters of the run nor their forms lie in a table of ranges. -/
def keepsOff (run : CaseRun) (table : List CodeRange) : Bool :=
  table.all fun range =>
    (Nat.blt run.last range.1 || Nat.blt range.2 run.first) &&
      (Nat.blt run.lastImage range.1 || Nat.blt range.2 run.image)

theorem inRanges_eq_false_of_keepsOff {run : CaseRun} {table : List CodeRange}
    {code image : Nat} (hoff : run.keepsOff table = true)
    (himage : run.image? code = some image) :
    inRanges table code = false ∧ inRanges table image = false := by
  obtain ⟨hfirst, hlast, _, rfl⟩ := image?_eq_some.mp himage
  simp only [keepsOff, lastImage, List.all_eq_true, Bool.and_eq_true, Bool.or_eq_true,
    Nat.blt_eq] at hoff
  constructor <;>
    · rw [← Bool.not_eq_true, inRanges_iff]
      rintro ⟨range, hmem, hlow, hhigh⟩
      have hrange := hoff range hmem
      omega

end CaseRun

theorem exists_run_of_lowerCode? {runs : List CaseRun} {code image : Nat}
    (h : lowerCode? runs code = some image) :
    ∃ run ∈ runs, run.image? code = some image := by
  induction runs with
  | nil => simp [lowerCode?] at h
  | cons run runs ih =>
      simp only [lowerCode?] at h
      split at h
      · cases h
      · split at h
        · next found hfound => exact ⟨run, by simp, hfound.trans h⟩
        · obtain ⟨other, hmem, hother⟩ := ih h
          exact ⟨other, by simp [hmem], hother⟩

/-- What the table of letters has to keep off: the codes that are no characters, the capital I
with a dot above, which has a rule of its own, and all characters that are not plain. -/
def reservedRanges : List CodeRange :=
  (0xD800, 0xDFFF) :: (0x130, 0x130) :: ('('.toNat, ')'.toNat) :: (';'.toNat, ';'.toNat) ::
    ('?'.toNat, '?'.toNat) :: blankRanges

theorem caseRuns_checked :
    (caseRuns.all fun run =>
      run.clears caseRuns && run.keepsOff reservedRanges && Nat.blt run.lastImage 0x110000) =
      true := by
  decide +kernel

/-- What the table says of a letter: neither it nor its form is reserved, and the form is a
character that has no form itself. -/
theorem lowerCode?_spec {code image : Nat} (h : lowerCode? caseRuns code = some image) :
    inRanges reservedRanges code = false ∧ inRanges reservedRanges image = false ∧
      image < 0x110000 ∧ lowerCode? caseRuns image = none := by
  obtain ⟨run, hmem, himage⟩ := exists_run_of_lowerCode? h
  have hchecked := List.all_eq_true.mp caseRuns_checked run hmem
  simp only [Bool.and_eq_true, Nat.blt_eq, CaseRun.lastImage] at hchecked
  obtain ⟨⟨hclears, hoff⟩, hlt⟩ := hchecked
  obtain ⟨hcode, hform⟩ := CaseRun.inRanges_eq_false_of_keepsOff hoff himage
  have hnone := CaseRun.lowerCode?_eq_none_of_clears hclears himage
  obtain ⟨_, hlast, _, heq⟩ := CaseRun.image?_eq_some.mp himage
  exact ⟨hcode, hform, by omega, hnone⟩

theorem toNat_ofNat_of_unreserved {code : Nat} (hcode : code < 0x110000)
    (hfree : inRanges reservedRanges code = false) : (Char.ofNat code).toNat = code := by
  have hsurrogate : ¬ (0xD800 ≤ code ∧ code ≤ 0xDFFF) := by
    intro hin
    have hmem : inRanges reservedRanges code = true :=
      inRanges_iff.mpr ⟨(0xD800, 0xDFFF), by simp [reservedRanges], hin⟩
    rw [hfree] at hmem
    cases hmem
  have hvalid : code.isValidChar := by
    unfold Nat.isValidChar
    omega
  rw [Char.ofNat, dif_pos hvalid]
  rfl

theorem reserved_of_not_plain {c : Char} (h : CharKind.of c ≠ .plain) :
    inRanges reservedRanges c.toNat = true := by
  unfold CharKind.of at h
  split at h
  · next hblank =>
      obtain ⟨range, hmem, hin⟩ := inRanges_iff.mp hblank
      exact inRanges_iff.mpr ⟨range, by simp [reservedRanges, hmem], hin⟩
  · split at h
    · next hsemicolon => subst hsemicolon; decide
    · split at h
      · next hparen => rcases hparen with rfl | rfl <;> decide
      · split at h
        · next hquestion => subst hquestion; decide
        · exact absurd rfl h

/-! The lower case form of one character. -/

/-- The forms that lower case has rules for have no other form, and the sigma has one. -/
theorem lowerChar_special :
    lowerChar 'i' = ['i'] ∧ lowerChar '\u0307' = ['\u0307'] ∧ lowerChar 'Σ' = ['σ'] ∧
      lowerChar 'σ' = ['σ'] ∧ lowerChar 'ς' = ['ς'] := by
  decide +kernel

/-- A form is the capital I's, or a letter of the table has it, or it is the character itself. -/
theorem mem_lowerChar_cases {c d : Char} (h : d ∈ lowerChar c) :
    (c = '\u0130' ∧ (d = 'i' ∨ d = '\u0307')) ∨
      lowerCode? caseRuns c.toNat = some d.toNat ∨ (d = c ∧ lowerChar c = [c]) := by
  by_cases hdot : c = '\u0130'
  · left
    subst hdot
    simpa [lowerChar] using h
  · cases hcode : lowerCode? caseRuns c.toNat with
    | none =>
        have hself : lowerChar c = [c] := by simp [lowerChar, hdot, hcode]
        rw [hself, List.mem_singleton] at h
        exact Or.inr (Or.inr ⟨h, hself⟩)
    | some code =>
        obtain ⟨_, hfree, hlt, _⟩ := lowerCode?_spec hcode
        have hd : d = Char.ofNat code := by simpa [lowerChar, hdot, hcode] using h
        right
        left
        rw [hd, toNat_ofNat_of_unreserved hlt hfree]

theorem lowerChar_of_mem {c d : Char} (h : d ∈ lowerChar c) : lowerChar d = [d] := by
  rcases mem_lowerChar_cases h with ⟨_, rfl | rfl⟩ | hcode | ⟨rfl, hself⟩
  · exact lowerChar_special.1
  · exact lowerChar_special.2.1
  · obtain ⟨_, hfree, _, hnone⟩ := lowerCode?_spec hcode
    have hdot : d ≠ '\u0130' := by
      rintro rfl
      exact absurd hfree (by decide)
    simp [lowerChar, hdot, hnone]
  · exact hself

/-- A character that is not plain is its own form, and of no other character. -/
theorem eq_of_mem_lowerChar {c d : Char} (h : d ∈ lowerChar c)
    (hkind : CharKind.of c ≠ .plain ∨ CharKind.of d ≠ .plain) : d = c := by
  rcases mem_lowerChar_cases h with ⟨rfl, rfl | rfl⟩ | hcode | ⟨rfl, _⟩
  · exact absurd hkind (by decide)
  · exact absurd hkind (by decide)
  · obtain ⟨hc, hd, _, _⟩ := lowerCode?_spec hcode
    rcases hkind with hkind | hkind
    · rw [reserved_of_not_plain hkind] at hc
      cases hc
    · rw [reserved_of_not_plain hkind] at hd
      cases hd
  · rfl

theorem lowerChar_of_not_plain {c : Char} (h : CharKind.of c ≠ .plain) :
    lowerChar c = [c] := by
  have hdot : c ≠ '\u0130' := by
    rintro rfl
    exact absurd h (by decide)
  cases hcode : lowerCode? caseRuns c.toNat with
  | none => simp [lowerChar, hdot, hcode]
  | some code =>
      have hfree := (lowerCode?_spec hcode).1
      rw [reserved_of_not_plain h] at hfree
      cases hfree

/-! The lower case form of a text. -/

/-- The form of a character between two stretches of text. -/
def lowerBetween (before : List Char) (c : Char) (after : List Char) : List Char :=
  if c = 'Σ' then if isWordFinal before after then ['ς'] else ['σ'] else lowerChar c

theorem lowerAfter_cons (before : List Char) (c : Char) (rest : List Char) :
    lowerAfter before (c :: rest) =
      lowerBetween before c rest ++ lowerAfter (c :: before) rest := rfl

theorem lowerBetween_of_ne {before after : List Char} {c : Char} (h : c ≠ 'Σ') :
    lowerBetween before c after = lowerChar c := by
  simp [lowerBetween, h]

theorem ne_sigma_of_lowerChar {c : Char} (h : lowerChar c = [c]) : c ≠ 'Σ' := by
  rintro rfl
  obtain ⟨_, _, hsigma, _⟩ := lowerChar_special
  rw [hsigma] at h
  exact absurd h (by decide)

/-- Both forms of a sigma are plain, as the sigma is. -/
theorem mem_lowerBetween {before after : List Char} {c d : Char}
    (h : d ∈ lowerBetween before c after) :
    lowerChar d = [d] ∧ (CharKind.of d ≠ .plain → d = c) ∧
      (CharKind.of c ≠ .plain → d = c) := by
  by_cases hsigma : c = 'Σ'
  · subst hsigma
    have hd : d = 'ς' ∨ d = 'σ' := by
      unfold lowerBetween at h
      split at h
      · split at h <;> simp_all
      · simp_all
    obtain ⟨_, _, _, hsmall, hfinal⟩ := lowerChar_special
    rcases hd with rfl | rfl
    · exact ⟨hfinal, by decide, by decide⟩
    · exact ⟨hsmall, by decide, by decide⟩
  · rw [lowerBetween_of_ne hsigma] at h
    exact ⟨lowerChar_of_mem h, fun hd => eq_of_mem_lowerChar h (Or.inr hd),
      fun hc => eq_of_mem_lowerChar h (Or.inl hc)⟩

theorem lowerBetween_of_not_plain {before after : List Char} {c : Char}
    (h : CharKind.of c ≠ .plain) : lowerBetween before c after = [c] := by
  have hsigma : c ≠ 'Σ' := by
    rintro rfl
    exact absurd h (by decide)
  rw [lowerBetween_of_ne hsigma, lowerChar_of_not_plain h]

theorem lowerBetween_ne_nil (before : List Char) (c : Char) (after : List Char) :
    lowerBetween before c after ≠ [] := by
  unfold lowerBetween lowerChar
  repeat' split
  all_goals simp

theorem lowerChar_of_mem_lowerAfter {before text : List Char} {d : Char}
    (h : d ∈ lowerAfter before text) : lowerChar d = [d] := by
  induction text generalizing before with
  | nil => simp [lowerAfter] at h
  | cons c rest ih =>
      rw [lowerAfter_cons, List.mem_append] at h
      rcases h with hform | hrest
      · exact (mem_lowerBetween hform).1
      · exact ih hrest

theorem lowerAfter_eq_self {before text : List Char}
    (h : ∀ c ∈ text, lowerChar c = [c]) : lowerAfter before text = text := by
  induction text generalizing before with
  | nil => rfl
  | cons c rest ih =>
      have hc := h c (by simp)
      rw [lowerAfter_cons, lowerBetween_of_ne (ne_sigma_of_lowerChar hc), hc,
        ih fun d hd => h d (by simp [hd])]
      rfl

/-- Lower case text is a fixed point. -/
theorem lower_lower (text : List Char) : lower (lower text) = lower text :=
  lowerAfter_eq_self fun _ hd => lowerChar_of_mem_lowerAfter hd

theorem lowerAfter_cons_of_not_plain {before rest : List Char} {c : Char}
    (h : CharKind.of c ≠ .plain) :
    lowerAfter before (c :: rest) = c :: lowerAfter (c :: before) rest := by
  rw [lowerAfter_cons, lowerBetween_of_not_plain h]
  rfl

/-- Lower case makes no character that is not plain. -/
theorem mem_of_mem_lowerAfter {before text : List Char} {d : Char}
    (h : d ∈ lowerAfter before text) (hkind : CharKind.of d ≠ .plain) : d ∈ text := by
  induction text generalizing before with
  | nil => simp [lowerAfter] at h
  | cons c rest ih =>
      rw [lowerAfter_cons, List.mem_append] at h
      rcases h with hform | hrest
      · simp [(mem_lowerBetween hform).2.1 hkind]
      · simp [ih hrest]

theorem plain_of_mem_lowerAfter {before text : List Char}
    (h : ∀ c ∈ text, CharKind.of c = .plain) {d : Char}
    (hd : d ∈ lowerAfter before text) : CharKind.of d = .plain := by
  apply Decidable.byContradiction
  intro hkind
  exact hkind (h d (mem_of_mem_lowerAfter hd hkind))

theorem lowerAfter_ne_nil {before text : List Char} (h : text ≠ []) :
    lowerAfter before text ≠ [] := by
  cases text with
  | nil => exact absurd rfl h
  | cons c rest => simp [lowerAfter_cons, lowerBetween_ne_nil]

end PlanText.Text
