import PlanText.Proofs.Scanning

/-!
Scanning a text that goes on. Where a text is cut, the scanner stands in some mode: what is
finished before the cut stays as it is, and the rest of the text decides on the token in hand
alone. A line break ends whatever is in hand, so that the text after it is scanned as if it
stood alone, only further on.
-/

namespace PlanText

open Text

/-- The slice in a text that stands so many bytes further on. -/
def Slice.shift (distance : Nat) (s : Slice) : Slice := ⟨distance + s.start, s.chars⟩

namespace Scanner

/-- The scan of a text, up to its end. -/
def after (text : List Char) : Scanner := text.foldl step init

theorem offset_step (s : Scanner) (c : Char) : (step s c).offset = s.offset + c.utf8Size := by
  rcases s with ⟨offset, mode, done⟩
  cases mode <;> cases hkind : CharKind.of c <;> simp [step, hkind]

theorem foldl_sound {text : List Char} {s : Scanner} (h : s.mode.Sound) :
    (text.foldl step s).mode.Sound ∧
      (text.foldl step s).offset = s.offset + utf8Length text := by
  induction text generalizing s with
  | nil => exact ⟨h, rfl⟩
  | cons c rest ih =>
      have hnext : (step s c).mode.Sound := by
        rw [step_eq]
        exact (step_sound h s.offset c).1
      obtain ⟨hsound, hoffset⟩ := ih hnext
      refine ⟨hsound, ?_⟩
      rw [List.foldl_cons, hoffset, offset_step, utf8Length, Nat.add_assoc]

theorem after_sound (text : List Char) : (after text).mode.Sound :=
  (foldl_sound sound_gap).1

theorem slices_append (text more : List Char) :
    slices (text ++ more) =
      (after text).done.reverse ++ ahead (after text).mode (utf8Length text) more := by
  have hoffset : (after text).offset = utf8Length text := by
    rw [after, (foldl_sound sound_gap).2]
    exact Nat.zero_add _
  rw [slices, List.foldl_append, foldl_step, ← hoffset]
  rfl

theorem slices_eq_after (text : List Char) :
    slices text = (after text).done.reverse ++ (after text).mode.pending := by
  simpa [ahead] using slices_append text []

/-! The text after a line break. -/

def Mode.shift (distance : Nat) : Mode → Mode
  | .inside start chars => .inside (distance + start) chars
  | mode => mode

theorem pending_shift (distance : Nat) (mode : Mode) :
    (mode.shift distance).pending = mode.pending.map (Slice.shift distance) := by
  cases mode <;> rfl

theorem step_shift (distance offset : Nat) (mode : Mode) (c : Char) :
    step ⟨distance + offset, mode.shift distance, []⟩ c =
      let next := step ⟨offset, mode, []⟩ c
      ⟨distance + next.offset, next.mode.shift distance,
        next.done.map (Slice.shift distance)⟩ := by
  cases mode with
  | comment => by_cases hc : c = '\n' <;> simp [step, Mode.shift, hc, Nat.add_assoc]
  | gap =>
      cases hkind : CharKind.of c <;>
        simp [step, Mode.shift, flush, Slice.shift, hkind, Nat.add_assoc]
  | inside start chars =>
      cases hkind : CharKind.of c <;>
        simp [step, Mode.shift, flush, Slice.shift, hkind, Nat.add_assoc]

/-- A scan that starts further on finds the same slices further on. -/
theorem ahead_shift (distance : Nat) (text : List Char) (mode : Mode) (offset : Nat) :
    ahead (mode.shift distance) (distance + offset) text =
      (ahead mode offset text).map (Slice.shift distance) := by
  induction text generalizing mode offset with
  | nil => exact pending_shift distance mode
  | cons c rest ih =>
      rw [ahead, ahead, step_shift]
      simp [ih]

theorem ahead_gap_add (distance : Nat) (text : List Char) :
    ahead .gap distance text = (slices text).map (Slice.shift distance) := by
  rw [slices_eq, ← ahead_shift]
  rfl

theorem ahead_newline (mode : Mode) (offset : Nat) (rest : List Char) :
    ahead mode offset ('\n' :: rest) = mode.pending ++ ahead .gap (offset + 1) rest := by
  have hsize : '\n'.utf8Size = 1 := by decide
  by_cases hcomment : mode = .comment
  · subst hcomment
    simp [ahead, step, hsize]
  · rw [ahead_blank hcomment (by decide), hsize]

theorem slices_newline (before rest : List Char) :
    slices (before ++ '\n' :: rest) =
      slices before ++ (slices rest).map (Slice.shift (utf8Length before + 1)) := by
  rw [slices_append, ahead_newline, ahead_gap_add, slices_eq_after before, List.append_assoc]

theorem ahead_comment {text : List Char} (h : '\n' ∉ text) (offset : Nat) (rest : List Char) :
    ahead .comment offset (text ++ rest) =
      ahead .comment (offset + utf8Length text) rest := by
  induction text generalizing offset with
  | nil => rfl
  | cons c others ih =>
      rw [List.mem_cons, not_or] at h
      obtain ⟨hc, hothers⟩ := h
      have hstep : ahead .comment offset (c :: (others ++ rest)) =
          ahead .comment (offset + c.utf8Size) (others ++ rest) := by
        simp [ahead, step, Ne.symm hc]
      rw [List.cons_append, hstep, ih hothers, utf8Length, Nat.add_assoc]

/-- A comment at the end of a text only ends the token in hand. -/
theorem slices_comment {comment : List Char} (h : '\n' ∉ comment) (before : List Char) :
    slices (before ++ ';' :: comment) = slices before := by
  have hrest : ∀ {text : List Char}, '\n' ∉ text → ∀ offset, ahead .comment offset text = [] := by
    intro text htext offset
    simpa [ahead] using ahead_comment htext offset []
  rw [slices_append, slices_eq_after]
  by_cases hmode : (after before).mode = .comment
  · have hwhole : '\n' ∉ ';' :: comment := by simp [h]
    rw [hmode, hrest hwhole, pending_comment]
  · rw [ahead_semicolon hmode (by decide), hrest h, List.append_nil]

/-! Where slices end. -/

/-- A step finishes no slice beyond the character it takes, and none that it has in hand
reaches further. -/
theorem step_stop {mode : Mode} {offset : Nat}
    (hmode : ∀ s ∈ mode.pending, s.span.stop ≤ offset) (c : Char) :
    let next := step ⟨offset, mode, []⟩ c
    ∀ s ∈ next.done ++ next.mode.pending, s.span.stop ≤ next.offset := by
  cases mode with
  | comment => by_cases hc : c = '\n' <;> simp [step, hc]
  | gap =>
      cases hkind : CharKind.of c <;> simp [step, flush, hkind, Slice.span, utf8Length]
  | inside start chars =>
      have hpending : start + utf8Length chars.reverse ≤ offset := by
        simpa [Slice.span] using hmode
      cases hkind : CharKind.of c <;>
        simp [step, flush, hkind, Slice.span, utf8Length] <;> omega

theorem stop_le_of_mem_ahead {mode : Mode} {offset : Nat} {text : List Char} {s : Slice}
    (hmode : ∀ p ∈ mode.pending, p.span.stop ≤ offset) (h : s ∈ ahead mode offset text) :
    s.span.stop ≤ offset + utf8Length text := by
  induction text generalizing mode offset with
  | nil => exact hmode s h
  | cons c rest ih =>
      have hstop := step_stop hmode c
      have hoffset := offset_step ⟨offset, mode, []⟩ c
      simp only [List.forall_mem_append] at hstop
      rw [ahead, List.mem_append, List.mem_reverse] at h
      rw [utf8Length, ← Nat.add_assoc, ← hoffset]
      rcases h with hdone | hrest
      · exact Nat.le_trans (hstop.1 s hdone) (Nat.le_add_right _ _)
      · exact ih hstop.2 hrest

end Scanner

theorem start_le_of_mem_slices {text : List Char} {s : Slice} (h : s ∈ slices text) :
    s.start ≤ utf8Length text := by
  rw [Scanner.slices_eq] at h
  have hstop := Scanner.stop_le_of_mem_ahead (by simp) h
  rw [Nat.zero_add] at hstop
  exact Nat.le_trans (Nat.le_add_right _ _) hstop

end PlanText
