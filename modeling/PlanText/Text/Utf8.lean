/-!
Sizes in bytes of text that is written in UTF-8.
-/

namespace PlanText.Text

def utf8Length : List Char → Nat
  | [] => 0
  | c :: rest => c.utf8Size + utf8Length rest

@[simp] theorem utf8Length_append (xs ys : List Char) :
    utf8Length (xs ++ ys) = utf8Length xs + utf8Length ys := by
  induction xs with
  | nil => simp [utf8Length]
  | cons c rest ih => simp [utf8Length, ih, Nat.add_assoc]

theorem utf8ByteSize_ofList (text : List Char) :
    (String.ofList text).utf8ByteSize = utf8Length text := by
  induction text with
  | nil => rfl
  | cons c rest ih =>
      rw [String.ofList_cons, String.utf8ByteSize_append, ih, String.utf8ByteSize_singleton,
        utf8Length]

theorem eq_nil_of_utf8Length {text : List Char} (h : utf8Length text = 0) : text = [] := by
  cases text with
  | nil => rfl
  | cons c rest =>
      have hsize := c.utf8Size_pos
      simp only [utf8Length] at h
      omega

/-- A text is cut in one way only so many bytes from its start. -/
theorem append_inj_of_utf8Length {before after other more : List Char}
    (h : before ++ after = other ++ more) (hlength : utf8Length before = utf8Length other) :
    before = other ∧ after = more := by
  rcases List.append_eq_append_iff.mp h with ⟨between, rfl, rfl⟩ | ⟨between, rfl, rfl⟩
  · obtain rfl : between = [] := by
      apply eq_nil_of_utf8Length
      rw [utf8Length_append] at hlength
      omega
    simp
  · obtain rfl : between = [] := by
      apply eq_nil_of_utf8Length
      rw [utf8Length_append] at hlength
      omega
    simp

end PlanText.Text
