import PlanText.Proofs.Positions

/-!
The order of texts against the order of their bytes. Texts are ordered by their characters, and
characters by their code points. The bytes of a character hold its code point with the highest
bits first, and the first byte is the greater the more bytes there are. So the bytes put texts
in the same order, at whatever character two of them part.
-/

namespace PlanText.Text

/-- The two come to bytes that differ, and the first of these is less on the left. -/
def PartsBelow : List UInt8 → List UInt8 → Prop
  | b :: bytes, c :: others => b < c ∨ b = c ∧ PartsBelow bytes others
  | _, _ => False

theorem PartsBelow.append_lt {bytes others : List UInt8} (h : PartsBelow bytes others)
    (after otherAfter : List UInt8) : bytes ++ after < others ++ otherAfter := by
  induction bytes generalizing others with
  | nil => exact h.elim
  | cons b bytes ih =>
      cases others with
      | nil => exact h.elim
      | cons c others =>
          rw [List.cons_append, List.cons_append, List.cons_lt_cons_iff]
          rcases h with hless | ⟨hsame, hrest⟩
          · exact Or.inl hless
          · exact Or.inr ⟨hsame, ih hrest⟩

theorem partsBelow_ofNat_cons {n m : Nat} {bytes others : List UInt8} (hn : n < 256)
    (hm : m < 256) :
    PartsBelow (UInt8.ofNat n :: bytes) (UInt8.ofNat m :: others) ↔
      n < m ∨ n = m ∧ PartsBelow bytes others := by
  simp [PartsBelow, UInt8.lt_iff_toNat_lt, ← UInt8.toNat_inj, Nat.mod_eq_of_lt hn,
    Nat.mod_eq_of_lt hm]

/-- A code point is told from a greater one by the highest of the bits that its bytes share out
which differ. -/
theorem bits_of_lt {n m : Nat} (h : n < m) (hm : m < 0x110000) :
    n / 262144 % 8 < m / 262144 % 8 ∨ n / 262144 % 8 = m / 262144 % 8 ∧
      (n / 4096 % 64 < m / 4096 % 64 ∨ n / 4096 % 64 = m / 4096 % 64 ∧
        (n / 64 % 64 < m / 64 % 64 ∨ n / 64 % 64 = m / 64 % 64 ∧ n % 64 < m % 64)) := by
  have hn8 : n / 262144 % 8 = n / 262144 := Nat.mod_eq_of_lt (by omega)
  have hm8 : m / 262144 % 8 = m / 262144 := Nat.mod_eq_of_lt (by omega)
  rw [hn8, hm8]
  rcases Nat.lt_or_ge (n / 4096) (m / 4096) with hhigh | hhigh
  · omega
  · omega

theorem partsBelow_utf8EncodeChar {c d : Char} (h : c < d) :
    PartsBelow (String.utf8EncodeChar c) (String.utf8EncodeChar d) := by
  have hcode : c.val.toNat < d.val.toNat := h
  have hvalid : d.val.toNat < 0x110000 := by
    rcases d.valid with hlow | ⟨_, hhigh⟩ <;> omega
  have hbits := bits_of_lt hcode hvalid
  simp only [String.utf8EncodeChar]
  repeat' split
  all_goals simp (disch := omega) only [partsBelow_ofNat_cons]
  all_goals omega

/-- A text that comes before another has bytes that come before those of the other. -/
theorem utf8Bytes_lt {a b : List Char} (h : a < b) : utf8Bytes a < utf8Bytes b := by
  induction h with
  | @nil d rest =>
      obtain ⟨first, others, hbytes⟩ :=
        List.exists_cons_of_ne_nil (@String.utf8EncodeChar_ne_nil d)
      rw [utf8Bytes, utf8Bytes, List.flatMap_cons, hbytes]
      exact List.nil_lt_cons _ _
  | @cons c rest others _ ih => exact List.append_left_lt ih
  | @rel c rest d others hless => exact (partsBelow_utf8EncodeChar hless).append_lt _ _

end PlanText.Text
