import PlanText.CommandLine.Run
import PlanText.Proofs.FreeLayout

/-!
Tokens written down one after the other and read again. A listing of the tokens of any source,
also of one that is no list, has these tokens: blanks between them keep them apart, and each is
spelled so that scanning leaves it as it is.
-/

namespace PlanText

open Text

theorem isLegible_of_mem_tokens {source : String} {t : Token} (h : t ∈ tokens source) :
    t.IsLegible := token_cases h

namespace Token.IsLegible

theorem of_var {text : String} (h : (Token.var text).IsLegible) :
    isReadableAtom text.toList = true ∧ text.toList.head? = some '?' := by
  rcases h with h | h | ⟨atom, hatom, hreadable⟩
  · cases h
  · cases h
  · unfold ofAtom at hatom
    split at hatom
    · next heq =>
        obtain rfl := Token.var.inj hatom
        exact ⟨hreadable, by rw [heq]; rfl⟩
    · cases hatom

theorem of_sym {text : String} (h : (Token.sym text).IsLegible) :
    isReadableAtom text.toList = true ∧ text.toList.head? ≠ some '?' := by
  rcases h with h | h | ⟨atom, hatom, hreadable⟩
  · cases h
  · cases h
  · unfold ofAtom at hatom
    split at hatom
    · cases hatom
    · next hnone =>
        obtain rfl := Token.sym.inj hatom
        refine ⟨hreadable, ?_⟩
        intro hhead
        obtain ⟨rest, hrest⟩ := List.head?_eq_some_iff.mp hhead
        exact hnone rest hrest

/-- A blank after a token ends it. -/
theorem tokensOf_append_blank {t : Token} (h : t.IsLegible) {b : Char} (hb : isBlank b = true)
    (rest : List Char) : tokensOf (t.text.toList ++ b :: rest) = t :: tokensOf rest := by
  have hparted : Scanner.Parted (b :: rest) := by
    apply Scanner.parted_cons
    simp [CharKind.of_eq_blank.mpr hb]
  rw [h.tokensOf_append fun _ _ => hparted, tokensOf_blank hb]

end Token.IsLegible

/-- Tokens with one blank between them. -/
theorem tokens_intercalate {separator : String} {b : Char} (hseparator : separator.toList = [b])
    (hb : isBlank b = true) {ts : List Token} (h : ∀ t ∈ ts, t.IsLegible) :
    tokens (separator.intercalate (ts.map Token.text)) = ts := by
  rw [tokens_eq]
  induction ts with
  | nil => rfl
  | cons t rest ih =>
      obtain ⟨ht, hrest⟩ := List.forall_mem_cons.mp h
      cases rest with
      | nil =>
          have hone := ht.tokensOf_append fun _ _ => (by simp [Scanner.Parted] : Scanner.Parted [])
          rw [List.append_nil] at hone
          exact hone
      | cons next others =>
          have hothers := ih hrest
          simp only [List.map_cons, String.intercalate_cons_cons, String.toList_append, hseparator,
            List.append_assoc, List.singleton_append] at hothers ⊢
          rw [ht.tokensOf_append_blank hb, hothers]

/-- Tokens with a line for each. -/
theorem tokens_unlines {ts : List Token} (h : ∀ t ∈ ts, t.IsLegible) :
    tokens (CommandLine.unlines (ts.map Token.text)) = ts := by
  rw [tokens_eq]
  induction ts with
  | nil => rfl
  | cons t rest ih =>
      obtain ⟨ht, hrest⟩ := List.forall_mem_cons.mp h
      have hlines : (CommandLine.unlines ((t :: rest).map Token.text)).toList =
          t.text.toList ++ '\n' :: (CommandLine.unlines (rest.map Token.text)).toList := by
        simp [CommandLine.unlines, String.join_cons]
      rw [hlines, ht.tokensOf_append_blank (by decide), ih hrest]

/-- The tokens of a source stay as they are when they are written down and read again. A variable
and a symbol are both spelled in lower case, without anything that ends a token, and a question
mark stands in front of a variable and nowhere else. So the tokens with line breaks or blanks
between them, and the listing that the program prints of a file, have the tokens of the source. -/
theorem tokens_relisted (source : String) :
    (∀ text, .var text ∈ tokens source →
      isReadableAtom text.toList = true ∧ text.toList.head? = some '?') ∧
    (∀ text, .sym text ∈ tokens source →
      isReadableAtom text.toList = true ∧ text.toList.head? ≠ some '?') ∧
    tokens ("\n".intercalate (tokenTexts source)) = tokens source ∧
    tokens (" ".intercalate (tokenTexts source)) = tokens source ∧
    ∀ disk kind path, Disk.readText disk path = .ok source → ∃ listing,
      (CommandLine.showTokens disk kind path).value = .ok listing ∧
        tokens listing = tokens source := by
  have hlegible : ∀ t ∈ tokens source, t.IsLegible := fun t ht => isLegible_of_mem_tokens ht
  refine ⟨fun text h => (hlegible _ h).of_var, fun text h => (hlegible _ h).of_sym,
    tokens_intercalate rfl (by decide) hlegible, tokens_intercalate rfl (by decide) hlegible, ?_⟩
  intro disk kind path hread
  refine ⟨CommandLine.unlines (tokenTexts source), ?_, tokens_unlines hlegible⟩
  rw [CommandLine.showTokens, hread]

/-- A source that is no list: a variable that grows in lower case touches the next one, a sigma
ends a word, and a separator that is no white space parts the last two tokens. -/
theorem tokens_relisted_growing :
    let source := "(AΣ;b\n?İ?Σ\x1cC"
    let disk : Disk := ⟨fun _ => .ok source.toUTF8, fun _ => true⟩
    tokens source = [.lparen, .sym "aς", .var "?i̇", .var "?σ", .sym "c"] ∧
      disk.readText "d" = .ok source ∧
      (isReadableAtom "?i̇".toList = true ∧ "?i̇".toList.head? = some '?') ∧
      (isReadableAtom "aς".toList = true ∧ "aς".toList.head? ≠ some '?') ∧
      tokens ("\n".intercalate (tokenTexts source)) = tokens source ∧
      tokens (" ".intercalate (tokenTexts source)) = tokens source ∧
      ∃ listing, (CommandLine.showTokens disk .domain "d").value = .ok listing ∧
        tokens listing = tokens source := by
  intro source disk
  have htokens : tokens source = [.lparen, .sym "aς", .var "?i̇", .var "?σ", .sym "c"] := by
    decide +kernel
  have hread : disk.readText "d" = .ok source := Disk.readText_of_bytes rfl
  obtain ⟨hvar, hsym, hlines, hblanks, hlisting⟩ := tokens_relisted source
  exact ⟨htokens, hread, hvar _ (by simp [htokens]), hsym _ (by simp [htokens]), hlines, hblanks,
    hlisting disk .domain "d" hread⟩

end PlanText
