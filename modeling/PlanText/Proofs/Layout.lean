import PlanText.Proofs.PadAndSplit

/-!
Tokens of a text that is put together from pieces. Each piece gives its token whatever comes
after it, as long as what comes after a word does not continue the word.
-/

namespace PlanText

open Text

section Pieces

variable {rest : List Char}

theorem tokensOf_blank {c : Char} (h : isBlank c = true) :
    tokensOf (c :: rest) = tokensOf rest := by
  rw [tokensOf_eq, Scanner.ahead_blank (by simp) (CharKind.of_eq_blank.mpr h)]
  exact token_ahead _ rest

theorem tokensOf_lparen : tokensOf ('(' :: rest) = .lparen :: tokensOf rest := by
  rw [tokensOf_eq, Scanner.ahead_paren (by simp) (by decide)]
  simp [token_ahead, Slice.token]

theorem tokensOf_rparen : tokensOf (')' :: rest) = .rparen :: tokensOf rest := by
  rw [tokensOf_eq, Scanner.ahead_paren (by simp) (by decide)]
  simp [token_ahead, Slice.token]

theorem tokensOf_word {word : List Char} (hword : IsWord word)
    (hrest : Scanner.Parted rest) :
    tokensOf (word ++ rest) =
      Token.ofAtom (String.ofList (lower word)) :: tokensOf rest := by
  rw [tokensOf_eq, Scanner.ahead_word hword, Scanner.ahead_of_parted (by simp) hrest,
    List.map_append, token_ahead]
  simp [Slice.token_of_isWord, hword]

theorem tokensOf_atom {atom : String} (hatom : isReadableAtom atom.toList = true)
    (hrest : Scanner.Parted rest) :
    tokensOf (atom.toList ++ rest) = Token.ofAtom atom :: tokensOf rest := by
  obtain ⟨hword, hlower⟩ := isReadableAtom_iff.mp hatom
  rw [tokensOf_word hword hrest, hlower, String.ofList_toList]

end Pieces

end PlanText
