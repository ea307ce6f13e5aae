import PlanText.Format.Builtin
import PlanText.Proofs.Layout
import PlanText.Proofs.ReadTree

/-!
Canonical text against the reader. The canonical text of a tree of readable atoms has the
tokens of the tree, and what the reader gives has no other atoms. So the text of what was read
is read again as the same list, under the same limit.
-/

namespace PlanText

open Text

namespace Node

/-! The tokens of canonical text. -/

mutual

theorem tokensOf_chars :
    (node : Node) → ∀ {rest : List Char}, node.Readable → Scanner.Parted rest →
      tokensOf (node.chars ++ rest) = node.tokens ++ tokensOf rest
  | .atom text, rest, hreadable, hrest => by
      rw [chars, tokensOf_atom hreadable hrest]
      rfl
  | .list items, rest, hreadable, _ => by
      rw [chars, List.cons_append, tokensOf_lparen, tokensOf_itemChars items hreadable]
      simp [tokens]

theorem tokensOf_itemChars :
    (items : List Node) → ∀ {rest : List Char}, AllReadable items →
      tokensOf (itemChars items ++ rest) =
        itemTokens items ++ .rparen :: tokensOf rest
  | [], rest, _ => tokensOf_rparen
  | [node], rest, hreadable => by
      rw [itemChars, List.append_assoc, List.singleton_append,
        tokensOf_chars node hreadable.1 (Scanner.parted_cons (by decide)), tokensOf_rparen]
      simp [itemTokens]
  | node :: next :: others, rest, hreadable => by
      have hchars : itemChars (node :: next :: others) =
          node.chars ++ ' ' :: itemChars (next :: others) := rfl
      rw [hchars, List.append_assoc, List.cons_append,
        tokensOf_chars node hreadable.1 (Scanner.parted_cons (by decide)),
        tokensOf_blank (by decide), tokensOf_itemChars (next :: others) hreadable.2,
        ← List.append_assoc, ← itemTokens]

end

theorem tokensOf_listText {items : List Node} (h : AllReadable items) (rest : List Char) :
    tokensOf ((listText items).toList ++ rest) =
      (list items).tokens ++ tokensOf rest := by
  rw [listText, text, String.toList_ofList, chars, List.cons_append, tokensOf_lparen,
    tokensOf_itemChars items h]
  simp [tokens]

/-! The atoms of what was read. -/

mutual

theorem readable_of_tokens {source : String} :
    (node : Node) → (∀ t ∈ node.tokens, t ∈ PlanText.tokens source) → node.Readable
  | .atom text, h => by
      have hmem : Token.ofAtom text ∈ PlanText.tokens source := h _ (by simp [tokens])
      rcases token_cases hmem with hopen | hclose | ⟨atom, hatom, hreadable⟩
      · exact absurd hopen (Token.ofAtom_ne_lparen text)
      · exact absurd hclose (Token.ofAtom_ne_rparen text)
      · rw [Token.ofAtom_injective hatom]
        exact hreadable
  | .list items, h =>
      allReadable_of_tokens items fun t ht => h t (by simp [tokens, ht])

theorem allReadable_of_tokens {source : String} :
    (items : List Node) → (∀ t ∈ itemTokens items, t ∈ PlanText.tokens source) →
      AllReadable items
  | [], _ => trivial
  | node :: rest, h =>
      ⟨readable_of_tokens node fun t ht => h t (by simp [itemTokens, ht]),
        allReadable_of_tokens rest fun t ht => h t (by simp [itemTokens, ht])⟩

end

end Node

/-- Every atom that the reader gives is readable. -/
theorem allReadable_of_readText {limit : Option Nat} {source : String} {items : List Node}
    (h : readText limit source = .ok items) : Node.AllReadable items := by
  obtain ⟨htokens, _⟩ := readText_ok_iff.mp h
  apply Node.allReadable_of_tokens items
  intro t ht
  rw [htokens]
  simp [Node.tokens, ht]

/-- Canonical text with blanks after it is read as the list, if its atoms are readable and it
is within the limit. -/
theorem readText_listText {limit : Option Nat} {items : List Node} {trailing : String}
    (hreadable : Node.AllReadable items)
    (hfits : exceeds limit (Node.listDepth items) = none)
    (htrailing : tokensOf trailing.toList = []) :
    readText limit (Node.listText items ++ trailing) = .ok items := by
  rw [readText_ok_iff]
  refine ⟨?_, hfits⟩
  rw [tokens_eq, String.toList_append, Node.tokensOf_listText hreadable, htrailing,
    List.append_nil]

/-- The items that canonical text is read back as are those it was written from, exactly when all
their atoms are readable. -/
theorem readText_listText_iff (items : List Node) :
    readText none (Node.listText items) = .ok items ↔ Node.AllReadable items := by
  constructor
  · intro hread
    exact allReadable_of_readText hread
  · intro hreadable
    have hbare := @readText_listText none items "" hreadable rfl rfl
    rwa [String.append_empty] at hbare

/-- Canonical text is a fixed point of reading. What a text was read as is read again from its
canonical text and from what the canonical format writes, under the same limit, and so the
items that come back are written the same to the last byte. -/
theorem readText_canonical {limit : Option Nat} {source : String} {items : List Node}
    (h : readText limit source = .ok items) :
    Format.canonical.render items = .ok (Node.listText items ++ "\n") ∧
      ∀ text ∈ [Node.listText items, Node.listText items ++ "\n"],
        readText limit text = .ok items ∧
          ∀ again, readText limit text = .ok again →
            Node.listText again = Node.listText items ∧
              Format.canonical.render again = Format.canonical.render items := by
  have hreadable := allReadable_of_readText h
  obtain ⟨_, hfits⟩ := readText_ok_iff.mp h
  refine ⟨rfl, ?_⟩
  intro text htext
  have hread : readText limit text = .ok items := by
    simp only [List.mem_cons, List.not_mem_nil, or_false] at htext
    rcases htext with rfl | rfl
    · have hbare := @readText_listText limit items "" hreadable hfits rfl
      simpa using hbare
    · exact readText_listText hreadable hfits rfl
  refine ⟨hread, ?_⟩
  intro again hagain
  rw [hread, Except.ok.injEq] at hagain
  subst hagain
  exact ⟨rfl, rfl⟩

/-- A text with capitals of every sort, a comment that holds a parenthesis, and the depth that
the limit just allows. -/
theorem readText_canonical_capitals :
    let items : List Node := [.atom "a", .atom "?b", .list [.atom "i̇ς"]]
    readText (some 2) "(A?B ; (c\n(İΣ))" = .ok items ∧
      Format.canonical.render items = .ok (Node.listText items ++ "\n") ∧
      ∀ text ∈ [Node.listText items, Node.listText items ++ "\n"],
        readText (some 2) text = .ok items ∧
          ∀ again, readText (some 2) text = .ok again →
            Node.listText again = Node.listText items ∧
              Format.canonical.render again = Format.canonical.render items := by
  intro items
  have hread : readText (some 2) "(A?B ; (c\n(İΣ))" = .ok items :=
    readText_ok_iff.mpr ⟨by decide +kernel, by decide⟩
  exact ⟨hread, readText_canonical hread⟩

end PlanText
