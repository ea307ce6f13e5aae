import PlanText.Format.Builtin
import PlanText.Node.Json

/-!
JSON text of trees against the reader. What stands between the items of a list is left open
here, as blanks by depth, so that one argument covers the text on one line and the text over
several. The reader takes a node off the front of such a text, whatever follows it, unless a
list in it opens below the depth that is left.
-/

namespace PlanText

open Text

namespace Json

namespace Reader

/-! Blanks. -/

theorem skipSpaces_append {gap : List Char} (h : gap.all isSpace = true) (text : List Char) :
    skipSpaces (gap ++ text) = skipSpaces text := by
  have hall : ∀ c ∈ gap, isSpace c = true := by simpa using h
  exact List.dropWhile_append_of_pos hall

theorem skipSpaces_cons {c : Char} (h : isSpace c = false) (text : List Char) :
    skipSpaces (c :: text) = c :: text := by
  simp [skipSpaces, h]

/-! Characters of a string. -/

theorem hexDigit?_hexChar (n : Nat) : Decimal.hexDigit? (hexChar n) = some (n % 16) := by
  have hall : ∀ d < 16, Decimal.hexDigit? (Nat.digitChar d) = some d := by decide
  exact hall (n % 16) (Nat.mod_lt n (by omega))

theorem codeUnit_hex (n : Nat) (rest : List Char) :
    codeUnit ('0' :: '0' :: hexChar (n / 16) :: hexChar n :: rest) =
      .ok (n / 16 % 16 * 16 + n % 16, rest) := by
  have hzero : Decimal.hexDigit? '0' = some 0 := by decide
  have hlong : ¬utf8Length ('0' :: '0' :: hexChar (n / 16) :: hexChar n :: rest) < 4 := by
    have hhigh := (hexChar (n / 16)).utf8Size_pos
    have hlow := (hexChar n).utf8Size_pos
    have hsize : '0'.utf8Size = 1 := by decide
    simp only [utf8Length, hsize]
    omega
  simp only [codeUnit, hlong, if_false, hexDigit?_hexChar, hzero, Decimal.ofDigits]
  simp

theorem escapedUnits_hex {c : Char} (h : c.toNat < 0x20) (rest : List Char) :
    escapedUnits ('0' :: '0' :: hexChar (c.toNat / 16) :: hexChar c.toNat :: rest) =
      .ok (c, rest) := by
  have hunit : c.toNat / 16 % 16 * 16 + c.toNat % 16 = c.toNat := by omega
  have hlow : ¬(0xDC00 ≤ c.toNat ∧ c.toNat ≤ 0xDFFF) := by omega
  have hhigh : ¬(0xD800 ≤ c.toNat ∧ c.toNat ≤ 0xDBFF) := by omega
  simp only [escapedUnits, codeUnit_hex, hunit, hlow, hhigh, if_false, Char.ofNat_toNat]

theorem stringChar_plain {c : Char} (hquote : c ≠ '"') (hslash : c ≠ '\\')
    (hcontrol : ¬c.toNat < 0x20) (rest : List Char) :
    stringChar (c :: rest) = .ok (some c, rest) := by
  rw [stringChar]
  · simp [hcontrol]
  · exact hquote
  · exact hslash

/-- Every character is read back from what is written for it, whatever follows. -/
theorem stringChar_escapeChar (c : Char) (rest : List Char) :
    stringChar (escapeChar c ++ rest) = .ok (some c, rest) := by
  by_cases hshort : c ∈ ['"', '\\', '\x08', '\x0c', '\n', '\r', '\t']
  · simp only [List.mem_cons, List.not_mem_nil, or_false] at hshort
    rcases hshort with rfl | rfl | rfl | rfl | rfl | rfl | rfl
    all_goals rfl
  · simp only [List.mem_cons, List.not_mem_nil, or_false, not_or] at hshort
    by_cases hcontrol : c.toNat < 0x20
    · simp [escapeChar, hshort, hcontrol, stringChar, escaped, escapedUnits_hex]
    · have hescape : escapeChar c = [c] := by simp [escapeChar, hshort, hcontrol]
      rw [hescape]
      exact stringChar_plain hshort.1 hshort.2.1 hcontrol rest

/-- A string up to its closing quote, from any point on. -/
theorem stringTail_chars (text rest : List Char) {fuel : Nat} (h : text.length < fuel)
    (done : List Char) :
    stringTail fuel done (text.flatMap escapeChar ++ '"' :: rest) =
      .ok (String.ofList (done.reverse ++ text), rest) := by
  induction text generalizing fuel done with
  | nil =>
      cases fuel with
      | zero => exact absurd h (Nat.not_lt_zero _)
      | succ fuel => simp [stringTail, stringChar]
  | cons c text ih =>
      cases fuel with
      | zero => exact absurd h (Nat.not_lt_zero _)
      | succ fuel =>
          have hless : text.length < fuel := by simpa using h
          rw [List.flatMap_cons, List.append_assoc, stringTail]
          simp only [stringChar_escapeChar, ih hless]
          simp

end Reader

theorem escapeChar_ne_nil (c : Char) : escapeChar c ≠ [] := by
  unfold escapeChar
  repeat' split
  all_goals simp

theorem length_le_escaped (text : List Char) :
    text.length ≤ (text.flatMap escapeChar).length := by
  induction text with
  | nil => simp
  | cons c text ih =>
      have hpos := List.length_pos_iff.mpr (escapeChar_ne_nil c)
      simp only [List.flatMap_cons, List.length_append, List.length_cons]
      omega

end Json

namespace Node

/-! The text of a tree with any blanks between its items. -/

mutual

/-- The JSON text of a node before a text. What stands between the items of a list depends on
how far in they are. -/
def spaced (gap : Nat → List Char) (indent : Nat) : Node → List Char → List Char
  | atom text, after => Json.quote text ++ after
  | list [], after => '[' :: ']' :: after
  | list (node :: rest), after =>
    '[' :: (gap (indent + 2) ++
      spaced gap (indent + 2) node (spacedRest gap indent rest after))

/-- The items after the first one and the bracket that closes the list. -/
def spacedRest (gap : Nat → List Char) (indent : Nat) : List Node → List Char → List Char
  | [], after => gap indent ++ ']' :: after
  | node :: rest, after =>
    ',' :: (gap (indent + 2) ++
      spaced gap (indent + 2) node (spacedRest gap indent rest after))

end

/-! Both layouts are of this form. -/

mutual

theorem prettyJson_eq_spaced :
    (node : Node) → ∀ {indent after},
      prettyJson indent node after = spaced (onNewLine · []) indent node after
  | atom _, _, _ => rfl
  | list [], _, _ => rfl
  | list (node :: rest), indent, after => by
      rw [prettyJson, spaced, prettyJson_eq_spaced node, prettyRest_eq_spacedRest rest]
      simp [onNewLine]

theorem prettyRest_eq_spacedRest :
    (rest : List Node) → ∀ {indent after},
      prettyRest indent rest after = spacedRest (onNewLine · []) indent rest after
  | [], _, _ => by simp [prettyRest, spacedRest, onNewLine]
  | node :: rest, indent, after => by
      rw [prettyRest, spacedRest, prettyJson_eq_spaced node, prettyRest_eq_spacedRest rest]
      simp [onNewLine]

end

mutual

theorem compact_toJson_append :
    (node : Node) → ∀ {indent after},
      node.toJson.compact ++ after = spaced (fun _ => []) indent node after
  | atom _, _, _ => rfl
  | list [], _, _ => rfl
  | list (node :: rest), indent, after => by
      rw [toJson, itemsToJson, Json.compact, List.cons_append, compactItems_append rest, spaced,
        compact_toJson_append node]
      rfl

theorem compactItems_append :
    (rest : List Node) → ∀ {item indent after},
      Json.compactItems (item :: itemsToJson rest) ++ after =
        item.compact ++ spacedRest (fun _ => []) indent rest after
  | [], item, _, after => by simp [itemsToJson, Json.compactItems, spacedRest]
  | node :: rest, item, indent, after => by
      have hmore := @compactItems_append rest node.toJson indent after
      rw [@compact_toJson_append node (indent + 2)] at hmore
      have hsplit : Json.compactItems (item :: itemsToJson (node :: rest)) =
          item.compact ++ ',' :: Json.compactItems (node.toJson :: itemsToJson rest) := rfl
      rw [hsplit, List.append_assoc, List.cons_append, hmore, spacedRest, List.nil_append]

end

variable {gap : Nat → List Char}

open Json.Reader

mutual

/-- A node takes at least one character, so reading it uses up fuel that nothing else needs. -/
theorem length_lt_spaced :
    (node : Node) → ∀ {indent after}, after.length < (spaced gap indent node after).length
  | atom text, indent, after => by
      simp only [spaced, Json.quote, List.length_append, List.length_cons]
      omega
  | list [], indent, after => by
      simp only [spaced, List.length_cons]
      omega
  | list (node :: rest), indent, after => by
      have hrest := @length_lt_spacedRest rest indent after
      have hnode := @length_lt_spaced node (indent + 2) (spacedRest gap indent rest after)
      simp only [spaced, List.length_append, List.length_cons]
      omega

theorem length_lt_spacedRest :
    (rest : List Node) → ∀ {indent after},
      after.length < (spacedRest gap indent rest after).length
  | [], indent, after => by
      simp only [spacedRest, List.length_append, List.length_cons]
      omega
  | node :: rest, indent, after => by
      have hrest := @length_lt_spacedRest rest indent after
      have hnode := @length_lt_spaced node (indent + 2) (spacedRest gap indent rest after)
      simp only [spacedRest, List.length_append, List.length_cons]
      omega

end

/-- The text of a node opens a string or an array. -/
theorem spaced_opens (node : Node) (indent : Nat) (after : List Char) :
    ∃ more, spaced gap indent node after = '"' :: more ∨
      spaced gap indent node after = '[' :: more := by
  match node with
  | atom text => exact ⟨_, Or.inl rfl⟩
  | list [] => exact ⟨_, Or.inr rfl⟩
  | list (node :: rest) => exact ⟨_, Or.inr rfl⟩

theorem skipSpaces_spaced (node : Node) (indent : Nat) (after : List Char) :
    skipSpaces (spaced gap indent node after) = spaced gap indent node after := by
  obtain ⟨more, hmore | hmore⟩ := @spaced_opens gap node indent after
  all_goals
    rw [hmore]
    exact skipSpaces_cons (by decide) more

/-- An array opens, and its first item comes after some blanks. -/
theorem value_opens (hgap : ∀ indent, (gap indent).all isSpace = true) (node : Node)
    (indent fuel depth : Nat) (after : List Char) :
    value (fuel + 1) (depth + 1) ('[' :: (gap indent ++ spaced gap indent node after)) =
      elements fuel depth [] (spaced gap indent node after) := by
  have hskip : skipSpaces (gap indent ++ spaced gap indent node after) =
      spaced gap indent node after := by
    rw [skipSpaces_append (hgap indent), skipSpaces_spaced]
  simp only [value, hskip]
  obtain ⟨more, hmore | hmore⟩ := @spaced_opens gap node indent after
  all_goals
    rw [hmore]
    rfl

/-- The items of an array from one on, by what is read of this one and what of the others. -/
theorem elements_of_first {node : Node} {rest : List Node} {text more after : List Char}
    {fuel depth : Nat} {done : List Json}
    (hfirst : value fuel depth text =
      if node.depth ≤ depth then .ok (node.toJson, more) else .error .malformed)
    (hrest : value fuel depth text = .ok (node.toJson, more) →
      elements (fuel + 1) depth done text =
        if deepest rest ≤ depth then
          .ok (.array (done.reverse ++ node.toJson :: itemsToJson rest), after)
        else .error .malformed) :
    elements (fuel + 1) depth done text =
      if deepest (node :: rest) ≤ depth then
        .ok (.array (done.reverse ++ itemsToJson (node :: rest)), after)
      else .error .malformed := by
  have hdeepest : deepest (node :: rest) ≤ depth ↔ node.depth ≤ depth ∧ deepest rest ≤ depth := by
    rw [deepest]
    exact Nat.max_le
  by_cases hfits : node.depth ≤ depth
  · rw [if_pos hfits] at hfirst
    rw [hrest hfirst]
    simp [hdeepest, itemsToJson, hfits]
  · rw [if_neg hfits] at hfirst
    simp [elements, hfirst, hdeepest, hfits]

mutual

/-- A node before a text is read up to that text, or the reader stops at the list that is too
deep. -/
theorem value_spaced (hgap : ∀ indent, (gap indent).all isSpace = true) :
    (node : Node) → ∀ {indent after fuel depth},
      2 * (spaced gap indent node after).length < fuel →
        value fuel depth (spaced gap indent node after) =
          if node.depth ≤ depth then .ok (node.toJson, after) else .error .malformed
  | atom text, indent, after, fuel, depth, hfuel => by
      obtain ⟨fuel, rfl⟩ : ∃ n, fuel = n + 1 := ⟨fuel - 1, by omega⟩
      have hshort : text.toList.length < fuel + 1 := by
        have hle := Json.length_le_escaped text.toList
        simp only [spaced, Json.quote, List.length_append, List.length_cons] at hfuel
        omega
      have hread := stringTail_chars text.toList after hshort []
      simp only [spaced, Json.quote, List.append_assoc, List.cons_append, List.nil_append, value]
      rw [hread]
      simp [Node.depth, toJson]
  | list [], indent, after, fuel, depth, hfuel => by
      obtain ⟨fuel, rfl⟩ : ∃ n, fuel = n + 1 := ⟨fuel - 1, by omega⟩
      have hclose : skipSpaces (']' :: after) = ']' :: after := skipSpaces_cons (by decide) after
      cases depth with
      | zero => simp [spaced, value, Node.depth, deepest]
      | succ depth => simp [spaced, value, Node.depth, deepest, hclose, toJson, itemsToJson]
  | list (node :: rest), indent, after, fuel, depth, hfuel => by
      have hlong := @length_lt_spaced gap node (indent + 2) (spacedRest gap indent rest after)
      simp only [spaced, List.length_cons, List.length_append] at hfuel
      obtain ⟨fuel, rfl⟩ : ∃ n, fuel = n + 2 := ⟨fuel - 2, by omega⟩
      cases depth with
      | zero => simp [spaced, value, Node.depth]
      | succ depth =>
          have hitems : elements (fuel + 1) depth []
                (spaced gap (indent + 2) node (spacedRest gap indent rest after)) =
              if deepest (node :: rest) ≤ depth then
                .ok (.array ([].reverse ++ itemsToJson (node :: rest)), after)
              else .error .malformed := by
            apply elements_of_first (value_spaced hgap node (by omega))
            intro hitem
            exact elements_spaced hgap rest hitem (by omega) []
          rw [spaced, value_opens hgap, hitems]
          simp [Node.depth, toJson, Nat.add_comm 1]

/-- The items of an array after one that is read. -/
theorem elements_spaced (hgap : ∀ indent, (gap indent).all isSpace = true) :
    (rest : List Node) → ∀ {indent after fuel depth text item},
      value fuel depth text = .ok (item, spacedRest gap indent rest after) →
        2 * (spacedRest gap indent rest after).length < fuel → ∀ done,
          elements (fuel + 1) depth done text =
            if deepest rest ≤ depth then
              .ok (.array (done.reverse ++ item :: itemsToJson rest), after)
            else .error .malformed
  | [], indent, after, fuel, depth, text, item, hitem, _, done => by
      have hnext : skipSpaces (spacedRest gap indent [] after) = ']' :: after := by
        rw [spacedRest, skipSpaces_append (hgap indent), skipSpaces_cons (by decide)]
      simp [elements, hitem, hnext, deepest, itemsToJson]
  | node :: rest, indent, after, fuel, depth, text, item, hitem, hfuel, done => by
      have hlong := @length_lt_spaced gap node (indent + 2) (spacedRest gap indent rest after)
      simp only [spacedRest, List.length_cons, List.length_append] at hfuel
      obtain ⟨fuel, rfl⟩ : ∃ n, fuel = n + 1 := ⟨fuel - 1, by omega⟩
      have hnext : skipSpaces (spacedRest gap indent (node :: rest) after) =
          ',' :: (gap (indent + 2) ++
            spaced gap (indent + 2) node (spacedRest gap indent rest after)) :=
        skipSpaces_cons (by decide) _
      have hskip : skipSpaces (gap (indent + 2) ++
            spaced gap (indent + 2) node (spacedRest gap indent rest after)) =
          spaced gap (indent + 2) node (spacedRest gap indent rest after) := by
        rw [skipSpaces_append (hgap _), skipSpaces_spaced]
      have hitems : elements (fuel + 1) depth (item :: done)
            (spaced gap (indent + 2) node (spacedRest gap indent rest after)) =
          if deepest (node :: rest) ≤ depth then
            .ok (.array ((item :: done).reverse ++ itemsToJson (node :: rest)), after)
          else .error .malformed := by
        apply elements_of_first (value_spaced hgap node (by omega))
        intro hfirst
        exact elements_spaced hgap rest hfirst (by omega) (item :: done)
      rw [elements]
      simp only [hitem, hnext, hskip, hitems]
      simp

end

/-! The text as a whole. -/

mutual

theorem ofJson?_toJson : (node : Node) → ofJson? node.toJson = some node
  | atom _ => rfl
  | list items => by rw [toJson, ofJson?, itemsOfJson?_itemsToJson items, Option.map_some]

theorem itemsOfJson?_itemsToJson :
    (items : List Node) → itemsOfJson? (itemsToJson items) = some items
  | [] => rfl
  | node :: rest => by
      simp only [itemsToJson, itemsOfJson?, ofJson?_toJson node, itemsOfJson?_itemsToJson rest]

end

/-- The text of a tree with blanks after it is read as the tree if that is not too deep. -/
theorem ofJsonText_spaced (hgap : ∀ indent, (gap indent).all isSpace = true) (node : Node)
    {after : List Char} (hafter : after.all isSpace = true) :
    ofJsonText (spaced gap 0 node after) =
      if node.depth ≤ jsonDepth then .ok node else .error .malformed := by
  have hread : Json.readFirst jsonDepth (spaced gap 0 node after) =
      if node.depth ≤ jsonDepth then .ok (node.toJson, after) else .error .malformed := by
    rw [Json.readFirst, skipSpaces_spaced]
    exact value_spaced hgap node (by rw [fuelFor]; omega)
  have hend : skipSpaces after = [] := by
    have hskip := skipSpaces_append hafter []
    simpa [skipSpaces] using hskip
  by_cases hfits : node.depth ≤ jsonDepth
  · simp [ofJsonText, hread, hfits, ofJson?_toJson, hend]
  · simp [ofJsonText, hread, hfits, JsonError.ofFault]

/-- Reading undoes writing for every tree, whatever its atoms hold, as long as it nests 127 deep
at most, and finds any deeper tree malformed. This goes for the text without blanks and for what
the format writes over several lines. -/
theorem ofJsonText_written :
    (∀ node : Node, ofJsonText node.jsonText =
      if node.depth ≤ 127 then .ok node else .error .malformed) ∧
    ∀ items : List Node, ∃ text, Format.json.render items = .ok text ∧
      ofJsonText text.toList =
        if listDepth items ≤ 127 then .ok (list items) else .error .malformed := by
  constructor
  · intro node
    have htext : node.jsonText = spaced (fun _ => []) 0 node [] := by
      rw [← @compact_toJson_append node 0 [], List.append_nil, jsonText]
    rw [htext]
    exact ofJsonText_spaced (fun _ => rfl) node rfl
  · intro items
    have hgap : ∀ indent, (onNewLine indent []).all isSpace = true := by
      intro indent
      simp [onNewLine, isSpace]
    refine ⟨_, rfl, ?_⟩
    rw [String.toList_ofList, prettyJson_eq_spaced]
    exact ofJsonText_spaced hgap (list items) (by decide)

end Node

end PlanText
