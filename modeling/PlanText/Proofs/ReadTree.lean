import PlanText.Node.Readable
import PlanText.Proofs.Scanning
import PlanText.Reading.List

/-!
The reader against the tokens of a tree. A run keeps the tokens that it has taken in its
frames: writing the frames out again, outermost first, gives those tokens back. Hence what it
accepts is what the tree is written with. The other way, the tokens of a tree move it from
frame to frame as the tree says. A limit on depth takes nothing else away.
-/

namespace PlanText

theorem exceeds_eq_none_iff {limit : Option Nat} {depth : Nat} :
    exceeds limit depth = none ↔ ∀ n, limit = some n → depth ≤ n := by
  cases limit with
  | none => simp [exceeds]
  | some n => simp [exceeds]

theorem exceeds_eq_none_of_le {limit : Option Nat} {less more : Nat}
    (h : exceeds limit more = none) (hle : less ≤ more) : exceeds limit less = none := by
  rw [exceeds_eq_none_iff] at h ⊢
  intro n hn
  exact Nat.le_trans hle (h n hn)

@[simp] theorem exceeds_none (depth : Nat) : exceeds none depth = none := rfl

namespace Token

theorem ofAtom_ne_lparen (atom : String) : ofAtom atom ≠ .lparen := by
  unfold ofAtom
  split <;> simp

theorem ofAtom_ne_rparen (atom : String) : ofAtom atom ≠ .rparen := by
  unfold ofAtom
  split <;> simp

theorem ofAtom_injective {atom other : String} (h : ofAtom atom = ofAtom other) :
    atom = other := by
  simpa using congrArg Token.text h

theorem var_or_sym {t : Token} (hopen : t ≠ .lparen) (hclose : t ≠ .rparen) :
    (∃ text, t = .var text) ∨ ∃ text, t = .sym text := by
  cases t with
  | lparen => exact absurd rfl hopen
  | rparen => exact absurd rfl hclose
  | var text => exact Or.inl ⟨text, rfl⟩
  | sym text => exact Or.inr ⟨text, rfl⟩

/-- The tokens that trees are written with: a variable starts with a question mark and a
symbol does not. -/
def Regular (t : Token) : Prop :=
  t = .lparen ∨ t = .rparen ∨ ∃ atom, t = ofAtom atom

end Token

theorem regular_of_mem_tokens {source : String} {t : Token} (h : t ∈ tokens source) :
    t.Regular := by
  rcases token_cases h with hopen | hclose | ⟨atom, hatom, _⟩
  · exact Or.inl hopen
  · exact Or.inr (Or.inl hclose)
  · exact Or.inr (Or.inr ⟨atom, hatom⟩)

theorem regular_of_mem_scan {source : String} {l : Lexeme} (h : l ∈ scan source) :
    l.token.Regular :=
  regular_of_mem_tokens (List.mem_map_of_mem h)

/-- Tokens of a list: its parentheses, and the tokens of its items between them. -/
theorem split_list_tokens {ls : List Lexeme} {items : List Node}
    (h : ls.map Lexeme.token = (Node.list items).tokens) :
    ∃ opening body closing, ls = opening :: (body ++ [closing]) ∧
      opening.token = .lparen ∧ body.map Lexeme.token = Node.itemTokens items ∧
        closing.token = .rparen := by
  obtain ⟨opening, more, rfl, hopening, hmore⟩ :
      ∃ opening more, ls = opening :: more ∧ opening.token = .lparen ∧
        more.map Lexeme.token = Node.itemTokens items ++ [.rparen] := by
    simpa [Node.tokens, List.map_eq_cons_iff] using h
  obtain ⟨body, closings, rfl, hbody, hclosings⟩ := List.map_eq_append_iff.mp hmore
  obtain ⟨closing, rfl, hclosing⟩ : ∃ closing, closings = [closing] ∧
      closing.token = .rparen := by
    simpa [List.map_eq_singleton_iff] using hclosings
  exact ⟨opening, body, closing, rfl, hopening, hbody, hclosing⟩

namespace Node

theorem itemTokens_append (xs ys : List Node) :
    itemTokens (xs ++ ys) = itemTokens xs ++ itemTokens ys := by
  induction xs with
  | nil => rfl
  | cons node rest ih => simp [itemTokens, ih, List.append_assoc]

theorem deepest_append (xs ys : List Node) :
    deepest (xs ++ ys) = max (deepest xs) (deepest ys) := by
  induction xs with
  | nil => simp [deepest]
  | cons node rest ih => simp [deepest, ih, Nat.max_assoc]

theorem deepest_reverse (xs : List Node) : deepest xs.reverse = deepest xs := by
  induction xs with
  | nil => rfl
  | cons node rest ih =>
      simp [deepest_append, deepest, ih, Nat.max_comm]

end Node

/-! What one token does to a run. -/

section Steps

variable {limit : Option Nat} {outer : List Frame} {inner parent : Frame}
  {taken rest : List Lexeme} {l : Lexeme}

theorem collect_lparen (h : l.token = .lparen)
    (hfits : exceeds limit (inner.depth + 1) = none) :
    collect limit outer inner taken (l :: rest) =
      collect limit (inner :: outer) ⟨l.span.start, inner.depth + 1, []⟩ (l :: taken)
        rest := by
  simp [collect, h, hfits]

theorem collect_lparen_tooDeep {n : Nat} (h : l.token = .lparen)
    (hdeep : exceeds limit (inner.depth + 1) = some n) :
    collect limit outer inner taken (l :: rest) =
      ⟨.error (.tooDeep n l.span.start), l :: taken, rest⟩ := by
  simp [collect, h, hdeep]

theorem collect_rparen_last (h : l.token = .rparen) :
    collect limit [] inner taken (l :: rest) =
      ⟨.ok inner.items.reverse, l :: taken, rest⟩ := by
  simp [collect, h]

theorem collect_rparen (h : l.token = .rparen) :
    collect limit (parent :: outer) inner taken (l :: rest) =
      collect limit outer (parent.push inner.node) (l :: taken) rest := by
  simp [collect, h]

theorem collect_atom (hopen : l.token ≠ .lparen) (hclose : l.token ≠ .rparen) :
    collect limit outer inner taken (l :: rest) =
      collect limit outer (inner.push (.atom l.token.text)) (l :: taken) rest := by
  rcases Token.var_or_sym hopen hclose with ⟨text, htoken⟩ | ⟨text, htoken⟩
  · simp [collect, htoken]
  · simp [collect, htoken]

/-- A fault inside the list is the fault of the text. -/
theorem readWhole_of_error {e : ReadError Nat} {taken' rest' : List Lexeme}
    (h : l.token = .lparen) (hfits : exceeds limit 1 = none)
    (hrun : collect limit [] ⟨l.span.start, 1, []⟩ (l :: taken) rest =
      ⟨.error e, taken', rest'⟩) :
    readWhole limit taken (l :: rest) = ⟨.error e, taken', rest'⟩ := by
  simp [readWhole, readItems, h, hfits, hrun]

theorem readWhole_of_end {items : List Node} {taken' : List Lexeme}
    (h : l.token = .lparen) (hfits : exceeds limit 1 = none)
    (hrun : collect limit [] ⟨l.span.start, 1, []⟩ (l :: taken) rest =
      ⟨.ok items, taken', []⟩) :
    readWhole limit taken (l :: rest) = ⟨.ok items, taken', []⟩ := by
  simp [readWhole, readItems, h, hfits, hrun]

theorem readWhole_of_extra {items : List Node} {taken' rest' : List Lexeme} {extra : Lexeme}
    (h : l.token = .lparen) (hfits : exceeds limit 1 = none)
    (hrun : collect limit [] ⟨l.span.start, 1, []⟩ (l :: taken) rest =
      ⟨.ok items, taken', extra :: rest'⟩) :
    readWhole limit taken (l :: rest) =
      ⟨.error (.unexpected extra.token.text extra.span.start), extra :: taken', rest'⟩ := by
  simp [readWhole, readItems, h, hfits, hrun]

theorem readWhole_tooDeep {n : Nat} (h : l.token = .lparen)
    (hdeep : exceeds limit 1 = some n) :
    readWhole limit taken (l :: rest) =
      ⟨.error (.tooDeep n l.span.start), l :: taken, rest⟩ := by
  simp [readWhole, readItems, h, hdeep]

end Steps

/-- The outcome of reading a list where the text has to end: a token that follows the list is a
fault. -/
def Outcome.whole (o : Outcome) : Outcome :=
  match o with
  | ⟨.ok _, taken, extra :: rest⟩ =>
    ⟨.error (.unexpected extra.token.text extra.span.start), extra :: taken, rest⟩
  | o => o

theorem readWhole_lparen {limit : Option Nat} {taken rest : List Lexeme} {l : Lexeme}
    (h : l.token = .lparen) :
    readWhole limit taken (l :: rest) =
      (readItems limit l.span.start (l :: taken) rest).whole := by
  rw [readWhole, if_pos h]
  rfl

/-- A run goes on token by token: it stops where the tokens end, at a list that is too deep and at
the end of the outermost list, and else it opens a list, closes one or takes an atom. -/
theorem run_induction (limit : Option Nat)
    {motive : List Frame → Frame → List Lexeme → List Lexeme → Prop}
    (stop : ∀ outer inner taken, motive outer inner taken [])
    (tooDeep : ∀ outer inner taken l rest n, l.token = .lparen →
      exceeds limit (inner.depth + 1) = some n → motive outer inner taken (l :: rest))
    (opens : ∀ outer inner taken l rest, l.token = .lparen →
      exceeds limit (inner.depth + 1) = none →
      motive (inner :: outer) ⟨l.span.start, inner.depth + 1, []⟩ (l :: taken) rest →
      motive outer inner taken (l :: rest))
    (ends : ∀ inner taken l rest, l.token = .rparen → motive [] inner taken (l :: rest))
    (closes : ∀ parent outer inner taken l rest, l.token = .rparen →
      motive outer (parent.push inner.node) (l :: taken) rest →
      motive (parent :: outer) inner taken (l :: rest))
    (atom : ∀ outer inner taken l rest, l.token ≠ .lparen → l.token ≠ .rparen →
      motive outer (inner.push (.atom l.token.text)) (l :: taken) rest →
      motive outer inner taken (l :: rest))
    (outer : List Frame) (inner : Frame) (taken ts : List Lexeme) :
    motive outer inner taken ts := by
  induction ts generalizing outer inner taken with
  | nil => exact stop outer inner taken
  | cons l rest ih =>
      by_cases hopen : l.token = .lparen
      · cases hexceeds : exceeds limit (inner.depth + 1) with
        | some n => exact tooDeep outer inner taken l rest n hopen hexceeds
        | none => exact opens outer inner taken l rest hopen hexceeds (ih _ _ _)
      · by_cases hclose : l.token = .rparen
        · cases outer with
          | nil => exact ends inner taken l rest hclose
          | cons parent outer => exact closes parent outer inner taken l rest hclose (ih _ _ _)
        · exact atom outer inner taken l rest hopen hclose (ih _ _ _)

/-! Reading what a tree is written with. -/

mutual

theorem collect_tokens {limit : Option Nat} :
    (node : Node) → ∀ {outer : List Frame} {inner : Frame} {taken ls rest : List Lexeme},
      ls.map Lexeme.token = node.tokens →
      exceeds limit (inner.depth + node.depth) = none →
      collect limit outer inner taken (ls ++ rest) =
        collect limit outer (inner.push node) (ls.reverse ++ taken) rest
  | .atom text, outer, inner, taken, ls, rest, htokens, _ => by
      obtain ⟨l, rfl, hl⟩ : ∃ l, ls = [l] ∧ l.token = Token.ofAtom text := by
        simpa [Node.tokens, List.map_eq_singleton_iff] using htokens
      have hatom := @collect_atom limit outer inner taken rest l
        (hl ▸ Token.ofAtom_ne_lparen text) (hl ▸ Token.ofAtom_ne_rparen text)
      rw [hl, Token.text_ofAtom] at hatom
      exact hatom
  | .list items, outer, inner, taken, ls, rest, htokens, hfits => by
      obtain ⟨opening, body, closing, rfl, hopening, hbody, hclosing⟩ :=
        split_list_tokens htokens
      have hitems : exceeds limit (inner.depth + 1 + Node.deepest items) = none := by
        rw [Node.depth, ← Nat.add_assoc] at hfits
        exact hfits
      have hopen : exceeds limit (inner.depth + 1) = none :=
        exceeds_eq_none_of_le hitems (Nat.le_add_right _ _)
      simp only [List.cons_append, List.append_assoc]
      rw [collect_lparen hopening hopen, collect_itemTokens items hbody hitems,
        collect_rparen hclosing]
      simp [Frame.push, Frame.node]

theorem collect_itemTokens {limit : Option Nat} :
    (nodes : List Node) → ∀ {outer : List Frame} {inner : Frame}
      {taken ls rest : List Lexeme},
      ls.map Lexeme.token = Node.itemTokens nodes →
      exceeds limit (inner.depth + Node.deepest nodes) = none →
      collect limit outer inner taken (ls ++ rest) =
        collect limit outer { inner with items := nodes.reverse ++ inner.items }
          (ls.reverse ++ taken) rest
  | [], outer, inner, taken, ls, rest, htokens, _ => by
      obtain rfl : ls = [] := by simpa [Node.itemTokens] using htokens
      rfl
  | node :: nodes, outer, inner, taken, ls, rest, htokens, hfits => by
      obtain ⟨first, others, rfl, hfirst, hothers⟩ := List.map_eq_append_iff.mp htokens
      have hnode : exceeds limit (inner.depth + node.depth) = none := by
        refine exceeds_eq_none_of_le hfits ?_
        simp only [Node.deepest]
        omega
      have hnodes : exceeds limit ((inner.push node).depth + Node.deepest nodes) = none := by
        refine exceeds_eq_none_of_le hfits ?_
        simp only [Node.deepest, Frame.push]
        omega
      rw [List.append_assoc, collect_tokens node hfirst hnode,
        collect_itemTokens nodes hothers hnodes]
      simp [Frame.push]

end

/-! What a run has read so far. -/

/-- The tokens of the lists that are open, innermost list first. -/
def written : List Frame → List Token
  | [] => []
  | f :: outer => written outer ++ .lparen :: Node.itemTokens f.items.reverse

theorem written_push (f : Frame) (outer : List Frame) (node : Node) :
    written (f.push node :: outer) = written (f :: outer) ++ node.tokens := by
  simp [written, Frame.push, Node.itemTokens_append, Node.itemTokens]

/-- A list that closes is written the same as an item of the list around it. -/
theorem written_close (inner parent : Frame) (outer : List Frame) :
    written (parent.push inner.node :: outer) =
      written (inner :: parent :: outer) ++ [.rparen] := by
  rw [written_push]
  simp [written, Frame.node, Node.tokens]

/-- The depth of a frame counts the lists around it, and nothing in it passes the limit. -/
def Fitting (limit : Option Nat) : List Frame → Prop
  | [] => True
  | f :: outer =>
    f.depth = outer.length + 1 ∧ exceeds limit (f.depth + Node.deepest f.items) = none ∧
      Fitting limit outer

theorem Fitting.push_atom {limit : Option Nat} {inner : Frame} {outer : List Frame}
    (h : Fitting limit (inner :: outer)) (text : String) :
    Fitting limit (inner.push (.atom text) :: outer) := by
  obtain ⟨hdepth, hfits, houter⟩ := h
  refine ⟨hdepth, ?_, houter⟩
  simpa [Frame.push, Node.deepest, Node.depth] using hfits

theorem Fitting.open {limit : Option Nat} {inner : Frame} {outer : List Frame}
    (h : Fitting limit (inner :: outer)) (opening : Nat)
    (hfits : exceeds limit (inner.depth + 1) = none) :
    Fitting limit (⟨opening, inner.depth + 1, []⟩ :: inner :: outer) := by
  refine ⟨?_, hfits, h⟩
  simp [h.1]

theorem Fitting.close {limit : Option Nat} {inner parent : Frame} {outer : List Frame}
    (h : Fitting limit (inner :: parent :: outer)) :
    Fitting limit (parent.push inner.node :: outer) := by
  obtain ⟨hdepth, hfits, hparent, hparentFits, houter⟩ := h
  refine ⟨hparent, ?_, houter⟩
  rw [exceeds_eq_none_iff] at hfits hparentFits ⊢
  intro n hn
  have hin := hfits n hn
  have hup := hparentFits n hn
  simp only [List.length_cons] at hdepth
  simp only [Frame.push, Frame.node, Node.deepest, Node.depth, Node.deepest_reverse]
  omega

/-- What a run accepts: the tokens of its open lists and the tokens it goes on to take are the
tokens of the list that it gives, and that list is within the limit. -/
theorem written_of_collect_ok {limit : Option Nat} {ts : List Lexeme} :
    ∀ {outer : List Frame} {inner : Frame} {taken taken' rest : List Lexeme}
      {items : List Node},
      Fitting limit (inner :: outer) → (∀ l ∈ ts, l.token.Regular) →
      collect limit outer inner taken ts = ⟨.ok items, taken', rest⟩ →
      ∃ used, ts = used ++ rest ∧ taken' = used.reverse ++ taken ∧
        written (inner :: outer) ++ used.map Lexeme.token = (Node.list items).tokens ∧
        exceeds limit (Node.listDepth items) = none := by
  induction ts with
  | nil =>
      intro outer inner taken taken' rest items _ _ h
      simp [collect] at h
  | cons l ts ih =>
      intro outer inner taken taken' rest items hfitting hregular h
      have hrest : ∀ m ∈ ts, m.token.Regular := fun m hm => hregular m (by simp [hm])
      rcases hregular l (by simp) with hopen | hclose | ⟨atom, hatom⟩
      · cases hexceeds : exceeds limit (inner.depth + 1) with
        | some n =>
            rw [collect_lparen_tooDeep hopen hexceeds] at h
            simp at h
        | none =>
            rw [collect_lparen hopen hexceeds] at h
            obtain ⟨used, rfl, rfl, hwritten, hdepth⟩ :=
              ih (hfitting.open l.span.start hexceeds) hrest h
            refine ⟨l :: used, rfl, by simp, ?_, hdepth⟩
            rw [← hwritten]
            simp [written, hopen, Node.itemTokens]
      · cases outer with
        | nil =>
            rw [collect_rparen_last hclose] at h
            simp only [Outcome.mk.injEq, Except.ok.injEq] at h
            obtain ⟨rfl, rfl, rfl⟩ := h
            obtain ⟨hinner, hfits, _⟩ := hfitting
            refine ⟨[l], rfl, by simp, ?_, ?_⟩
            · simp [written, Node.tokens, hclose]
            · rw [Node.listDepth, Node.deepest_reverse]
              simpa [hinner] using hfits
        | cons parent outer =>
            rw [collect_rparen hclose] at h
            obtain ⟨used, rfl, rfl, hwritten, hdepth⟩ := ih hfitting.close hrest h
            refine ⟨l :: used, rfl, by simp, ?_, hdepth⟩
            rw [← hwritten, written_close]
            simp [hclose]
      · rw [collect_atom (hatom ▸ Token.ofAtom_ne_lparen atom)
          (hatom ▸ Token.ofAtom_ne_rparen atom)] at h
        obtain ⟨used, rfl, rfl, hwritten, hdepth⟩ := ih (hfitting.push_atom _) hrest h
        refine ⟨l :: used, rfl, by simp, ?_, hdepth⟩
        rw [← hwritten, written_push]
        simp [Node.tokens, hatom]

theorem fitting_first {limit : Option Nat} (opening : Nat) (h : exceeds limit 1 = none) :
    Fitting limit [⟨opening, 1, []⟩] :=
  ⟨rfl, h, trivial⟩

theorem readWhole_of_tokens {limit : Option Nat} {taken ts : List Lexeme}
    {items : List Node} (htokens : ts.map Lexeme.token = (Node.list items).tokens)
    (hfits : exceeds limit (Node.listDepth items) = none) :
    readWhole limit taken ts = ⟨.ok items, ts.reverse ++ taken, []⟩ := by
  obtain ⟨opening, body, closing, rfl, hopening, hbody, hclosing⟩ := split_list_tokens htokens
  have hone : exceeds limit 1 = none :=
    exceeds_eq_none_of_le hfits (Nat.le_add_right _ _)
  have hrun : collect limit [] ⟨opening.span.start, 1, []⟩ (opening :: taken)
      (body ++ [closing]) =
        ⟨.ok items, (opening :: (body ++ [closing])).reverse ++ taken, []⟩ := by
    rw [collect_itemTokens items hbody hfits, collect_rparen_last hclosing]
    simp
  exact readWhole_of_end hopening hone hrun

theorem tokens_of_readWhole_ok {limit : Option Nat} {taken ts : List Lexeme}
    {items : List Node} (hregular : ∀ l ∈ ts, l.token.Regular)
    (h : (readWhole limit taken ts).result = .ok items) :
    ts.map Lexeme.token = (Node.list items).tokens ∧
      exceeds limit (Node.listDepth items) = none := by
  cases ts with
  | nil => simp [readWhole] at h
  | cons opening more =>
      by_cases hopening : opening.token = .lparen
      · cases hone : exceeds limit 1 with
        | some n =>
            rw [readWhole_tooDeep hopening hone] at h
            cases h
        | none =>
            cases hrun : collect limit [] ⟨opening.span.start, 1, []⟩ (opening :: taken)
                more with
            | mk result taken' rest =>
            cases result with
            | error e =>
                rw [readWhole_of_error hopening hone hrun] at h
                cases h
            | ok read =>
                cases rest with
                | cons extra rest =>
                    rw [readWhole_of_extra hopening hone hrun] at h
                    cases h
                | nil =>
                    rw [readWhole_of_end hopening hone hrun] at h
                    cases h
                    obtain ⟨used, hused, _, hwritten, hdepth⟩ := written_of_collect_ok
                      (fitting_first _ hone) (fun l hl => hregular l (by simp [hl])) hrun
                    refine ⟨?_, hdepth⟩
                    rw [← hwritten, hused]
                    simp [written, hopening, Node.itemTokens]
      · simp [readWhole, hopening] at h

theorem readText_eq (limit : Option Nat) (source : String) :
    readText limit source =
      (readWhole limit [] (scan source)).result.mapError
        (ReadError.map (Text.Position.ofOffset source.toList)) := rfl

theorem readText_eq_ok {limit : Option Nat} {source : String} {items : List Node} :
    readText limit source = .ok items ↔
      (readWhole limit [] (scan source)).result = .ok items := by
  rw [readText_eq]
  cases (readWhole limit [] (scan source)).result <;> simp [Except.mapError]

/-- A text reads as a list if it is written with the tokens of that list, whatever stands
between them, and the list is within the limit. -/
theorem readText_ok_iff {limit : Option Nat} {source : String} {items : List Node} :
    readText limit source = .ok items ↔
      tokens source = (Node.list items).tokens ∧
        exceeds limit (Node.listDepth items) = none := by
  rw [readText_eq_ok]
  constructor
  · intro h
    exact tokens_of_readWhole_ok (fun l hl => regular_of_mem_scan hl) h
  · rintro ⟨htokens, hfits⟩
    rw [readWhole_of_tokens htokens hfits]

/-- Without a limit the reader accepts exactly the texts whose tokens are those of one list
between parentheses, and gives the items of that list. -/
theorem readText_unlimited_iff (source : String) (items : List Node) :
    readText none source = .ok items ↔
      tokens source = .lparen :: (Node.itemTokens items ++ [.rparen]) := by
  rw [readText_ok_iff]
  simp [Node.tokens]

end PlanText
