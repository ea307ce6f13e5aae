import PlanText.Proofs.Agreement
import PlanText.Proofs.Faults
import PlanText.Proofs.Joining
import PlanText.Proofs.Layout

/-!
Texts that go on against the reader. More text leaves all tokens as they are but the last,
which may grow if it is no parenthesis. A run that has come to a fault or to the end of the
list does not look further, and a run that still has lists open goes on from them. Hence what
the reader says of a text is final, except that the text is too short.
-/

namespace PlanText

open Text Balance

/-! The tokens of a text that goes on. -/

namespace Scanner

/-- The text ahead may continue the token in hand, but does not take from it. -/
theorem exists_ahead_inside {start : Nat} {chars : List Char} {offset : Nat}
    {text : List Char} :
    ∃ plains more, ahead (.inside start chars) offset text =
      ⟨start, chars.reverse ++ plains⟩ :: more ∧ ∀ c ∈ plains, CharKind.of c = .plain := by
  induction text generalizing chars offset with
  | nil => exact ⟨[], [], by simp [ahead], by simp⟩
  | cons c rest ih =>
      by_cases hkind : CharKind.of c = .plain
      · obtain ⟨plains, more, hahead, hplains⟩ := @ih (c :: chars) (offset + c.utf8Size)
        refine ⟨c :: plains, more, ?_, by simpa [hkind] using hplains⟩
        rw [ahead_inside_plain hkind, hahead]
        simp
      · refine ⟨[], ahead .gap offset (c :: rest), ?_, by simp⟩
        rw [ahead_of_parted (by simp) (parted_cons hkind)]
        simp

end Scanner

theorem IsWord.append {word plains : List Char} (h : IsWord word)
    (hplains : ∀ c ∈ plains, CharKind.of c = .plain) : IsWord (word ++ plains) := by
  cases word with
  | nil => exact h.elim
  | cons c rest => exact ⟨h.1, List.forall_mem_append.mpr ⟨h.2, hplains⟩⟩

/-- An atom, that is, a token that is no parenthesis. -/
def Lexeme.IsAtom (l : Lexeme) : Prop := l.token ≠ .lparen ∧ l.token ≠ .rparen

theorem isAtom_lexeme {s : Slice} (h : IsWord s.chars) : s.lexeme.IsAtom := by
  rw [Lexeme.IsAtom, Slice.lexeme, Slice.token_of_isWord h]
  exact ⟨Token.ofAtom_ne_lparen _, Token.ofAtom_ne_rparen _⟩

/-- How the tokens of a text go on: there are more of them, and before those the last one may
have grown, if it is an atom. -/
inductive Continues : List Lexeme → List Lexeme → Prop
  | more (ts new : List Lexeme) : Continues ts (ts ++ new)
  | grown (ts new : List Lexeme) {l l' : Lexeme} (hl : l.IsAtom) (hl' : l'.IsAtom)
      (hstart : l'.span.start = l.span.start) : Continues (ts ++ [l]) (ts ++ l' :: new)

theorem scan_continues (source suffix : String) :
    Continues (scan source) (scan (source ++ suffix)) := by
  have hsound := Scanner.after_sound source.toList
  rw [scan, scan, String.toList_append, Scanner.slices_append, Scanner.slices_eq_after]
  cases hmode : (Scanner.after source.toList).mode with
  | gap =>
      rw [Scanner.pending_gap, List.append_nil, List.map_append]
      exact .more _ _
  | comment =>
      rw [Scanner.pending_comment, List.append_nil, List.map_append]
      exact .more _ _
  | inside start chars =>
      rw [hmode] at hsound
      obtain ⟨plains, more, hahead, hplains⟩ :=
        @Scanner.exists_ahead_inside start chars (utf8Length source.toList) suffix.toList
      rw [hahead, Scanner.pending_inside, List.map_append, List.map_append]
      exact .grown _ _ (isAtom_lexeme hsound) (isAtom_lexeme (IsWord.append hsound hplains)) rfl

/-! A run over tokens that go on. -/

section Runs

variable {limit : Option Nat} {outer : List Frame} {inner : Frame} {taken ts : List Lexeme}

/-- A run that has come to its end does not look at what follows. -/
theorem collect_append_of_settled
    (h : ∀ place, (collect limit outer inner taken ts).result ≠ .error (.unterminated place))
    (more : List Lexeme) :
    let o := collect limit outer inner taken ts
    collect limit outer inner taken (ts ++ more) = { o with rest := o.rest ++ more } := by
  induction outer, inner, taken, ts using run_induction limit with
  | stop outer inner taken => exact absurd rfl (h inner.opening)
  | tooDeep outer inner taken l rest n hopen hdeep =>
      rw [List.cons_append, collect_lparen_tooDeep hopen hdeep, collect_lparen_tooDeep hopen hdeep]
  | opens outer inner taken l rest hopen hfits ih =>
      rw [collect_lparen hopen hfits] at h
      rw [List.cons_append, collect_lparen hopen hfits, collect_lparen hopen hfits]
      exact ih h
  | ends inner taken l rest hclose =>
      rw [List.cons_append, collect_rparen_last hclose, collect_rparen_last hclose]
  | closes parent outer inner taken l rest hclose ih =>
      rw [collect_rparen hclose] at h
      rw [List.cons_append, collect_rparen hclose, collect_rparen hclose]
      exact ih h
  | atom outer inner taken l rest hopen hclose ih =>
      rw [collect_atom hopen hclose] at h
      rw [List.cons_append, collect_atom hopen hclose, collect_atom hopen hclose]
      exact ih h

/-- A run that ends inside lists goes on from them: they are those that the tokens leave open. -/
theorem collect_append_of_open {place : Nat}
    (h : (collect limit outer inner taken ts).result = .error (.unterminated place)) :
    ∃ outer' inner',
      (inner' :: outer').map Frame.opening =
        openAfter ((inner :: outer).map Frame.opening) ts ∧
      (outer'.length : Int) = outer.length + count ts ∧
      ∀ more, collect limit outer inner taken (ts ++ more) =
        collect limit outer' inner' (ts.reverse ++ taken) more := by
  induction outer, inner, taken, ts using run_induction limit with
  | stop outer inner taken => exact ⟨outer, inner, rfl, by simp [count], fun _ => rfl⟩
  | tooDeep outer inner taken l rest n hopen hdeep =>
      rw [collect_lparen_tooDeep hopen hdeep] at h
      simp at h
  | opens outer inner taken l rest hopen hfits ih =>
      rw [collect_lparen hopen hfits] at h
      obtain ⟨outer', inner', hopenings, hcount, hrun⟩ := ih h
      refine ⟨outer', inner', ?_, ?_, ?_⟩
      · rw [openAfter_lparen hopen]
        exact hopenings
      · simp only [count, hopen, weight, hcount, List.length_cons]
        omega
      · intro more
        rw [List.cons_append, collect_lparen hopen hfits, hrun]
        simp
  | ends inner taken l rest hclose =>
      rw [collect_rparen_last hclose] at h
      simp at h
  | closes parent outer inner taken l rest hclose ih =>
      rw [collect_rparen hclose] at h
      obtain ⟨outer', inner', hopenings, hcount, hrun⟩ := ih h
      refine ⟨outer', inner', ?_, ?_, ?_⟩
      · rw [openAfter_rparen hclose]
        exact hopenings
      · simp only [count, hclose, weight, hcount, List.length_cons]
        omega
      · intro more
        rw [List.cons_append, collect_rparen hclose, hrun]
        simp
  | atom outer inner taken l rest hopen hclose ih =>
      rw [collect_atom hopen hclose] at h
      obtain ⟨outer', inner', hopenings, hcount, hrun⟩ := ih h
      refine ⟨outer', inner', ?_, ?_, ?_⟩
      · rw [openAfter_other hopen hclose]
        exact hopenings
      · simp [count, weight_other hopen hclose, hcount]
      · intro more
        rw [List.cons_append, collect_atom hopen hclose, hrun]
        simp

/-- Closing parentheses alone: too few of them leave lists open, so many as there are lists end
the outermost one, and one more is a fault. -/
theorem collect_closings {closings : List Lexeme} (h : ∀ l ∈ closings, l.token = .rparen) :
    ∀ {outer : List Frame} {inner : Frame} {taken : List Lexeme},
      let o := (collect limit outer inner taken closings).whole
      (closings.length = outer.length + 1 → ∃ items, o.result = .ok items) ∧
        (closings.length < outer.length + 1 → ∃ place, o.result = .error (.unterminated place)) ∧
        (outer.length + 1 < closings.length →
          ∃ place, o.result = .error (.unexpected ")" place)) := by
  induction closings with
  | nil =>
      intro outer inner taken
      refine ⟨by simp, fun _ => ⟨inner.opening, rfl⟩, by simp⟩
  | cons l rest ih =>
      intro outer inner taken
      have hclose := h l (by simp)
      cases outer with
      | cons parent outer =>
          simp only [collect_rparen hclose, List.length_cons, Nat.add_right_cancel_iff,
            Nat.add_lt_add_iff_right]
          exact ih fun m hm => h m (by simp [hm])
      | nil =>
          rw [collect_rparen_last hclose]
          cases rest with
          | nil => exact ⟨fun _ => ⟨_, rfl⟩, by simp, by simp⟩
          | cons extra more =>
              have hextra := h extra (by simp)
              refine ⟨by simp, by simp, fun _ => ⟨extra.span.start, ?_⟩⟩
              simp [Outcome.whole, hextra, Token.text]

end Runs

/-! A whole text that goes on. -/

namespace Outcome

variable {o : Outcome}

theorem whole_eq_unterminated {place : Nat} :
    o.whole.result = .error (.unterminated place) ↔ o.result = .error (.unterminated place) := by
  rcases o with ⟨result, taken, rest⟩
  cases result with
  | error e => rfl
  | ok items => cases rest <;> simp [whole]

theorem whole_append_of_error {e : ReadError Nat} (h : o.whole.result = .error e)
    (more : List Lexeme) :
    ({ o with rest := o.rest ++ more } : Outcome).whole.result = .error e := by
  rcases o with ⟨result, taken, rest⟩
  cases result with
  | error e => exact h
  | ok items =>
      cases rest with
      | nil => simp [whole] at h
      | cons extra others => exact h

theorem whole_append_of_ok {items : List Node} (h : o.whole.result = .ok items) (extra : Lexeme)
    (more : List Lexeme) :
    ({ o with rest := o.rest ++ extra :: more } : Outcome).whole.result =
      .error (.unexpected extra.token.text extra.span.start) := by
  rcases o with ⟨result, taken, rest⟩
  cases result with
  | error e => simp [whole] at h
  | ok items =>
      cases rest with
      | nil => rfl
      | cons other others => simp [whole] at h

end Outcome

/-- The faults that more text does not mend. -/
def ReadError.Final {Place : Type} : ReadError Place → Prop
  | .emptyInput => False
  | .unterminated _ => False
  | _ => True

/-- The fault without the text that was found: its kind, its place and its limit. -/
def ReadError.withoutFound {Place : Type} : ReadError Place → ReadError Place
  | .missingOpen _ place => .missingOpen "" place
  | .unexpected _ place => .unexpected "" place
  | e => e

section Whole

variable {limit : Option Nat} {taken ts : List Lexeme}

theorem readItems_append_of_settled {opening : Nat}
    (h : ∀ place, (readItems limit opening taken ts).result ≠ .error (.unterminated place))
    (more : List Lexeme) :
    let o := readItems limit opening taken ts
    readItems limit opening taken (ts ++ more) = { o with rest := o.rest ++ more } := by
  unfold readItems at h ⊢
  cases hexceeds : exceeds limit 1 with
  | some n => rfl
  | none =>
      rw [hexceeds] at h
      exact collect_append_of_settled h more

theorem readWhole_append_of_final {e : ReadError Nat}
    (h : (readWhole limit taken ts).result = .error e) (hfinal : e.Final) (more : List Lexeme) :
    (readWhole limit taken (ts ++ more)).result = .error e := by
  cases ts with
  | nil =>
      obtain rfl : ReadError.emptyInput = e := by simpa [readWhole] using h
      exact hfinal.elim
  | cons l rest =>
      by_cases hopen : l.token = .lparen
      · rw [readWhole_lparen hopen] at h
        have hsettled : ∀ place, (readItems limit l.span.start (l :: taken) rest).result ≠
            .error (.unterminated place) := by
          intro place hplace
          rw [Outcome.whole_eq_unterminated.mpr hplace, Except.error.injEq] at h
          subst h
          exact hfinal
        rw [List.cons_append, readWhole_lparen hopen, readItems_append_of_settled hsettled]
        exact Outcome.whole_append_of_error h more
      · simpa [readWhole, hopen] using h

theorem readWhole_append_of_ok {items : List Node}
    (h : (readWhole limit taken ts).result = .ok items) (extra : Lexeme) (more : List Lexeme) :
    (readWhole limit taken (ts ++ extra :: more)).result =
      .error (.unexpected extra.token.text extra.span.start) := by
  cases ts with
  | nil => simp [readWhole] at h
  | cons l rest =>
      by_cases hopen : l.token = .lparen
      · rw [readWhole_lparen hopen] at h
        have hsettled : ∀ place, (readItems limit l.span.start (l :: taken) rest).result ≠
            .error (.unterminated place) := by
          intro place hplace
          rw [Outcome.whole_eq_unterminated.mpr hplace] at h
          cases h
        rw [List.cons_append, readWhole_lparen hopen, readItems_append_of_settled hsettled]
        exact Outcome.whole_append_of_ok h extra more
      · simp [readWhole, hopen] at h

/-- A text that ends inside lists goes on from them. -/
theorem readWhole_append_of_open {place : Nat}
    (h : (readWhole limit taken ts).result = .error (.unterminated place)) :
    ∃ outer inner,
      (inner :: outer).map Frame.opening = openAfter [] ts ∧
      ((outer.length + 1 : Nat) : Int) = count ts ∧
      ∀ more, readWhole limit taken (ts ++ more) =
        (collect limit outer inner (ts.reverse ++ taken) more).whole := by
  cases ts with
  | nil => simp [readWhole] at h
  | cons l rest =>
      by_cases hopen : l.token = .lparen
      · rw [readWhole_lparen hopen, Outcome.whole_eq_unterminated] at h
        cases hexceeds : exceeds limit 1 with
        | some n => simp [readItems, hexceeds] at h
        | none =>
            simp only [readItems, hexceeds] at h
            obtain ⟨outer, inner, hopenings, hcount, hrun⟩ := collect_append_of_open h
            refine ⟨outer, inner, ?_, ?_, ?_⟩
            · rw [openAfter_lparen hopen]
              exact hopenings
            · simp only [count, hopen, weight]
              push_cast
              rw [hcount]
              simp [Int.add_comm]
            · intro more
              rw [List.cons_append, readWhole_lparen hopen]
              simp only [readItems, hexceeds]
              rw [hrun]
              simp
      · simp [readWhole, hopen] at h

theorem eq_nil_of_emptyInput (h : (readWhole limit taken ts).result = .error .emptyInput) :
    ts = [] := by
  cases ts with
  | nil => rfl
  | cons l rest =>
      have hfault : fault? limit (l :: rest) ≠ some .emptyInput := by
        simp only [fault?]
        repeat' split
        all_goals simp
      have houtcome := readWhole_outcome limit taken (l :: rest)
      rw [h] at houtcome
      cases hcases : fault? limit (l :: rest) with
      | none => simp [hcases] at houtcome
      | some e =>
          rw [hcases] at houtcome hfault
          simp_all

/-- An atom at the end settles nothing itself: the fault was there before it, or it stands where
no atom may, however long it is, or lists stay open. -/
theorem readWhole_append_atom {l l' : Lexeme} (hl : l.IsAtom) (hl' : l'.IsAtom)
    (hstart : l'.span.start = l.span.start) (new : List Lexeme) :
    (∀ items, (readWhole limit taken (ts ++ [l])).result ≠ .ok items) ∧
      ∀ e, (readWhole limit taken (ts ++ [l])).result = .error e → e.Final →
        ∃ e', (readWhole limit taken (ts ++ l' :: new)).result = .error e' ∧
          e'.withoutFound = e.withoutFound := by
  cases hprior : (readWhole limit taken ts).result with
  | ok items =>
      rw [readWhole_append_of_ok hprior, readWhole_append_of_ok hprior]
      refine ⟨by simp, ?_⟩
      rintro e he _
      cases he
      exact ⟨_, rfl, by simp [ReadError.withoutFound, hstart]⟩
  | error fault =>
      by_cases hfinal : fault.Final
      · rw [readWhole_append_of_final hprior hfinal, readWhole_append_of_final hprior hfinal]
        refine ⟨by simp, ?_⟩
        rintro e he _
        cases he
        exact ⟨_, rfl, rfl⟩
      · cases fault with
        | missingOpen found place => exact absurd trivial hfinal
        | unexpected found place => exact absurd trivial hfinal
        | tooDeep n place => exact absurd trivial hfinal
        | emptyInput =>
            obtain rfl := eq_nil_of_emptyInput hprior
            simp only [List.nil_append, readWhole, hl.1, hl'.1, if_false]
            refine ⟨by simp, ?_⟩
            rintro e he _
            cases he
            exact ⟨_, rfl, by simp [ReadError.withoutFound, hstart]⟩
        | unterminated place =>
            -- Here the atom is one more item, and the text still ends inside lists.
            obtain ⟨outer, inner, _, _, hrun⟩ := readWhole_append_of_open hprior
            rw [hrun, collect_atom hl.1 hl.2]
            refine ⟨by simp [collect, Outcome.whole], ?_⟩
            rintro e he hfinal
            cases he
            exact hfinal.elim

/-- What the reader says of the tokens of a text holds of the tokens of a text that goes on. -/
theorem readWhole_continues {us : List Lexeme} (h : Continues ts us) :
    (∀ items, (readWhole limit taken ts).result = .ok items →
      (readWhole limit taken us).result = .ok items ∨
        ∃ found place, (readWhole limit taken us).result = .error (.unexpected found place)) ∧
      ∀ e, (readWhole limit taken ts).result = .error e → e.Final →
        ∃ e', (readWhole limit taken us).result = .error e' ∧
          e'.withoutFound = e.withoutFound := by
  cases h with
  | more _ new =>
      refine ⟨?_, fun e he hfinal => ⟨e, readWhole_append_of_final he hfinal new, rfl⟩⟩
      intro items hitems
      cases new with
      | nil => exact Or.inl (by rwa [List.append_nil])
      | cons extra more => exact Or.inr ⟨_, _, readWhole_append_of_ok hitems extra more⟩
  | grown ts new hl hl' hstart =>
      obtain ⟨hok, herror⟩ := readWhole_append_atom hl hl' hstart new
      exact ⟨fun items hitems => absurd hitems (hok items), herror⟩

end Whole

/-! The text itself. -/

/-- A text with so many closing parentheses after it, on a line of their own. -/
def closedBy (source : String) (n : Nat) : String :=
  source ++ "\n" ++ String.ofList (List.replicate n ')')

theorem tokens_closings (n : Nat) :
    tokens (String.ofList (List.replicate n ')')) = List.replicate n .rparen := by
  rw [tokens_eq, String.toList_ofList]
  induction n with
  | zero => rfl
  | succ n ih => rw [List.replicate_succ, List.replicate_succ, tokensOf_rparen, ih]

theorem scan_closedBy (source : String) (n : Nat) :
    ∃ closings, scan (closedBy source n) = scan source ++ closings ∧ closings.length = n ∧
      ∀ l ∈ closings, l.token = .rparen := by
  have htokens := tokens_closings n
  rw [tokens, scan, String.toList_ofList, List.map_map] at htokens
  have htext : (closedBy source n).toList = source.toList ++ '\n' :: List.replicate n ')' := by
    simp [closedBy]
  rw [scan, scan, htext, Scanner.slices_newline, List.map_append, List.map_map]
  refine ⟨_, rfl, ?_, ?_⟩
  · simpa using congrArg List.length htokens
  · intro l hl
    obtain ⟨s, hs, rfl⟩ := List.mem_map.mp hl
    exact List.eq_of_mem_replicate (htokens ▸ List.mem_map_of_mem hs)

/-- The positions of faults are found in a text that goes on as well. -/
theorem readText_eq_within (limit : Option Nat) (source suffix : String) :
    readText limit source =
      (readWhole limit [] (scan source)).result.mapError
        (ReadError.map (Position.ofOffset (source ++ suffix).toList)) := by
  rw [readText_eq]
  apply readWhole_congr
  rw [placed, placed, scan, List.map_map, List.map_map]
  apply List.map_congr_left
  intro s hs
  have hplace := ofOffset_append (start_le_of_mem_slices hs) suffix.toList
  simp [Slice.lexeme, Slice.span, hplace]

theorem ReadError.withoutFound_map {Place Other : Type} (f : Place → Other)
    (e : ReadError Place) : (e.map f).withoutFound = e.withoutFound.map f := by
  cases e <;> rfl

theorem ReadError.final_map {Place Other : Type} (f : Place → Other) (e : ReadError Place) :
    (e.map f).Final ↔ e.Final := by
  cases e <;> rfl

theorem readText_append_of_final {limit : Option Nat} {source : String}
    {fault : ReadError Position} (h : readText limit source = .error fault)
    (hfinal : fault.Final) (suffix : String) :
    ∃ fault', readText limit (source ++ suffix) = .error fault' ∧
      fault'.withoutFound = fault.withoutFound := by
  rw [readText_eq_within limit source suffix] at h
  cases hread : (readWhole limit [] (scan source)).result with
  | ok items => simp [hread, Except.mapError] at h
  | error e =>
      rw [hread] at h
      obtain rfl := Except.error.inj h
      obtain ⟨e', hread', hsame⟩ := (readWhole_continues (scan_continues source suffix)).2 e hread
        ((ReadError.final_map _ e).mp hfinal)
      refine ⟨_, by rw [readText_eq, hread']; rfl, ?_⟩
      rw [ReadError.withoutFound_map, ReadError.withoutFound_map, hsame]

theorem readText_append_of_ok {limit : Option Nat} {source : String} {items : List Node}
    (h : readText limit source = .ok items) (suffix : String) :
    readText limit (source ++ suffix) = .ok items ∨
      ∃ found place, readText limit (source ++ suffix) = .error (.unexpected found place) := by
  rw [readText_eq_ok] at h ⊢
  rcases (readWhole_continues (scan_continues source suffix)).1 items h with
    hok | ⟨found, place, herror⟩
  · exact Or.inl hok
  · right
    exact ⟨found, _, by rw [readText_eq, herror]; rfl⟩

/-- Parentheses that close lists go on from the lists that the text leaves open. -/
theorem readText_closedBy {limit : Option Nat} {source : String} {place : Position}
    (h : readText limit source = .error (.unterminated place)) :
    ∃ outer inner taken,
      (openAfter [] (scan source)).length = outer.length + 1 ∧
      ((outer.length + 1 : Nat) : Int) = count (scan source) ∧
      ∀ n, ∃ closings,
        closings.length = n ∧ (∀ l ∈ closings, l.token = .rparen) ∧
        readText limit (closedBy source n) =
          (collect limit outer inner taken closings).whole.result.mapError
            (ReadError.map (Position.ofOffset (closedBy source n).toList)) := by
  rw [readText_eq] at h
  cases hread : (readWhole limit [] (scan source)).result with
  | ok items => simp [hread, Except.mapError] at h
  | error e =>
      cases e with
      | unterminated opening =>
          obtain ⟨outer, inner, hopenings, hcount, hrun⟩ := readWhole_append_of_open hread
          refine ⟨outer, inner, (scan source).reverse ++ [], ?_, hcount, ?_⟩
          · rw [← hopenings]
            simp
          · intro n
            obtain ⟨closings, hscan, hlength, hclosings⟩ := scan_closedBy source n
            refine ⟨closings, hlength, hclosings, ?_⟩
            rw [readText_eq, hscan, hrun]
      | _ => simp [hread, Except.mapError, ReadError.map] at h

/-- What the reader says of a text is final, but for a text that ends inside lists. Such a text
is the start of a list: with so many closing parentheses as there are lists open it is read,
with fewer it still ends inside lists and with more there is one too many. After any other
fault, if there is a token at all, every text that goes on has the same fault at the same
position, with only more of the token found, and after a list there is the list or a token that
follows it. -/
theorem readText_continued (limit : Option Nat) (source : String) :
    match readText limit source with
    | .error (.unterminated _) =>
      let lists := (openAfter [] (scan source)).length
      1 ≤ lists ∧ (lists : Int) = count (scan source) ∧
        (∃ items, readText limit (closedBy source lists) = .ok items) ∧
        (∀ n < lists, ∃ place,
          readText limit (closedBy source n) = .error (.unterminated place)) ∧
        ∀ n > lists, ∃ place,
          readText limit (closedBy source n) = .error (.unexpected ")" place)
    | .error .emptyInput => True
    | .error fault => ∀ suffix, ∃ fault',
      readText limit (source ++ suffix) = .error fault' ∧
        fault'.withoutFound = fault.withoutFound
    | .ok items => ∀ suffix,
      readText limit (source ++ suffix) = .ok items ∨
        ∃ found place, readText limit (source ++ suffix) = .error (.unexpected found place) := by
  split
  next place hread =>
    obtain ⟨outer, inner, taken, hlists, hcount, hclosed⟩ := readText_closedBy hread
    rw [hlists]
    refine ⟨Nat.le_add_left _ _, hcount, ?_, ?_, ?_⟩
    · obtain ⟨closings, hlength, hclosings, hresult⟩ := hclosed (outer.length + 1)
      obtain ⟨items, hitems⟩ := (collect_closings hclosings).1 hlength
      exact ⟨items, by rw [hresult, hitems]; rfl⟩
    · intro n hn
      obtain ⟨closings, rfl, hclosings, hresult⟩ := hclosed n
      obtain ⟨opening, hopening⟩ := (collect_closings hclosings).2.1 hn
      exact ⟨_, by rw [hresult, hopening]; rfl⟩
    · intro n hn
      obtain ⟨closings, rfl, hclosings, hresult⟩ := hclosed n
      obtain ⟨extra, hextra⟩ := (collect_closings hclosings).2.2 hn
      exact ⟨_, by rw [hresult, hextra]; rfl⟩
  next => trivial
  next fault hopen hempty hread =>
    apply readText_append_of_final hread
    cases fault with
    | unterminated place => exact absurd rfl (hopen place)
    | emptyInput => exact absurd rfl hempty
    | _ => trivial
  next items hread => exact readText_append_of_ok hread

end PlanText
