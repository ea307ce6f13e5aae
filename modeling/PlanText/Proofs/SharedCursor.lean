import PlanText.Proofs.TokensTaken

/-!
One cursor for all that read from it. Whatever is asked of it, in whatever order and with what
outcome, each token is taken once and in its turn, and a call that fails leaves the rest to the
next. How much a call takes is told by what it answers and by the count of parentheses.
-/

namespace PlanText

open Balance

namespace Cursor

open Text

/-- What is asked of a cursor. -/
inductive Call
  /-- The next token. -/
  | token
  /-- The items of a list whose parenthesis is taken. -/
  | items
  /-- Such items within a limit. -/
  | body (limit : Option Nat)
  /-- One list up to the end of the text. -/
  | list (limit : Option Nat)

/-- The cursor after a call, whether the call succeeds or fails. -/
def step (c : Cursor) : Call → Cursor
  | .token => c.next?.2
  | .items => (c.readBody none).2
  | .body limit => (c.readBody limit).2
  | .list limit => (c.readList limit).2

/-- The tokens that a call takes from those that are left. -/
def used (c : Cursor) (call : Call) : List Lexeme :=
  c.rest.take (c.rest.length - (c.step call).rest.length)

def steps (c : Cursor) : List Call → Cursor
  | [] => c
  | call :: calls => (c.step call).steps calls

/-- The tokens that calls take one after another. -/
def consumed (c : Cursor) : List Call → List Lexeme
  | [] => []
  | call :: calls => c.used call ++ (c.step call).consumed calls

/-- The tokens that reading the items of a list takes and leaves, by what it gives. The token
taken last before stands for the parenthesis of the list, whatever token it is. -/
def BodyTakes (c : Cursor) (limit : Option Nat) (used left : List Lexeme) :
    Except (ReadError Position) (List Node) → Prop
  | .ok items =>
    ClosesAfter used ∧ Fits limit 1 used ∧
      used.map Lexeme.token = Node.itemTokens items ++ [.rparen]
  | .error (.unterminated place) =>
    left = [] ∧ KeepsOpen used ∧ Fits limit 1 used ∧
      place = c.positionOf (((lastOpen? used).map (·.span.start)).getD c.lastSpan.start)
  | .error (.tooDeep 0 place) =>
    limit = some 0 ∧ used = [] ∧ place = c.positionOf c.lastSpan.start
  | .error (.tooDeep (n + 1) place) =>
    limit = some (n + 1) ∧ KeepsOpen used ∧
      ∃ l, PassesAfter n used l ∧ place = c.positionOf l.span.start
  | .error _ => False

/-- The tokens that reading a list up to the end of the text takes and leaves, by what it
gives. -/
def ListTakes (c : Cursor) (limit : Option Nat) (used left : List Lexeme) :
    Except (ReadError Position) (List Node) → Prop
  | .ok items =>
    left = [] ∧ Fits limit 0 used ∧ used.map Lexeme.token = (Node.list items).tokens
  | .error .emptyInput => used = [] ∧ left = []
  | .error (.missingOpen found place) =>
    ∃ l, used = [l] ∧ l.token ≠ .lparen ∧ found = l.token.text ∧
      place = c.positionOf l.span.start
  | .error (.unterminated place) =>
    left = [] ∧ neverMatched used ∧ Fits limit 0 used ∧
      ∃ l, lastOpen? used = some l ∧ place = c.positionOf l.span.start
  | .error (.tooDeep n place) =>
    limit = some n ∧ neverMatched used ∧
      ∃ l, PassesAfter n used l ∧ place = c.positionOf l.span.start
  | .error (.unexpected found place) =>
    ∃ list items extra, used = list ++ [extra] ∧ Fits limit 0 list ∧
      list.map Lexeme.token = (Node.list items).tokens ∧ found = extra.token.text ∧
        place = c.positionOf extra.span.start

/-- The tokens that a call takes and leaves, by what it answers. -/
def Exact (c : Cursor) (used left : List Lexeme) : Call → Prop
  | .token =>
    match c.next?.1 with
    | some l => used = [l]
    | none => used = [] ∧ left = []
  | .items => c.BodyTakes none used left (c.readBody none).1
  | .body limit => c.BodyTakes limit used left (c.readBody limit).1
  | .list limit => c.ListTakes limit used left (c.readList limit).1

/-- A cursor that moved forward over some tokens. -/
structure MovedOver (c after : Cursor) (used : List Lexeme) : Prop where
  source : after.source = c.source
  rest : c.rest = used ++ after.rest
  taken : after.taken = used.reverse ++ c.taken

variable {c : Cursor} {limit : Option Nat} {used left : List Lexeme}
  {result : Except (ReadError Nat) (List Node)}

theorem BodyTakes.of_run (hfits : exceeds limit 1 = none)
    (htokens : ∀ items, result = .ok items →
      used.map Lexeme.token = Node.itemTokens items ++ [.rparen])
    (h : RunTakes limit [c.lastSpan.start] used left result) :
    c.BodyTakes limit used left (result.mapError (ReadError.map c.positionOf)) := by
  cases result with
  | ok items =>
      obtain ⟨hcloses, hwithin⟩ := h.closesAfter
      exact ⟨hcloses, hwithin, htokens items rfl⟩
  | error e =>
      cases e with
      | unterminated place =>
          obtain ⟨hleft, hopen, hwithin, hplace⟩ := h.keepsOpen_of_unterminated
          refine ⟨hleft, hopen, hwithin, congrArg c.positionOf ?_⟩
          rw [head?_openAfter] at hplace
          cases hlast : lastOpen? used with
          | some l => simpa [hlast] using hplace.symm
          | none =>
              -- No list that these tokens open is left open, so it is the one around them.
              rw [hlast] at hplace
              obtain ⟨_, hget⟩ := List.getElem?_eq_some_iff.mp hplace
              simpa using hget.symm
      | tooDeep n place =>
          obtain ⟨hlimit, hopen, hover, hwithin, l, hlast, hlparen, rfl⟩ := h.passes
          have hone := exceeds_eq_none_iff.mp hfits n hlimit
          obtain ⟨m, rfl⟩ : ∃ m, n = m + 1 := ⟨n - 1, by omega⟩
          refine ⟨hlimit, hopen, l, ⟨hlast, hlparen, by omega, ?_⟩, rfl⟩
          intro k hk
          have hle := hwithin k hk
          omega
      | _ => exact h.ends.elim

theorem readBody_takes (limit : Option Nat) (hregular : ∀ l ∈ c.rest, l.token.Regular) :
    ∃ used, c.MovedOver (c.readBody limit).2 used ∧
      c.BodyTakes limit used (c.readBody limit).2.rest (c.readBody limit).1 := by
  cases hexceeds : exceeds limit 1 with
  | some n =>
      obtain ⟨hlimit, hn⟩ := exceeds_eq_some_iff.mp hexceeds
      obtain rfl : n = 0 := by omega
      simp only [readBody, readItems, hexceeds]
      exact ⟨[], ⟨rfl, rfl, rfl⟩, hlimit, rfl, rfl⟩
  | none =>
      obtain ⟨used, hrest, htaken, htakes, htokens⟩ :=
        collect_first_takes c.lastSpan.start c.taken hexceeds hregular
      simp only [readBody, readItems, hexceeds]
      exact ⟨used, ⟨rfl, hrest, htaken⟩, .of_run hexceeds htokens htakes⟩

theorem ListTakes.of_run {l : Lexeme} (hlparen : l.token = .lparen)
    (hresult : ∀ items, result ≠ .ok items)
    (h : RunTakes limit [l.span.start] used left result) :
    c.ListTakes limit (l :: used) left (result.mapError (ReadError.map c.positionOf)) := by
  cases result with
  | ok items => exact absurd rfl (hresult items)
  | error e =>
      cases e with
      | unterminated place =>
          obtain ⟨hleft, hopen, hwithin, hplace⟩ := h.keepsOpen_of_unterminated
          rw [← openAfter_lparen hlparen [], head?_openAfter] at hplace
          obtain ⟨last, hlast, rfl⟩ : ∃ last, lastOpen? (l :: used) = some last ∧
              last.span.start = place := by
            simpa using hplace
          exact ⟨hleft, hopen.neverMatched hlparen, fits_lparen hlparen hwithin, last, hlast, rfl⟩
      | tooDeep n place =>
          obtain ⟨hlimit, hopen, hover, hwithin, last, hlast, hlastOpen, rfl⟩ := h.passes
          refine ⟨hlimit, hopen.neverMatched hlparen, last, ⟨?_, hlastOpen, ?_, ?_⟩, rfl⟩
          · rw [List.getLast?_cons, hlast]
            rfl
          · simpa [count, hlparen, weight] using hover
          · intro k hk
            cases k with
            | zero => simp [count]
            | succ k =>
                have hle := hwithin k (Nat.lt_of_succ_lt_succ hk)
                simpa [count, hlparen, weight] using hle
      | _ => exact h.ends.elim

/-- A list that is within the limit where it opens: the run over its items, and then the end of
the text or the token that follows the list. -/
theorem readWhole_takes {l : Lexeme} {ts : List Lexeme} (c : Cursor) (taken : List Lexeme)
    (hopen : l.token = .lparen) (hfits : exceeds limit 1 = none)
    (hregular : ∀ m ∈ ts, m.token.Regular) :
    let o := readWhole limit taken (l :: ts)
    ∃ used, l :: ts = used ++ o.rest ∧ o.taken = used.reverse ++ taken ∧
      c.ListTakes limit used o.rest (o.result.mapError (ReadError.map c.positionOf)) := by
  obtain ⟨used, hrest, htaken, htakes, htokens⟩ :=
    collect_first_takes l.span.start (l :: taken) hfits hregular
  cases hrun : collect limit [] ⟨l.span.start, 1, []⟩ (l :: taken) ts with
  | mk result taken' left =>
  rw [hrun] at hrest htaken htakes htokens
  obtain rfl : ts = used ++ left := hrest
  obtain rfl : taken' = used.reverse ++ l :: taken := htaken
  cases result with
  | error e =>
      rw [readWhole_of_error hopen hfits hrun]
      exact ⟨l :: used, rfl, by simp, .of_run hopen (by simp) htakes⟩
  | ok items =>
      have hwithin : Fits limit 0 (l :: used) := fits_lparen hopen htakes.closesAfter.2
      have hlist : (l :: used).map Lexeme.token = (Node.list items).tokens := by
        rw [List.map_cons, hopen, htokens items rfl]
        rfl
      cases left with
      | nil =>
          rw [readWhole_of_end hopen hfits hrun]
          exact ⟨l :: used, rfl, by simp, rfl, hwithin, hlist⟩
      | cons extra left =>
          rw [readWhole_of_extra hopen hfits hrun]
          exact ⟨l :: used ++ [extra], by simp, by simp, l :: used, items, extra, rfl, hwithin,
            hlist, rfl, rfl⟩

theorem readList_takes (limit : Option Nat) (hregular : ∀ l ∈ c.rest, l.token.Regular) :
    ∃ used, c.MovedOver (c.readList limit).2 used ∧
      c.ListTakes limit used (c.readList limit).2.rest (c.readList limit).1 := by
  obtain ⟨source, taken, ts⟩ := c
  cases ts with
  | nil => exact ⟨[], ⟨rfl, rfl, rfl⟩, rfl, rfl⟩
  | cons l ts =>
      by_cases hopen : l.token = .lparen
      · cases hexceeds : exceeds limit 1 with
        | some n =>
            obtain ⟨hlimit, hn⟩ := exceeds_eq_some_iff.mp hexceeds
            have hnever : neverMatched [l] = true := by
              rw [neverMatched_iff hopen]
              rfl
            simp only [readList, readWhole_tooDeep hopen hexceeds]
            refine ⟨[l], ⟨rfl, rfl, rfl⟩, hlimit, hnever, l, ⟨rfl, hopen, ?_, ?_⟩, rfl⟩
            · simp only [count, hopen, weight]
              omega
            · simp [count]
        | none =>
            obtain ⟨used, hrest, htaken, htakes⟩ := readWhole_takes ⟨source, taken, l :: ts⟩ taken
              hopen hexceeds fun m hm => hregular m (.tail _ hm)
            exact ⟨used, ⟨rfl, hrest, htaken⟩, htakes⟩
      · have hread : readWhole limit taken (l :: ts) =
            ⟨.error (.missingOpen l.token.text l.span.start), l :: taken, ts⟩ := by
          simp [readWhole, hopen]
        simp only [readList, hread]
        exact ⟨[l], ⟨rfl, rfl, rfl⟩, l, rfl, hopen, rfl, rfl⟩

theorem next?_takes (c : Cursor) :
    ∃ used, c.MovedOver c.next?.2 used ∧
      match c.next?.1 with
      | some l => used = [l]
      | none => used = [] ∧ c.next?.2.rest = [] := by
  obtain ⟨source, taken, ts⟩ := c
  cases ts with
  | nil => exact ⟨[], ⟨rfl, rfl, rfl⟩, rfl, rfl⟩
  | cons l ts => exact ⟨[l], ⟨rfl, rfl, rfl⟩, rfl⟩

/-- Every call moves the cursor forward over the tokens that it takes. -/
theorem step_takes (hregular : ∀ l ∈ c.rest, l.token.Regular) (call : Call) :
    c.MovedOver (c.step call) (c.used call) ∧
      c.Exact (c.used call) (c.step call).rest call := by
  have htakes : ∃ used, c.MovedOver (c.step call) used ∧
      c.Exact used (c.step call).rest call := by
    cases call with
    | token => exact c.next?_takes
    | items => exact readBody_takes none hregular
    | body limit => exact readBody_takes limit hregular
    | list limit => exact readList_takes limit hregular
  obtain ⟨used, hmoved, hexact⟩ := htakes
  obtain rfl : used = c.used call := by
    rw [Cursor.used, hmoved.rest]
    simp
  exact ⟨hmoved, hexact⟩

theorem MovedOver.trans {b a : Cursor} {first second : List Lexeme}
    (hfirst : c.MovedOver b first) (hsecond : b.MovedOver a second) :
    c.MovedOver a (first ++ second) where
  source := hsecond.source.trans hfirst.source
  rest := by rw [hfirst.rest, hsecond.rest, List.append_assoc]
  taken := by rw [hsecond.taken, hfirst.taken, List.reverse_append, List.append_assoc]

theorem steps_moved (hregular : ∀ l ∈ c.rest, l.token.Regular) (calls : List Call) :
    c.MovedOver (c.steps calls) (c.consumed calls) := by
  induction calls generalizing c with
  | nil => exact ⟨rfl, rfl, rfl⟩
  | cons call calls ih =>
      have hmoved := (step_takes hregular call).1
      exact hmoved.trans (ih fun l hl => hregular l (by simp [hmoved.rest, hl]))

/-- Whatever calls are made on the cursor over a text, whether they succeed or fail, what they
take one after another and what is left are together the tokens of the text, in order and each
once. The span taken last is that of the last token that they took. The next call takes exactly
the tokens that its answer tells. -/
theorem steps_exact (source : String) (calls : List Call) :
    let c := (start source).steps calls
    let consumed := (start source).consumed calls
    consumed ++ c.rest = scan source ∧
      c.lastSpan = (consumed.getLast?.map Lexeme.span).getD ⟨0, 0⟩ ∧ c.source = source ∧
        ∀ call, c.rest = c.used call ++ (c.step call).rest ∧
          c.Exact (c.used call) (c.step call).rest call := by
  intro c consumed
  have hmoved : (start source).MovedOver c consumed :=
    steps_moved (fun l hl => regular_of_mem_scan hl) calls
  have hrest : scan source = consumed ++ c.rest := hmoved.rest
  have htaken : c.taken = consumed.reverse := by simpa [start] using hmoved.taken
  refine ⟨hrest.symm, ?_, hmoved.source, ?_⟩
  · rw [lastSpan, htaken, ← List.head?_reverse]
    cases consumed.reverse <;> rfl
  · intro call
    have hregular : ∀ l ∈ c.rest, l.token.Regular := by
      intro l hl
      have hmem : l ∈ scan source := hrest ▸ List.mem_append_right consumed hl
      exact regular_of_mem_scan hmem
    obtain ⟨hnext, hexact⟩ := step_takes hregular call
    exact ⟨hnext.rest, hexact⟩

/-- A list that is too deep leaves the next call inside it. -/
example : (((start "(a (b) c)").steps [.list (some 1)]).readBody none).1 = .ok [.atom "b"] := rfl

end Cursor

end PlanText
