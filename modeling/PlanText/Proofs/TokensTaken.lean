import PlanText.Proofs.Faults

/-!
The tokens that a run takes. A run takes them from the front, one after another, and where it
stops can be told from the count of parentheses: lists stay open and within the limit up to the
last token that it takes.
-/

namespace PlanText

open Balance

namespace Balance

/-- Something holds of the count before each of the tokens. -/
def Throughout (P : Int → Prop) (start : Int) (ts : List Lexeme) : Prop :=
  ∀ k < ts.length, P (start + count (ts.take k))

theorem throughout_nil (P : Int → Prop) (start : Int) : Throughout P start [] := by
  simp [Throughout]

theorem throughout_cons {P : Int → Prop} {start : Int} {l : Lexeme} {rest : List Lexeme} :
    Throughout P start (l :: rest) ↔ P start ∧ Throughout P (start + weight l.token) rest := by
  constructor
  · intro h
    refine ⟨by simpa [count] using h 0 (Nat.zero_lt_succ _), ?_⟩
    intro k hk
    simpa [count, Int.add_assoc] using h (k + 1) (Nat.succ_lt_succ hk)
  · rintro ⟨hzero, hsucc⟩ k hk
    cases k with
    | zero => simpa [count] using hzero
    | succ k => simpa [count, Int.add_assoc] using hsucc k (Nat.lt_of_succ_lt_succ hk)

theorem Throughout.upto {P : Int → Prop} {start : Int} {ts : List Lexeme}
    (h : Throughout P start ts) (hend : P (start + count ts)) :
    ∀ k ≤ ts.length, P (start + count (ts.take k)) := by
  intro k hk
  rcases Nat.lt_or_eq_of_le hk with hlt | rfl
  · exact h k hlt
  · rwa [List.take_length]

/-- The count, on from a number, is not over the limit at any time. -/
def Fits (limit : Option Nat) (start : Int) (ts : List Lexeme) : Prop :=
  ∀ n, limit = some n → ∀ k ≤ ts.length, start + count (ts.take k) ≤ (n : Int)

theorem fits_lparen {limit : Option Nat} {l : Lexeme} {rest : List Lexeme}
    (hopen : l.token = .lparen) (h : Fits limit 1 rest) : Fits limit 0 (l :: rest) := by
  intro n hn k hk
  cases k with
  | zero => simp [count]
  | succ k =>
      have hle := h n hn k (Nat.le_of_succ_le_succ hk)
      simpa [count, hopen, weight] using hle

end Balance

theorem exceeds_eq_some_iff {limit : Option Nat} {depth n : Nat} :
    exceeds limit depth = some n ↔ limit = some n ∧ n < depth := by
  simp [exceeds, Option.filter_eq_some_iff]

/-- How a run ends inside lists that are open at these places, by the tokens it took and what it
leaves. -/
def RunEnds (limit : Option Nat) (openings : List Nat) (used left : List Lexeme) :
    Except (ReadError Nat) (List Node) → Prop
  | .ok _ => openings.length + count used = 0
  | .error (.unterminated place) =>
    left = [] ∧ 0 < openings.length + count used ∧
      (∀ n, limit = some n → openings.length + count used ≤ (n : Int)) ∧
      (openAfter openings used).head? = some place
  | .error (.tooDeep n place) =>
    limit = some n ∧ n < openings.length + count used ∧
      ∃ l, used.getLast? = some l ∧ l.token = .lparen ∧ place = l.span.start
  | .error _ => False

/-- The tokens that a run takes inside lists that are open at these places: lists stay open and
within the limit up to the last token, which ends the run or is the last of all. -/
structure RunTakes (limit : Option Nat) (openings : List Nat) (used left : List Lexeme)
    (result : Except (ReadError Nat) (List Node)) : Prop where
  stays_open : Throughout (0 < ·) openings.length used
  within : ∀ n, limit = some n → Throughout (· ≤ (n : Int)) openings.length used
  ends : RunEnds limit openings used left result

namespace RunTakes

variable {limit : Option Nat} {openings openings' : List Nat} {used left : List Lexeme}
  {result : Except (ReadError Nat) (List Node)} {l : Lexeme}

/-- A token that ends the run. -/
theorem last (hopen : openings ≠ []) (hfits : exceeds limit openings.length = none)
    (hends : RunEnds limit openings [l] left result) : RunTakes limit openings [l] left result := by
  have hpos : 0 < openings.length := List.length_pos_of_ne_nil hopen
  refine ⟨?_, ?_, hends⟩
  · rw [throughout_cons]
    exact ⟨by omega, throughout_nil _ _⟩
  · intro n hn
    have hle := exceeds_eq_none_iff.mp hfits n hn
    rw [throughout_cons]
    exact ⟨by omega, throughout_nil _ _⟩

/-- A token after which the run goes on. -/
theorem step (hopen : openings ≠ []) (hfits : exceeds limit openings.length = none)
    (hlength : (openings'.length : Int) = openings.length + weight l.token)
    (hafter : openAfter openings (l :: used) = openAfter openings' used)
    (h : RunTakes limit openings' used left result) :
    RunTakes limit openings (l :: used) left result := by
  have hpos : 0 < openings.length := List.length_pos_of_ne_nil hopen
  have hcount : openings.length + count (l :: used) = openings'.length + count used := by
    rw [count, hlength, Int.add_assoc]
  refine ⟨?_, ?_, ?_⟩
  · rw [throughout_cons, ← hlength]
    exact ⟨by omega, h.stays_open⟩
  · intro n hn
    have hle := exceeds_eq_none_iff.mp hfits n hn
    rw [throughout_cons, ← hlength]
    exact ⟨by omega, h.within n hn⟩
  · have hends := h.ends
    cases result with
    | ok items => exact hcount.trans hends
    | error e =>
        cases e with
        | unterminated place =>
            obtain ⟨hleft, hstill, hbound, hplace⟩ := hends
            exact ⟨hleft, by rwa [hcount], by rwa [hcount], by rwa [hafter]⟩
        | tooDeep n place =>
            obtain ⟨hlimit, hover, last, hlast, hlparen, hplace⟩ := hends
            refine ⟨hlimit, by rwa [hcount], last, ?_, hlparen, hplace⟩
            rw [List.getLast?_cons, hlast]
            rfl
        | _ => exact hends.elim

/-- A run that ends without passing the limit keeps within it. -/
theorem fits (h : RunTakes limit openings used left result)
    (hend : ∀ n, limit = some n → openings.length + count used ≤ (n : Int)) :
    Fits limit openings.length used :=
  fun n hn => (h.within n hn).upto (hend n hn)

end RunTakes

theorem Fitting.length_openings {limit : Option Nat} {outer : List Frame} {inner : Frame}
    (h : Fitting limit (inner :: outer)) :
    ((inner :: outer).map Frame.opening).length = inner.depth := by
  simp [h.1]

theorem Fitting.fits {limit : Option Nat} {outer : List Frame} {inner : Frame}
    (h : Fitting limit (inner :: outer)) :
    exceeds limit ((inner :: outer).map Frame.opening).length = none := by
  rw [h.length_openings]
  exact exceeds_eq_none_of_le h.2.1 (Nat.le_add_right _ _)

/-- A run takes tokens from the front, one after another. -/
theorem collect_takes {limit : Option Nat} {outer : List Frame} {inner : Frame}
    (taken ts : List Lexeme) (hfitting : Fitting limit (inner :: outer)) :
    let o := collect limit outer inner taken ts
    ∃ used, ts = used ++ o.rest ∧ o.taken = used.reverse ++ taken ∧
      RunTakes limit ((inner :: outer).map Frame.opening) used o.rest o.result := by
  -- The frames of each case fit in their turn: their number is the count so far.
  have hfits := hfitting.fits
  have hlists : (inner :: outer).map Frame.opening ≠ [] := by simp
  induction outer, inner, taken, ts using run_induction limit with
  | stop outer inner taken =>
      refine ⟨[], rfl, rfl, throughout_nil _ _, fun _ _ => throughout_nil _ _, rfl, ?_, ?_, rfl⟩
      · simp only [count, List.map_cons, List.length_cons]
        omega
      · intro n hn
        have hle := exceeds_eq_none_iff.mp hfits n hn
        simp only [count]
        omega
  | tooDeep outer inner taken l rest n hopen hdeep =>
      rw [collect_lparen_tooDeep hopen hdeep]
      obtain ⟨hlimit, hover⟩ := exceeds_eq_some_iff.mp hdeep
      refine ⟨[l], rfl, rfl, .last hlists hfits ⟨hlimit, ?_, l, rfl, hopen, rfl⟩⟩
      rw [hfitting.length_openings]
      simp only [count, hopen, weight]
      omega
  | opens outer inner taken l rest hopen hexceeds ih =>
      have hnext := hfitting.open l.span.start hexceeds
      rw [collect_lparen hopen hexceeds]
      obtain ⟨used, hts, htaken, htakes⟩ := ih hnext hnext.fits (by simp)
      refine ⟨l :: used, congrArg (l :: ·) hts, by simp [htaken], htakes.step hlists hfits ?_ ?_⟩
      · simp [hopen, weight]
      · exact openAfter_lparen hopen _ _
  | ends inner taken l rest hclose =>
      rw [collect_rparen_last hclose]
      refine ⟨[l], rfl, rfl, .last hlists hfits ?_⟩
      simp [RunEnds, count, hclose, weight]
  | closes parent outer inner taken l rest hclose ih =>
      have hnext := hfitting.close
      rw [collect_rparen hclose]
      obtain ⟨used, hts, htaken, htakes⟩ := ih hnext hnext.fits (by simp)
      refine ⟨l :: used, congrArg (l :: ·) hts, by simp [htaken], htakes.step hlists hfits ?_ ?_⟩
      · simp only [hclose, weight, List.map_cons, List.length_cons]
        omega
      · exact openAfter_rparen hclose _ _
  | atom outer inner taken l rest hopen hclose ih =>
      have hnext := hfitting.push_atom l.token.text
      rw [collect_atom hopen hclose]
      obtain ⟨used, hts, htaken, htakes⟩ := ih hnext hnext.fits (by simp)
      refine ⟨l :: used, congrArg (l :: ·) hts, by simp [htaken], htakes.step hlists hfits ?_ ?_⟩
      · simp [weight_other hopen hclose, Frame.push]
      · exact openAfter_other hopen hclose _ _

/-- A run inside one open list. The items that it gives are written with the tokens that it takes,
up to the parenthesis that closes the list. -/
theorem collect_first_takes {limit : Option Nat} {ts : List Lexeme} (opening : Nat)
    (taken : List Lexeme) (hfits : exceeds limit 1 = none) (hregular : ∀ l ∈ ts, l.token.Regular) :
    let o := collect limit [] ⟨opening, 1, []⟩ taken ts
    ∃ used, ts = used ++ o.rest ∧ o.taken = used.reverse ++ taken ∧
      RunTakes limit [opening] used o.rest o.result ∧
        ∀ items, o.result = .ok items →
          used.map Lexeme.token = Node.itemTokens items ++ [.rparen] := by
  obtain ⟨used, hts, htaken, htakes⟩ :=
    collect_takes taken ts (fitting_first opening hfits)
  refine ⟨used, hts, htaken, htakes, ?_⟩
  intro items hresult
  obtain ⟨used', hts', _, hwritten, _⟩ := written_of_collect_ok
    (fitting_first opening hfits) hregular
    (show collect limit [] ⟨opening, 1, []⟩ taken ts = ⟨.ok items, _, _⟩ by rw [← hresult])
  obtain rfl := List.append_cancel_right (hts.symm.trans hts')
  simpa [written, Node.tokens, Node.itemTokens] using hwritten

/-! A run inside one list, by the count of its own tokens alone. -/

namespace Balance

/-- The parentheses that close outnumber those that open after these tokens, and not before. -/
def ClosesAfter (used : List Lexeme) : Prop :=
  count used < 0 ∧ ∀ k < used.length, 0 ≤ count (used.take k)

/-- These tokens close no list that they do not open. -/
def KeepsOpen (used : List Lexeme) : Prop :=
  ∀ k ≤ used.length, 0 ≤ count (used.take k)

/-- The last of these tokens is the first parenthesis that takes the count over a number. -/
def PassesAfter (n : Nat) (used : List Lexeme) (l : Lexeme) : Prop :=
  used.getLast? = some l ∧ l.token = .lparen ∧ (n : Int) < count used ∧
    ∀ k < used.length, count (used.take k) ≤ n

/-- A list that opens before such tokens is not closed by them. -/
theorem KeepsOpen.neverMatched {l : Lexeme} {used : List Lexeme} (hopen : l.token = .lparen)
    (h : KeepsOpen used) : neverMatched (l :: used) = true := by
  rw [neverMatched_iff hopen, ← Nat.lt_one_iff, ← count_pos_iff]
  intro k hk
  have hcount := h k hk
  omega

end Balance

section Runs

variable {limit : Option Nat} {opening n : Nat} {used left : List Lexeme}
  {result : Except (ReadError Nat) (List Node)}

theorem RunTakes.keepsOpen (h : RunTakes limit [opening] used left result)
    (hend : 0 ≤ count used) : KeepsOpen used := by
  intro k hk
  have hpos := h.stays_open.upto (by simp; omega) k hk
  simp only [List.length_singleton] at hpos
  omega

theorem RunTakes.closesAfter {items : List Node}
    (h : RunTakes limit [opening] used left (.ok items)) :
    ClosesAfter used ∧ Fits limit 1 used := by
  have hend : (([opening] : List Nat).length : Int) + count used = 0 := h.ends
  refine ⟨⟨?_, ?_⟩, ?_⟩
  · simp only [List.length_singleton] at hend
    omega
  · intro k hk
    have hpos := h.stays_open k hk
    simp only [List.length_singleton] at hpos
    omega
  · exact h.fits fun n _ => by omega

theorem RunTakes.keepsOpen_of_unterminated {place : Nat}
    (h : RunTakes limit [opening] used left (.error (.unterminated place))) :
    left = [] ∧ KeepsOpen used ∧ Fits limit 1 used ∧
      (openAfter [opening] used).head? = some place := by
  obtain ⟨hleft, hpos, hbound, hplace⟩ := h.ends
  simp only [List.length_singleton] at hpos
  exact ⟨hleft, h.keepsOpen (by omega), h.fits hbound, hplace⟩

theorem RunTakes.passes {place : Nat}
    (h : RunTakes limit [opening] used left (.error (.tooDeep n place))) :
    limit = some n ∧ KeepsOpen used ∧ (n : Int) < 1 + count used ∧
      (∀ k < used.length, 1 + count (used.take k) ≤ (n : Int)) ∧
      ∃ l, used.getLast? = some l ∧ l.token = .lparen ∧ place = l.span.start := by
  obtain ⟨hlimit, hover, hlast⟩ := h.ends
  have hwithin : ∀ k < used.length, 1 + count (used.take k) ≤ (n : Int) := h.within n hlimit
  simp only [List.length_singleton] at hover
  exact ⟨hlimit, h.keepsOpen (by omega), hover, hwithin, hlast⟩

end Runs

end PlanText
