import PlanText.Proofs.Positions
import PlanText.Proofs.ReadTree
import PlanText.Reading.Balance

/-!
The reader against the count of parentheses. Counting looks at prefixes of the whole text,
the reader at one token with the lists that are open. Both are told here from the tokens that
are left and from the places of the open lists, whose number is the count so far. Each token
changes the two in the same way, so one induction on the tokens joins them.
-/

namespace PlanText

namespace Balance

theorem findSome?_range_succ {α : Type} (f : Nat → Option α) (n : Nat) :
    (List.range (n + 1)).findSome? f =
      (f 0).or ((List.range n).findSome? fun k => f (k + 1)) := by
  rw [List.range_succ_eq_map, List.findSome?_cons, List.findSome?_map]
  cases f 0 <;> rfl

theorem weight_other {t : Token} (hopen : t ≠ .lparen) (hclose : t ≠ .rparen) :
    weight t = 0 := by
  rcases Token.var_or_sym hopen hclose with ⟨text, rfl⟩ | ⟨text, rfl⟩
  · rfl
  · rfl

/-! Counting on from the middle of a text, where some lists are open already. -/

/-- The number of tokens after which the count comes to zero. -/
def endFrom? (start : Int) (ts : List Lexeme) : Option Nat :=
  (List.range ts.length).findSome? fun k =>
    if start + count (ts.take (k + 1)) = 0 then some (k + 1) else none

/-- The parenthesis that takes the count over a limit. -/
def passingFrom? (limit : Nat) (start : Int) (ts : List Lexeme) : Option Lexeme :=
  (List.range ts.length).findSome? fun k =>
    match ts[k]? with
    | some l =>
      if l.token = .lparen ∧ (limit : Int) < start + count (ts.take (k + 1)) then some l
      else none
    | none => none

theorem listEnd?_eq (ts : List Lexeme) : listEnd? ts = endFrom? 0 ts := by
  simp [listEnd?, endFrom?]

theorem passing?_eq (limit : Nat) (ts : List Lexeme) :
    passing? limit ts = passingFrom? limit 0 ts := by
  simp only [passingFrom?, Int.zero_add]
  rfl

@[simp] theorem endFrom?_nil (start : Int) : endFrom? start [] = none := rfl

@[simp] theorem passingFrom?_nil (limit : Nat) (start : Int) :
    passingFrom? limit start [] = none := rfl

theorem endFrom?_cons (start : Int) (l : Lexeme) (rest : List Lexeme) :
    endFrom? start (l :: rest) =
      if start + weight l.token = 0 then some 1
      else (endFrom? (start + weight l.token) rest).map (· + 1) := by
  rw [endFrom?, List.length_cons, findSome?_range_succ]
  simp only [List.take_succ_cons, List.take_zero, count, Int.add_zero, Nat.zero_add]
  split
  · rfl
  · rw [Option.none_or, endFrom?, List.map_findSome?]
    congr 1
    funext k
    simp only [← Int.add_assoc, Function.comp_apply]
    split <;> rfl

theorem passingFrom?_cons (limit : Nat) (start : Int) (l : Lexeme) (rest : List Lexeme) :
    passingFrom? limit start (l :: rest) =
      if l.token = .lparen ∧ (limit : Int) < start + weight l.token then some l
      else passingFrom? limit (start + weight l.token) rest := by
  rw [passingFrom?, List.length_cons, findSome?_range_succ]
  simp only [List.take_succ_cons, List.take_zero, count, Int.add_zero, List.getElem?_cons_zero,
    List.getElem?_cons_succ, Nat.zero_add, ← Int.add_assoc]
  split
  · rfl
  · rw [Option.none_or, passingFrom?]

/-! The lists that stay open. -/

/-- How many of the lists around the tokens close. -/
def closes : List Lexeme → Nat
  | [] => 0
  | l :: rest =>
    match l.token with
    | .lparen => closes rest - 1
    | .rparen => closes rest + 1
    | _ => closes rest

theorem closes_lparen {l : Lexeme} (h : l.token = .lparen) (rest : List Lexeme) :
    closes (l :: rest) = closes rest - 1 := by
  simp [closes, h]

theorem closes_rparen {l : Lexeme} (h : l.token = .rparen) (rest : List Lexeme) :
    closes (l :: rest) = closes rest + 1 := by
  simp [closes, h]

theorem closes_other {l : Lexeme} (hopen : l.token ≠ .lparen) (hclose : l.token ≠ .rparen)
    (rest : List Lexeme) : closes (l :: rest) = closes rest := by
  rcases Token.var_or_sym hopen hclose with ⟨text, htoken⟩ | ⟨text, htoken⟩
  · simp [closes, htoken]
  · simp [closes, htoken]

theorem count_pos_cons (start : Nat) (l : Lexeme) (rest : List Lexeme) :
    (∀ k ≤ (l :: rest).length, 0 < (start : Int) + count ((l :: rest).take k)) ↔
      0 < start ∧
        ∀ k ≤ rest.length, 0 < (start : Int) + weight l.token + count (rest.take k) := by
  constructor
  · intro h
    refine ⟨by simpa [count] using h 0 (Nat.zero_le _), ?_⟩
    intro k hk
    simpa [count, Int.add_assoc] using h (k + 1) (Nat.succ_le_succ hk)
  · rintro ⟨hzero, hsucc⟩ k hk
    cases k with
    | zero => simpa [count] using hzero
    | succ k => simpa [count, Int.add_assoc] using hsucc k (Nat.le_of_succ_le_succ hk)

/-- The count stays positive if fewer lists close than are open. -/
theorem count_pos_iff {start : Nat} {ts : List Lexeme} :
    (∀ k ≤ ts.length, 0 < (start : Int) + count (ts.take k)) ↔ closes ts < start := by
  induction ts generalizing start with
  | nil => simp [count, closes]
  | cons l rest ih =>
      rw [count_pos_cons]
      by_cases hopen : l.token = .lparen
      · have hcount := @ih (start + 1)
        rw [closes_lparen hopen, hopen]
        simp only [weight]
        push_cast at hcount
        rw [hcount]
        omega
      · by_cases hclose : l.token = .rparen
        · rw [closes_rparen hclose, hclose]
          simp only [weight]
          cases start with
          | zero => simp
          | succ start =>
              have hcast : ((start + 1 : Nat) : Int) + -1 = (start : Int) := by omega
              rw [hcast, ih]
              omega
        · rw [closes_other hopen hclose, weight_other hopen hclose]
          simp only [Int.add_zero, ih]
          omega

theorem neverMatched_iff {l : Lexeme} (h : l.token = .lparen) (rest : List Lexeme) :
    neverMatched (l :: rest) = true ↔ closes rest = 0 := by
  have hcount := @count_pos_iff 1 rest
  simp only [neverMatched, List.length_cons, List.all_eq_true, List.mem_range,
    decide_eq_true_eq, List.take_succ_cons, count, h, weight]
  push_cast at hcount
  simp only [Nat.lt_succ_iff]
  rw [hcount]
  omega

theorem lastOpen?_cons (l : Lexeme) (rest : List Lexeme) :
    lastOpen? (l :: rest) =
      (lastOpen? rest).or
        (if l.token = .lparen ∧ neverMatched (l :: rest) then some l else none) := by
  rw [lastOpen?, List.length_cons, List.range_succ_eq_map, List.reverse_cons,
    List.findSome?_append, ← List.map_reverse, List.findSome?_map]
  simp [lastOpen?, Function.comp_def]

/-- Where the lists stand that are open after the tokens, innermost first. -/
def openAfter : List Nat → List Lexeme → List Nat
  | openings, [] => openings
  | openings, l :: rest =>
    match l.token with
    | .lparen => openAfter (l.span.start :: openings) rest
    | .rparen => openAfter openings.tail rest
    | _ => openAfter openings rest

theorem openAfter_lparen {l : Lexeme} (h : l.token = .lparen) (openings : List Nat)
    (rest : List Lexeme) :
    openAfter openings (l :: rest) = openAfter (l.span.start :: openings) rest := by
  simp [openAfter, h]

theorem openAfter_rparen {l : Lexeme} (h : l.token = .rparen) (openings : List Nat)
    (rest : List Lexeme) :
    openAfter openings (l :: rest) = openAfter openings.tail rest := by
  simp [openAfter, h]

theorem openAfter_other {l : Lexeme} (hopen : l.token ≠ .lparen)
    (hclose : l.token ≠ .rparen) (openings : List Nat) (rest : List Lexeme) :
    openAfter openings (l :: rest) = openAfter openings rest := by
  rcases Token.var_or_sym hopen hclose with ⟨text, htoken⟩ | ⟨text, htoken⟩
  · simp [openAfter, htoken]
  · simp [openAfter, htoken]

/-- The innermost open list is the last one that is never matched, or else the first that
the tokens do not close of those around them. -/
theorem head?_openAfter (openings : List Nat) (ts : List Lexeme) :
    (openAfter openings ts).head? =
      ((lastOpen? ts).map fun l => l.span.start).or openings[closes ts]? := by
  induction ts generalizing openings with
  | nil => simp [openAfter, lastOpen?, closes, List.head?_eq_getElem?]
  | cons l rest ih =>
      by_cases hopen : l.token = .lparen
      · rw [openAfter_lparen hopen, ih, lastOpen?_cons, closes_lparen hopen]
        cases hlast : lastOpen? rest with
        | some other => simp
        | none =>
            cases hcloses : closes rest with
            | zero => simp [hopen, (neverMatched_iff hopen rest).mpr hcloses]
            | succ k =>
                have hmatched : ¬ neverMatched (l :: rest) = true := by
                  rw [neverMatched_iff hopen, hcloses]
                  omega
                simp [hmatched]
      · by_cases hclose : l.token = .rparen
        · rw [openAfter_rparen hclose, ih, lastOpen?_cons, closes_rparen hclose]
          simp [hclose]
        · rw [openAfter_other hopen hclose, ih, lastOpen?_cons, closes_other hopen hclose]
          simp [hopen]

/-- The tokens that counting looks at: up to the end of the outermost open list. -/
def within (openings : List Nat) (ts : List Lexeme) : List Lexeme :=
  ts.take ((endFrom? openings.length ts).getD ts.length)

/-- The first fault inside lists that are open at these places, if the tokens meet one before
they close the outermost list. -/
def faultFrom? (limit : Option Nat) (openings : List Nat) (ts : List Lexeme) :
    Option (ReadError Nat) :=
  match limit.bind fun n =>
    (passingFrom? n openings.length (within openings ts)).map fun l => (n, l) with
  | some (n, l) => some (.tooDeep n l.span.start)
  | none =>
    match endFrom? openings.length ts with
    | none => (openAfter openings ts).head?.map .unterminated
    | some _ => none

theorem faultFrom?_nil (limit : Option Nat) (opening : Nat) (openings : List Nat) :
    faultFrom? limit (opening :: openings) [] = some (.unterminated opening) := by
  cases limit <;> simp [faultFrom?, within, openAfter]

section Counting

variable {limit : Option Nat} {openings openings' : List Nat} {l : Lexeme}
  {rest : List Lexeme}

/-- Counting goes on after a token that leaves lists open. -/
theorem endFrom?_step (hlength : (openings'.length : Int) = openings.length + weight l.token)
    (hne : openings' ≠ []) :
    endFrom? openings.length (l :: rest) =
      (endFrom? openings'.length rest).map (· + 1) := by
  have hpos : 0 < openings'.length := List.length_pos_of_ne_nil hne
  rw [endFrom?_cons, ← hlength, if_neg (by omega)]

theorem within_step (hlength : (openings'.length : Int) = openings.length + weight l.token)
    (hne : openings' ≠ []) :
    within openings (l :: rest) = l :: within openings' rest := by
  rw [within, within, endFrom?_step hlength hne]
  cases endFrom? openings'.length rest <;> rfl

theorem faultFrom?_step
    (hlength : (openings'.length : Int) = openings.length + weight l.token)
    (hne : openings' ≠ [])
    (hafter : openAfter openings (l :: rest) = openAfter openings' rest)
    (hfits : l.token = .lparen → exceeds limit openings'.length = none) :
    faultFrom? limit openings (l :: rest) = faultFrom? limit openings' rest := by
  have hpassing : ∀ n, limit = some n →
      passingFrom? n openings.length (within openings (l :: rest)) =
        passingFrom? n openings'.length (within openings' rest) := by
    intro n hn
    rw [within_step hlength hne, passingFrom?_cons, ← hlength, if_neg]
    rintro ⟨hopen, hover⟩
    have hle := exceeds_eq_none_iff.mp (hfits hopen) n hn
    omega
  cases limit with
  | none =>
      simp only [faultFrom?, Option.bind_none, endFrom?_step hlength hne, hafter]
      cases endFrom? openings'.length rest <;> rfl
  | some n =>
      simp only [faultFrom?, Option.bind_some, hpassing n rfl, endFrom?_step hlength hne,
        hafter]
      cases endFrom? openings'.length rest <;> rfl

theorem faultFrom?_tooDeep {n : Nat} (hopen : l.token = .lparen)
    (hdeep : exceeds limit (openings.length + 1) = some n) :
    faultFrom? limit openings (l :: rest) = some (.tooDeep n l.span.start) := by
  obtain ⟨hlimit, hover⟩ : limit = some n ∧ n < openings.length + 1 := by
    simpa [exceeds, Option.filter_eq_some_iff] using hdeep
  have hlength : (((l.span.start :: openings).length : Nat) : Int) =
      openings.length + weight l.token := by
    simp [hopen, weight]
  rw [faultFrom?, within_step hlength (by simp), hlimit]
  have hpass : l.token = .lparen ∧ (n : Int) < openings.length + weight l.token := by
    refine ⟨hopen, ?_⟩
    simp only [hopen, weight]
    omega
  simp only [Option.bind_some, passingFrom?_cons, if_pos hpass]
  rfl

theorem endFrom?_last {opening : Nat} (hclose : l.token = .rparen) :
    endFrom? ([opening].length : Nat) (l :: rest) = some 1 := by
  rw [endFrom?_cons, hclose, if_pos (by simp [weight])]

theorem faultFrom?_last {opening : Nat} (hclose : l.token = .rparen) :
    faultFrom? limit [opening] (l :: rest) = none := by
  have hwithin : within [opening] (l :: rest) = [l] := by
    rw [within, endFrom?_last hclose]
    rfl
  have hpassing : ∀ n, passingFrom? n ([opening].length : Nat) [l] = none := by
    intro n
    simp [passingFrom?_cons, hclose]
  rw [faultFrom?, hwithin, endFrom?_last hclose]
  cases limit with
  | none => rfl
  | some n => simp only [Option.bind_some, hpassing, Option.map_none]

end Counting

end Balance

/-- What a run comes to: the fault that counting finds, or the items of a list that ends where
the count says. -/
def ComesTo (outcome : Outcome) (fault : Option (ReadError Nat)) (ending : Option Nat)
    (ts : List Lexeme) : Prop :=
  match fault with
  | some e => outcome.result = .error e
  | none =>
    ∃ items k, ending = some k ∧ outcome.result = .ok items ∧ outcome.rest = ts.drop k

namespace ComesTo

open Balance

/-- A token that leaves lists open is one more token before the end. -/
theorem step {outcome : Outcome} {limit : Option Nat} {openings openings' : List Nat}
    {l : Lexeme} {rest : List Lexeme}
    (hlength : (openings'.length : Int) = openings.length + weight l.token)
    (hne : openings' ≠ [])
    (hafter : openAfter openings (l :: rest) = openAfter openings' rest)
    (hfits : l.token = .lparen → exceeds limit openings'.length = none)
    (h : ComesTo outcome (faultFrom? limit openings' rest)
      (endFrom? openings'.length rest) rest) :
    ComesTo outcome (faultFrom? limit openings (l :: rest))
      (endFrom? openings.length (l :: rest)) (l :: rest) := by
  rw [faultFrom?_step hlength hne hafter hfits, endFrom?_step hlength hne]
  cases hfault : faultFrom? limit openings' rest with
  | some e =>
      rw [hfault] at h
      exact h
  | none =>
      rw [hfault] at h
      obtain ⟨items, k, hending, hresult, hrest⟩ := h
      exact ⟨items, k + 1, by simp [hending], hresult, by simp [hrest]⟩

end ComesTo

open Balance in
/-- A run inside open lists meets the fault that counting finds from there, or ends where the
count comes to zero. -/
theorem collect_comesTo {limit : Option Nat} {ts : List Lexeme} :
    ∀ {outer : List Frame} {inner : Frame} {taken : List Lexeme},
      Fitting limit (inner :: outer) →
      ComesTo (collect limit outer inner taken ts)
        (faultFrom? limit ((inner :: outer).map Frame.opening) ts)
        (endFrom? ((inner :: outer).map Frame.opening).length ts) ts := by
  induction ts with
  | nil =>
      intro outer inner taken _
      rw [List.map_cons, faultFrom?_nil]
      rfl
  | cons l rest ih =>
      intro outer inner taken hfitting
      have hdepth : ((inner :: outer).map Frame.opening).length = inner.depth := by
        simp [hfitting.1]
      by_cases hopen : l.token = .lparen
      · cases hexceeds : exceeds limit (inner.depth + 1) with
        | some n =>
            rw [collect_lparen_tooDeep hopen hexceeds,
              faultFrom?_tooDeep hopen (by rw [hdepth, hexceeds])]
            rfl
        | none =>
            rw [collect_lparen hopen hexceeds]
            refine ComesTo.step ?_ ?_ ?_ ?_ (ih (hfitting.open l.span.start hexceeds))
            · simp [hopen, weight]
            · simp
            · exact openAfter_lparen hopen _ _
            · intro _
              rw [List.map_cons, List.length_cons, hdepth]
              exact hexceeds
      · by_cases hclose : l.token = .rparen
        · cases outer with
          | nil =>
              rw [collect_rparen_last hclose, List.map_cons, List.map_nil,
                faultFrom?_last hclose, endFrom?_last hclose]
              exact ⟨inner.items.reverse, 1, rfl, rfl, rfl⟩
          | cons parent outer =>
              rw [collect_rparen hclose]
              refine ComesTo.step ?_ ?_ ?_ ?_ (ih hfitting.close)
              · simp only [hclose, weight, List.map_cons, List.length_cons]
                omega
              · simp
              · exact openAfter_rparen hclose _ _
              · exact fun h => absurd h hopen
        · rw [collect_atom hopen hclose]
          refine ComesTo.step ?_ ?_ ?_ ?_ (ih (hfitting.push_atom _))
          · simp [weight_other hopen hclose, Frame.push]
          · simp
          · exact openAfter_other hopen hclose _ _
          · exact fun h => absurd h hopen

/-- The whole text read by a run over its tokens after the first one: the fault of the run, or
else the token that follows the list, if there is one. -/
theorem readWhole_of_comesTo {limit : Option Nat} {first : Lexeme} {taken rest : List Lexeme}
    {fault : Option (ReadError Nat)} {ending : Option Nat} (hopen : first.token = .lparen)
    (hfits : exceeds limit 1 = none)
    (h : ComesTo (collect limit [] ⟨first.span.start, 1, []⟩ (first :: taken) rest) fault ending
      rest) :
    match fault.or ((ending.bind fun k => rest[k]?).map fun l =>
      .unexpected l.token.text l.span.start) with
    | some e => (readWhole limit taken (first :: rest)).result = .error e
    | none => ∃ items, (readWhole limit taken (first :: rest)).result = .ok items := by
  cases hrun : collect limit [] ⟨first.span.start, 1, []⟩ (first :: taken) rest with
  | mk result taken' rest' =>
  rw [hrun] at h
  cases fault with
  | some e =>
      obtain rfl : result = .error e := h
      rw [readWhole_of_error hopen hfits hrun]
      rfl
  | none =>
      obtain ⟨items, k, rfl, hresult, hrest⟩ := h
      obtain rfl : result = .ok items := hresult
      have hextra : rest[k]? = rest'.head? := by
        rw [show rest' = rest.drop k from hrest, List.head?_drop]
      rw [Option.none_or, Option.bind_some, hextra]
      cases rest' with
      | nil =>
          rw [readWhole_of_end hopen hfits hrun]
          exact ⟨items, rfl⟩
      | cons extra others =>
          rw [readWhole_of_extra hopen hfits hrun]
          rfl

namespace Balance

/-- A text whose first token opens a list meets a fault inside that list, or the first token
after it is one. -/
theorem fault?_eq {limit : Option Nat} {first : Lexeme} {rest : List Lexeme}
    (hopen : first.token = .lparen) :
    fault? limit (first :: rest) =
      (faultFrom? limit [] (first :: rest)).or
        (((endFrom? 0 (first :: rest)).bind fun k => (first :: rest)[k]?).map fun l =>
          .unexpected l.token.text l.span.start) := by
  have hlist : (first :: rest).take ((endFrom? 0 (first :: rest)).getD
      (first :: rest).length) = within [] (first :: rest) := rfl
  have hlast : (openAfter [] (first :: rest)).head? =
      (lastOpen? (first :: rest)).map fun l => l.span.start := by
    rw [head?_openAfter]
    simp
  simp only [fault?, hopen, ne_eq, not_true_eq_false, if_false, listEnd?_eq, passing?_eq, hlist,
    faultFrom?, hlast, Option.map_map, List.length_nil, Int.ofNat_zero]
  cases limit.bind fun n => (passingFrom? n 0 (within [] (first :: rest))).map fun l => (n, l)
  case some p => rfl
  case none =>
    cases endFrom? 0 (first :: rest) with
    | none => cases lastOpen? (first :: rest) <;> rfl
    | some k => cases hextra : (first :: rest)[k]? <;> simp [hextra]

theorem fault?_of_fits {limit : Option Nat} {first : Lexeme} {rest : List Lexeme}
    (hopen : first.token = .lparen) (hfits : exceeds limit 1 = none) :
    fault? limit (first :: rest) =
      (faultFrom? limit [first.span.start] rest).or
        (((endFrom? ([first.span.start].length : Nat) rest).bind fun k => rest[k]?).map fun l =>
          .unexpected l.token.text l.span.start) := by
  have hlength : (([first.span.start] : List Nat).length : Int) =
      ([] : List Nat).length + weight first.token := by
    simp [hopen, weight]
  have hstep : faultFrom? limit [] (first :: rest) =
      faultFrom? limit [first.span.start] rest :=
    faultFrom?_step hlength (by simp) (openAfter_lparen hopen [] rest) fun _ => hfits
  have hending : endFrom? 0 (first :: rest) =
      (endFrom? ([first.span.start].length : Nat) rest).map (· + 1) :=
    endFrom?_step hlength (by simp)
  rw [fault?_eq hopen, hstep, hending, Option.bind_map]
  rfl

end Balance

open Balance in
/-- Reading the tokens of a whole text meets the fault that counting finds, or gives a list. -/
theorem readWhole_outcome (limit : Option Nat) (taken ts : List Lexeme) :
    match fault? limit ts with
    | some e => (readWhole limit taken ts).result = .error e
    | none => ∃ items, (readWhole limit taken ts).result = .ok items := by
  cases ts with
  | nil => rfl
  | cons first rest =>
      by_cases hopen : first.token = .lparen
      · cases hexceeds : exceeds limit 1 with
        | some n =>
            rw [fault?_eq hopen, faultFrom?_tooDeep hopen (by rw [List.length_nil, hexceeds]),
              readWhole_tooDeep hopen hexceeds]
            rfl
        | none =>
            rw [fault?_of_fits hopen hexceeds]
            exact readWhole_of_comesTo hopen hexceeds (collect_comesTo (fitting_first _ hexceeds))
      · simp [fault?, readWhole, hopen]

open Text

/-- The outcome of reading by the count of parentheses. A text is read as a list unless
counting finds a fault, and then the fault is told at the position of its token: the line
breaks before the first byte of the token, and the bytes between the last of them and that
byte. -/
theorem readText_outcome (limit : Option Nat) (source : String) :
    match Balance.fault? limit (scan source) with
    | some fault =>
      readText limit source = .error (fault.map (Position.counted source.toList))
    | none => ∃ items, readText limit source = .ok items := by
  have hpositions : Position.ofOffset source.toList = Position.counted source.toList :=
    funext fun offset => ofOffset_eq_counted source.toList offset
  have houtcome := readWhole_outcome limit [] (scan source)
  rw [readText_eq, hpositions]
  cases hfault : Balance.fault? limit (scan source) with
  | some fault =>
      rw [hfault] at houtcome
      rw [houtcome]
      rfl
  | none =>
      rw [hfault] at houtcome
      obtain ⟨items, hitems⟩ := houtcome
      exact ⟨items, by rw [hitems]; rfl⟩

end PlanText
