import Mathlib.Order.Bounds.Basic
import PlanText.Proofs.SharedCursor

/-!
The limit on depth. A limit only ever stops a run: as long as it does not, the run goes as it
would without one, or with any that allows more. Where it stops a run is told by the count of
parentheses, whose greatest value is the depth of the list that is read.
-/

namespace PlanText

namespace Balance

/-- The greatest count before, between and after the tokens. -/
def peak : List Lexeme → Int
  | [] => 0
  | l :: rest => max 0 (weight l.token + peak rest)

theorem count_append (ts us : List Lexeme) : count (ts ++ us) = count ts + count us := by
  induction ts with
  | nil => simp [count]
  | cons l rest ih => simp [count, ih, Int.add_assoc]

theorem peak_nonneg (ts : List Lexeme) : 0 ≤ peak ts := by
  cases ts with
  | nil => exact Int.le_refl 0
  | cons l rest => exact Int.le_max_left 0 _

theorem peak_append (ts us : List Lexeme) :
    peak (ts ++ us) = max (peak ts) (count ts + peak us) := by
  induction ts with
  | nil =>
      have hnonneg := peak_nonneg us
      simp only [List.nil_append, peak, count]
      omega
  | cons l rest ih =>
      simp only [List.cons_append, peak, count, ih]
      omega

theorem count_take_le_peak (ts : List Lexeme) (k : Nat) : count (ts.take k) ≤ peak ts := by
  induction ts generalizing k with
  | nil => simp [count, peak]
  | cons l rest ih =>
      cases k with
      | zero => exact peak_nonneg (l :: rest)
      | succ k =>
          have hrest := ih k
          simp only [List.take_succ_cons, count, peak]
          omega

theorem exists_count_take_eq_peak (ts : List Lexeme) : ∃ k, count (ts.take k) = peak ts := by
  induction ts with
  | nil => exact ⟨0, rfl⟩
  | cons l rest ih =>
      obtain ⟨k, hk⟩ := ih
      rcases Int.le_total (weight l.token + peak rest) 0 with hdown | hup
      · refine ⟨0, ?_⟩
        simp only [List.take_zero, count, peak]
        omega
      · refine ⟨k + 1, ?_⟩
        simp only [List.take_succ_cons, count, peak, hk]
        omega

theorem isGreatest_peak (ts : List Lexeme) :
    IsGreatest (Set.range fun k => count (ts.take k)) (peak ts) := by
  refine ⟨exists_count_take_eq_peak ts, ?_⟩
  rintro _ ⟨k, rfl⟩
  exact count_take_le_peak ts k

mutual

/-- The tokens of a node close the lists that they open, and these nest as deep as the node. -/
theorem peak_of_tokens : (node : Node) → ∀ {ls : List Lexeme},
    ls.map Lexeme.token = node.tokens → count ls = 0 ∧ peak ls = node.depth
  | .atom text, ls, htokens => by
      obtain ⟨l, rfl, hl⟩ : ∃ l, ls = [l] ∧ l.token = Token.ofAtom text := by
        simpa [Node.tokens, List.map_eq_singleton_iff] using htokens
      have hweight : weight l.token = 0 :=
        weight_other (hl ▸ Token.ofAtom_ne_lparen text) (hl ▸ Token.ofAtom_ne_rparen text)
      simp [count, peak, hweight, Node.depth]
  | .list items, ls, htokens => by
      obtain ⟨opening, body, closing, rfl, hopening, hbody, hclosing⟩ := split_list_tokens htokens
      obtain ⟨hcount, hpeak⟩ := peak_of_itemTokens items hbody
      constructor
      · simp [count, count_append, hopening, hclosing, weight, hcount]
      · simp only [peak, peak_append, hopening, hclosing, weight, hcount, hpeak, Node.depth]
        omega

theorem peak_of_itemTokens : (items : List Node) → ∀ {ls : List Lexeme},
    ls.map Lexeme.token = Node.itemTokens items → count ls = 0 ∧ peak ls = Node.deepest items
  | [], ls, htokens => by
      obtain rfl : ls = [] := by simpa [Node.itemTokens] using htokens
      exact ⟨rfl, rfl⟩
  | node :: rest, ls, htokens => by
      obtain ⟨first, others, rfl, hfirst, hothers⟩ := List.map_eq_append_iff.mp htokens
      obtain ⟨hcount, hpeak⟩ := peak_of_tokens node hfirst
      obtain ⟨hcounts, hpeaks⟩ := peak_of_itemTokens rest hothers
      constructor
      · rw [count_append, hcount, hcounts, Int.zero_add]
      · simp only [peak_append, hcount, hpeak, hpeaks, Node.deepest]
        omega

end

end Balance

open Balance Text

/-- A limit that allows every depth that another one allows. -/
def Looser (limit looser : Option Nat) : Prop :=
  ∀ depth, exceeds limit depth = none → exceeds looser depth = none

theorem looser_none (limit : Option Nat) : Looser limit none := fun _ _ => rfl

theorem looser_of_le {n m : Nat} (h : n ≤ m) : Looser (some n) (some m) := by
  intro depth hfits
  rw [exceeds_eq_none_iff] at hfits ⊢
  intro k hk
  obtain rfl : m = k := Option.some.inj hk
  exact Nat.le_trans (hfits n rfl) h

namespace Outcome

/-- The limit stopped the run. -/
def Stopped (limit : Option Nat) (o : Outcome) : Prop :=
  ∃ n place, limit = some n ∧ o.result = .error (.tooDeep n place)

theorem Stopped.whole {limit : Option Nat} {o : Outcome} (h : o.Stopped limit) :
    o.whole.Stopped limit := by
  obtain ⟨n, place, hlimit, hresult⟩ := h
  obtain ⟨result, taken, rest⟩ := o
  obtain rfl : result = .error (.tooDeep n place) := hresult
  exact ⟨n, place, hlimit, rfl⟩

end Outcome

/-- A run that its limit does not stop goes the same under a looser one. -/
theorem collect_looser {limit looser : Option Nat} (h : Looser limit looser)
    (outer : List Frame) (inner : Frame) (taken ts : List Lexeme) :
    (collect limit outer inner taken ts).Stopped limit ∨
      collect looser outer inner taken ts = collect limit outer inner taken ts := by
  induction outer, inner, taken, ts using run_induction limit with
  | stop outer inner taken => exact Or.inr rfl
  | tooDeep outer inner taken l rest n hopen hdeep =>
      rw [collect_lparen_tooDeep hopen hdeep]
      exact Or.inl ⟨n, _, (exceeds_eq_some_iff.mp hdeep).1, rfl⟩
  | opens outer inner taken l rest hopen hfits ih =>
      rw [collect_lparen hopen hfits, collect_lparen hopen (h _ hfits)]
      exact ih
  | ends inner taken l rest hclose =>
      rw [collect_rparen_last hclose, collect_rparen_last hclose]
      exact Or.inr rfl
  | closes parent outer inner taken l rest hclose ih =>
      rw [collect_rparen hclose, collect_rparen hclose]
      exact ih
  | atom outer inner taken l rest hopen hclose ih =>
      rw [collect_atom hopen hclose, collect_atom hopen hclose]
      exact ih

theorem readItems_looser {limit looser : Option Nat} (h : Looser limit looser) (opening : Nat)
    (taken ts : List Lexeme) :
    (readItems limit opening taken ts).Stopped limit ∨
      readItems looser opening taken ts = readItems limit opening taken ts := by
  cases hexceeds : exceeds limit 1 with
  | some n =>
      simp only [readItems, hexceeds]
      exact Or.inl ⟨n, opening, (exceeds_eq_some_iff.mp hexceeds).1, rfl⟩
  | none =>
      simp only [readItems, hexceeds, h 1 hexceeds]
      exact collect_looser h [] ⟨opening, 1, []⟩ taken ts

theorem readWhole_looser {limit looser : Option Nat} (h : Looser limit looser)
    (taken ts : List Lexeme) :
    (readWhole limit taken ts).Stopped limit ∨
      readWhole looser taken ts = readWhole limit taken ts := by
  cases ts with
  | nil => exact Or.inr rfl
  | cons l rest =>
      by_cases hopen : l.token = .lparen
      · rw [readWhole_lparen hopen, readWhole_lparen hopen]
        rcases readItems_looser h l.span.start (l :: taken) rest with hstopped | hsame
        · exact Or.inl hstopped.whole
        · exact Or.inr (congrArg Outcome.whole hsame)
      · right
        simp [readWhole, hopen]

theorem readText_looser {limit looser : Option Nat} (h : Looser limit looser) (source : String) :
    (∃ n place, limit = some n ∧ readText limit source = .error (.tooDeep n place)) ∨
      readText looser source = readText limit source := by
  rcases readWhole_looser h [] (scan source) with ⟨n, place, hlimit, hresult⟩ | hsame
  · exact Or.inl ⟨n, _, hlimit, by rw [readText_eq, hresult]; rfl⟩
  · right
    rw [readText_eq, readText_eq, hsame]

/-- A text is too deep where the first parenthesis opens a list inside as many lists as the limit
allows. -/
theorem readText_tooDeep {limit : Option Nat} {source : String} {n : Nat} {place : Position}
    (h : readText limit source = .error (.tooDeep n place)) :
    ∃ before l after, scan source = before ++ l :: after ∧ l.token = .lparen ∧
      count before = n ∧ (∀ k ≤ before.length, count (before.take k) ≤ n) ∧
        place = Position.ofOffset source.toList l.span.start := by
  obtain ⟨used, hmoved, htakes⟩ := @Cursor.readList_takes (Cursor.start source) limit
    fun l hl => regular_of_mem_scan hl
  rw [show ((Cursor.start source).readList limit).1 = .error (.tooDeep n place) from h] at htakes
  obtain ⟨_, _, l, ⟨hlast, hopen, hover, hwithin⟩, hplace⟩ := htakes
  obtain ⟨before, rfl⟩ := List.getLast?_eq_some_iff.mp hlast
  have hbefore : ∀ k ≤ before.length, count (before.take k) ≤ n := by
    intro k hk
    have hle := hwithin k (by simp; omega)
    rwa [List.take_append_of_le_length hk] at hle
  refine ⟨before, l, ((Cursor.start source).readList limit).2.rest, ?_, hopen, ?_, hbefore, hplace⟩
  · rw [← List.singleton_append, ← List.append_assoc]
    exact hmoved.rest
  · have hle := hbefore before.length (Nat.le_refl _)
    rw [List.take_length] at hle
    rw [count_append, count, count, hopen, weight] at hover
    omega

/-- The depth of a list that is read is the greatest number of parentheses open at one time. -/
theorem isGreatest_listDepth {limit : Option Nat} {source : String} {items : List Node}
    (h : readText limit source = .ok items) :
    IsGreatest (Set.range fun k => count ((scan source).take k)) (Node.listDepth items) := by
  have hpeak : peak (scan source) = (Node.list items).depth :=
    (peak_of_tokens (.list items) (readText_ok_iff.mp h).1).2
  have hgreatest := isGreatest_peak (scan source)
  rwa [hpeak] at hgreatest

theorem readText_limit_iff {source : String} {items : List Node}
    (h : readText none source = .ok items) {n : Nat} :
    readText (some n) source = .ok items ↔ Node.listDepth items ≤ n := by
  obtain ⟨htokens, _⟩ := readText_ok_iff.mp h
  rw [readText_ok_iff, exceeds_eq_none_iff]
  simp [htokens]

/-- Either a text is too deep for a limit, or no looser limit makes a difference. -/
theorem readText_tooDeep_or_same (source : String) (n : Nat) :
    (∃ place, readText (some n) source = .error (.tooDeep n place)) ∨
      ∀ looser, Looser (some n) looser → readText looser source = readText (some n) source := by
  refine or_iff_not_imp_left.mpr ?_
  intro hnot looser hlooser
  rcases readText_looser hlooser source with ⟨k, place, hk, hstopped⟩ | hsame
  · obtain rfl : n = k := Option.some.inj hk
    exact absurd ⟨place, hstopped⟩ hnot
  · exact hsame

/-- The limit on depth is sharp and shows in nothing else. The depth of a list that is read is the
greatest number of parentheses open at one time, and the list is read under every limit from that
depth on. Under a lower one the text is too deep where the first parenthesis opens a list beyond
the limit. Any text at all either is too deep or is read as it is without a limit, with the same
items or the same fault, and then so it is under every greater limit. -/
theorem readText_limited (source : String) :
    (∀ items, readText none source = .ok items →
      IsGreatest (Set.range fun k => count ((scan source).take k)) (Node.listDepth items) ∧
        ∀ n, (Node.listDepth items ≤ n → readText (some n) source = .ok items) ∧
          (n < Node.listDepth items →
            ∃ before l after, scan source = before ++ l :: after ∧ l.token = .lparen ∧
              count before = n ∧ (∀ k ≤ before.length, count (before.take k) ≤ n) ∧
                readText (some n) source =
                  .error (.tooDeep n (Position.ofOffset source.toList l.span.start)))) ∧
      ∀ n, (∃ place, readText (some n) source = .error (.tooDeep n place)) ∨
        readText (some n) source = readText none source ∧
          ∀ m ≥ n, readText (some m) source = readText (some n) source := by
  constructor
  · intro items hread
    refine ⟨isGreatest_listDepth hread, fun n => ⟨(readText_limit_iff hread).mpr, ?_⟩⟩
    intro hdeep
    rcases readText_tooDeep_or_same source n with ⟨place, hplace⟩ | hsame
    · obtain ⟨before, l, after, hscan, hopen, hcount, hbefore, rfl⟩ := readText_tooDeep hplace
      exact ⟨before, l, after, hscan, hopen, hcount, hbefore, hplace⟩
    · have hle := (readText_limit_iff hread).mp ((hsame none (looser_none _)).symm.trans hread)
      omega
  · intro n
    rcases readText_tooDeep_or_same source n with hstopped | hsame
    · exact Or.inl hstopped
    · right
      exact ⟨(hsame none (looser_none _)).symm, fun m hm => hsame (some m) (looser_of_le hm)⟩

/-- The third list is as deep as the text goes, so a limit of two stops at its parenthesis. -/
theorem readText_limited_third :
    let items : List Node := [.atom "a", .list [.list [.atom "b"]], .list []]
    readText none "(a ((b)) ())" = .ok items ∧ Node.listDepth items = 3 ∧
      readText (some 3) "(a ((b)) ())" = .ok items ∧
        ∃ before l after, scan "(a ((b)) ())" = before ++ l :: after ∧ l.token = .lparen ∧
          count before = 2 ∧ (∀ k ≤ before.length, count (before.take k) ≤ 2) ∧
            readText (some 2) "(a ((b)) ())" =
              .error (.tooDeep 2 (Position.ofOffset "(a ((b)) ())".toList l.span.start)) := by
  intro items
  have hread : readText none "(a ((b)) ())" = .ok items :=
    readText_ok_iff.mpr ⟨by decide +kernel, by decide⟩
  have hdepth : Node.listDepth items = 3 := by decide
  obtain ⟨_, hlimit⟩ := (readText_limited "(a ((b)) ())").1 items hread
  exact ⟨hread, hdepth, (hlimit 3).1 (by omega), (hlimit 2).2 (by omega)⟩

end PlanText
