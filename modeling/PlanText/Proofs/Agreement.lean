import PlanText.Proofs.ReadTree

/-!
What the reader looks at. Of a token it takes the text and where the token starts, and the
place only goes into faults. So two lists of tokens that agree on the texts, and on what one
cares to know of the places, are read with the same outcome as far as that goes.
-/

namespace PlanText

open Text

variable {α : Type}

/-- The tokens, each with what a function says of its place. -/
def placed (place : Nat → α) (ts : List Lexeme) : List (Token × α) :=
  ts.map fun l => (l.token, place l.span.start)

theorem exists_of_placed_cons {f g : Nat → α} {l : Lexeme} {ts us : List Lexeme}
    (h : placed f (l :: ts) = placed g us) :
    ∃ m others, us = m :: others ∧ l.token = m.token ∧ f l.span.start = g m.span.start ∧
      placed f ts = placed g others := by
  obtain ⟨m, others, rfl, hm, hothers⟩ := List.map_eq_cons_iff.mp h.symm
  obtain ⟨htoken, hplace⟩ := Prod.mk.inj hm
  exact ⟨m, others, rfl, htoken.symm, hplace.symm, hothers.symm⟩

theorem fst_placed (place : Nat → α) (ts : List Lexeme) :
    (placed place ts).map Prod.fst = ts.map Lexeme.token := by
  simp [placed, Function.comp_def]

namespace Outcome

/-- An outcome with what a function says of the places in it. -/
def placed (place : Nat → α) (o : Outcome) :
    Except (ReadError α) (List Node) × List (Token × α) :=
  (o.result.mapError (ReadError.map place), PlanText.placed place o.rest)

end Outcome

namespace Frame

/-- A frame with what a function says of the place in it. -/
def placed (place : Nat → α) (f : Frame) : α × Nat × List Node :=
  (place f.opening, f.depth, f.items)

end Frame

theorem collect_congr {f g : Nat → α} {limit : Option Nat} {outer outer' : List Frame}
    {inner inner' : Frame} {taken taken' ts us : List Lexeme}
    (hts : placed f ts = placed g us) (hinner : inner.placed f = inner'.placed g)
    (houter : outer.map (Frame.placed f) = outer'.map (Frame.placed g)) :
    (collect limit outer inner taken ts).placed f =
      (collect limit outer' inner' taken' us).placed g := by
  -- Both runs do the same at each token, so the second one follows the cases of the first.
  induction outer, inner, taken, ts using run_induction limit
    generalizing outer' inner' taken' us with
  | stop outer inner taken =>
      obtain rfl : us = [] := by simpa [placed] using hts.symm
      simp only [Frame.placed, Prod.mk.injEq] at hinner
      simp [collect, Outcome.placed, placed, Except.mapError, ReadError.map, hinner.1]
  | tooDeep outer inner taken l rest n hopen hdeep =>
      obtain ⟨m, others, rfl, htoken, hplace, hrest⟩ := exists_of_placed_cons hts
      simp only [Frame.placed, Prod.mk.injEq] at hinner
      rw [collect_lparen_tooDeep hopen hdeep,
        collect_lparen_tooDeep (htoken ▸ hopen) (hinner.2.1 ▸ hdeep)]
      simp [Outcome.placed, Except.mapError, ReadError.map, hplace, hrest]
  | opens outer inner taken l rest hopen hfits ih =>
      obtain ⟨m, others, rfl, htoken, hplace, hrest⟩ := exists_of_placed_cons hts
      have hdepth : inner.depth = inner'.depth := congrArg (·.2.1) hinner
      rw [collect_lparen hopen hfits, collect_lparen (htoken ▸ hopen) (hdepth ▸ hfits)]
      apply ih hrest
      · simp [Frame.placed, hplace, hdepth]
      · rw [List.map_cons, List.map_cons, hinner, houter]
  | ends inner taken l rest hclose =>
      obtain ⟨m, others, rfl, htoken, _, hrest⟩ := exists_of_placed_cons hts
      obtain rfl : outer' = [] := by simpa using houter.symm
      simp only [Frame.placed, Prod.mk.injEq] at hinner
      rw [collect_rparen_last hclose, collect_rparen_last (htoken ▸ hclose)]
      simp [Outcome.placed, Except.mapError, hinner.2.2, hrest]
  | closes parent outer inner taken l rest hclose ih =>
      obtain ⟨m, others, rfl, htoken, _, hrest⟩ := exists_of_placed_cons hts
      obtain ⟨parent', others', rfl, hparent, hothers⟩ := List.map_eq_cons_iff.mp houter.symm
      simp only [Frame.placed, Prod.mk.injEq] at hinner hparent
      rw [collect_rparen hclose, collect_rparen (htoken ▸ hclose)]
      apply ih hrest
      · simp [Frame.placed, Frame.push, Frame.node, hinner, hparent]
      · exact hothers.symm
  | atom outer inner taken l rest hopen hclose ih =>
      obtain ⟨m, others, rfl, htoken, _, hrest⟩ := exists_of_placed_cons hts
      simp only [Frame.placed, Prod.mk.injEq] at hinner
      rw [collect_atom hopen hclose, collect_atom (htoken ▸ hopen) (htoken ▸ hclose)]
      apply ih hrest
      · simp [Frame.placed, Frame.push, hinner, htoken]
      · exact houter

theorem readItems_congr {f g : Nat → α} {limit : Option Nat} {opening opening' : Nat}
    {taken taken' ts us : List Lexeme} (hplace : f opening = g opening')
    (hts : placed f ts = placed g us) :
    (readItems limit opening taken ts).placed f =
      (readItems limit opening' taken' us).placed g := by
  unfold readItems
  cases exceeds limit 1 with
  | some n => simp [Outcome.placed, Except.mapError, ReadError.map, hplace, hts]
  | none => exact collect_congr hts (by simp [Frame.placed, hplace]) rfl

theorem Outcome.whole_congr {f g : Nat → α} {o o' : Outcome} (h : o.placed f = o'.placed g) :
    o.whole.placed f = o'.whole.placed g := by
  rcases o with ⟨result, taken, rest⟩
  rcases o' with ⟨result', taken', rest'⟩
  simp only [Outcome.placed, Prod.mk.injEq] at h
  obtain ⟨hresult, hrest⟩ := h
  cases result with
  | error e =>
      cases result' with
      | ok items => simp [Except.mapError] at hresult
      | error e' => simp [Outcome.whole, Outcome.placed, hresult, hrest]
  | ok items =>
      cases result' with
      | error e' => simp [Except.mapError] at hresult
      | ok items' =>
          cases rest with
          | nil =>
              obtain rfl : rest' = [] := by simpa [PlanText.placed] using hrest.symm
              simp [Outcome.whole, Outcome.placed, hresult, hrest]
          | cons extra more =>
              obtain ⟨extra', more', rfl, htoken, hplace, hmore⟩ := exists_of_placed_cons hrest
              simp [Outcome.whole, Outcome.placed, Except.mapError, ReadError.map, htoken, hplace,
                hmore]

/-- Reading a whole text goes by the tokens and by what is told of their places. -/
theorem readWhole_congr {f g : Nat → α} {limit : Option Nat} {taken taken' ts us : List Lexeme}
    (h : placed f ts = placed g us) :
    (readWhole limit taken ts).result.mapError (ReadError.map f) =
      (readWhole limit taken' us).result.mapError (ReadError.map g) := by
  cases ts with
  | nil =>
      obtain rfl : us = [] := by simpa [placed] using h.symm
      rfl
  | cons l rest =>
      obtain ⟨m, others, rfl, htoken, hplace, hrest⟩ := exists_of_placed_cons h
      by_cases hopen : l.token = .lparen
      · rw [readWhole_lparen hopen, readWhole_lparen (htoken ▸ hopen)]
        exact congrArg Prod.fst (Outcome.whole_congr (readItems_congr hplace hrest))
      · simp [readWhole, htoken ▸ hopen, Except.mapError, ReadError.map, htoken, hplace]

/-- What a text is read as is settled by its tokens and their positions. -/
theorem readText_congr {limit : Option Nat} {source other : String}
    (h : placed (Position.ofOffset source.toList) (scan source) =
      placed (Position.ofOffset other.toList) (scan other)) :
    readText limit source = readText limit other := by
  rw [readText_eq, readText_eq]
  exact readWhole_congr h

/-- So it is if less than the position is told of a place, such as its line. -/
theorem readText_view_congr {view : Position → α} {limit : Option Nat} {source other : String}
    (h : placed (view ∘ Position.ofOffset source.toList) (scan source) =
      placed (view ∘ Position.ofOffset other.toList) (scan other)) :
    (readText limit source).mapError (ReadError.map view) =
      (readText limit other).mapError (ReadError.map view) := by
  have hview : ∀ text : String, (readText limit text).mapError (ReadError.map view) =
      (readWhole limit [] (scan text)).result.mapError
        (ReadError.map (view ∘ Position.ofOffset text.toList)) := by
    intro text
    rw [readText_eq]
    cases (readWhole limit [] (scan text)).result with
    | ok items => rfl
    | error e => cases e <;> rfl
  rw [hview, hview]
  exact readWhole_congr h

end PlanText
