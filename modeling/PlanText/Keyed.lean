/-!
Lists of pairs of a key and a value in which a key occurs once at most. The order is that in
which the keys came up.
-/

namespace PlanText.Keyed

variable {Key Value : Type} [DecidableEq Key]

def get? (key : Key) : List (Key × Value) → Option Value
  | [] => none
  | (other, value) :: rest => if other = key then some value else get? key rest

/-- Puts a value in place of the one with the same key, or after all others. -/
def put (key : Key) (value : Value) : List (Key × Value) → List (Key × Value)
  | [] => [(key, value)]
  | (other, old) :: rest =>
    if other = key then (key, value) :: rest else (other, old) :: put key value rest

/-- Drops the pair with a key. -/
def erase (key : Key) (pairs : List (Key × Value)) : List (Key × Value) :=
  pairs.filter fun pair => pair.1 ≠ key

theorem get?_put (key other : Key) (value : Value) (pairs : List (Key × Value)) :
    get? other (put key value pairs) = if key = other then some value else get? other pairs := by
  induction pairs with
  | nil => simp [put, get?]
  | cons pair rest ih =>
    obtain ⟨name, old⟩ := pair
    by_cases h : name = key
    · subst h
      by_cases ho : name = other <;> simp [put, get?, ho]
    · by_cases ho : key = other
      · subst ho
        simp [put, get?, h, ih]
      · simp [put, get?, h, ih, ho]

theorem keys_put (key : Key) (value : Value) (pairs : List (Key × Value)) :
    (put key value pairs).map Prod.fst =
      if key ∈ pairs.map Prod.fst then pairs.map Prod.fst else pairs.map Prod.fst ++ [key] := by
  induction pairs with
  | nil => simp [put]
  | cons pair rest ih =>
      obtain ⟨name, old⟩ := pair
      by_cases h : name = key
      · simp [put, h]
      · have hne : key ≠ name := Ne.symm h
        simp only [put, h, if_false, List.map_cons, ih, List.mem_cons, hne, false_or]
        split
        · rfl
        · rfl

theorem nodup_put {pairs : List (Key × Value)} (h : (pairs.map Prod.fst).Nodup) (key : Key)
    (value : Value) : ((put key value pairs).map Prod.fst).Nodup := by
  rw [keys_put]
  split
  · exact h
  · rw [List.nodup_append]
    refine ⟨h, by simp, ?_⟩
    intro a ha b hb
    have hb : b = key := by simpa using hb
    rintro rfl
    rw [hb] at ha
    contradiction

/-- Keys and values may be renamed before or after. -/
theorem put_map {Name Item : Type} [DecidableEq Name] {name : Key → Name} {item : Value → Item}
    (hname : ∀ {a b}, name a = name b → a = b) (key : Key) (value : Value)
    (pairs : List (Key × Value)) :
    put (name key) (item value) (pairs.map fun pair => (name pair.1, item pair.2)) =
      (put key value pairs).map fun pair => (name pair.1, item pair.2) := by
  induction pairs with
  | nil => rfl
  | cons pair rest ih =>
      obtain ⟨other, old⟩ := pair
      by_cases h : other = key
      · simp [put, h]
      · have hne : name other ≠ name key := fun heq => h (hname heq)
        simp [put, h, hne, ih]

section Acts

variable {State : Type} {act : State → Key × Value → State}

omit [DecidableEq Key] in
theorem foldl_act_of_notMem
    (hother : ∀ s key value other old, other ≠ key →
      act (act s (key, value)) (other, old) = act (act s (other, old)) (key, value))
    {key : Key} {pairs : List (Key × Value)} (h : key ∉ pairs.map Prod.fst) (value : Value)
    (s : State) :
    pairs.foldl act (act s (key, value)) = act (pairs.foldl act s) (key, value) := by
  induction pairs generalizing s with
  | nil => rfl
  | cons pair rest ih =>
      obtain ⟨name, old⟩ := pair
      simp only [List.map_cons, List.mem_cons, not_or] at h
      rw [List.foldl_cons, hother s key value name old (Ne.symm h.1), ih h.2, List.foldl_cons]

/-- Acting with a pair that is put in place comes to acting with it last, if it takes back the
act of the pair it replaces and the order of acts with different keys does not matter. -/
theorem foldl_put
    (hagain : ∀ s key old value, act (act s (key, old)) (key, value) = act s (key, value))
    (hother : ∀ s key value other old, other ≠ key →
      act (act s (key, value)) (other, old) = act (act s (other, old)) (key, value))
    {pairs : List (Key × Value)} (h : (pairs.map Prod.fst).Nodup) (key : Key) (value : Value)
    (s : State) :
    (put key value pairs).foldl act s = act (pairs.foldl act s) (key, value) := by
  induction pairs generalizing s with
  | nil => rfl
  | cons pair rest ih =>
      obtain ⟨name, old⟩ := pair
      obtain ⟨hnot, hrest⟩ := List.nodup_cons.mp h
      by_cases hname : name = key
      · subst hname
        have hput : put name value ((name, old) :: rest) = (name, value) :: rest := by simp [put]
        rw [hput, List.foldl_cons, List.foldl_cons, ← hagain s name old value,
          foldl_act_of_notMem hother hnot]
      · have hput : put key value ((name, old) :: rest) =
            (name, old) :: put key value rest := by simp [put, hname]
        rw [hput, List.foldl_cons, List.foldl_cons, ih hrest]

end Acts

end PlanText.Keyed
