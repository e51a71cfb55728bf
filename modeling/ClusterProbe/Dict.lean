/-
  ClusterProbe.Dict — finite maps with text keys, kept in increasing key order.

  Keys are compared code point by code point, which is also the order of their UTF-8
  bytes. Two maps with the same entries are the same value (`ext`), an entry put
  twice keeps the later value (`find?_insert`), and rebuilding a map from its own
  entries gives the map back (`ofList_entries`).
-/

namespace ClusterProbe

structure Dict (α : Type) where
  entries : List (String × α)
  sorted : (entries.map (·.1)).Pairwise (· < ·)

namespace Dict

variable {α : Type}

theorem ext {d e : Dict α} (h : d.entries = e.entries) : d = e := by
  cases d; cases e; cases h; rfl

instance [DecidableEq α] : DecidableEq (Dict α) := fun d e =>
  decidable_of_iff (d.entries = e.entries) ⟨ext, fun h => h ▸ rfl⟩

instance [Repr α] : Repr (Dict α) := ⟨fun d n => reprPrec d.entries n⟩

def empty : Dict α := ⟨[], .nil⟩

instance : Inhabited (Dict α) := ⟨empty⟩

/-! ## Putting entries -/

/-- Puts an entry into its place; an entry of the same key gives way. -/
def put (k : String) (v : α) : List (String × α) → List (String × α)
  | [] => [(k, v)]
  | (k', v') :: r =>
    if k < k' then (k, v) :: (k', v') :: r
    else if k = k' then (k, v) :: r
    else (k', v') :: put k v r

theorem mem_keys_put {k x : String} {v : α} {l : List (String × α)} (h : x ∈ (put k v l).map (·.1)) :
    x = k ∨ x ∈ l.map (·.1) := by
  induction l with
  | nil => simpa [put] using h
  | cons e r ih =>
    obtain ⟨k', v'⟩ := e
    unfold put at h
    split at h
    · simpa using h
    split at h
    · simp at h ⊢
      rcases h with h | h
      · exact Or.inl h
      · exact Or.inr (Or.inr h)
    · simp only [List.map_cons, List.mem_cons] at h ⊢
      rcases h with h | h
      · exact Or.inr (Or.inl h)
      · rcases ih h with h | h
        · exact Or.inl h
        · exact Or.inr (Or.inr h)

theorem put_sorted {k : String} {v : α} {l : List (String × α)} (h : (l.map (·.1)).Pairwise (· < ·)) :
    ((put k v l).map (·.1)).Pairwise (· < ·) := by
  induction l with
  | nil => simp [put]
  | cons e r ih =>
    obtain ⟨k', v'⟩ := e
    simp only [List.map_cons, List.pairwise_cons] at h
    unfold put
    split
    · next hk =>
      simp only [List.map_cons, List.pairwise_cons, List.mem_cons]
      refine ⟨?_, h⟩
      rintro x (rfl | hx)
      · exact hk
      · exact String.lt_trans hk (h.1 x hx)
    split
    · next hk =>
      subst hk
      simpa using h
    · next hk hne =>
      simp only [List.map_cons, List.pairwise_cons]
      refine ⟨?_, ih h.2⟩
      intro x hx
      rcases mem_keys_put hx with rfl | hx
      · rcases Std.Trichotomous.rel_or_eq_or_rel_swap (r := fun a b : String => a < b) (a := x) (b := k') with h' | h' | h'
        · exact absurd h' hk
        · exact absurd h' hne
        · exact h'
      · exact h.1 x hx

def insert (k : String) (v : α) (d : Dict α) : Dict α := ⟨put k v d.entries, put_sorted d.sorted⟩

/-- Of two entries with one key the later one stays. -/
def ofList (l : List (String × α)) : Dict α := l.foldl (fun d e => d.insert e.1 e.2) empty

def find? (d : Dict α) (k : String) : Option α := d.entries.lookup k

def isEmpty (d : Dict α) : Bool := d.entries.isEmpty

/-! ## Laws -/

theorem lookup_put (k x : String) (v : α) (l : List (String × α)) :
    (put k v l).lookup x = if x = k then some v else l.lookup x := by
  induction l with
  | nil =>
    by_cases h : x = k
    · simp [put, h]
    · simp [put, h, List.lookup_cons, beq_eq_false_iff_ne.mpr h]
  | cons e r ih =>
    obtain ⟨k', v'⟩ := e
    unfold put
    split
    · by_cases h : x = k
      · simp [h]
      · simp [h, List.lookup_cons, beq_eq_false_iff_ne.mpr h]
    split
    · next hk =>
      subst hk
      by_cases h : x = k
      · simp [h]
      · simp [h, List.lookup_cons, beq_eq_false_iff_ne.mpr h]
    · next hne =>
      by_cases h' : x = k'
      · subst h'
        have : ¬ x = k := fun h => hne h.symm
        simp [this]
      · simp only [List.lookup_cons, beq_eq_false_iff_ne.mpr h']
        exact ih

theorem find?_insert (d : Dict α) (k x : String) (v : α) :
    (d.insert k v).find? x = if x = k then some v else d.find? x :=
  lookup_put k x v d.entries

/-- An entry above all keys goes to the end. -/
theorem put_eq_append {k : String} {v : α} {l : List (String × α)} (h : ∀ x ∈ l.map (·.1), x < k) :
    put k v l = l ++ [(k, v)] := by
  induction l with
  | nil => rfl
  | cons e r ih =>
    obtain ⟨k', v'⟩ := e
    have hk : k' < k := h k' (by simp)
    unfold put
    have hne : ¬ k = k' := fun h => String.lt_irrefl k' (h ▸ hk)
    rw [if_neg (String.lt_asymm hk), if_neg hne, List.cons_append,
      ih (fun x hx => h x (List.mem_cons_of_mem _ hx))]

theorem entries_foldl_insert (l : List (String × α)) (d : Dict α)
    (h : ((d.entries ++ l).map (·.1)).Pairwise (· < ·)) :
    (l.foldl (fun d e => d.insert e.1 e.2) d).entries = d.entries ++ l := by
  induction l generalizing d with
  | nil => simp
  | cons e r ih =>
    have hput : (d.insert e.1 e.2).entries = d.entries ++ [e] := by
      refine put_eq_append ?_
      intro x hx
      rw [List.map_append, List.pairwise_append] at h
      exact h.2.2 x hx e.1 (by simp)
    rw [List.foldl_cons, ih _ (by rw [hput]; simpa using h), hput, List.append_assoc]
    rfl

theorem ofList_entries (d : Dict α) : ofList d.entries = d :=
  ext (by simpa [ofList, empty] using entries_foldl_insert d.entries empty (by simpa [empty] using d.sorted))

end Dict

end ClusterProbe
