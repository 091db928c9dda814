import Mathlib.Data.List.Basic
import Mathlib.Data.List.Induction
import Twilight.Table

namespace Twilight

/-!
# Look-ups in changed tables

* `Table.get?_insert`, `Table.get?_erase` — one equation each for the key itself and for the others.
* `Table.putBack_insert` — a value that was inserted can be taken back.
* `Table.get?_filterMap`, `Table.get?_map` — a function applied to every entry acts on each look-up.
* `Table.get?_ofList`, `Table.ofList_entries` — tables made from lists, and from their own entries.
* `Table.eq_single` — a table that answers for one key only holds one entry.
-/

namespace Table

variable {κ α β : Type} [Key κ]

/-! ### One key changed -/

/-- After `insert`, the key has the new value and every other key what it had. -/
theorem get?_insert [DecidableEq κ] (t : Table κ α) (k j : κ) (v : α) :
    (t.insert k v).get? j = if j = k then some v else t.get? j := by
  by_cases h : j = k
  · rw [if_pos h, h, get?_insert_self]
  · rw [if_neg h, get?_insert_of_ne t h]

/-- After `erase`, the key has no value and every other key what it had. -/
theorem get?_erase [DecidableEq κ] (t : Table κ α) (k j : κ) :
    (t.erase k).get? j = if j = k then none else t.get? j := by
  by_cases h : j = k
  · rw [if_pos h, h, get?_erase_self]
  · rw [if_neg h, get?_erase_of_ne t h]

/-- What holds of the new value and of all old ones holds of all values then. -/
theorem forall_insert [DecidableEq κ] {P : κ → α → Prop} {t : Table κ α} {k : κ} {v : α}
    (hv : P k v) (ht : ∀ j w, t.get? j = some w → P j w) :
    ∀ j w, (t.insert k v).get? j = some w → P j w := by
  intro j w hw
  rw [get?_insert] at hw
  by_cases hj : j = k
  · rw [if_pos hj] at hw
    rw [hj, ← Option.some.inj hw]
    exact hv
  · rw [if_neg hj] at hw
    exact ht j w hw

/-- What is true of all entries of a table is true of those that `erase` leaves. -/
theorem forall_erase [DecidableEq κ] {P : κ → α → Prop} {t : Table κ α} (k : κ)
    (ht : ∀ j w, t.get? j = some w → P j w) :
    ∀ j w, (t.erase k).get? j = some w → P j w := by
  intro j w hw
  rw [get?_erase] at hw
  by_cases hj : j = k
  · rw [if_pos hj] at hw
    contradiction
  · rw [if_neg hj] at hw
    exact ht j w hw

/-- Of two values that `insert` puts under one key the later one stays. -/
theorem insert_insert [DecidableEq κ] (t : Table κ α) (k : κ) (v w : α) :
    (t.insert k v).insert k w = t.insert k w := by
  apply ext_get
  intro j
  rw [get?_insert, get?_insert, get?_insert]
  by_cases hj : j = k
  · rw [if_pos hj, if_pos hj]
  · rw [if_neg hj, if_neg hj, if_neg hj]

/-- `insert` of the value that a key has changes nothing. -/
theorem insert_of_get?_eq_some [DecidableEq κ] {t : Table κ α} {k : κ} {v : α}
    (h : t.get? k = some v) : t.insert k v = t := by
  apply ext_get
  intro j
  rw [get?_insert]
  split
  · rename_i hj
    rw [hj, h]
  · rfl

/-- Nothing is left of a value once what it took the place of was put back. -/
theorem putBack_insert [DecidableEq κ] (t : Table κ α) (k : κ) (v : α) :
    (t.insert k v).putBack k (t.get? k) = t := by
  cases hold : t.get? k with
  | some old =>
    show (t.insert k v).insert k old = t
    rw [insert_insert, insert_of_get?_eq_some hold]
  | none =>
    show (t.insert k v).erase k = t
    apply ext_get
    intro j
    rw [get?_erase, get?_insert]
    by_cases hj : j = k
    · rw [if_pos hj, hj, hold]
    · rw [if_neg hj, if_neg hj]

/-! ### Every entry changed -/

/-- `filterMap` makes of each value what the function gives for its key, if anything. -/
theorem get?_filterMap (t : Table κ α) (f : κ → α → Option β) (k : κ) :
    (t.filterMap f).get? k = (t.get? k).bind (f k) := by
  apply Option.ext
  intro b
  rw [get?_eq_some_iff]
  show (k, b) ∈ t.entries.filterMap (fun p => (f p.1 p.2).map fun b => (p.1, b)) ↔ _
  rw [List.mem_filterMap]
  constructor
  · -- the entry that `b` comes from has the same key
    rintro ⟨⟨k', v⟩, hmem, hf⟩
    obtain ⟨b', hb', heq⟩ := Option.map_eq_some_iff.1 hf
    obtain ⟨rfl, rfl⟩ := Prod.mk.inj heq
    rw [t.get?_eq_some_iff.2 hmem]
    exact hb'
  · intro h
    obtain ⟨v, hv, hb⟩ := Option.bind_eq_some_iff.1 h
    exact ⟨(k, v), t.get?_eq_some_iff.1 hv, by rw [hb]; rfl⟩

/-- `map` makes of each value what the function gives. -/
theorem get?_map (t : Table κ α) (f : α → β) (k : κ) : (t.map f).get? k = (t.get? k).map f := by
  apply Option.ext
  intro b
  rw [get?_eq_some_iff]
  show (k, b) ∈ t.entries.map (fun p => (p.1, f p.2)) ↔ _
  rw [List.mem_map]
  constructor
  · rintro ⟨⟨k', v⟩, hmem, heq⟩
    obtain ⟨rfl, rfl⟩ := Prod.mk.inj heq
    rw [t.get?_eq_some_iff.2 hmem]
    rfl
  · intro h
    obtain ⟨v, hv, rfl⟩ := Option.map_eq_some_iff.1 h
    exact ⟨(k, v), t.get?_eq_some_iff.1 hv, rfl⟩

/-! ### Tables of lists -/

/-- The last one of the entries of `ofList` is inserted last. -/
theorem ofList_append (es : List (κ × α)) (e : κ × α) :
    ofList (es ++ [e]) = (ofList es).insert e.1 e.2 := by
  unfold ofList
  rw [List.foldl_append]
  rfl

/-- A list that has one value under each key is looked up as it stands. -/
theorem get?_ofList [DecidableEq κ] {es : List (κ × α)}
    (hes : ∀ k v w, (k, v) ∈ es → (k, w) ∈ es → v = w) {k : κ} {v : α} :
    (ofList es).get? k = some v ↔ (k, v) ∈ es := by
  -- the last entry is inserted last, so the induction is from the back
  induction es using List.reverseRecOn with
  | nil =>
    constructor
    · intro h
      cases h
    · intro h
      cases h
  | append_singleton es e ih =>
    obtain ⟨k', v'⟩ := e
    have hes' : ∀ k v w, (k, v) ∈ es → (k, w) ∈ es → v = w := fun k v w hv hw =>
      hes k v w (List.mem_append_left _ hv) (List.mem_append_left _ hw)
    have hlast : (k', v') ∈ es ++ [(k', v')] := List.mem_append_right _ (List.mem_singleton_self _)
    rw [ofList_append, get?_insert]
    by_cases hk : k = k'
    · rw [if_pos hk, hk]
      constructor
      · intro h
        rw [← Option.some.inj h]
        exact hlast
      · intro h
        rw [hes k' v v' h hlast]
    · rw [if_neg hk, ih hes', List.mem_append, List.mem_singleton]
      constructor
      · exact .inl
      · rintro (h | h)
        · exact h
        · exact absurd (Prod.mk.inj h).1 hk

/-- A table is `ofList` of its entries. -/
theorem ofList_entries [DecidableEq κ] (t : Table κ α) : ofList t.entries = t := by
  apply ext_get
  intro k
  apply Option.ext
  intro v
  rw [get?_ofList, get?_eq_some_iff]
  intro k v w hv hw
  rw [← t.get?_eq_some_iff] at hv hw
  exact Option.some.inj (hv.symm.trans hw)

/-- No key has two entries. -/
theorem pairwise_keys (t : Table κ α) : t.entries.Pairwise fun e f => e.1 ≠ f.1 := by
  refine t.sorted.imp ?_
  intro e f hbefore heq
  rw [heq, Key.irrefl] at hbefore
  cases hbefore

/-! ### Few entries -/

/-- The entries of one key are what its look-up answers: one, or none. -/
theorem filter_entries [DecidableEq κ] (t : Table κ α) (k : κ) :
    (t.entries.filter fun p => p.1 = k) = ((t.get? k).map fun v => (k, v)).toList := by
  have hmem : ∀ p ∈ t.entries.filter (fun p => p.1 = k), t.get? k = some p.2 := by
    intro p hp
    obtain ⟨hin, hkey⟩ := List.mem_filter.1 hp
    rw [t.get?_eq_some_iff, ← of_decide_eq_true hkey]
    exact hin
  have hsorted := t.sorted.filter fun p => p.1 = k
  have hkeys : ∀ p ∈ t.entries.filter (fun p => p.1 = k), p.1 = k := fun p hp =>
    of_decide_eq_true (List.mem_filter.1 hp).2
  have hall : ∀ v, t.get? k = some v → (k, v) ∈ t.entries.filter fun p => p.1 = k := fun v hv =>
    List.mem_filter.2 ⟨t.get?_eq_some_iff.1 hv, by simp⟩
  revert hmem hsorted hkeys hall
  generalize t.entries.filter (fun p => p.1 = k) = es
  intro hmem hsorted hkeys hall
  match es with
  | [] =>
    cases hv : t.get? k with
    | none => rfl
    | some v => exact absurd (hall v hv) (List.not_mem_nil)
  | [p] =>
    rw [hmem p (List.mem_singleton_self p), ← hkeys p (List.mem_singleton_self p)]
    rfl
  | p :: q :: rest =>
    -- two entries of one key would be in order
    have hbefore := List.rel_of_pairwise_cons hsorted (List.mem_cons_self (a := q) (l := rest))
    rw [hkeys p (by simp), hkeys q (by simp), Key.irrefl] at hbefore
    cases hbefore

/-- The entry of a key, if there is one, and those of the table without it. -/
theorem entries_perm_erase [DecidableEq κ] (t : Table κ α) (k : κ) :
    t.entries.Perm (((t.get? k).map fun v => (k, v)).toList ++ (t.erase k).entries) := by
  have herase : (t.erase k).entries = t.entries.filter fun p => !decide (p.1 = k) := by
    refine List.filter_congr fun p _ => ?_
    by_cases hk : p.1 = k
    · simp [hk, Key.irrefl]
    · -- one of two different keys is before the other one
      cases h₁ : Key.before p.1 k with
      | true => simp [hk]
      | false =>
        cases h₂ : Key.before k p.1 with
        | true => simp [hk]
        | false => exact absurd (Key.total h₁ h₂) hk
  rw [← filter_entries, herase]
  exact (List.filter_append_perm (fun p => decide (p.1 = k)) t.entries).symm

/-- Erasing a key undoes what was inserted for it. -/
theorem erase_insert [DecidableEq κ] (t : Table κ α) (k : κ) (v : α) :
    (t.insert k v).erase k = t.erase k := by
  apply ext_get
  intro j
  rw [get?_erase, get?_erase]
  by_cases hj : j = k
  · rw [if_pos hj, if_pos hj]
  · rw [if_neg hj, if_neg hj, get?_insert_of_ne t hj]

/-- The entries after `insert` are the new one and those of all other keys, in some order. -/
theorem entries_insert_perm [DecidableEq κ] (t : Table κ α) (k : κ) (v : α) :
    (t.insert k v).entries.Perm ((k, v) :: (t.erase k).entries) := by
  have hperm := entries_perm_erase (t.insert k v) k
  rw [get?_insert_self, erase_insert] at hperm
  exact hperm

/-- A table that answers for one key only is that single entry. -/
theorem eq_single [DecidableEq κ] {t : Table κ α} {k : κ} {v : α} (h : t.get? k = some v)
    (hne : ∀ j, j ≠ k → t.get? j = none) : t = (empty : Table κ α).insert k v := by
  apply ext_get
  intro j
  rw [get?_insert]
  split
  · rename_i hj
    rw [hj, h]
  · rename_i hj
    rw [hne j hj, get?_empty]

/-- A table with a single key has a single entry. -/
@[simp] theorem entries_single (k : κ) (v : α) :
    ((empty : Table κ α).insert k v).entries = [(k, v)] := rfl

end Table

end Twilight
