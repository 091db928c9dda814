import Twilight.Key

namespace Twilight

/-!
# Tables — finite maps in key order

* `Table κ α` — a list of entries whose keys strictly ascend; the order is part of the type, so
  two tables that answer every look-up alike are equal (`Table.ext_get`).
* `Table.get?`, `insert`, `erase`, `ofList` — with one look-up law each.
-/

/-- A finite map held as its entries in ascending key order. -/
structure Table (κ α : Type) [Key κ] where
  entries : List (κ × α)
  sorted : entries.Pairwise fun p q => Key.before p.1 q.1 = true

namespace Table

variable {κ α β : Type} [Key κ]

/-- The table without entries. -/
def empty : Table κ α := ⟨[], .nil⟩

instance : Inhabited (Table κ α) := ⟨empty⟩
instance : EmptyCollection (Table κ α) := ⟨empty⟩

/-- The value of `k` in a list of ascending entries. -/
def lookup (k : κ) : List (κ × α) → Option α
  | [] => none
  | (k', v) :: rest =>
    if Key.before k k' then none else if Key.before k' k then lookup k rest else some v

/-- The value stored under `k`. -/
def get? (t : Table κ α) (k : κ) : Option α := lookup k t.entries

/-- Whether `k` has a value. -/
def contains (t : Table κ α) (k : κ) : Bool := (t.get? k).isSome

/-- The keys in order. -/
def keys (t : Table κ α) : List κ := t.entries.map (·.1)

/-- The values in the order of their keys. -/
def values (t : Table κ α) : List α := t.entries.map (·.2)

def isEmpty (t : Table κ α) : Bool := t.entries.isEmpty

def size (t : Table κ α) : Nat := t.entries.length

/-- Put an entry at its place, over an entry of the same key. -/
def place (k : κ) (v : α) : List (κ × α) → List (κ × α)
  | [] => [(k, v)]
  | (k', v') :: rest =>
    if Key.before k k' then (k, v) :: (k', v') :: rest
    else if Key.before k' k then (k', v') :: place k v rest
    else (k, v) :: rest

/-- An entry of a list after `place` is the one that was placed, or it was there before. -/
theorem mem_place {k : κ} {v : α} {es : List (κ × α)} {p : κ × α} (h : p ∈ place k v es) :
    p = (k, v) ∨ p ∈ es := by
  induction es with
  | nil => simpa [place] using h
  | cons e es ih =>
    obtain ⟨k', v'⟩ := e
    unfold place at h
    split at h
    · simpa using h
    · split at h
      · rcases List.mem_cons.1 h with h | h
        · exact .inr (by simp [h])
        · exact (ih h).imp id (List.mem_cons_of_mem _)
      · rcases List.mem_cons.1 h with h | h
        · exact .inl h
        · exact .inr (List.mem_cons_of_mem _ h)

/-- Keys that ascend strictly still do after `place`: a new entry goes where it belongs, and one
    with the same key is replaced. -/
theorem pairwise_place (k : κ) (v : α) {es : List (κ × α)}
    (h : es.Pairwise fun p q => Key.before p.1 q.1 = true) :
    (place k v es).Pairwise fun p q => Key.before p.1 q.1 = true := by
  induction es with
  | nil => simp [place]
  | cons e es ih =>
    obtain ⟨k', v'⟩ := e
    have hes := List.pairwise_cons.1 h
    unfold place
    split
    · rename_i hk
      refine List.pairwise_cons.2 ⟨fun p hp => ?_, h⟩
      rcases List.mem_cons.1 hp with rfl | hp
      · exact hk
      · exact Key.trans hk (hes.1 p hp)
    · split
      · rename_i hk
        refine List.pairwise_cons.2 ⟨fun p hp => ?_, ih hes.2⟩
        rcases mem_place hp with rfl | hp
        · exact hk
        · exact hes.1 p hp
      · rename_i hk hk'
        -- Neither key is before the other one, so they are the same.
        have hkk := Key.total (Bool.eq_false_iff.2 hk) (Bool.eq_false_iff.2 hk')
        exact List.pairwise_cons.2 ⟨fun p hp => hkk ▸ hes.1 p hp, hes.2⟩

/-- The table with `v` under `k`. -/
def insert (t : Table κ α) (k : κ) (v : α) : Table κ α :=
  ⟨place k v t.entries, pairwise_place k v t.sorted⟩

/-- The table without `k`. -/
def erase (t : Table κ α) (k : κ) : Table κ α :=
  ⟨t.entries.filter fun p => Key.before p.1 k || Key.before k p.1, t.sorted.filter _⟩

/-- The table of the entries for which `keep` holds. -/
def filter (t : Table κ α) (keep : κ → α → Bool) : Table κ α :=
  ⟨t.entries.filter fun p => keep p.1 p.2, t.sorted.filter _⟩

/-- Apply a function to every value. -/
def map (t : Table κ α) (f : α → β) : Table κ β :=
  ⟨t.entries.map fun p => (p.1, f p.2), by
    rw [List.pairwise_map]
    exact t.sorted⟩

/-- Keys that ascend strictly still do when the values are mapped and some of the entries are left
    out. -/
theorem pairwise_filterMap (f : κ → α → Option β) {es : List (κ × α)}
    (h : es.Pairwise fun p q => Key.before p.1 q.1 = true) :
    (es.filterMap fun p => (f p.1 p.2).map fun b => (p.1, b)).Pairwise
      fun p q => Key.before p.1 q.1 = true := by
  refine List.pairwise_filterMap.2 (h.imp fun {p q} hpq => ?_)
  intro p' hp q' hq
  obtain ⟨_, _, rfl⟩ := Option.map_eq_some_iff.1 hp
  obtain ⟨_, _, rfl⟩ := Option.map_eq_some_iff.1 hq
  exact hpq

/-- Apply a partial function to every entry and keep what it yields. -/
def filterMap (t : Table κ α) (f : κ → α → Option β) : Table κ β :=
  ⟨t.entries.filterMap fun p => (f p.1 p.2).map fun b => (p.1, b),
    pairwise_filterMap f t.sorted⟩

/-- Insert the entries from left to right: the last one of a key stays. -/
def ofList (es : List (κ × α)) : Table κ α := es.foldl (fun t p => t.insert p.1 p.2) empty

/-- The value under `k`, or `fallback`. -/
def getD (t : Table κ α) (k : κ) (fallback : α) : α := (t.get? k).getD fallback

/-- Replace the value under `k`, when there is one. -/
def modify (t : Table κ α) (k : κ) (f : α → α) : Table κ α :=
  match t.get? k with
  | some v => t.insert k (f v)
  | none => t

/-- Give `k` the value that it had before, if it had one. -/
def putBack (t : Table κ α) (k : κ) : Option α → Table κ α
  | some v => t.insert k v
  | none => t.erase k

/-! ### Look-up laws -/

@[simp] theorem get?_empty (k : κ) : (empty : Table κ α).get? k = none := rfl

@[simp] theorem get?_emptyCollection (k : κ) : (∅ : Table κ α).get? k = none := rfl

/-- A key that comes before all keys of a list has no value there, and `lookup` sees that at the
    first entry. -/
theorem lookup_eq_none {k : κ} {es : List (κ × α)} (h : ∀ p ∈ es, Key.before k p.1 = true) :
    lookup k es = none := by
  cases es with
  | nil => rfl
  | cons e es => simp [lookup, h e (by simp)]

/-- Looking up a key right after `place` gave it a value gets this value. -/
theorem lookup_place_self (k : κ) (v : α) (es : List (κ × α)) :
    lookup k (place k v es) = some v := by
  induction es with
  | nil => simp [place, lookup, Key.irrefl]
  | cons e es ih =>
    unfold place
    split
    · simp [lookup, Key.irrefl]
    · split
      · rename_i h₁ h₂
        simp [lookup, h₁, h₂, ih]
      · simp [lookup, Key.irrefl]

/-- The entry that `place` adds or replaces leaves what `lookup` finds under every other key as it
    was. -/
theorem lookup_place_of_ne {k j : κ} (hne : j ≠ k) (v : α) (es : List (κ × α)) :
    lookup j (place k v es) = lookup j es := by
  -- the order is total, so one of the two different keys comes first
  have hjk : Key.before j k = true ∨ Key.before k j = true := by
    cases h₁ : Key.before j k with
    | true => exact .inl rfl
    | false =>
      cases h₂ : Key.before k j with
      | true => exact .inr rfl
      | false => exact absurd (Key.total h₁ h₂) hne
  induction es with
  | nil => rcases hjk with h | h <;> simp [place, lookup, h]
  | cons e es ih =>
    obtain ⟨k', v'⟩ := e
    unfold place
    split
    · rename_i hk
      rcases hjk with h | h
      · simp [lookup, h, Key.trans h hk]
      · simp [lookup, Key.asymm h, h]
    · split
      · simp only [lookup, ih]
      · rename_i h₁ h₂
        -- the entry at the front is the one that is replaced
        have hkk := Key.total (Bool.eq_false_iff.2 h₁) (Bool.eq_false_iff.2 h₂)
        subst hkk
        rcases hjk with h | h
        · simp [lookup, h]
        · simp [lookup, Key.asymm h, h]

/-- Reading a key right after `insert` gave it a value gets this value. -/
@[simp] theorem get?_insert_self (t : Table κ α) (k : κ) (v : α) :
    (t.insert k v).get? k = some v := lookup_place_self k v t.entries

/-- Giving one key a value by `insert` leaves what `get?` reads under every other key as it was. -/
theorem get?_insert_of_ne (t : Table κ α) {k j : κ} (h : j ≠ k) (v : α) :
    (t.insert k v).get? j = t.get? j := lookup_place_of_ne h v t.entries

/-- In a list whose keys strictly ascend, `lookup` finds a value under a key if and only if the two
    are an entry. -/
theorem lookup_eq_some_iff {k : κ} {v : α} {es : List (κ × α)}
    (h : es.Pairwise fun p q => Key.before p.1 q.1 = true) :
    lookup k es = some v ↔ (k, v) ∈ es := by
  induction es with
  | nil => simp [lookup]
  | cons e es ih =>
    obtain ⟨k', v'⟩ := e
    have hes := List.pairwise_cons.1 h
    unfold lookup
    split
    · rename_i hk
      constructor
      · simp
      · intro hm
        -- `k` comes before the first key, hence before all of them.
        rcases List.mem_cons.1 hm with hm | hm
        · simp only [Prod.mk.injEq] at hm
          simp [hm.1, Key.irrefl] at hk
        · have := Key.asymm (hes.1 _ hm)
          simp [this] at hk
    · split
      · rename_i hk
        rw [ih hes.2, List.mem_cons]
        constructor
        · exact .inr
        · rintro (hm | hm)
          · simp only [Prod.mk.injEq] at hm
            simp [hm.1, Key.irrefl] at hk
          · exact hm
      · rename_i h₁ h₂
        have hkk := Key.total (Bool.eq_false_iff.2 h₁) (Bool.eq_false_iff.2 h₂)
        subst hkk
        constructor
        · rintro ⟨⟩
          simp
        · intro hm
          rcases List.mem_cons.1 hm with hm | hm
          · simp only [Prod.mk.injEq, true_and] at hm
            rw [hm]
          · have := hes.1 _ hm
            simp [Key.irrefl] at this

/-- A look-up answers exactly the entries. -/
theorem get?_eq_some_iff (t : Table κ α) {k : κ} {v : α} :
    t.get? k = some v ↔ (k, v) ∈ t.entries := lookup_eq_some_iff t.sorted

/-- A key that was erased by `erase` has no value any more. -/
@[simp] theorem get?_erase_self (t : Table κ α) (k : κ) : (t.erase k).get? k = none := by
  cases h : (t.erase k).get? k with
  | none => rfl
  | some v =>
    have := (get?_eq_some_iff _).1 h
    simp [erase, Key.irrefl] at this

/-- Erasing one key by `erase` leaves what `get?` reads under every other key as it was. -/
theorem get?_erase_of_ne (t : Table κ α) {k j : κ} (hne : j ≠ k) :
    (t.erase k).get? j = t.get? j := by
  have hjk : (Key.before j k || Key.before k j) = true := by
    cases h₁ : Key.before j k with
    | true => rfl
    | false =>
      cases h₂ : Key.before k j with
      | true => rfl
      | false => exact absurd (Key.total h₁ h₂) hne
  apply Option.ext
  intro v
  rw [get?_eq_some_iff, get?_eq_some_iff]
  simp [erase, hjk]

/-- Two lists with strictly ascending keys that answer every `lookup` alike are equal. This makes
    tables with the same contents the same table. -/
theorem eq_of_lookup_eq {es fs : List (κ × α)}
    (he : es.Pairwise fun p q => Key.before p.1 q.1 = true)
    (hf : fs.Pairwise fun p q => Key.before p.1 q.1 = true)
    (h : ∀ k, lookup k es = lookup k fs) : es = fs := by
  induction es generalizing fs with
  | nil =>
    cases fs with
    | nil => rfl
    | cons f fs =>
      have := h f.1
      rw [(lookup_eq_some_iff hf).2 (show (f.1, f.2) ∈ f :: fs by simp)] at this
      simp [lookup] at this
  | cons e es ih =>
    cases fs with
    | nil =>
      have := h e.1
      rw [(lookup_eq_some_iff he).2 (show (e.1, e.2) ∈ e :: es by simp)] at this
      simp [lookup] at this
    | cons f fs =>
      have he' := List.pairwise_cons.1 he
      have hf' := List.pairwise_cons.1 hf
      have hem : e ∈ f :: fs := (lookup_eq_some_iff hf).1
        (by rw [← h]; exact (lookup_eq_some_iff he).2 (by simp))
      have hfm : f ∈ e :: es := (lookup_eq_some_iff he).1
        (by rw [h]; exact (lookup_eq_some_iff hf).2 (by simp))
      -- Each first entry is in the other list; at different places they would be in both orders.
      have hef : e = f := by
        rcases List.mem_cons.1 hem with heq | hem
        · exact heq
        · rcases List.mem_cons.1 hfm with heq | hfm
          · exact heq.symm
          · have := Key.asymm (he'.1 _ hfm)
            rw [hf'.1 _ hem] at this
            contradiction
      subst hef
      -- Behind the common first entry neither list has its key, nor one before it.
      rw [ih he'.2 hf'.2 fun k => ?_]
      have hk := h k
      unfold lookup at hk
      cases hlt : Key.before k e.1 with
      | true =>
        rw [lookup_eq_none fun p hp => Key.trans hlt (he'.1 p hp),
          lookup_eq_none fun p hp => Key.trans hlt (hf'.1 p hp)]
      | false =>
        cases hgt : Key.before e.1 k with
        | true => simpa [hlt, hgt] using hk
        | false =>
          have := Key.total hlt hgt
          subst this
          rw [lookup_eq_none he'.1, lookup_eq_none hf'.1]

/-- A table is known by its look-ups: where `get?` answers the same for every key, the entries are
    the same, in the same order. -/
theorem ext_get {s t : Table κ α} (h : ∀ k, s.get? k = t.get? k) : s = t := by
  obtain ⟨es, hes⟩ := s
  obtain ⟨fs, hfs⟩ := t
  have := eq_of_lookup_eq hes hfs h
  subst this
  rfl

end Table

end Twilight
