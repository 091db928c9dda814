namespace Twilight

/-!
# Keys — the strict orders that tables are sorted by

* `Key κ` — a decidable strict linear order on `κ`, as a Boolean `before`.
* Instances for numbers, characters and lists (by the first difference), texts (by code points)
  and pairs (by the first component, then the second).
-/

/-- A strict linear order with a Boolean test. -/
class Key (κ : Type) where
  /-- Whether the first key stands before the second. -/
  before : κ → κ → Bool
  irrefl : ∀ a, before a a = false
  trans : ∀ {a b c}, before a b = true → before b c = true → before a c = true
  total : ∀ {a b}, before a b = false → before b a = false → a = b

namespace Key

variable {κ ι : Type}

/-- The order of keys is asymmetric: of two keys that differ only one comes `before` the other. -/
theorem asymm [Key κ] {a b : κ} (h : before a b = true) : before b a = false := by
  cases hb : before b a with
  | false => rfl
  | true => rw [← irrefl a, trans h hb]

/-- Keys of which one comes `before` the other are different keys, because the order is irreflexive.
    -/
theorem ne_of_before [Key κ] {a b : κ} (h : before a b = true) : a ≠ b := by
  rintro rfl
  simp [irrefl] at h

instance instInt : Key Int where
  before a b := decide (a < b)
  irrefl a := by simp
  trans h₁ h₂ := by simp only [decide_eq_true_eq] at *; omega
  total h₁ h₂ := by simp only [decide_eq_false_iff_not] at *; omega

instance instNat : Key Nat where
  before a b := decide (a < b)
  irrefl a := by simp
  trans h₁ h₂ := by simp only [decide_eq_true_eq] at *; omega
  total h₁ h₂ := by simp only [decide_eq_false_iff_not] at *; omega

@[simp] theorem before_int (a b : Int) : before a b = decide (a < b) := rfl
@[simp] theorem before_nat (a b : Nat) : before a b = decide (a < b) := rfl

/-- The order of a key pulled back along an injective map. -/
@[reducible] def ofInjective [Key ι] (f : κ → ι) (inj : ∀ {a b}, f a = f b → a = b) : Key κ where
  before a b := before (f a) (f b)
  irrefl a := irrefl (f a)
  trans := trans
  total h₁ h₂ := inj (total h₁ h₂)

instance instChar : Key Char := ofInjective Char.toNat Char.toNat_inj.1

/-! ### Lists, by their first difference -/

/-- Whether the first list stands before the second in dictionary order. -/
def listBefore [Key κ] : List κ → List κ → Bool
  | _, [] => false
  | [], _ :: _ => true
  | a :: as, b :: bs => before a b || (!before b a && listBefore as bs)

/-- The lexicographic order `listBefore` of lists of keys is irreflexive, as the order of the keys
    is. -/
theorem listBefore_irrefl [Key κ] (as : List κ) : listBefore as as = false := by
  induction as with
  | nil => rfl
  | cons a as ih => simp [listBefore, irrefl, ih]

/-- The lexicographic order `listBefore` is transitive. The first difference of the outer two lists
    is where one of the inner pairs first differs. -/
theorem listBefore_trans [Key κ] {as bs cs : List κ} (h₁ : listBefore as bs = true)
    (h₂ : listBefore bs cs = true) : listBefore as cs = true := by
  induction as generalizing bs cs with
  | nil => cases bs <;> cases cs <;> simp_all [listBefore]
  | cons a as ih =>
    cases bs with
    | nil => simp [listBefore] at h₁
    | cons b bs =>
      cases cs with
      | nil => simp [listBefore] at h₂
      | cons c cs =>
        simp only [listBefore, Bool.or_eq_true, Bool.and_eq_true, Bool.not_eq_true'] at *
        rcases h₁ with h₁ | ⟨hba, h₁⟩ <;> rcases h₂ with h₂ | ⟨hcb, h₂⟩
        · -- both differ at the head
          exact .inl (trans h₁ h₂)
        · -- the inner pair differs at the head, the outer one may have the same
          cases hbc : before b c with
          | true => exact .inl (trans h₁ hbc)
          | false => exact .inl (total hbc hcb ▸ h₁)
        · cases hab : before a b with
          | true => exact .inl (trans hab h₂)
          | false => exact .inl (total hab hba ▸ h₂)
        · cases hab : before a b with
          | true =>
            cases hbc : before b c with
            | true => exact .inl (trans hab hbc)
            | false => exact .inl (total hbc hcb ▸ hab)
          | false =>
            -- all heads are the same, so the tails decide
            have hb := total hab hba
            subst hb
            exact .inr ⟨hcb, ih h₁ h₂⟩

/-- Lists of which neither comes before the other in `listBefore` are equal, element by element. -/
theorem listBefore_total [Key κ] {as bs : List κ} (h₁ : listBefore as bs = false)
    (h₂ : listBefore bs as = false) : as = bs := by
  induction as generalizing bs with
  | nil => cases bs <;> simp_all [listBefore]
  | cons a as ih =>
    cases bs with
    | nil => simp [listBefore] at h₂
    | cons b bs =>
      simp only [listBefore, Bool.or_eq_false_iff, Bool.and_eq_false_iff,
        Bool.not_eq_false'] at h₁ h₂
      have hab := total h₁.1 h₂.1
      subst hab
      simp only [irrefl, Bool.false_eq_true, false_or] at h₁ h₂
      rw [ih h₁.2 h₂.2]

instance instList [Key κ] : Key (List κ) where
  before := listBefore
  irrefl := listBefore_irrefl
  trans := listBefore_trans
  total := listBefore_total

/-- Texts stand in the order of their code points. -/
instance instString : Key String := ofInjective String.toList String.toList_inj.1

/-! ### Pairs -/

instance instProd [Key κ] [Key ι] : Key (κ × ι) where
  before p q := before p.1 q.1 || (!before q.1 p.1 && before p.2 q.2)
  irrefl p := by simp [irrefl]
  trans {p q r} h₁ h₂ := by
    simp only [Bool.or_eq_true, Bool.and_eq_true, Bool.not_eq_true'] at *
    rcases h₁ with h₁ | ⟨hqp, h₁⟩ <;> rcases h₂ with h₂ | ⟨hrq, h₂⟩
    · exact .inl (trans h₁ h₂)
    · cases hqr : before q.1 r.1 with
      | true => exact .inl (trans h₁ hqr)
      | false => exact .inl (total hqr hrq ▸ h₁)
    · cases hpq : before p.1 q.1 with
      | true => exact .inl (trans hpq h₂)
      | false => exact .inl (total hpq hqp ▸ h₂)
    · cases hpq : before p.1 q.1 with
      | true =>
        cases hqr : before q.1 r.1 with
        | true => exact .inl (trans hpq hqr)
        | false => exact .inl (total hqr hrq ▸ hpq)
      | false =>
        have hp := total hpq hqp
        exact .inr ⟨by rw [hp]; exact hrq, trans h₁ h₂⟩
  total {p q} h₁ h₂ := by
    simp only [Bool.or_eq_false_iff, Bool.and_eq_false_iff, Bool.not_eq_false'] at h₁ h₂
    have hp := total h₁.1 h₂.1
    simp only [hp, irrefl, Bool.false_eq_true, false_or, true_and] at h₁ h₂
    exact Prod.ext hp (total h₁ h₂)

end Key

end Twilight
