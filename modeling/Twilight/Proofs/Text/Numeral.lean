import Twilight.Text.Blank
import Twilight.Text.Numeral

namespace Twilight.Text

/-!
# Decimal texts read back

* `Numeral.readDigits_toDigits` — the digits of a number are read as that number, within the limit.
* `Numeral.readUnsigned_toString`, `Numeral.readSigned_toString` — so is the text of a natural
  number, and that of every signed one; `Numeral.readInt32_toString` is the case of 32 bits.
* `Numeral.isInt32_of_readInt32` — and nothing else is read.
* `isBlank_of_isDigit`, `Numeral.isBlank_of_mem_toString` — no part of it is white space.
* `Numeral.isDigit_of_mem_padded` — a padded number is digits only.
-/

/-- No digit is a blank. -/
theorem isBlank_of_isDigit {c : Char} (hc : c.isDigit = true) : isBlank c = false := by
  rw [Char.isDigit_iff_toNat] at hc
  obtain ⟨hlow, hhigh⟩ := hc
  have hlow : 48 ≤ c.toNat := hlow
  have hhigh : c.toNat ≤ 57 := hhigh
  unfold isBlank
  simp only [Bool.or_eq_false_iff, Bool.and_eq_false_iff, decide_eq_false_iff_not,
    beq_eq_false_iff_ne]
  omega

namespace Numeral

variable {limit : Nat} {excess : Problem}

/-- `digit?` reads back each of the ten digits. -/
theorem digit?_digitChar : ∀ d < 10, digit? (Nat.digitChar d) = some d := by decide

/-- `readDigits` reads one more digit behind those that it read, if the number stays below its
    limit. -/
theorem readDigits_append {acc n d : Nat} {cs : List Char} {c : Char}
    (hcs : readDigits limit excess acc cs = .ok n) (hc : digit? c = some d)
    (hle : n * 10 + d ≤ limit) :
    readDigits limit excess acc (cs ++ [c]) = .ok (n * 10 + d) := by
  induction cs generalizing acc with
  | nil =>
    obtain rfl : acc = n := Except.ok.inj hcs
    show readDigits limit excess acc [c] = .ok (acc * 10 + d)
    unfold readDigits
    simp only [hc, if_neg (Nat.not_lt.2 hle)]
    rfl
  | cons b bs ih =>
    show readDigits limit excess acc (b :: (bs ++ [c])) = .ok (n * 10 + d)
    unfold readDigits at hcs ⊢
    cases hb : digit? b with
    | none =>
      rw [hb] at hcs
      cases hcs
    | some e =>
      simp only [hb] at hcs ⊢
      -- what was read so far is below the limit
      by_cases hlimit : limit < acc * 10 + e
      · rw [if_pos hlimit] at hcs
        cases hcs
      · rw [if_neg hlimit] at hcs ⊢
        exact ih hcs

/-- `readDigits` reads back the decimal digits of a number up to its limit. -/
theorem readDigits_toDigits {n : Nat} (hn : n ≤ limit) :
    readDigits limit excess 0 (Nat.toDigits 10 n) = .ok n := by
  induction n using Nat.strongRecOn with
  | _ n ih =>
    rw [Nat.toDigits_eq_if (by omega)]
    by_cases hten : n < 10
    · have hone : readDigits limit excess 0 ([] ++ [n.digitChar]) = .ok (0 * 10 + n) :=
        readDigits_append rfl (digit?_digitChar n hten) (by omega)
      rw [if_pos hten]
      rw [Nat.zero_mul, Nat.zero_add] at hone
      exact hone
    · -- the digits in front are those of a tenth of the number
      have hmod : n % 10 < 10 := Nat.mod_lt n (by omega)
      have hsum : n / 10 * 10 + n % 10 = n := by omega
      have hall := readDigits_append (ih (n / 10) (by omega) (by omega))
        (digit?_digitChar (n % 10) hmod) (by omega)
      rw [if_neg hten]
      rw [hsum] at hall
      exact hall

/-- `readDigits` gives no number above its limit. -/
theorem le_of_readDigits {acc n : Nat} {cs : List Char} (hacc : acc ≤ limit)
    (hcs : readDigits limit excess acc cs = .ok n) : n ≤ limit := by
  induction cs generalizing acc with
  | nil =>
    rw [← Except.ok.inj hcs]
    exact hacc
  | cons c cs ih =>
    unfold readDigits at hcs
    cases hc : digit? c with
    | none =>
      rw [hc] at hcs
      cases hcs
    | some d =>
      simp only [hc] at hcs
      by_cases hlimit : limit < acc * 10 + d
      · rw [if_pos hlimit] at hcs
        cases hcs
      · rw [if_neg hlimit] at hcs
        exact ih (Nat.not_lt.1 hlimit) hcs

/-- `readMagnitude` gives no number above its limit. -/
theorem le_of_readMagnitude {n : Nat} {cs : List Char}
    (hcs : readMagnitude limit excess cs = .ok n) : n ≤ limit := by
  cases cs with
  | nil => cases hcs
  | cons c cs => exact le_of_readDigits (Nat.zero_le limit) hcs

/-! ### Digits are neither signs nor white space -/

/-- Every number is written with a digit at its front. -/
theorem toDigits_cons (n : Nat) :
    ∃ c cs, Nat.toDigits 10 n = c :: cs ∧ c.isDigit = true := by
  cases hcs : Nat.toDigits 10 n with
  | nil => exact absurd hcs Nat.toDigits_ne_nil
  | cons c cs =>
    have hmem : c ∈ Nat.toDigits 10 n := by
      rw [hcs]
      exact List.mem_cons_self
    exact ⟨c, cs, rfl, Nat.isDigit_of_mem_toDigits (by omega) (by omega) hmem⟩

/-- A digit is none of the other characters. -/
theorem ne_of_isDigit {c d : Char} (hc : c.isDigit = true) (hd : d.isDigit = false) : c ≠ d := by
  intro heq
  rw [heq, hd] at hc
  cases hc

/-- `readMagnitude` reads back the decimal digits of a number up to its limit. -/
theorem readMagnitude_toDigits {n : Nat} (hn : n ≤ limit) :
    readMagnitude limit excess (Nat.toDigits 10 n) = .ok n := by
  obtain ⟨c, cs, hcs, -⟩ := toDigits_cons n
  have hread : readDigits limit excess 0 (Nat.toDigits 10 n) = .ok n := readDigits_toDigits hn
  rw [hcs] at hread ⊢
  exact hread

/-- What `digitChar` writes is a digit. -/
theorem isDigit_digitChar (n : Nat) : (digitChar n).isDigit = true := by
  have hall : ∀ d < 10, (Char.ofNat ('0'.toNat + d)).isDigit = true := by decide
  exact hall (n % 10) (Nat.mod_lt n (by omega))

/-- The `lastDigits` of a number are digits. -/
theorem isDigit_of_mem_lastDigits {width n : Nat} {c : Char} (hc : c ∈ lastDigits width n) :
    c.isDigit = true := by
  induction width generalizing n with
  | zero => cases hc
  | succ width ih =>
    rcases List.mem_append.1 hc with hfront | hlast
    · exact ih hfront
    · rw [List.mem_singleton.1 hlast]
      exact isDigit_digitChar n

/-! ### Whole texts -/

/-- A number is written with its decimal digits. -/
theorem toList_toString (n : Nat) : (toString n).toList = Nat.toDigits 10 n := by
  rw [Nat.toString_eq_ofList_toDigits, String.toList_ofList]

/-- `readUnsigned` reads back a number up to its limit. -/
theorem readUnsigned_toString {n : Nat} (hn : n ≤ limit) :
    readUnsigned limit (toString n).toList = .ok n := by
  obtain ⟨c, cs, hcs, hdigit⟩ := toDigits_cons n
  have hread : readMagnitude limit .tooLarge (Nat.toDigits 10 n) = .ok n :=
    readMagnitude_toDigits hn
  rw [toList_toString]
  rw [hcs] at hread ⊢
  unfold readUnsigned
  split
  · rename_i heq
    cases heq
  · rename_i heq
    exact absurd (List.cons.inj heq).1 (ne_of_isDigit hdigit (by decide))
  · exact hread

/-- A `padded` number consists of digits. -/
theorem isDigit_of_mem_padded {width n : Nat} {c : Char} (hc : c ∈ (padded width n).toList) :
    c.isDigit = true := by
  unfold padded at hc
  split at hc
  · rw [String.toList_ofList] at hc
    exact isDigit_of_mem_lastDigits hc
  · rw [toList_toString] at hc
    exact Nat.isDigit_of_mem_toDigits (by omega) (by omega) hc

/-- There is no blank in a number that is written. -/
theorem isBlank_of_mem_toString {n : Nat} {c : Char} (hc : c ∈ (toString n).toList) :
    isBlank c = false := by
  rw [toList_toString] at hc
  exact isBlank_of_isDigit (Nat.isDigit_of_mem_toDigits (by omega) (by omega) hc)

/-- A signed number of 32 bits. -/
def IsInt32 (n : Int) : Prop := -((int32Max : Int) + 1) ≤ n ∧ n ≤ (int32Max : Int)

/-- `readSigned` reads back a number without a sign. -/
theorem readSigned_toDigits {n : Nat} (hn : n ≤ limit) :
    readSigned limit (Nat.toDigits 10 n) = .ok (Int.ofNat n) := by
  obtain ⟨c, cs, hcs, hdigit⟩ := toDigits_cons n
  have hread : readMagnitude limit .tooLarge (Nat.toDigits 10 n) = .ok n :=
    readMagnitude_toDigits hn
  rw [hcs] at hread ⊢
  unfold readSigned
  split
  · rename_i heq
    cases heq
  · rename_i heq
    exact absurd (List.cons.inj heq).1 (ne_of_isDigit hdigit (by decide))
  · rename_i heq
    exact absurd (List.cons.inj heq).1 (ne_of_isDigit hdigit (by decide))
  · rw [hread]
    rfl

/-- A negative number is written with a minus sign in front. -/
theorem toList_toString_negSucc (m : Nat) :
    (toString (Int.negSucc m)).toList = '-' :: (toString (m + 1)).toList := by
  rw [Int.toString_eq_repr]
  show ("-" ++ (m + 1).repr).toList = _
  rw [String.toList_append]
  rfl

/-- `readSigned` reads back every number in its range, which has one more below zero than above. -/
theorem readSigned_toString {n : Int} (hlow : -((limit : Int) + 1) ≤ n) (hhigh : n ≤ limit) :
    readSigned limit (toString n).toList = .ok n := by
  cases n with
  | ofNat m =>
    have hm : m ≤ limit := Int.ofNat_le.1 hhigh
    show readSigned limit (toString m).toList = _
    rw [toList_toString]
    exact readSigned_toDigits hm
  | negSucc m =>
    have hm : m + 1 ≤ limit + 1 := by omega
    rw [toList_toString_negSucc]
    show (readMagnitude (limit + 1) .tooSmall (toString (m + 1)).toList).map _ = _
    rw [toList_toString, readMagnitude_toDigits hm]
    rfl

/-- `readInt32` reads back every number of 32 bits. -/
theorem readInt32_toString {n : Int} (hn : IsInt32 n) : readInt32 (toString n).toList = .ok n :=
  readSigned_toString hn.1 hn.2

/-- Different numbers are written differently. -/
theorem toString_int_injective : Function.Injective (toString : Int → String) := by
  intro n m h
  -- both numbers are read back where the limit is large enough
  have hn : readSigned (max n.natAbs m.natAbs) (toString n).toList = .ok n :=
    readSigned_toString (by omega) (by omega)
  have hm : readSigned (max n.natAbs m.natAbs) (toString m).toList = .ok m :=
    readSigned_toString (by omega) (by omega)
  rw [h, hm] at hn
  exact (Except.ok.inj hn).symm

/-- `readInt32` reads nothing but numbers of 32 bits. -/
theorem isInt32_of_readInt32 {n : Int} {cs : List Char} (hcs : readInt32 cs = .ok n) :
    IsInt32 n := by
  -- a sign in front may be left out, or be a plus
  have hpositive : ∀ {cs : List Char} {e : Problem},
      (readMagnitude int32Max e cs).map Int.ofNat = .ok n → IsInt32 n := by
    intro cs e hcs
    cases hm : readMagnitude int32Max e cs with
    | error problem =>
      rw [hm] at hcs
      cases hcs
    | ok m =>
      have hle := le_of_readMagnitude hm
      rw [hm] at hcs
      obtain rfl : (m : Int) = n := Except.ok.inj hcs
      exact ⟨by omega, by omega⟩
  unfold readInt32 readSigned at hcs
  split at hcs
  · cases hcs
  · exact hpositive hcs
  · -- below zero there is one number more
    rename_i cs
    cases hm : readMagnitude (int32Max + 1) .tooSmall cs with
    | error problem =>
      rw [hm] at hcs
      cases hcs
    | ok m =>
      have hle := le_of_readMagnitude hm
      rw [hm] at hcs
      obtain rfl : -(m : Int) = n := Except.ok.inj hcs
      exact ⟨by omega, by omega⟩
  · exact hpositive hcs

/-- There is no blank in a number that is written, with a sign or without. -/
theorem isBlank_of_mem_toString_int {n : Int} {c : Char} (hc : c ∈ (toString n).toList) :
    isBlank c = false := by
  cases n with
  | ofNat m => exact isBlank_of_mem_toString (n := m) hc
  | negSucc m =>
    rw [toList_toString_negSucc] at hc
    rcases List.mem_cons.1 hc with rfl | hc
    · decide
    · exact isBlank_of_mem_toString hc

end Numeral

end Twilight.Text
