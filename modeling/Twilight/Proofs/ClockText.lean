import Mathlib.Data.List.TakeWhile
import Twilight.Occurrence
import Twilight.Proofs.Text.Lines
import Twilight.Proofs.Text.Numeral

namespace Twilight

/-!
# Minutes of the day, read and written

* `ClockText.Shows` — the form of a time of day: an hour and a minute.
* `ClockText.read_eq_ok_iff` — the texts of this form are read, as far as hour and minute are in
  range.
* `ClockText.shows_write` — what is written has the form.
* `readMinute_iff_shows` — reading, and reading what was written; no two numbers are written alike.
-/

open Text Text.Numeral

namespace ClockText

variable {c : Char} {cs ds rest : List Char} {n hour minute limit : Nat}

/-! ### The form of a time of day -/

/-- One or two digits, and the number that they are. -/
inductive Digits : List Char → Nat → Prop
  | one {c : Char} {n : Nat} : digit? c = some n → Digits [c] n
  | two {c c' : Char} {tens ones : Nat} : digit? c = some tens → digit? c' = some ones →
      Digits [c, c'] (tens * 10 + ones)

/-- Nothing but white space. -/
def AllBlank (cs : List Char) : Prop := ∀ c ∈ cs, isBlank c = true

/-- An hour and a minute with a colon behind the hour, and white space in front of either. -/
inductive Shows : List Char → Nat → Nat → Prop
  | mk {before hourDigits between minuteDigits : List Char} {hour minute : Nat} :
      AllBlank before → Digits hourDigits hour → AllBlank between → Digits minuteDigits minute →
      Shows (before ++ (hourDigits ++ ':' :: (between ++ minuteDigits))) hour minute

/-! ### Digits -/

/-- A character that `digit?` reads as a digit is no white space. -/
theorem isBlank_of_digit? (hc : digit? c = some n) : isBlank c = false := by
  unfold digit? at hc
  split_ifs at hc with hrange
  exact isBlank_of_isDigit (Char.isDigit_iff_toNat.2 hrange)

/-- Reading `Digits` gets their number and leaves what follows, unless that begins with another
    digit. -/
theorem readDigits_append (hd : Digits ds n) (hrest : ∀ c ∈ rest.head?, digit? c = none) :
    ClockText.readDigits (ds ++ rest) = .ok (n, rest) := by
  cases hd with
  | one hc =>
    -- a second digit would be read as well, so the rest must not begin with one
    cases rest with
    | nil => simp [ClockText.readDigits, hc]
    | cons c' rest =>
      have hc' : digit? c' = none := hrest c' rfl
      simp [ClockText.readDigits, hc, hc']
  | two hc hc' => simp [ClockText.readDigits, hc, hc']

/-- Whatever `readDigits` gets a number from begins with the `Digits` of this number, and what is
    left is the rest. -/
theorem digits_of_readDigits (h : ClockText.readDigits cs = .ok (n, rest)) :
    ∃ ds, cs = ds ++ rest ∧ Digits ds n := by
  -- the cases are those of `readDigits`: one digit, or two
  unfold ClockText.readDigits at h
  split at h
  · cases h
  · rename_i c cs
    split at h
    · cases h
    · rename_i tens hc
      split at h
      · obtain ⟨rfl, rfl⟩ := Prod.mk.inj (Except.ok.inj h)
        exact ⟨[c], rfl, .one hc⟩
      · rename_i c' cs'
        split at h
        · obtain ⟨rfl, rfl⟩ := Prod.mk.inj (Except.ok.inj h)
          exact ⟨[c], rfl, .one hc⟩
        · rename_i ones hc'
          obtain ⟨rfl, rfl⟩ := Prod.mk.inj (Except.ok.inj h)
          exact ⟨[c, c'], rfl, .two hc hc'⟩

/-! ### Fields -/

/-- White space in front of digits is all that `trimStart` takes away there. -/
theorem trimStart_append (hbefore : AllBlank cs) (hd : Digits ds n) (rest : List Char) :
    trimStart (cs ++ (ds ++ rest)) = ds ++ rest := by
  have hdigits : trimStart (ds ++ rest) = ds ++ rest := by
    cases hd with
    | one hc => exact trimStart_cons (isBlank_of_digit? hc) _
    | two hc hc' => exact trimStart_cons (isBlank_of_digit? hc) _
  unfold trimStart at hdigits ⊢
  rw [List.dropWhile_append_of_pos hbefore, hdigits]

/-- Reading a field gets the number of its `Digits`, with white space in front of them, if the
    number is within the limit. -/
theorem readField_append (hbefore : AllBlank cs) (hd : Digits ds n) (hn : n ≤ limit)
    (hrest : ∀ c ∈ rest.head?, digit? c = none) :
    readField limit (cs ++ (ds ++ rest)) = .ok (n, rest) := by
  unfold readField
  rw [trimStart_append hbefore hd, readDigits_append hd hrest]
  exact if_neg (Nat.not_lt.2 hn)

/-- Whatever `readField` gets a number from begins with white space and the `Digits` of this number,
    which is within the limit. -/
theorem field_of_readField (h : readField limit cs = .ok (n, rest)) :
    n ≤ limit ∧ ∃ before ds, cs = before ++ (ds ++ rest) ∧ AllBlank before ∧ Digits ds n := by
  unfold readField at h
  split at h
  · cases h
  · rename_i n' rest' hdigits
    split_ifs at h with hlimit
    obtain ⟨rfl, rfl⟩ := Prod.mk.inj (Except.ok.inj h)
    obtain ⟨ds, hds, hd⟩ := digits_of_readDigits hdigits
    refine ⟨Nat.not_lt.1 hlimit, cs.takeWhile isBlank, ds, ?_, ?_, hd⟩
    · rw [← hds]
      exact (List.takeWhile_append_dropWhile).symm
    · intro c hc
      exact List.mem_takeWhile_imp hc

/-! ### Reading -/

/-- Exactly the texts of the form are read, as far as hour and minute are in range. -/
theorem read_eq_ok_iff {m : Int} : read cs = .ok m ↔
    ∃ hour minute, Shows cs hour minute ∧ hour ≤ 23 ∧ minute ≤ 59 ∧ m = 60 * hour + minute := by
  constructor
  · intro h
    unfold read at h
    split at h
    · cases h
    · cases h
    · rename_i hour rest hhour
      -- the hour is read up to the colon, and the minute up to the end
      obtain ⟨hle, before, ds, rfl, hbefore, hd⟩ := field_of_readField hhour
      split at h
      · cases h
      · rename_i minute hminute
        obtain ⟨hle', between, ds', rfl, hbetween, hd'⟩ := field_of_readField hminute
        refine ⟨hour, minute, ?_, hle, hle', ?_⟩
        · rw [List.append_nil]
          exact .mk hbefore hd hbetween hd'
        · rw [← Except.ok.inj h]
          omega
      · cases h
    · cases h
  · rintro ⟨hour, minute, hshows, hhour, hminute, rfl⟩
    cases hshows with
    | @mk before hourDigits between minuteDigits _ _ hbefore hd hbetween hd' =>
      have hcolon : digit? ':' = none := by decide
      have hfirst : readField 23 (before ++ (hourDigits ++ ':' :: (between ++ minuteDigits))) =
          .ok (hour, ':' :: (between ++ minuteDigits)) :=
        readField_append hbefore hd hhour fun c hc => Option.some.inj hc ▸ hcolon
      have hsecond : readField 59 (between ++ (minuteDigits ++ [])) = .ok (minute, []) :=
        readField_append hbetween hd' hminute nofun
      rw [List.append_nil] at hsecond
      unfold read
      simp only [hfirst, hsecond]
      congr 1
      omega

/-! ### Writing -/

/-- The character that `digitChar` writes for a number is read by `digit?` as its last digit. -/
theorem digit?_digitChar (n : Nat) : digit? (Numeral.digitChar n) = some (n % 10) := by
  have hall : ∀ d < 10, digit? (Char.ofNat ('0'.toNat + d)) = some d := by decide
  exact hall (n % 10) (Nat.mod_lt n (by omega))

/-- A number below a hundred written by `twoDigits` is shown by these two characters. -/
theorem digits_twoDigits (hn : n < 100) : Digits (twoDigits n) n := by
  have hd : Digits (twoDigits n) (n / 10 % 10 * 10 + n % 10) :=
    .two (digit?_digitChar (n / 10)) (digit?_digitChar n)
  have hsum : n / 10 % 10 * 10 + n % 10 = n := by omega
  rwa [hsum] at hd

/-- A minute of the day is written in the form, with its own hour and minute. -/
theorem shows_write {m : Int} (hm : isMinuteOfDay m = true) :
    Shows (write m) (m / 60).toNat (m % 60).toNat := by
  have ⟨hlow, hhigh⟩ := (isMinuteOfDay_iff m).1 hm
  unfold minutesPerDay at hhigh
  have hnone : AllBlank [] := nofun
  unfold write
  rw [if_pos hm]
  exact .mk hnone (digits_twoDigits (by omega)) hnone (digits_twoDigits (by omega))

/-- A minute of a day that is written by `write` is read back by `read`. -/
theorem read_write {m : Int} (hm : isMinuteOfDay m = true) : read (write m) = .ok m := by
  have ⟨hlow, hhigh⟩ := (isMinuteOfDay_iff m).1 hm
  unfold minutesPerDay at hhigh
  exact read_eq_ok_iff.2 ⟨_, _, shows_write hm, by omega, by omega, by omega⟩

/-- A number that is no minute of the day is written by `write` as a text that `read` refuses. -/
theorem read_write_of_not {m : Int} (hm : isMinuteOfDay m ≠ true) :
    read (write m) = .error .invalidCharacter := by
  -- the bracket in front is no digit
  have hopen : write m = '<' :: ((toString m).toList ++ ['>']) := by
    unfold write
    rw [if_neg hm]
    rfl
  have hfield : readField 23 (write m) = .error .invalidCharacter := by
    unfold readField
    rw [hopen, trimStart_cons (by decide)]
    rfl
  unfold read
  rw [hfield]

/-- No character that `twoDigits` writes is white space. -/
theorem isBlank_of_mem_twoDigits (hc : c ∈ twoDigits n) : isBlank c = false := by
  obtain ⟨k, rfl⟩ : ∃ k, c = Numeral.digitChar k := by
    simp only [twoDigits, List.mem_cons, List.not_mem_nil, or_false] at hc
    rcases hc with h | h
    · exact ⟨_, h⟩
    · exact ⟨_, h⟩
  exact isBlank_of_digit? (digit?_digitChar k)

/-- No character that `write` puts down is white space, whatever the integer. -/
theorem isBlank_of_mem_write {m : Int} (hc : c ∈ write m) : isBlank c = false := by
  unfold write at hc
  by_cases hm : isMinuteOfDay m = true
  · rw [if_pos hm] at hc
    rcases List.mem_append.1 hc with hhour | hrest
    · exact isBlank_of_mem_twoDigits hhour
    · rcases List.mem_cons.1 hrest with rfl | hminute
      · decide
      · exact isBlank_of_mem_twoDigits hminute
  · rw [if_neg hm] at hc
    simp only [List.mem_append, List.mem_cons, List.cons_append, List.not_mem_nil, or_false] at hc
    rcases hc with rfl | hc | rfl
    · decide
    · exact isBlank_of_mem_toString_int hc
    · decide

/-- So there is nothing to `trim` from a minute that was written. -/
theorem trim_write (m : Int) : trim (write m) = write m :=
  trim_of_not_blank fun _ hc => isBlank_of_mem_write hc

/-- Different integers are written differently by `write`: minutes of a day as two fields, and all
    others as a number in brackets. -/
theorem write_injective : Function.Injective write := by
  intro m m' h
  -- minutes of the day are read back, and the others are numerals in brackets
  by_cases hm : isMinuteOfDay m = true
  · by_cases hm' : isMinuteOfDay m' = true
    · have hread := read_write hm
      rw [h, read_write hm'] at hread
      exact (Except.ok.inj hread).symm
    · have hread := read_write hm
      rw [h, read_write_of_not hm'] at hread
      cases hread
  · by_cases hm' : isMinuteOfDay m' = true
    · have hread := read_write hm'
      rw [← h, read_write_of_not hm] at hread
      cases hread
    · unfold write at h
      rw [if_neg hm, if_neg hm'] at h
      have htext := List.append_cancel_right h
      exact toString_int_injective (String.toList_injective (List.cons.inj htext).2)

end ClockText

/-! ### Texts -/

/-- Reading a text by `readMinute` is reading its trimmed characters, as far as success is
    concerned. -/
theorem readMinute_eq_ok_iff {text : String} {m : Int} :
    readMinute text = .ok m ↔ ClockText.read (trim text.toList) = .ok m := by
  unfold readMinute
  split
  · rename_i minute hread
    rw [hread]
    constructor
    · exact fun h => congrArg _ (Except.ok.inj h)
    · exact fun h => congrArg _ (Except.ok.inj h)
  · rename_i problem hread
    rw [hread]
    exact ⟨nofun, nofun⟩

/-- Reading what `minuteText` shows is reading what `write` wrote, since there is no white space
    around it. -/
theorem readMinute_minuteText_iff {m m' : Int} :
    readMinute (minuteText m) = .ok m' ↔ ClockText.read (ClockText.write m) = .ok m' := by
  rw [readMinute_eq_ok_iff, minuteText, String.toList_ofList, ClockText.trim_write]

/-- **Minutes of the day as texts.** A text is read exactly if, without the white space around it,
    it has the form of a time of day with an hour up to 23 and a minute up to 59; the number is
    theirs, it is a minute of the day, and its own text is read as the same number. The text of a
    number is read as the number if that is a minute of the day, and else not at all. No two numbers
    have the same text. -/
theorem readMinute_iff_shows :
    (∀ text m, readMinute text = .ok m ↔
        ∃ hour minute, ClockText.Shows (trim text.toList) hour minute ∧
      hour ≤ 23 ∧ minute ≤ 59 ∧ m = 60 * hour + minute) ∧
    (∀ text m, readMinute text = .ok m →
      isMinuteOfDay m = true ∧ readMinute (minuteText m) = .ok m) ∧
    (∀ m, if isMinuteOfDay m = true then readMinute (minuteText m) = .ok m
      else ∃ f, readMinute (minuteText m) = .error f) ∧
    Function.Injective minuteText := by
  -- every minute of the day is read back from its own text
  have hback : ∀ m, isMinuteOfDay m = true → readMinute (minuteText m) = .ok m := fun m hm =>
    readMinute_minuteText_iff.2 (ClockText.read_write hm)
  refine ⟨fun text m => readMinute_eq_ok_iff.trans ClockText.read_eq_ok_iff, fun text m h => ?_,
    fun m => ?_, fun m m' h => ?_⟩
  · obtain ⟨hour, minute, -, hhour, hminute, rfl⟩ :=
      ClockText.read_eq_ok_iff.1 (readMinute_eq_ok_iff.1 h)
    -- 23:59 is the last one
    have hm : isMinuteOfDay (60 * hour + minute) = true := by
      rw [isMinuteOfDay_iff, minutesPerDay]
      omega
    exact ⟨hm, hback _ hm⟩
  · by_cases hm : isMinuteOfDay m = true
    · rw [if_pos hm]
      exact hback m hm
    · rw [if_neg hm]
      cases hread : readMinute (minuteText m) with
      | error f => exact ⟨f, rfl⟩
      | ok m' =>
        have hok := readMinute_minuteText_iff.1 hread
        rw [ClockText.read_write_of_not hm] at hok
        cases hok
  · exact ClockText.write_injective (String.ofList_injective h)

end Twilight
