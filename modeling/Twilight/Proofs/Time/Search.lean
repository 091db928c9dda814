import Twilight.Occurrence

namespace Twilight

/-!
# How occurrences are searched

Whatever the zone is like, the next occurrence of a minute is the first one, over three dates, that
is still ahead.

* `Time.Moment.Strikes` — the wall clock shows the very start of a minute of the day.
* `FirstAhead` — the occurrence on a date is ahead, and that of no searched date before it is.
* `nextOccurrence_eq_ok_iff`, `exists_firstAhead` — it is the one that the search finds, and there
  is one if any occurrence on the three dates is ahead.
* `occurrenceChain_range` — moments that follow from one another are the answers of a chain.
-/

open Time

/-- The wall clock shows a minute of the day, and nothing of that minute has gone. -/
def Time.Moment.Strikes (m : Moment) (minute : Int) : Prop :=
  m.secondOfDay = minute * 60 ∧ m.fraction = 0

instance (m : Moment) (minute : Int) : Decidable (m.Strikes minute) :=
  inferInstanceAs (Decidable (_ ∧ _))

/-- No occurrence on a date is ahead. -/
def NoneAhead (z : Zone) (now : Moment) (minute day : Int) : Prop :=
  ∀ m, occurrenceOn? z day minute = some m → m.nanos ≤ now.nanos

/-- `m` is the occurrence on `day`, and the first one that is ahead of `now`. -/
structure FirstAhead (z : Zone) (now : Moment) (minute day : Int) (m : Moment) : Prop where
  fromToday : now.day ≤ day
  within : day ≤ now.day + 2
  occurs : occurrenceOn? z day minute = some m
  ahead : now.nanos < m.nanos
  passed : ∀ d, now.day ≤ d → d < day → NoneAhead z now minute d

variable {z : Zone} {now m : Moment} {minute day : Int}

/-! ### The search -/

/-- A minute has an occurrence ahead on a date, or none. -/
theorem ahead_or_noneAhead (z : Zone) (now : Moment) (minute day : Int) :
    (∃ m, occurrenceOn? z day minute = some m ∧ now.nanos < m.nanos) ∨
      NoneAhead z now minute day := by
  cases hday : occurrenceOn? z day minute with
  | none =>
    right
    intro m hm
    rw [hday] at hm
    cases hm
  | some m =>
    by_cases hlt : now.nanos < m.nanos
    · exact .inl ⟨m, rfl, hlt⟩
    · right
      intro m' hm'
      rw [hday] at hm'
      cases hm'
      omega

/-- If any of the three dates has an occurrence ahead, then one of them is the first. -/
theorem exists_firstAhead (hfrom : now.day ≤ day) (hto : day ≤ now.day + 2)
    (hday : occurrenceOn? z day minute = some m) (hlt : now.nanos < m.nanos) :
    ∃ day m, FirstAhead z now minute day m := by
  -- the dates are tried one after the other
  rcases ahead_or_noneAhead z now minute now.day with ⟨m₀, h₀, hlt₀⟩ | hnone₀
  · exact ⟨now.day, m₀, by omega, by omega, h₀, hlt₀, fun d hd hd' => by omega⟩
  · rcases ahead_or_noneAhead z now minute (now.day + 1) with ⟨m₁, h₁, hlt₁⟩ | hnone₁
    · refine ⟨now.day + 1, m₁, by omega, by omega, h₁, hlt₁, fun d hd hd' => ?_⟩
      obtain rfl : d = now.day := by omega
      exact hnone₀
    · -- it is on neither of the first two dates, so it is on the third
      have hne₀ : day ≠ now.day := by
        rintro rfl
        have := hnone₀ m hday
        omega
      have hne₁ : day ≠ now.day + 1 := by
        rintro rfl
        have := hnone₁ m hday
        omega
      refine ⟨day, m, hfrom, hto, hday, hlt, fun d hd hd' => ?_⟩
      rcases (by omega : d = now.day ∨ d = now.day + 1) with rfl | rfl
      · exact hnone₀
      · exact hnone₁

/-- The search goes on past a date with `NoneAhead`. -/
theorem find?_of_noneAhead (hnone : NoneAhead z now minute day) (days : List Int) :
    ((day :: days).filterMap fun d => occurrenceOn? z d minute).find?
        (fun m => decide (now.nanos < m.nanos)) =
      (days.filterMap fun d => occurrenceOn? z d minute).find?
        fun m => decide (now.nanos < m.nanos) := by
  cases hday : occurrenceOn? z day minute with
  | none => simp only [List.filterMap_cons, hday]
  | some m =>
    have hpast : ¬ now.nanos < m.nanos := by
      have := hnone m hday
      omega
    simp only [List.filterMap_cons, hday]
    rw [List.find?_cons_of_neg (by simp [hpast])]

/-- The search stops at a date with an occurrence ahead. -/
theorem find?_of_ahead (hday : occurrenceOn? z day minute = some m) (hlt : now.nanos < m.nanos)
    (days : List Int) :
    ((day :: days).filterMap fun d => occurrenceOn? z d minute).find?
      (fun m => decide (now.nanos < m.nanos)) = some m := by
  simp only [List.filterMap_cons, hday]
  rw [List.find?_cons_of_pos (by simp [hlt])]

/-- The search finds the occurrence that is `FirstAhead`. The dates are today and the two behind it,
    and those before the right one have nothing ahead. -/
theorem FirstAhead.find? (hf : FirstAhead z now minute day m) :
    (occurrencesFrom z now minute).find? (fun m => decide (now.nanos < m.nanos)) = some m := by
  unfold occurrencesFrom
  have hfrom := hf.fromToday
  have hto := hf.within
  rcases (by omega : day = now.day ∨ day = now.day + 1 ∨ day = now.day + 2) with rfl | rfl | rfl
  · exact find?_of_ahead hf.occurs hf.ahead _
  · rw [find?_of_noneAhead (hf.passed _ (by omega) (by omega))]
    exact find?_of_ahead hf.occurs hf.ahead _
  · rw [find?_of_noneAhead (hf.passed _ (by omega) (by omega)),
      find?_of_noneAhead (hf.passed _ (by omega) (by omega))]
    exact find?_of_ahead hf.occurs hf.ahead _

/-- The next occurrence of a minute of the day is the first one ahead. -/
theorem nextOccurrence_eq_ok_iff (hm : isMinuteOfDay minute = true) :
    nextOccurrence z now minute = .ok m ↔ ∃ day, FirstAhead z now minute day m := by
  unfold nextOccurrence
  rw [if_pos hm]
  constructor
  · intro hok
    cases hfind : (occurrencesFrom z now minute).find? fun m => now.nanos < m.nanos with
    | none =>
      rw [hfind] at hok
      cases hok
    | some found =>
      rw [hfind] at hok
      cases hok
      -- what was found is on one of the dates, so one of them is the first, and it was found
      have hahead : now.nanos < m.nanos := by simpa using List.find?_some hfind
      obtain ⟨day, hmem, hday⟩ := List.mem_filterMap.1 (List.mem_of_find?_eq_some hfind)
      have hrange : now.day ≤ day ∧ day ≤ now.day + 2 := by
        simp only [List.mem_cons, List.not_mem_nil, or_false] at hmem
        omega
      obtain ⟨day', m', hfirst⟩ := exists_firstAhead hrange.1 hrange.2 hday hahead
      have heq := hfirst.find?
      rw [hfind] at heq
      cases heq
      exact ⟨day', hfirst⟩
  · rintro ⟨day, hfirst⟩
    rw [hfirst.find?]

/-! ### Chains -/

/-- Moments that follow from one another, each as the next occurrence of the minute that is asked
    for, are the answers of a chain. -/
theorem occurrenceChain_range {minutes : Nat → Int} {answers : Nat → Moment}
    (hfirst : nextOccurrence z now (minutes 0) = .ok (answers 0))
    (hnext : ∀ i, nextOccurrence z (answers i) (minutes (i + 1)) = .ok (answers (i + 1)))
    (n : Nat) :
    occurrenceChain z now ((List.range n).map minutes) =
      (List.range n).map fun i => .ok (answers i) := by
  induction n generalizing now minutes answers with
  | zero => rfl
  | succ n ih =>
    have hrest : occurrenceChain z (answers 0) ((List.range n).map fun i => minutes (i + 1)) =
        (List.range n).map fun i => .ok (answers (i + 1)) :=
      ih (hnext 0) fun i => hnext (i + 1)
    rw [List.range_succ_eq_map, List.map_cons, List.map_map, List.map_cons, List.map_map]
    unfold occurrenceChain
    rw [hfirst]
    exact congrArg _ hrest

end Twilight
