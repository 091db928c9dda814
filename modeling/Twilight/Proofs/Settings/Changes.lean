import Mathlib.Data.List.Nodup
import Twilight.Proofs.Table
import Twilight.Settings.Table

namespace Twilight

/-!
# Where two tables of settings differ

* `SettingsTable.value?_eq_some_iff` — a stored value is an entry of an entry.
* `SettingsTable.mem_changes_iff` — the changes that are found are exactly the pairs of key and user
  whose values differ.
* `SettingsTable.nodup_changes` — each of them is found once.
-/

namespace SettingsTable

variable {old t : SettingsTable} {key : String} {user : UserId}

/-- A value is read off a table by `value?` exactly where it is among the entries of the user's
    settings. -/
theorem value?_eq_some_iff {value : String} :
    t.value? key user = some value ↔
      ∃ settings, (user, settings) ∈ t.entries ∧ (key, value) ∈ settings.entries := by
  unfold value?
  rw [Option.bind_eq_some_iff]
  simp only [Table.get?_eq_some_iff]

/-- An update is found for every value that is not the old one. -/
theorem mem_updates_iff :
    (key, user) ∈ updates old t ↔
      ∃ value, t.value? key user = some value ∧ old.value? key user ≠ some value := by
  unfold updates
  simp only [List.mem_flatMap, List.mem_filterMap, Prod.exists, value?_eq_some_iff]
  constructor
  · rintro ⟨u, settings, hu, k, value, hk, hfound⟩
    by_cases hold : old.value? k u = some value
    · rw [if_pos hold] at hfound
      contradiction
    · rw [if_neg hold] at hfound
      obtain ⟨rfl, rfl⟩ := Prod.mk.inj (Option.some.inj hfound)
      exact ⟨value, ⟨settings, hu, hk⟩, hold⟩
  · rintro ⟨value, ⟨settings, hu, hk⟩, hold⟩
    exact ⟨user, settings, hu, key, value, hk, if_neg hold⟩

/-- The `removals` are the pairs that had a value and have none any more. -/
theorem mem_removals_iff :
    (key, user) ∈ removals old t ↔
      (∃ value, old.value? key user = some value) ∧ t.value? key user = none := by
  unfold removals Table.keys
  simp only [List.mem_flatMap, List.mem_filterMap, List.mem_map, Prod.exists, value?_eq_some_iff]
  constructor
  · rintro ⟨u, settings, hu, k, ⟨k', value, hk, hkk⟩, hfound⟩
    obtain rfl : k' = k := hkk
    by_cases hnew : (t.value? k' u).isSome = true
    · rw [if_pos hnew] at hfound
      contradiction
    · rw [if_neg hnew] at hfound
      obtain ⟨rfl, rfl⟩ := Prod.mk.inj (Option.some.inj hfound)
      exact ⟨⟨value, settings, hu, hk⟩, by simpa using hnew⟩
  · rintro ⟨⟨value, settings, hu, hk⟩, hnone⟩
    exact ⟨user, settings, hu, key, ⟨key, value, hk, rfl⟩, if_neg (by simp [hnone])⟩

/-- **The `changes` between two tables are exactly the pairs whose values differ.** -/
theorem mem_changes_iff :
    (key, user) ∈ changes old t ↔ old.value? key user ≠ t.value? key user := by
  unfold changes
  rw [List.mem_append, mem_updates_iff, mem_removals_iff]
  -- a value that is there now can only be an update, one that is gone only a removal
  cases hnew : t.value? key user with
  | none => cases hold : old.value? key user <;> simp
  | some value => cases hold : old.value? key user <;> simp

/-! ### None is found twice -/

/-- Going through all entries finds no pair twice: users are different, and so are one user's keys.
    -/
theorem nodup_found (t : SettingsTable) (passes : UserId → String × String → Prop)
    [∀ user p, Decidable (passes user p)] :
    (t.entries.flatMap fun e => e.2.entries.filterMap fun p =>
      if passes e.1 p then none else some (p.1, e.1)).Nodup := by
  refine List.nodup_flatMap.2 ⟨fun e _ => ?_, t.pairwise_keys.imp fun {e e'} hne p hp hp' => ?_⟩
  · refine List.pairwise_filterMap.2 (e.2.pairwise_keys.imp ?_)
    intro p q hne p' hp' q' hq' heq
    obtain ⟨-, hp'⟩ := Option.ite_none_left_eq_some.1 hp'
    obtain ⟨-, hq'⟩ := Option.ite_none_left_eq_some.1 hq'
    have hkeys := (Option.some.inj hp').trans (heq.trans (Option.some.inj hq').symm)
    exact hne (Prod.mk.inj hkeys).1
  · obtain ⟨_, _, hfound⟩ := List.mem_filterMap.1 hp
    obtain ⟨_, _, hfound'⟩ := List.mem_filterMap.1 hp'
    obtain ⟨-, hfound⟩ := Option.ite_none_left_eq_some.1 hfound
    obtain ⟨-, hfound'⟩ := Option.ite_none_left_eq_some.1 hfound'
    have husers := (Option.some.inj hfound).trans (Option.some.inj hfound').symm
    exact hne (Prod.mk.inj husers).2

/-- No pair of key and user is listed twice in `updates`. -/
theorem nodup_updates (old t : SettingsTable) : (updates old t).Nodup :=
  nodup_found t fun user p => old.value? p.1 user = some p.2

/-- No pair of key and user is listed twice in `removals`. -/
theorem nodup_removals (old t : SettingsTable) : (removals old t).Nodup := by
  unfold removals Table.keys
  simp only [List.filterMap_map]
  exact nodup_found old fun user p => (t.value? p.1 user).isSome = true

/-- No change is found twice: what has a value now is an update, and what has none a removal. -/
theorem nodup_changes (old t : SettingsTable) : (changes old t).Nodup := by
  refine List.nodup_append.2 ⟨nodup_updates old t, nodup_removals old t, ?_⟩
  rintro ⟨key, user⟩ hupdate _ hremoval rfl
  obtain ⟨value, hvalue, -⟩ := mem_updates_iff.1 hupdate
  obtain ⟨-, hnone⟩ := mem_removals_iff.1 hremoval
  rw [hvalue] at hnone
  cases hnone

end SettingsTable

end Twilight
