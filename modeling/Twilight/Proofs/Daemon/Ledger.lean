import Mathlib.Data.List.Nodup
import Twilight.Proofs.Daemon.Timers

namespace Twilight

/-!
# Who holds which alarm

Every number that the timers were given is held somewhere: filed in a slot of a record, or loose in
the hands of an operation that is under way. No number is held twice, and what is pending is held,
unless a call to cancel it failed. The moves between slots and loose numbers are permutations of
what is held; only arming adds to it and only cancelling takes away.

* `filed` — the numbers in the slots of all records, each with the user of its record.
* `Daemon.slot?` — the number in a slot; `Daemon.Ledger.inOneSlot`, that no number is in two.
* `Daemon.Ledger` — every pending alarm is held, for a user whom it is rightly for.
* `Hooks.Ledgered` — hooks that keep the ledger, whatever else they do.
* `Daemon.schedule_ledger`, `Daemon.clearTimers_ledger`, `Daemon.clearAllTimers_ledger`,
  `Daemon.restart_ledger` — so do the operations on timers, whichever calls fail.
-/

open Time
open scoped List

/-! ### What is filed -/

/-- Two parts of a list change places around the one between them, up to the order. -/
theorem perm_exchange {α : Type} (a b c e : List α) :
    (a ++ (b ++ (c ++ e))) ~ (c ++ (b ++ (a ++ e))) :=
  calc a ++ (b ++ (c ++ e))
    _ ~ b ++ (a ++ (c ++ e)) := List.perm_append_comm_assoc _ _ _
    _ ~ b ++ (c ++ (a ++ e)) := (List.perm_append_comm_assoc _ _ _).append_left b
    _ ~ c ++ (b ++ (a ++ e)) := List.perm_append_comm_assoc _ _ _

/-- Numbers held for a user. -/
def heldFor (user : UserId) (ids : List AlarmId) : List (AlarmId × UserId) :=
  ids.map fun i => (i, user)

/-- A number is held for somebody by `heldFor user ids` if it is one of `ids` and they are the user.
    -/
theorem mem_heldFor {user other : UserId} {ids : List AlarmId} {i : AlarmId} :
    (i, other) ∈ heldFor user ids ↔ i ∈ ids ∧ other = user := by
  simp [heldFor, eq_comm]

/-- What is held in two lists of numbers is held in both together. -/
theorem heldFor_append (user : UserId) (ids ids₁ : List AlarmId) :
    heldFor user (ids ++ ids₁) = heldFor user ids ++ heldFor user ids₁ := List.map_append

/-- The numbers in the slots of all records, each with the user of its record. -/
def filed (t : Table UserId TimerRecord) : List (AlarmId × UserId) :=
  t.entries.flatMap fun p => heldFor p.1 p.2.ids

/-- The numbers that a record names, if there is one. -/
def recordIds (record? : Option TimerRecord) : List AlarmId :=
  (record?.map TimerRecord.ids).getD []

/-- What is filed are the numbers in a user's slots, and what is filed without this user, in some
    order. -/
theorem filed_perm_erase (t : Table UserId TimerRecord) (user : UserId) :
    (filed t).Perm (heldFor user (recordIds (t.get? user)) ++ filed (t.erase user)) := by
  have hperm := (t.entries_perm_erase user).flatMap_right fun p => heldFor p.1 p.2.ids
  refine hperm.trans (.of_eq ?_)
  rw [List.flatMap_append]
  congr 1
  cases t.get? user <;> simp [recordIds, heldFor]

/-- After a record is inserted its numbers are filed in the place of those that its user had before.
    -/
theorem filed_insert_perm (t : Table UserId TimerRecord) (user : UserId) (record : TimerRecord) :
    (filed (t.insert user record)).Perm (heldFor user record.ids ++ filed (t.erase user)) :=
  (t.entries_insert_perm user record).flatMap_right
    fun p : UserId × TimerRecord => heldFor p.1 p.2.ids

/-- A number is filed for a user if and only if it is in a slot of their record. -/
theorem mem_filed {t : Table UserId TimerRecord} {i : AlarmId} {user : UserId} :
    (i, user) ∈ filed t ↔ ∃ r, t.get? user = some r ∧ i ∈ r.ids := by
  unfold filed
  rw [List.mem_flatMap]
  constructor
  · rintro ⟨⟨other, r⟩, hmem, hi⟩
    obtain ⟨hids, rfl⟩ := mem_heldFor.1 hi
    exact ⟨r, t.get?_eq_some_iff.2 hmem, hids⟩
  · rintro ⟨r, hr, hi⟩
    exact ⟨(user, r), t.get?_eq_some_iff.1 hr, mem_heldFor.2 ⟨hi, rfl⟩⟩

/-! ### Slots -/

/-- The value of a pair at a boundary. -/
def Pair.get {α : Type} (p : Pair α) : Boundary → α
  | .start => p.start
  | .finish => p.finish

namespace Daemon

variable {d : Daemon} {user : UserId}

/-- The number in a slot of a user's record. -/
def slot? (d : Daemon) (user : UserId) (boundary : Boundary) : Option AlarmId :=
  (d.timers.get? user).bind fun r => r.alarms.get boundary

/-- A number is in exactly one slot of one record. -/
def InOneSlot (d : Daemon) (i : AlarmId) : Prop :=
  ∃! p : UserId × Boundary, d.slot? p.1 p.2 = some i

/-- The `ids` of a record are the numbers in its two slots. -/
theorem mem_ids_iff {r : TimerRecord} {i : AlarmId} :
    i ∈ r.ids ↔ ∃ boundary, r.alarms.get boundary = some i := by
  unfold TimerRecord.ids
  rw [mem_pairIds]
  constructor
  · rintro (hs | hf)
    · exact ⟨.start, hs⟩
    · exact ⟨.finish, hf⟩
  · rintro ⟨boundary, hb⟩
    cases boundary with
    | start => exact .inl hb
    | finish => exact .inr hb

/-- A number is filed for a user if and only if it is in one of their slots, as `slot?` looks them
    up. -/
theorem mem_filed_iff {i : AlarmId} :
    (i, user) ∈ filed d.timers ↔ ∃ boundary, d.slot? user boundary = some i := by
  unfold slot?
  rw [mem_filed]
  cases d.timers.get? user with
  | none => simp
  | some r => simp [mem_ids_iff]

end Daemon

/-! ### The ledger -/

/-- Both alarms of a pair may be armed for a user. -/
def RightlyFor (rightful : UserId → AlarmAction → Prop) (user : UserId)
    (actions : Pair AlarmAction) : Prop :=
  rightful user actions.start ∧ rightful user actions.finish

namespace Daemon

variable {rightful : UserId → AlarmAction → Prop} {loose loose₁ : List (AlarmId × UserId)}
variable {d d₁ : Daemon} {h : Hooks} {user : UserId}

/-- The numbers held in slots or loose are all different and were given out; what is pending is held
    for somebody whom it is rightly for, unless it could not be cancelled. -/
structure Ledger (rightful : UserId → AlarmAction → Prop) (loose : List (AlarmId × UserId))
    (d : Daemon) : Prop where
  nodup : ((filed d.timers ++ loose).map (·.1)).Nodup
  issued : ∀ p ∈ filed d.timers ++ loose, p.1 ≤ d.alarms.queue.lastId
  owned : ∀ i a, d.alarms.queue.pending.get? i = some a →
    (∃ user, (i, user) ∈ filed d.timers ++ loose ∧ rightful user a.action) ∨
      i ∈ d.alarms.rejected
  records : ∀ user r, d.timers.get? user = some r → RightlyFor rightful user r.actions

/-- Under a `Ledger`, a number that is filed is in one slot of one record only. -/
theorem Ledger.inOneSlot (hd : Ledger rightful loose d) {i : AlarmId}
    (hi : (i, user) ∈ filed d.timers) : d.InOneSlot i := by
  have hnodup : ((filed d.timers).map (·.1)).Nodup := by
    have hall := hd.nodup
    rw [List.map_append] at hall
    exact hall.of_append_left
  obtain ⟨boundary, hslot⟩ := mem_filed_iff.1 hi
  refine ⟨(user, boundary), hslot, ?_⟩
  rintro ⟨other, boundary'⟩ hslot'
  have hi' : (i, other) ∈ filed d.timers := mem_filed_iff.2 ⟨boundary', hslot'⟩
  -- the same number, so the same entry, so the same user
  obtain rfl : other = user := congrArg Prod.snd (List.inj_on_of_nodup_map hnodup hi' hi rfl)
  refine Prod.ext rfl ?_
  obtain ⟨r, hr, hget⟩ := Option.bind_eq_some_iff.1 hslot
  obtain ⟨r', hr', hget'⟩ := Option.bind_eq_some_iff.1 hslot'
  obtain rfl := Option.some.inj (hr.symm.trans hr')
  -- a record that named a number twice would hold it twice
  have hids : r.ids.Nodup := by
    have hperm := (filed_perm_erase d.timers other).map (·.1)
    rw [hperm.nodup_iff, List.map_append, hr] at hnodup
    have hown := hnodup.of_append_left
    simpa [recordIds, heldFor, Function.comp_def] using hown
  have hdistinct : ¬ (r.alarms.start = some i ∧ r.alarms.finish = some i) := by
    rintro ⟨hs, hf⟩
    unfold TimerRecord.ids pairIds Pair.toList at hids
    simp [hs, hf] at hids
  cases boundary with
  | start =>
    cases boundary' with
    | start => rfl
    | finish => exact absurd ⟨hget, hget'⟩ hdistinct
  | finish =>
    cases boundary' with
    | start => exact absurd ⟨hget', hget⟩ hdistinct
    | finish => rfl

/-- An alarm that was not given up to a failure is filed for a user whom it is rightly for. -/
theorem Ledger.filed_of_pending (hd : Ledger rightful [] d) {i : AlarmId} {a : Alarm AlarmAction}
    (hi : d.pending? i = some a) (hrej : i ∉ d.alarms.rejected) :
    ∃ user, (i, user) ∈ filed d.timers ∧ rightful user a.action := by
  obtain ⟨user, hmem, hright⟩ := (hd.owned i a hi).resolve_right hrej
  rw [List.append_nil] at hmem
  exact ⟨user, hmem, hright⟩

namespace Ledger

/-- A `Ledger` is kept where numbers change hands, as long as the same ones are held altogether. -/
theorem perm (hd : Ledger rightful loose d) (ha : d₁.alarms = d.alarms)
    (hp : (filed d₁.timers ++ loose₁).Perm (filed d.timers ++ loose))
    (hr : ∀ user r, d₁.timers.get? user = some r → RightlyFor rightful user r.actions) :
    Ledger rightful loose₁ d₁ where
  nodup := (hp.map _).nodup_iff.2 hd.nodup
  issued p hmem := by
    rw [ha]
    exact hd.issued p (hp.mem_iff.1 hmem)
  owned i a hi := by
    rw [ha] at hi ⊢
    refine (hd.owned i a hi).imp_left ?_
    rintro ⟨user, hmem, hright⟩
    exact ⟨user, hp.mem_iff.2 hmem, hright⟩
  records := hr

/-- A `Ledger` is about the timers and the alarms alone. -/
theorem congr (hd : Ledger rightful loose d) (ht : d₁.timers = d.timers)
    (ha : d₁.alarms = d.alarms) : Ledger rightful loose d₁ := by
  refine hd.perm ha (.of_eq (by rw [ht])) ?_
  rw [ht]
  exact hd.records

/-- Lines that are logged have no part in the `Ledger`. -/
theorem logged (hd : Ledger rightful loose d) (hj : Logged d d₁) : Ledger rightful loose d₁ := by
  obtain ⟨j, rfl⟩ := hj
  exact hd.congr rfl rfl

/-- The order of loose numbers does not count. -/
theorem reorder (hd : Ledger rightful loose d) (hp : loose₁.Perm loose) :
    Ledger rightful loose₁ d :=
  hd.perm rfl (hp.append_left _) hd.records

/-- A new number is entered in the `Ledger` as held loose by whoever armed it. -/
theorem issue (hd : Ledger rightful loose d) {a : Alarm AlarmAction} {id : Nat}
    (hid : id = d.alarms.queue.lastId + 1) (hright : rightful user a.action)
    (ht : d₁.timers = d.timers)
    (hlast : d₁.alarms.queue.lastId = id)
    (hpending : d₁.alarms.queue.pending = d.alarms.queue.pending.insert id a)
    (hrejected : d₁.alarms.rejected = d.alarms.rejected) :
    Ledger rightful ((id, user) :: loose) d₁ := by
  have hp : (filed d.timers ++ (id, user) :: loose).Perm
      ((id, user) :: (filed d.timers ++ loose)) := List.perm_middle
  refine ⟨?_, ?_, ?_, ?_⟩
  · rw [ht, (hp.map _).nodup_iff, List.map_cons, List.nodup_cons]
    refine ⟨fun hmem => ?_, hd.nodup⟩
    -- all numbers held so far are smaller
    obtain ⟨p, hheld, hpid⟩ := List.mem_map.1 hmem
    have hle : p.1 ≤ d.alarms.queue.lastId := hd.issued p hheld
    rw [hpid, hid] at hle
    exact Nat.not_succ_le_self _ hle
  · intro p hmem
    rw [ht, hp.mem_iff] at hmem
    rw [hlast]
    rcases List.mem_cons.1 hmem with rfl | hold
    · exact Nat.le_refl _
    · rw [hid]
      exact Nat.le_succ_of_le (hd.issued p hold)
  · intro i b hi
    rw [hpending, Table.get?_insert] at hi
    rw [ht, hrejected]
    split at hi
    · rename_i heq
      obtain rfl := Option.some.inj hi
      exact .inl ⟨user, by simp [heq], hright⟩
    · refine (hd.owned i b hi).imp_left ?_
      rintro ⟨other, hmem, hother⟩
      exact ⟨other, hp.mem_iff.2 (List.mem_cons_of_mem _ hmem), hother⟩
  · rw [ht]
    exact hd.records

/-- A loose number can be let go of once it is neither pending nor to be accounted for. -/
theorem release {id : AlarmId} (hd : Ledger rightful ((id, user) :: loose) d)
    (ht : d₁.timers = d.timers) (hlast : d₁.alarms.queue.lastId = d.alarms.queue.lastId)
    (hkept : ∀ i a, d₁.alarms.queue.pending.get? i = some a →
      d.alarms.queue.pending.get? i = some a ∧ (i = id → i ∈ d₁.alarms.rejected))
    (hrejected : ∀ i, i ∈ d.alarms.rejected → i ∈ d₁.alarms.rejected) :
    Ledger rightful loose d₁ := by
  -- the number is taken out of the middle of what is held
  have hp : (filed d.timers ++ (id, user) :: loose).Perm
      ((id, user) :: (filed d.timers ++ loose)) := List.perm_middle
  refine ⟨?_, ?_, ?_, ?_⟩
  · have hall := hd.nodup
    rw [(hp.map _).nodup_iff, List.map_cons, List.nodup_cons] at hall
    rw [ht]
    exact hall.2
  · intro p hmem
    rw [ht] at hmem
    rw [hlast]
    exact hd.issued p (hp.mem_iff.2 (List.mem_cons_of_mem _ hmem))
  · intro i a hi
    obtain ⟨hold, hgone⟩ := hkept i a hi
    rcases hd.owned i a hold with ⟨other, hmem, hright⟩ | hrej
    · rcases List.mem_cons.1 (hp.mem_iff.1 hmem) with heq | hrest
      · -- it is the number that was let go: still pending, so on record as rejected
        exact .inr (hgone (congrArg Prod.fst heq))
      · rw [ht]
        exact .inl ⟨other, hrest, hright⟩
    · exact .inr (hrejected i hrej)
  · rw [ht]
    exact hd.records

/-- A `Ledger` is kept where pending alarms go, or move on under their numbers. -/
theorem of_pending (hd : Ledger rightful loose d) (ht : d₁.timers = d.timers)
    (hlast : d₁.alarms.queue.lastId = d.alarms.queue.lastId)
    (hrejected : d₁.alarms.rejected = d.alarms.rejected)
    (hp : ∀ i a, d₁.alarms.queue.pending.get? i = some a →
      ∃ b, d.alarms.queue.pending.get? i = some b ∧ b.action = a.action) :
    Ledger rightful loose d₁ := by
  refine ⟨by rw [ht]; exact hd.nodup, ?_, ?_, by rw [ht]; exact hd.records⟩
  · rw [ht, hlast]
    exact hd.issued
  · intro i a hi
    obtain ⟨b, hb, haction⟩ := hp i a hi
    rw [ht, hrejected, ← haction]
    exact hd.owned i b hb

end Ledger

end Daemon

/-! ### Single alarms -/

/-- Whatever happens before a call on the alarm service keeps the ledger. -/
structure Hooks.Ledgered (h : Hooks) (rightful : UserId → AlarmAction → Prop) : Prop where
  beforeArm : ∀ {loose d}, Daemon.Ledger rightful loose d →
    Daemon.Ledger rightful loose (h.beforeArm.on d).2
  beforeCancel : ∀ {loose d}, Daemon.Ledger rightful loose d →
    Daemon.Ledger rightful loose (h.beforeCancel.on d).2

/-- Hooks that do nothing keep every ledger. -/
theorem Hooks.quiet_ledgered (rightful : UserId → AlarmAction → Prop) :
    Hooks.quiet.Ledgered rightful := ⟨id, id⟩

namespace Daemon

variable {rightful : UserId → AlarmAction → Prop} {loose loose₁ : List (AlarmId × UserId)}
variable {d d₁ : Daemon} {h : Hooks} {user : UserId}

/-- The number that `arm` gets is new, so it can be held loose for the user until it is put into a
    slot. -/
theorem arm_ledger (hh : h.Ledgered rightful) (hd : Ledger rightful loose d)
    {a : Alarm AlarmAction} (hright : rightful user a.action) :
    Ledger rightful (heldFor user ((arm h a).on d).1.toOption.toList ++ loose)
      ((arm h a).on d).2 := by
  have hd₀ := hh.beforeArm hd
  unfold arm
  simp only [Act.on_bind, Act.on_modifyGet]
  generalize (h.beforeArm.on d).2 = d₀ at hd₀
  unfold AlarmService.arm
  by_cases hf : d₀.alarms.armFails d₀.alarms.armCalls = true
  · -- a failed call takes no number
    simp only [if_pos hf]
    exact ⟨hd₀.nodup, hd₀.issued, hd₀.owned, hd₀.records⟩
  · simp only [if_neg hf]
    exact hd₀.issue rfl hright rfl rfl rfl rfl

/-- A loose number that `cancel` was called for need not be held any more: it is not pending, or its
    cancellation is on record as failed. -/
theorem cancel_ledger (hh : h.Ledgered rightful) {id : AlarmId}
    (hd : Ledger rightful ((id, user) :: loose) d) :
    Ledger rightful loose ((cancel h id).on d).2 := by
  have hd₀ := hh.beforeCancel hd
  unfold cancel
  simp only [Act.on_bind, Act.on_modifyGet]
  generalize (h.beforeCancel.on d).2 = d₀ at hd₀
  unfold AlarmService.cancel
  by_cases hf : d₀.alarms.cancelFails d₀.alarms.cancelCalls = true
  · -- the alarm stays pending, and that is on record
    simp only [if_pos hf]
    refine hd₀.release rfl rfl (fun i a hi => ⟨hi, fun heq => ?_⟩) fun i hi => ?_
    · rw [heq]
      exact List.mem_append_right _ (List.mem_singleton_self id)
    · exact List.mem_append_left _ hi
  · simp only [if_neg hf]
    by_cases hp : d₀.alarms.queue.isPending id = true
    · simp only [if_pos hp]
      refine hd₀.release rfl rfl (fun i a hi => ?_) fun i hi => hi
      change (d₀.alarms.queue.pending.erase id).get? i = some a at hi
      rw [Table.get?_erase] at hi
      split at hi
      · cases hi
      · rename_i hne
        exact ⟨hi, fun heq => absurd heq hne⟩
    · simp only [if_neg hp]
      refine hd₀.release rfl rfl (fun i a hi => ⟨hi, fun heq => ?_⟩) fun i hi => hi
      -- an alarm that is not pending need not be taken out
      have hnone : d₀.alarms.queue.pending.get? id = none := by
        simpa [AlarmQueue.isPending, Table.contains] using hp
      subst heq
      have hi : d₀.alarms.queue.pending.get? i = some a := hi
      rw [hnone] at hi
      cases hi

/-- So it is with `discard`, which cancels and keeps the fault. -/
theorem discard_ledger (hh : h.Ledgered rightful) {id : AlarmId}
    (hd : Ledger rightful ((id, user) :: loose) d) :
    Ledger rightful loose ((discard h id).on d).2 := by
  have hd₁ := cancel_ledger hh hd
  unfold discard
  simp only [Act.on_bind]
  cases ((cancel h id).on d).1 with
  | ok _ => exact hd₁
  | error f => exact hd₁.logged (Act.logs_warn _ _)

/-- `discardAll` takes all its numbers out of the `Ledger`, those that could not be cancelled being
    on record as rejected. -/
theorem discardAll_ledger (hh : h.Ledgered rightful) (ids : List AlarmId)
    (hd : Ledger rightful (heldFor user ids ++ loose) d) :
    Ledger rightful loose ((discardAll h ids).on d).2 := by
  induction ids generalizing d with
  | nil => exact hd
  | cons id ids ih => exact ih (discard_ledger hh hd)

/-- Discarding the numbers of a record that was taken out leaves none of them held. -/
theorem discardRecord_ledger (hh : h.Ledgered rightful) (record : Option TimerRecord)
    (hd : Ledger rightful (heldFor user (recordIds record) ++ loose) d) :
    Ledger rightful loose ((discardRecord h record).on d).2 :=
  discardAll_ledger hh _ hd

/-- The numbers that `armPair` gets are held loose for the user until they are put into slots. -/
theorem armPair_ledger (hh : h.Ledgered rightful) (triggers : Pair Moment)
    {actions : Pair AlarmAction} (hright : RightlyFor rightful user actions)
    (hd : Ledger rightful loose d) :
    Ledger rightful (heldFor user (pairIds ((armPair h triggers actions).on d).1.1) ++ loose)
      ((armPair h triggers actions).on d).2 := by
  have hd₁ := arm_ledger hh hd (a := .once triggers.start actions.start) hright.1
  have hd₂ := arm_ledger hh hd₁ (a := .once triggers.finish actions.finish) hright.2
  refine hd₂.reorder ?_
  unfold armPair
  simp only [Act.on_bind, Act.on_pure]
  generalize (arm h (.once triggers.start actions.start)).on d = first
  generalize (arm h (.once triggers.finish actions.finish)).on first.2 = second
  -- the number for the start comes first in the pair, and the one for the finish was armed last
  have hids : pairIds ⟨first.1.toOption, second.1.toOption⟩ =
      first.1.toOption.toList ++ second.1.toOption.toList := by
    unfold pairIds Pair.toList
    cases first.1.toOption <;> cases second.1.toOption <;> rfl
  rw [hids, heldFor_append, List.append_assoc]
  exact List.perm_append_comm_assoc _ _ _

/-! ### Records -/

/-- `takeRecord` makes the numbers of the user's record loose, so that the `Ledger` is kept. -/
theorem takeRecord_ledger (user : UserId) (hd : Ledger rightful loose d) :
    Ledger rightful (heldFor user (recordIds ((takeRecord user).on d).1) ++ loose)
      ((takeRecord user).on d).2 := by
  refine hd.perm rfl ?_ (Table.forall_erase user hd.records)
  have hp := filed_perm_erase d.timers user
  -- what was filed for the user is loose now
  refine (List.perm_append_comm_assoc _ _ _).trans ?_
  rw [← List.append_assoc]
  exact hp.symm.append_right _

/-- Putting a record in files its numbers, and makes those of the record that it replaces loose. -/
theorem putRecord_ledger (user : UserId) {record : TimerRecord}
    (hright : RightlyFor rightful user record.actions)
    (hd : Ledger rightful (heldFor user record.ids ++ loose) d) :
    Ledger rightful (heldFor user (recordIds ((putRecord user record).on d).1) ++ loose)
      ((putRecord user record).on d).2 := by
  refine hd.perm rfl ?_ (Table.forall_insert hright hd.records)
  have hnew := filed_insert_perm d.timers user record
  have hold := filed_perm_erase d.timers user
  -- the record's numbers and those of the one it displaces change places
  calc filed (d.timers.insert user record) ++ (heldFor user (recordIds (d.timers.get? user)) ++
        loose)
    _ ~ (heldFor user record.ids ++ filed (d.timers.erase user)) ++
          (heldFor user (recordIds (d.timers.get? user)) ++ loose) := hnew.append_right _
    _ ~ (heldFor user (recordIds (d.timers.get? user)) ++ filed (d.timers.erase user)) ++
          (heldFor user record.ids ++ loose) := by
        rw [List.append_assoc, List.append_assoc]
        exact perm_exchange _ _ _ _
    _ ~ filed d.timers ++ (heldFor user record.ids ++ loose) := hold.symm.append_right _

/-- What a swap leaves over is loose: the pair that was in the record, or the one that found no
    place. -/
theorem swapPair_ledger (user : UserId) (expected : Pair (Option AlarmId))
    {fresh : Pair (Option AlarmId)}
    (hd : Ledger rightful (heldFor user (pairIds fresh) ++ loose) d) :
    Ledger rightful
      (heldFor user (pairIds (((swapPair user expected fresh).on d).1.getD fresh)) ++ loose)
      ((swapPair user expected fresh).on d).2 := by
  unfold swapPair
  simp only [Act.on_modifyGet]
  cases hlive : d.timers.get? user with
  | none => exact hd
  | some live =>
    by_cases hsame : live.alarms = expected
    · simp only [if_pos hsame]
      -- a swap is a record put in over the one that has the same window and does the same
      have hput : Ledger rightful _ ((putRecord user { live with alarms := fresh }).on d).2 :=
        putRecord_ledger user (hd.records user live hlive) hd
      unfold putRecord at hput
      simp only [Act.on_modifyGet, hlive] at hput
      exact hput
    · simp only [if_neg hsame]
      exact hd

/-- `takeRecords` makes the numbers of all records loose, so that the `Ledger` is kept. -/
theorem takeRecords_ledger (hd : Ledger rightful loose d) :
    Ledger rightful ((d.timers.entries.flatMap fun p => heldFor p.1 p.2.ids) ++ loose)
      (takeRecords.on d).2 := by
  refine hd.perm rfl (.refl _) fun user r hr => ?_
  cases hr

/-! ### Operations -/

/-- Replacing a record keeps the ledger, with nothing new held loose: the old numbers are discarded
    and the new ones filed. -/
theorem replaceRecord_ledger (hh : h.Ledgered rightful) {actions : Pair AlarmAction}
    (hright : RightlyFor rightful user actions) (window : Window) (triggers : Pair Moment)
    (hd : Ledger rightful loose d) :
    Ledger rightful loose ((replaceRecord h user window actions triggers).on d).2 := by
  have htaken := takeRecord_ledger user hd
  have hdiscarded := discardRecord_ledger hh _ htaken
  have harmed := armPair_ledger hh triggers hright hdiscarded
  have hput := @putRecord_ledger rightful loose _ user ⟨_, window, actions⟩ hright harmed
  exact discardRecord_ledger hh _ hput

/-- Arming a record for a window keeps the ledger, also where no next occurrence is found. -/
theorem armRecord_ledger (hh : h.Ledgered rightful) {actions : Pair AlarmAction}
    (hright : RightlyFor rightful user actions) (window : Window)
    (hd : Ledger rightful loose d) :
    Ledger rightful loose ((armRecord h user window actions).on d).2 := by
  cases ho : window.occurrences d.zone d.clock with
  | error f =>
    rw [armRecord_of_error ho]
    exact hd
  | ok triggers =>
    rw [armRecord_of_ok ho]
    exact replaceRecord_ledger hh hright window triggers hd

/-- Scheduling keeps the ledger, whether the window is refused or the record is replaced. -/
theorem schedule_ledger (hh : h.Ledgered rightful) {actions : Pair AlarmAction}
    (hright : RightlyFor rightful user actions) (window : Window)
    (hd : Ledger rightful loose d) :
    Ledger rightful loose ((schedule h user window actions).on d).2 := by
  by_cases hv : window.valid = true
  · exact (armRecord_ledger hh hright window hd).logged (schedule_of_valid user actions hv)
  · rw [schedule_of_not_valid hv]
    exact hd

/-- Refreshing a record keeps the ledger: the new pair is swapped in or discarded, and what it
    replaces is discarded. -/
theorem refreshRecord_ledger (hh : h.Ledgered rightful) {record : TimerRecord}
    (hright : RightlyFor rightful user record.actions) (triggers : Pair Moment)
    (hd : Ledger rightful loose d) :
    Ledger rightful loose ((refreshRecord h user record triggers).on d).2 := by
  have harmed := armPair_ledger hh triggers hright hd
  have hswapped := swapPair_ledger user record.alarms harmed
  unfold refreshRecord
  simp only [Act.on_bind]
  generalize (armPair h triggers record.actions).on d = armed at hswapped
  obtain ⟨⟨fresh, onArm⟩, d₁⟩ := armed
  generalize (swapPair user record.alarms fresh).on d₁ = swapped at hswapped
  obtain ⟨replaced, d₂⟩ := swapped
  -- whether or not the pair was swapped in, what is left over is cancelled
  cases replaced with
  | some old => exact discardAll_ledger hh _ hswapped
  | none => exact discardAll_ledger hh _ (hswapped.logged (Act.logs_debug _ d₂))

/-- `rearm` keeps the `Ledger`: whichever of the two pairs is not in the record in the end is
    discarded. -/
theorem rearm_ledger (hh : h.Ledgered rightful) {record : TimerRecord}
    (hright : RightlyFor rightful user record.actions) (hd : Ledger rightful loose d) :
    Ledger rightful loose ((rearm h user record).on d).2 := by
  cases ho : record.window.occurrences d.zone d.clock with
  | error f =>
    rw [rearm_of_error ho]
    exact hd
  | ok triggers =>
    rw [rearm_of_ok ho]
    exact refreshRecord_ledger hh hright triggers hd

/-- `rearmAll` keeps the `Ledger`. By induction on the records. -/
theorem rearmAll_ledger (hh : h.Ledgered rightful) (records : List (UserId × TimerRecord))
    (hright : ∀ p ∈ records, RightlyFor rightful p.1 p.2.actions)
    (hd : Ledger rightful loose d) :
    Ledger rightful loose ((rearmAll h records).on d).2 := by
  induction records generalizing d with
  | nil => exact hd
  | cons p rest ih =>
    obtain ⟨user, record⟩ := p
    have hfirst := rearm_ledger hh (hright (user, record) List.mem_cons_self) hd
    obtain ⟨d₁, hlog, he⟩ := rearmAll_cons (h := h) user record rest d
    rw [he]
    exact ih (fun q hq => hright q (List.mem_cons_of_mem _ hq)) (hfirst.logged hlog)

/-- So does `restartAll`, whose records have rightful actions because the ledger says so. -/
theorem restartAll_ledger (hh : h.Ledgered rightful) (hd : Ledger rightful loose d) :
    Ledger rightful loose ((restartAll h).on d).2 := by
  rw [restartAll_snd]
  exact rearmAll_ledger hh d.timers.entries
    (fun p hp => hd.records p.1 p.2 (d.timers.get?_eq_some_iff.2 hp)) hd

/-- So does `restartUser`, with or without a record of the user. -/
theorem restartUser_ledger (hh : h.Ledgered rightful) (user : UserId)
    (hd : Ledger rightful loose d) :
    Ledger rightful loose ((restartUser h user).on d).2 := by
  cases hr : d.timers.get? user with
  | none => exact hd.logged (restartUser_of_none hr)
  | some record =>
    exact (rearm_ledger hh (hd.records user record hr) hd).logged (restartUser_of_some hr)

/-- So does `restart`, for one user or for everybody. -/
theorem restart_ledger (hh : h.Ledgered rightful) (user : UserId)
    (hd : Ledger rightful loose d) : Ledger rightful loose ((restart h user).on d).2 := by
  unfold restart
  by_cases hu : user = noUser
  · rw [if_pos hu]
    exact restartAll_ledger hh hd
  · rw [if_neg hu]
    exact restartUser_ledger hh user hd

/-- Clearing a user's timers keeps the ledger: their record is taken out and its numbers are
    discarded. -/
theorem clearTimers_ledger (hh : h.Ledgered rightful) (user : UserId)
    (hd : Ledger rightful loose d) : Ledger rightful loose ((clearTimers h user).on d).2 := by
  have htaken := takeRecord_ledger user hd
  unfold clearTimers
  simp only [Act.on_bind]
  generalize (takeRecord user).on d = taken at htaken
  obtain ⟨record?, d₁⟩ := taken
  cases record? with
  | none => exact htaken
  | some record =>
    have hdiscarded := discardAll_ledger hh record.ids htaken
    exact hdiscarded.logged (Act.logs_debug _ _)

/-- Discarding the numbers of several records that were taken out leaves none of them held. -/
theorem discardRecords_ledger (hh : h.Ledgered rightful) (records : List (UserId × TimerRecord))
    (hd : Ledger rightful ((records.flatMap fun p => heldFor p.1 p.2.ids) ++ loose) d) :
    Ledger rightful loose ((discardRecords h (records.map (·.2))).on d).2 := by
  induction records generalizing d with
  | nil => exact hd
  | cons p rest ih =>
    rw [List.flatMap_cons, List.append_assoc] at hd
    exact ih (discardAll_ledger hh p.2.ids hd)

/-- Clearing all timers keeps the ledger. -/
theorem clearAllTimers_ledger (hh : h.Ledgered rightful) (hd : Ledger rightful loose d) :
    Ledger rightful loose ((clearAllTimers h).on d).2 :=
  discardRecords_ledger hh d.timers.entries (takeRecords_ledger hd)

end Daemon

end Twilight
