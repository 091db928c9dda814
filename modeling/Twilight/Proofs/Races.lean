import Twilight.Proofs.Daemon.Interruptions

namespace Twilight

/-!
# Restarting while timers are rescheduled

A restart works on a copy of a user's record, and swaps its new pair in if the record still names
the alarms that the copy does. Meanwhile the user's timers may be scheduled and cleared.

* `Daemon.Raced` — what a restart comes to that is interrupted for a user.
* `Daemon.raced_of_restart` — so it is for every plan of interruptions.
* `Daemon.Fitting`, `Daemon.not_fitting_of_failed_arms` — alarms that fit their record; a record
  that names no alarms can be taken for another one, and then they do not fit.
-/

open Time

/-! ### The ledger -/

/-- Interruptions keep the `Ledger` of alarms, whatever it counts as loose. -/
theorem interruptAll_ledger (user : UserId) (ops : List Interruption)
    {loose : List (AlarmId × UserId)} {d : Daemon} (hd : Daemon.Ledger (fun _ _ => True) loose d) :
    Daemon.Ledger (fun _ _ => True) loose ((interruptAll user ops).on d).2 := by
  have hh := Hooks.quiet_ledgered fun _ _ => True
  induction ops generalizing d with
  | nil => exact hd
  | cons op rest ih =>
    cases op with
    | schedule window actions => exact ih (Daemon.schedule_ledger hh ⟨trivial, trivial⟩ window hd)
    | clear => exact ih (Daemon.clearTimers_ledger hh user hd)

/-- Hooks that are `interrupting` keep the `Ledger`, whoever holds which numbers meanwhile. -/
theorem Hooks.interrupting_ledgered (user : UserId) (plan : Nat → List Interruption) :
    (Hooks.interrupting user plan).Ledgered fun _ _ => True where
  beforeArm hd := interruptAll_ledger user _ (hd.congr rfl rfl)
  beforeCancel hd := interruptAll_ledger user _ (hd.congr rfl rfl)

namespace Daemon

variable {d d₀ d₁ : Daemon} {user other : UserId} {plan : Nat → List Interruption}

/-! ### Records of other users -/

/-- Refreshing a record is arming a pair, swapping, and cancelling what is left over. What holds
    after the swap and outlasts interruptions holds in the end. -/
theorem refreshRecord_interrupting {P : Daemon → Prop} (hc : d.alarms.Cancels)
    (hcancels : ∀ d, P d → d.alarms.Cancels)
    (hstep : ∀ d d₁, P d → Interrupted user plan d d₁ → P d₁)
    {record : TimerRecord} {triggers : Pair Moment}
    (hswap : ∀ fresh d₁, Interrupted user plan d d₁ →
      FreshPair fresh triggers record.actions d d₁ →
      P ((swapPair other record.alarms fresh).on d₁).2) :
    P ((refreshRecord (.interrupting user plan) other record triggers).on d).2 := by
  obtain ⟨harmed, hfresh⟩ := armPair_interrupting user plan hc triggers record.actions
  unfold refreshRecord
  simp only [Act.on_bind]
  generalize (armPair (.interrupting user plan) triggers record.actions).on d = armed
    at harmed hfresh
  obtain ⟨⟨fresh, onArm⟩, d₁⟩ := armed
  have hswapped := hswap fresh d₁ harmed hfresh
  generalize (swapPair other record.alarms fresh).on d₁ = swapped at hswapped
  obtain ⟨replaced, d₂⟩ := swapped
  -- the old alarms are canceled if the new pair went in, and the new ones otherwise
  cases replaced with
  | some old =>
    exact hstep _ _ hswapped (discardAll_interrupting user plan _ (hcancels d₂ hswapped))
  | none =>
    have hlogged := hstep _ _ hswapped (.of_logged (Act.logs_debug
      s!"Timers for user {other} changed during restart, dropping new pair" d₂))
    exact hstep _ _ hlogged (discardAll_interrupting user plan _ (hcancels _ hlogged))

/-- `swapPair` for another user leaves the user's record alone, and makes no call. -/
theorem swapPair_other (hne : other ≠ user) (expected fresh : Pair (Option AlarmId))
    (d : Daemon) : Interrupted user plan d ((swapPair other expected fresh).on d).2 := by
  unfold swapPair
  simp only [Act.on_modifyGet]
  cases d.timers.get? other with
  | none => exact .refl d
  | some live =>
    by_cases hsame : live.alarms = expected
    · simp only [if_pos hsame]
      refine .of_own (.of_alarms rfl rfl rfl) rfl rfl ?_
      show (d.timers.insert other _).get? user = _
      rw [Table.get?_insert_of_ne _ (Ne.symm hne)]
    · simp only [if_neg hsame]
      exact .refl d

/-- Rearming another user is, for this one, what `Interrupted` says: nothing but the plan's
    interruptions. -/
theorem rearm_other (hne : other ≠ user) (hc : d.alarms.Cancels) (record : TimerRecord) :
    Interrupted user plan d ((rearm (.interrupting user plan) other record).on d).2 := by
  cases ho : record.window.occurrences d.zone d.clock with
  | error f =>
    rw [rearm_of_error ho]
    exact .refl d
  | ok triggers =>
    rw [rearm_of_ok ho]
    refine refreshRecord_interrupting hc (fun _ hi => hi.cancels hc) (fun _ _ => .trans)
      fun fresh d₁ harmed _ => ?_
    exact harmed.trans (swapPair_other hne record.alarms fresh d₁)

/-- Rearming any records of other users is, for this one, nothing but the plan's interruptions. -/
theorem rearmAll_other (records : List (UserId × TimerRecord)) (hne : ∀ p ∈ records, p.1 ≠ user)
    (hc : d.alarms.Cancels) :
    Interrupted user plan d ((rearmAll (.interrupting user plan) records).on d).2 := by
  induction records generalizing d with
  | nil => exact .refl d
  | cons p rest ih =>
    obtain ⟨other, record⟩ := p
    have hfirst : Interrupted user plan d ((rearm (.interrupting user plan) other record).on d).2 :=
      rearm_other (hne (other, record) List.mem_cons_self) hc record
    obtain ⟨d₁, hlog, he⟩ := rearmAll_cons (h := .interrupting user plan) other record rest d
    have hlogged := hfirst.trans (.of_logged hlog)
    rw [he]
    exact hlogged.trans (ih (fun q hq => hne q (List.mem_cons_of_mem _ hq)) (hlogged.cancels hc))

/-- `rearmAll` goes through a list of records part by part. -/
theorem rearmAll_append (h : Hooks) (records more : List (UserId × TimerRecord)) (d : Daemon) :
    ((rearmAll h (records ++ more)).on d).2 =
      ((rearmAll h more).on ((rearmAll h records).on d).2).2 := by
  induction records generalizing d with
  | nil => rfl
  | cons p rest ih =>
    obtain ⟨user, record⟩ := p
    simp only [List.cons_append, rearmAll, Act.on_bind]
    cases ((rearm h user record).on d).1 <;> exact ih _

/-! ### The user's own record -/

/-- The request of a record as it was seen, if that named no alarm. -/
def Unnamed (seen? : Option TimerRecord) (q : TimerRequest) : Prop :=
  ∃ seen, seen? = some seen ∧ seen.ids = [] ∧ q = seen.request

/-- `d₁` comes after a restart that began at `d`: the user's alarms are new, unless there were none
    to renew or no next occurrences to be had. -/
structure Restart (user : UserId) (plan : Nat → List Interruption) (d d₁ : Daemon) : Prop where
  follows : Follows user plan d d₁
  record : (d₁.timers.get? user = d.timers.get? user ∧ ∀ r, d.timers.get? user = some r →
      ∃ f, r.window.occurrences d.zone d.clock = .error f) ∨
    Renewed user d.alarms.lastId (Unnamed (d.timers.get? user)) d₁

namespace Restart

/-- What only interrupts is a `Restart` where the user has no record, or one without next
    occurrences, as there is nothing to renew. -/
theorem of_interrupted (hi : Interrupted user plan d d₁)
    (hr : ∀ r, d.timers.get? user = some r →
      ∃ f, r.window.occurrences d.zone d.clock = .error f) : Restart user plan d d₁ := by
  refine ⟨hi.follows, ?_⟩
  rcases hi.touched.record with hsame | hnew
  · exact .inl ⟨hsame, hr⟩
  · exact .inr (hnew.mono (Nat.le_refl _))

/-- What interrupts a user after a `Restart` makes no difference to it. -/
theorem trans (hd : Restart user plan d₀ d) (hi : Interrupted user plan d d₁) :
    Restart user plan d₀ d₁ := by
  refine ⟨hd.follows.trans hi.follows, ?_⟩
  rcases hd.record with ⟨hsame, hr⟩ | hnew
  · rcases hi.touched.record with hsame₁ | hnew₁
    · exact .inl ⟨hsame₁.trans hsame, hr⟩
    · exact .inr (hnew₁.mono hd.follows.onward.lastId)
  · exact .inr (hnew.touched hi.touched hd.follows.onward.lastId)

/-- A `Restart` does not touch the plan of which calls to cancel fail. -/
theorem cancels (hd : Restart user plan d₀ d) (hc : d₀.alarms.Cancels) : d.alarms.Cancels :=
  hd.follows.onward.plans.cancels hc

end Restart

/-- If the record was replaced after it was seen and yet names the alarms it did, it names none. -/
theorem Renewed.ids_eq_nil {seen live : TimerRecord} {last : Nat}
    (hd : Renewed user last (fun _ => False) d) (hlive : d.timers.get? user = some live)
    (hsame : live.alarms = seen.alarms) (hold : ∀ i : Nat, i ∈ seen.ids → i ≤ last) :
    seen.ids = [] := by
  refine List.eq_nil_iff_forall_not_mem.2 fun i hi => ?_
  obtain ⟨boundary, hget⟩ := mem_ids_iff.1 hi
  obtain ⟨hlast, _⟩ := hd live boundary i hlive (hsame ▸ hget)
  exact absurd (hold i hi) (Nat.not_le_of_lt hlast)

/-- The new pair is swapped in over the pair that was seen, or over no alarms at all. Otherwise the
    record was replaced. -/
theorem swapPair_own {seen : TimerRecord} (hi : Interrupted user plan d₀ d)
    (hr : d₀.timers.get? user = some seen) (hold : ∀ i : Nat, i ∈ seen.ids → i ≤ d₀.alarms.lastId)
    {triggers : Pair Moment} (ho : seen.window.occurrences d.zone d.clock = .ok triggers)
    {fresh : Pair (Option AlarmId)} (hfresh : FreshPair fresh triggers seen.actions d₀ d) :
    Restart user plan d₀ ((swapPair user seen.alarms fresh).on d).2 := by
  -- a record that does not name the alarms that were seen was replaced
  have hdropped : (∀ live, d.timers.get? user = some live → live.alarms ≠ seen.alarms) →
      Restart user plan d₀ d := by
    intro hdiffers
    refine ⟨hi.follows, .inr ?_⟩
    rcases hi.touched.record with hsame | hnew
    · exact absurd rfl (hdiffers seen (hsame.trans hr))
    · exact hnew.mono (Nat.le_refl _)
  unfold swapPair
  simp only [Act.on_modifyGet]
  cases hlive : d.timers.get? user with
  | none => exact hdropped fun live hsome => nomatch hlive.symm.trans hsome
  | some live =>
    by_cases hsame : live.alarms = seen.alarms
    · simp only [if_pos hsame]
      have hown : Follows user plan d
          { d with timers := d.timers.insert user { live with alarms := fresh } } := by
        refine .of_own (.of_alarms rfl rfl rfl) rfl rfl ?_
        simp [request?, hlive, TimerRecord.request]
      refine ⟨hi.follows.trans hown, .inr fun r boundary i hr₁ hget => ?_⟩
      rw [Table.get?_insert_self] at hr₁
      obtain rfl := Option.some.inj hr₁
      obtain ⟨hlast, hle, hpend⟩ := hfresh boundary i hget
      refine ⟨hlast, hle, fun a ha => ⟨seen.request, ?_, triggers, ho, hpend a ha⟩⟩
      rcases hi.touched.record with hrecord | hnew
      · -- nobody replaced the record
        rw [hrecord, hr] at hlive
        obtain rfl := Option.some.inj hlive
        exact .inl rfl
      · exact .inr ⟨seen, hr, hnew.ids_eq_nil hlive hsame hold, rfl⟩
    · simp only [if_neg hsame]
      refine hdropped fun live' hsome => ?_
      obtain rfl := Option.some.inj (hlive.symm.trans hsome)
      exact hsame

/-- Restarting the user's own record, which others may have changed since it was seen. -/
theorem rearm_own {seen : TimerRecord} (hi : Interrupted user plan d₀ d) (hd : Calm d₀)
    (hr : d₀.timers.get? user = some seen) :
    Restart user plan d₀ ((rearm (.interrupting user plan) user seen).on d).2 := by
  have hc := hi.cancels hd.cancels
  cases ho : seen.window.occurrences d.zone d.clock with
  | error f =>
    rw [rearm_of_error ho]
    refine .of_interrupted hi fun r hr' => ?_
    obtain rfl := Option.some.inj (hr.symm.trans hr')
    rw [hi.follows.onward.zone, hi.follows.onward.clock] at ho
    exact ⟨f, ho⟩
  | ok triggers =>
    rw [rearm_of_ok ho]
    refine refreshRecord_interrupting hc (fun _ h => h.cancels hd.cancels) (fun _ _ => .trans)
      fun fresh d₁ harmed hfresh => ?_
    have hall := hi.trans harmed
    rw [← harmed.follows.onward.zone, ← harmed.follows.onward.clock] at ho
    -- the triggers are those of the clock at the start, which the interruptions leave alone
    refine swapPair_own hall hr (fun i hmem => hd.issued hr hmem) ho fun boundary i hget => ?_
    obtain ⟨hlast, hrest⟩ := hfresh boundary i hget
    exact ⟨Nat.lt_of_le_of_lt hi.follows.onward.lastId hlast, hrest⟩

/-! ### Restarts -/

/-- Of all records that are restarted, the user's own is one at most. -/
theorem restartAll_interrupting (hd : Calm d) :
    Restart user plan d ((restartAll (.interrupting user plan)).on d).2 := by
  rw [restartAll_snd]
  have hkeys : d.timers.entries.Pairwise fun p q => p.1 ≠ q.1 :=
    d.timers.sorted.imp Key.ne_of_before
  cases hr : d.timers.get? user with
  | none =>
    -- the user has no record, and what happens to them are the interruptions
    have hothers : ∀ p ∈ d.timers.entries, p.1 ≠ user := by
      rintro ⟨other, r⟩ hmem rfl
      rw [d.timers.get?_eq_some_iff.2 hmem] at hr
      contradiction
    refine .of_interrupted (rearmAll_other _ hothers hd.cancels) fun r hr' => ?_
    rw [hr] at hr'
    contradiction
  | some seen =>
    -- the user's own record stands between those of other users
    obtain ⟨before, after, hsplit⟩ := List.append_of_mem (d.timers.get?_eq_some_iff.1 hr)
    rw [hsplit] at hkeys ⊢
    obtain ⟨_, hown, hcross⟩ := List.pairwise_append.1 hkeys
    have hbefore : ∀ p ∈ before, p.1 ≠ user := fun p hp =>
      hcross p hp (user, seen) List.mem_cons_self
    have hafter : ∀ p ∈ after, p.1 ≠ user := fun p hp =>
      Ne.symm ((List.pairwise_cons.1 hown).1 p hp)
    rw [rearmAll_append]
    have hfirst : Interrupted user plan d _ := rearmAll_other before hbefore hd.cancels
    generalize ((rearmAll (.interrupting user plan) before).on d).2 = d₁ at hfirst
    have hmiddle := rearm_own hfirst hd hr
    obtain ⟨d₂, hlog, he⟩ := rearmAll_cons (h := .interrupting user plan) user seen after d₁
    have hlogged := hmiddle.trans (.of_logged hlog)
    rw [he]
    exact hlogged.trans (rearmAll_other after hafter (hlogged.cancels hd.cancels))

/-- `restartUser` that is interrupted by a plan comes to a `Restart`, whatever the plan is. -/
theorem restartUser_interrupting (hd : Calm d) :
    Restart user plan d ((restartUser (.interrupting user plan) user).on d).2 := by
  cases hr : d.timers.get? user with
  | none =>
    refine .of_interrupted (.of_logged (restartUser_of_none hr)) fun r hr' => ?_
    rw [hr] at hr'
    contradiction
  | some seen =>
    have hrearmed := rearm_own (.refl d : Interrupted user plan d d) hd hr
    exact hrearmed.trans (.of_logged (restartUser_of_some hr))

/-- The same of `restart`, for the user alone or for everybody, of which the user's record is one.
    -/
theorem restart_interrupting (hd : Calm d) (plan : Nat → List Interruption) {target : UserId}
    (htarget : target = user ∨ target = noUser) :
    Restart user plan d ((restart (.interrupting user plan) target).on d).2 := by
  unfold restart
  by_cases hall : target = noUser
  · rw [if_pos hall]
    exact restartAll_interrupting hd
  · rw [if_neg hall]
    obtain rfl := htarget.resolve_right hall
    exact restartUser_interrupting hd

/-! ### What it comes to -/

/-- A restart that began at `d` and was interrupted for a user ends at `d₁`. -/
structure Raced (user : UserId) (plan : Nat → List Interruption) (d d₁ : Daemon) : Prop where
  /-- The user's record is for the request that took effect last, or there is none if the user was
      cleared last. -/
  request : d₁.request? user =
    (interruptions plan d d₁).foldl (Interruption.effect d.zone d.clock) (d.request? user)
  /-- No alarm is pending outside the records, and none in two slots. -/
  housed : ∀ i a, d₁.pending? i = some a → d₁.InOneSlot i
  /-- The alarms in the user's slots are what the record's request has armed now; or what that of
      the record seen by the restart has, if that named no alarm; or else they are from before, as
      no new ones could be had. -/
  armed : ∀ r boundary i a, d₁.timers.get? user = some r → r.alarms.get boundary = some i →
    d₁.pending? i = some a →
    (∃ q, (q = r.request ∨ Unnamed (d.timers.get? user) q) ∧ q.Produces d.zone d.clock boundary a) ∨
      ((∃ f, r.window.occurrences d.zone d.clock = .error f) ∧ d.timers.get? user = some r ∧
        ∃ now, r.request.Produces d.zone now boundary a)

/-- **A restart that races with rescheduling.** Whatever is scheduled and cleared for a user before
    any of its calls on the alarm service, and whichever calls to arm fail: the user is left with
    the request that took effect last, no alarm is left over, and every alarm fits the request of
    its record, except that a record without alarms may get those of another one without alarms. -/
theorem raced_of_restart (hd : d.Untimed) (hc : d.alarms.Cancels) (ops : List TimerOperation)
    {target : UserId} (htarget : target = user ∨ target = noUser)
    (plan : Nat → List Interruption) :
    Raced user plan ((runTimers .quiet ops).on d).2
      ((restart (.interrupting user plan) target).on ((runTimers .quiet ops).on d).2).2 := by
  have hcalm := calm_of_run (hd.calm hc) ops
  have hledger := restart_ledger (Hooks.interrupting_ledgered user plan) target
    (runTimers_ledger (Hooks.quiet_ledgered fun _ _ => True) ops
      (fun _ _ _ _ => ⟨trivial, trivial⟩) (hd.ledger _))
  generalize ((runTimers .quiet ops).on d).2 = d₀ at hcalm hledger
  have hrestart := restart_interrupting hcalm plan htarget
  refine ⟨hrestart.follows.request, fun i a hi => ?_, fun r boundary i a hr hget hi => ?_⟩
  · have hrej := hrestart.follows.rejected.trans hcalm.rejected
    obtain ⟨owner, hfiled, _⟩ := hledger.filed_of_pending hi (by simp [hrej])
    exact hledger.inOneSlot hfiled
  · -- the record is the old one with its alarms still pending, or it was armed by the restart
    rcases hrestart.record with ⟨hsame, hnone⟩ | hnew
    · rw [hsame] at hr
      obtain ⟨hissued, harmed⟩ := hcalm.slots user r boundary i hr hget
      exact .inr ⟨hnone r hr, hr, harmed a (hrestart.follows.onward.kept i a hissued hi)⟩
    · obtain ⟨_, _, harmed⟩ := hnew r boundary i hr hget
      rw [hrestart.follows.onward.zone, hrestart.follows.onward.clock] at harmed
      exact .inl (harmed a hi)

/-! ### A record without alarms -/

/-- The label of the script that an alarm runs. -/
def label? : AlarmAction → Option String
  | .script label _ _ => some label
  | .boundary _ _ => none

/-- A user's timers are set to the time from 20:00 to 06:00. The first four calls to arm fail, two
    of them now. -/
def unarmed : Daemon :=
  ((runTimers .quiet
      [.schedule 100 ⟨1200, 360⟩ ⟨.script "night" .start [], .script "night" .finish []⟩]).on
    { (default : Daemon) with alarms := { armFails := fun call => call < 4 } }).2

/-- Before the first call of a restart, the timers are set to the time from 08:00 to 16:00. -/
def daySoon (call : Nat) : List Interruption :=
  if call = 0 then
    [.schedule ⟨480, 960⟩ ⟨.script "day" .start [], .script "day" .finish []⟩]
  else []

/-- Every alarm in the user's slots is what the record's request had armed at some time. -/
def Fitting (user : UserId) (d : Daemon) : Prop :=
  ∀ r boundary i a, d.timers.get? user = some r → r.alarms.get boundary = some i →
    d.pending? i = some a → ∃ now, r.request.Produces d.zone now boundary a

/-- Both records name no alarms, so the restart takes the one for the day for the one for the night
    that it saw, and gives it the alarms for the night. -/
theorem not_fitting_of_failed_arms :
    ¬ Fitting 100 ((restart (.interrupting 100 daySoon) 100).on unarmed).2 := by
  intro hfitting
  generalize hd : ((restart (.interrupting 100 daySoon) 100).on unarmed).2 = d at hfitting
  have hrecord : ((d.timers.get? 100).bind fun r => r.alarms.start) = some 1 := by
    subst hd
    decide +kernel
  have hwanted : ((d.timers.get? 100).bind fun r => label? r.actions.start) = some "day" := by
    subst hd
    decide +kernel
  have harmed : ((d.pending? 1).bind fun a => label? a.action) = some "night" := by
    subst hd
    decide +kernel
  obtain ⟨r, hr, hstart⟩ := Option.bind_eq_some_iff.1 hrecord
  obtain ⟨a, ha, hlabel⟩ := Option.bind_eq_some_iff.1 harmed
  obtain ⟨now, triggers, _, rfl⟩ := hfitting r .start 1 a hr hstart ha
  -- the alarm would have to do what the record for the day asks for
  rw [hr] at hwanted
  exact absurd (hwanted.symm.trans hlabel) (by decide)

/-- The user is left with the request for the day, and nothing is pending outside the record. -/
theorem raced_of_failed_arms :
    Raced 100 daySoon unarmed ((restart (.interrupting 100 daySoon) 100).on unarmed).2 :=
  raced_of_restart ⟨rfl, fun _ => rfl, rfl⟩ (fun _ => rfl)
    [.schedule 100 ⟨1200, 360⟩ ⟨.script "night" .start [], .script "night" .finish []⟩] (.inl rfl)
    daySoon

end Daemon

end Twilight
