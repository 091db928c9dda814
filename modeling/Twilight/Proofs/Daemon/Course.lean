import Mathlib.Logic.Relation
import Twilight.Proofs.Daemon.Operations

namespace Twilight

/-!
# The course of timers and alarms

Whatever is asked of a daemon, its timers and alarms go through few kinds of changes: a record is
exchanged or taken away with its alarms, due alarms are taken off the queue, and pending ones get
lost.

* `Daemon.TimerChange`, `Daemon.Course` — one such change, and any number of them.
* `Daemon.perform_course`, `Daemon.runAll_course` — every operation, and every run, is a course as
  long as no cancelling fails.
* `Daemon.Course.preserves` — so what every change preserves holds after every run.
-/

open Time

namespace Daemon

variable {lossy : Prop} {h : Hooks} {d d₁ d₂ : Daemon} {user : UserId}

/-! ### Changes -/

/-- One change of the timers and the alarms, if any: records are exchanged only for valid windows,
    with alarms that have the user's request honoured. -/
inductive TimerChange (lossy : Prop) (d d₁ : Daemon) : Prop
  | unchanged (timers : d₁.timers = d.timers) (alarms : d₁.alarms = d.alarms)
  | rearmed (user : UserId) (record : TimerRecord) (triggers : Pair Moment)
    (actions : record.actions = (ScheduleRequest.mk user record.window).actions)
    (valid : record.window.valid = true) (rearmed : Rearmed lossy user record triggers d d₁)
  | cleared (user : UserId) (cleared : Cleared lossy user d d₁)
  | taken (zone : Zone) (now : Moment) (timers : d₁.timers = d.timers)
    (alarms : d₁.alarms = (d.alarms.takeDue zone now).2)
  | lost (gone : AlarmId → Bool) (timers : d₁.timers = d.timers)
    (alarms : d₁.alarms = d.alarms.losing gone)

/-- Any number of changes, one after the other. -/
abbrev Course (lossy : Prop) : Daemon → Daemon → Prop := Relation.ReflTransGen (TimerChange lossy)

/-- No change of timers touches the plans for failing calls on the alarm service. -/
theorem TimerChange.plans (ht : TimerChange lossy d d₁) : d.alarms.SamePlans d₁.alarms := by
  cases ht with
  | unchanged _ alarms =>
    rw [alarms]
    exact .refl _
  | rearmed _ _ _ _ _ rearmed => exact rearmed.plans
  | cleared _ cleared => exact cleared.plans
  | taken zone now _ alarms =>
    rw [alarms]
    exact AlarmService.samePlans_takeDue zone d.alarms now
  | lost _ _ alarms =>
    rw [alarms]
    exact ⟨rfl, rfl⟩

/-- Every change of timers keeps them sound: each pending alarm belongs to a record. -/
theorem TimerChange.soundTimers (ht : TimerChange lossy d d₁) (hs : SoundTimers d) :
    SoundTimers d₁ := by
  cases ht with
  | unchanged timers alarms => exact hs.congr timers alarms
  | rearmed _ _ _ actions valid rearmed => exact hs.rearmed rearmed actions valid
  | cleared _ cleared => exact hs.cleared cleared
  | taken zone now timers alarms => exact (hs.takeDue zone now).congr timers alarms
  | lost gone timers alarms => exact (hs.losing gone).congr timers alarms

namespace Course

/-- What every `TimerChange` preserves holds at the end of a `Course`. By induction on the course.
    -/
theorem preserves {P : Daemon → Prop} (step : ∀ d d₁, TimerChange lossy d d₁ → P d → P d₁)
    (hco : Course lossy d d₁) (hd : P d) : P d₁ := by
  induction hco with
  | refl => exact hd
  | tail _ last ih => exact step _ _ last ih

/-- Along a whole `Course` the plans for failing calls stay the same. -/
theorem plans (hco : Course lossy d d₁) : d.alarms.SamePlans d₁.alarms :=
  hco.preserves (P := fun d₁ => d.alarms.SamePlans d₁.alarms)
    (fun _ _ ht hp => hp.trans ht.plans) (.refl _)

/-- Along a whole `Course` timers stay sound, change by change. -/
theorem soundTimers (hco : Course lossy d d₁) (hs : SoundTimers d) : SoundTimers d₁ :=
  hco.preserves (fun _ _ ht hp => ht.soundTimers hp) hs

/-! ### What comes of operations -/

/-- Where timers and alarms are as before there was no change of them. -/
theorem of_same (ht : d₁.timers = d.timers) (ha : d₁.alarms = d.alarms) : Course lossy d d₁ :=
  .single (.unchanged ht ha)

/-- Delivering a status changes no timers, so it is a `Course` of no changes. -/
theorem of_delivered (hd : Delivered d d₁) : Course lossy d d₁ := of_same hd.timers hd.alarms

/-- Neither does exchanging observers. -/
theorem of_observed (ho : Observed d d₁) : Course lossy d d₁ := of_same ho.timers ho.alarms

/-- Resolving a state arms the user's record anew or drops it, which is one change of timers. -/
theorem resolved {state : DarkModeState} (hr : Resolved lossy user state d d₁) :
    Course lossy d d₁ := by
  cases hr with
  | unset _ logged => exact of_delivered logged.delivered
  | cleared _ _ cleared => exact .single (.cleared user cleared)
  | armed w triggers _ window _ rearmed =>
    -- only a window with valid bounds is armed
    have hv : w.valid = true := (DarkModeState.window?_eq_some.1 window).2.2
    exact .single (.rearmed user _ triggers rfl hv rearmed)
  | stuck _ _ _ _ logged => exact of_delivered logged.delivered

/-- Taking over a state is resolving it, and a status that is delivered besides changes no timers.
    -/
theorem settled {state : DarkModeState} {policy : NotifyPolicy}
    (hs : Settled lossy user state policy d d₁) : Course lossy d d₁ := by
  obtain ⟨d₀, hr, hn⟩ := hs
  have hset : Course lossy d (d.withState user state) := of_same rfl rfl
  exact (hset.trans (resolved hr)).trans (of_delivered hn.delivered)

/-- A change of a setting is one of timers at most: it is ignored, or a state is taken over. -/
theorem changed {key : String} (hch : Changed lossy key user d d₁) : Course lossy d d₁ := by
  cases hch with
  | ignored _ logged => exact of_delivered logged.delivered
  | taken _ _ _ hs => exact settled hs

/-- A request that is honoured is a new record at most, and one that came too late is nothing. -/
theorem fired {request : ScheduleRequest} (hf : Fired lossy request d d₁) : Course lossy d d₁ := by
  cases hf with
  | ignored _ logged => exact of_delivered logged.delivered
  | outOfRange _ _ notified => exact of_delivered notified.delivered
  | honoured _ _ _ _ hs => exact settled hs

/-- An announced value is a change of timers at most if the manager observes it, and none otherwise.
    -/
theorem announced {key : String} (ha : Announced lossy key user d d₁) : Course lossy d d₁ := by
  cases ha with
  | manager _ _ hch => exact changed hch
  | others _ noted =>
    obtain ⟨e, rfl⟩ := noted
    exact of_same rfl rfl

/-- Storing a value is a `Course`: it changes timers by announcing the value only. -/
theorem put {key value : String} (hp : Put lossy key value user d d₁) : Course lossy d d₁ := by
  cases hp with
  | refused _ _ same =>
    rw [same]
    exact of_same rfl rfl
  | stored fs _ ha =>
    have hstored : Course lossy d
        { d.withValues (d.settings.values.put key value user) with files := fs } :=
      of_same rfl rfl
    exact hstored.trans (announced ha)

/-- Reconciling a status is a `Course`: it changes timers by storing a mode only. -/
theorem reconciled (hr : Reconciled lossy user d d₁) : Course lossy d d₁ := by
  cases hr with
  | remembered delivered => exact of_delivered delivered
  | corrected value j d₀ hp delivered =>
    have hlog : Course lossy d { d with journal := j } := of_same rfl rfl
    exact (hlog.trans (put hp)).trans (of_delivered delivered)

/-- Retiring a user is a `Course`, of a single step that clears their record. -/
theorem retired (hr : Retired lossy user d d₁) : Course lossy d d₁ := by
  cases hr with
  | nobody _ same => rw [same]
  | forgotten _ cleared =>
    have hwithout : Course lossy d (d.withoutState user) := of_same rfl rfl
    exact hwithout.tail (.cleared user cleared)

/-- A switch retires one user and loads another one, which is a `Course` at whatever stage it ends.
    -/
theorem switched {r : Except Fault Unit} (hs : Switched lossy user d (r, d₁)) :
    Course lossy d d₁ := by
  cases hs with
  | refused _ _ _ observed => exact of_observed observed
  | unloaded _ d₀ _ _ observed hr => exact (of_observed observed).trans (retired hr)
  | loaded d₀ d₂ _ observed _ _ _ hr hs =>
    exact ((of_observed observed).trans (retired hr)).trans (settled hs)

end Course

/-! ### Runs of callbacks -/

/-- Announcing changes is a `Course`, one announcement after the other. -/
theorem announceAll_course (hl : h.Losing lossy) (changes : List (String × UserId))
    (hc : d.alarms.Cancels) : Course lossy d ((announceAll h changes).on d).2 := by
  induction changes generalizing d with
  | nil => exact .refl
  | cons change rest ih =>
    obtain ⟨key, user⟩ := change
    obtain ⟨j, d₁, ha, he⟩ := announceAll_cons hl hc key user rest
    have hlog : Course lossy d { d with journal := j } := Course.of_same rfl rfl
    have hfirst : Course lossy d d₁ := hlog.trans (Course.announced ha)
    rw [he]
    exact hfirst.trans (ih (hfirst.plans.cancels hc))

/-- Firing an alarm is a `Course`, whatever its action is. -/
theorem fire_course (hl : h.Losing lossy) (hc : d.alarms.Cancels) (action : AlarmAction) :
    Course lossy d ((fire h action).on d).2 := by
  rcases fire_cases hl hc action with ⟨request, hf⟩ | ⟨e, he⟩
  · exact Course.fired hf
  · rw [he]
    exact Course.of_same rfl rfl

/-- Firing all that is due is a `Course`, which begins with taking it out. -/
theorem fireDue_course (hl : h.Losing lossy) (hc : d.alarms.Cancels) :
    Course lossy d ((fireDue h).on d).2 := by
  refine fireDue_induction (P := fun d₁ => Course lossy d d₁) (fun action d₁ hco => ?_)
    (.single (.taken d.zone d.clock rfl rfl))
  exact hco.trans (fire_course hl (hco.plans.cancels hc) action)

/-! ### Restarting -/

/-- Arming the record of a user again by `rearm` exchanges it for one with the same window, or
    leaves it. -/
theorem rearm_course (hl : h.Losing lossy) (hc : d.alarms.Cancels) (hs : SoundTimers d)
    {record : TimerRecord} (hr : d.timers.get? user = some record) :
    Course lossy d ((rearm h user record).on d).2 := by
  have hrec := hs.records user record hr
  rcases rearm_cases hl hc hr hrec.issued with ⟨triggers, ids, _, hd⟩ | ⟨_, hd⟩
  · exact .single (.rearmed user { record with alarms := ids } triggers hrec.actions hrec.valid hd)
  · rw [hd]

/-- So does arming the records of different users one after the other, since no one's record is
    touched by another one's. -/
theorem rearmAll_course (hl : h.Losing lossy) (records : List (UserId × TimerRecord))
    (hc : d.alarms.Cancels) (hs : SoundTimers d)
    (hr : ∀ p ∈ records, d.timers.get? p.1 = some p.2)
    (hne : records.Pairwise fun p q => p.1 ≠ q.1) :
    Course lossy d ((rearmAll h records).on d).2 := by
  -- the induction is on the records as they were seen before the first of them was restarted
  induction records generalizing d with
  | nil => exact .refl
  | cons p rest ih =>
    obtain ⟨user, record⟩ := p
    obtain ⟨hfirst, hrest⟩ := List.pairwise_cons.1 hne
    have hrecord : d.timers.get? user = some record := hr (user, record) (by simp)
    obtain ⟨_, _, hothers⟩ := rearm_on hl hc hs hrecord
    obtain ⟨d₁, hlog, he⟩ := rearmAll_cons (h := h) user record rest d
    have hco : Course lossy d d₁ :=
      (rearm_course hl hc hs hrecord).trans (Course.of_delivered hlog.delivered)
    have htimers : d₁.timers = ((rearm h user record).on d).2.timers := hlog.delivered.timers
    rw [he]
    refine hco.trans (ih (hco.plans.cancels hc) (hco.soundTimers hs) (fun q hq => ?_) hrest)
    -- the records further on still stand as they were seen
    rw [htimers, hothers q.1 (Ne.symm (hfirst q hq))]
    exact hr q (List.mem_cons_of_mem _ hq)

/-- Setting up all timers anew by `resync` is a `Course`, record by record. -/
theorem resync_course (hl : h.Losing lossy) (hc : d.alarms.Cancels) (hs : SoundTimers d) :
    Course lossy d ((resync h).on d).2 := by
  obtain ⟨d₀, hlog, hn⟩ := resync_restartAll hl d
  have hrestart : Course lossy d ((restartAll h).on d).2 := by
    rw [restartAll_snd]
    exact rearmAll_course hl d.timers.entries hc hs (fun p hp => d.timers.get?_eq_some_iff.2 hp)
      (d.timers.sorted.imp Key.ne_of_before)
  exact (hrestart.trans (Course.of_delivered hlog.delivered)).trans
    (Course.of_delivered hn.delivered)

/-! ### Operations -/

/-- Every operation is a `Course` of timer changes. The cases are those of `Operation`. -/
theorem perform_course (hl : h.Losing lossy) (op : Operation) (hc : d.alarms.Cancels)
    (hs : SoundTimers d) : Course lossy d ((op.perform h).on d).2 := by
  cases op with
  | install receiver =>
    obtain ⟨j, hj⟩ := install_on receiver d
    show Course lossy d ((Daemon.install receiver).on d).2
    rw [hj]
    exact Course.of_same rfl rfl
  | load user notify => exact Course.settled (loadWith_on hl hc user _)
  | reevaluate user notify => exact Course.settled (reevaluate_on hl hc user notify)
  | switch user => exact Course.switched (switchUser_cases hl hc user)
  | put key value user => exact Course.put (putSetting_on hl hc key value user)
  | rewrite files order =>
    show Course lossy d ((rewriteSettings h files order).on d).2
    rcases rewriteSettings_cases files order d with he | ⟨t, j, he⟩
    · rw [he]
      exact Course.of_same rfl rfl
    · -- the values are taken over first, and then the changes are announced
      have htaken : Course lossy d { d.withValues t with files := files, journal := j } :=
        Course.of_same rfl rfl
      rw [he]
      exact htaken.trans (announceAll_course hl _ hc)
  | fire request boundary => exact Course.fired (fireBoundary_on hl hc request boundary)
  | fireDue => exact fireDue_course hl hc
  | resync => exact resync_course hl hc hs
  | reconcile user dark => exact Course.reconciled (reconcile_on hl hc user dark)
  | setClock nanos => exact Course.of_same rfl rfl
  | lose gone => exact .single (.lost gone rfl rfl)

/-- Every run of operations is a `Course` of timer changes. By induction on the operations. -/
theorem runAll_course (hl : h.Losing lossy) (ops : List Operation) (hc : d.alarms.Cancels)
    (hs : SoundTimers d) : Course lossy d ((runAll h ops).on d).2 := by
  refine runAll_induction (P := fun d₁ => Course lossy d d₁) (fun _ => True)
    (fun op d₁ _ hco => ?_) ops (fun _ _ => trivial) .refl
  exact hco.trans (perform_course hl op (hco.plans.cancels hc) (hco.soundTimers hs))

end Daemon

end Twilight
