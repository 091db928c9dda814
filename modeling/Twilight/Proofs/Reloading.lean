import Twilight.Proofs.Blindness
import Twilight.Proofs.SettingsFile

namespace Twilight

/-!
# What a reload tells, and whom

* `Telling` — an observer that is told: of which pair of key and user, and what memory holds then.
* `Daemon.Tells` — changes are announced one after another, and what comes of it is what the
  observers that are told make of it, each by `Daemon.tell`.
* `Daemon.tells_announceAll`, `Daemon.tells_reload` — so it is when changes are announced and when a
  file is read again, whatever the observers do.
* `Hooks.SparesStore` — observers that leave the store alone. The manager does, and so does every
  callback that does nothing else.
* `Daemon.Tells.tellings_eq` — then those are told that are registered at first.
* `Daemon.Tells.events` — callbacks that do nothing else note that they were told.
* `Daemon.exact_of_replaceAll` — the changes found when a table is replaced are exactly the pairs
  that look up differently, each once, and a reload tells exactly the observers of these.
-/

open Daemon

/-- An observer that is told of a change: the pair of key and user that changed, the observer, and
    the settings that it finds in memory. -/
structure Telling where
  key : String
  user : UserId
  observer : Observer
  values : SettingsTable

/-- The pair that a `Telling` is about. -/
def Telling.pair (t : Telling) : String × UserId := (t.key, t.user)

/-- What a callback notes of a `Telling`; the manager notes nothing. -/
def Telling.event? (t : Telling) : Option Event :=
  match t.observer.action with
  | .manager => none
  | .script label _ => some (.changed label t.observer.told t.user)

/-! ### Observers that leave the store alone -/

/-- Telling an observer leaves the store as it is, with everything registered in it. -/
def Hooks.SparesStore (h : Hooks) : Prop :=
  ∀ observer user d, ((Daemon.tell h observer user).on d).2.settings = d.settings

/-- A change that the manager was told of, as `Daemon.Changed` has it, leaves the settings alone. -/
theorem Daemon.Changed.settings {lossy : Prop} {key : String} {user : UserId} {d d₁ : Daemon}
    (hc : Changed lossy key user d d₁) : d₁.settings = d.settings := by
  cases hc with
  | ignored _ logged => exact logged.rescheduled.settings
  | taken _ _ _ settled =>
    obtain ⟨d₀, hr, hc⟩ := settled
    rw [hc.delivered.settings, hr.rescheduled.settings]
    rfl

/-- Neither the manager nor a callback that does nothing else touches the store, even where calls on
    the alarm service fail. -/
theorem Hooks.Losing.sparesStore {lossy : Prop} {h : Hooks} (hl : h.Losing lossy) :
    h.SparesStore := by
  intro observer user d
  obtain ⟨told, action⟩ := observer
  cases action with
  | manager =>
    -- a daemon whose alarm service works ends with the same settings
    have halike := (twin_settingChanged hl told user d d.mended (alike_mended d)).2
    have hmended := (settingChanged_on hl (mended_cancels d) told user).settings
    exact halike.settings.symm.trans hmended
  | script label steps =>
    simp only [Daemon.tell, Act.on_bind, note, Act.on_modify, hl.run, Act.on_pure]

namespace Daemon

variable {h : Hooks} {path : String} {d : Daemon}

/-! ### Tellings -/

/-- What comes of `d` when changes are announced one after another, and the observers of the
    tellings are told in this order. Of each change it is the observer that its pair has by then,
    and `tell` goes on from what the others left; of a pair that has none nobody is told. In between
    lines are logged, and nothing else happens. -/
inductive Tells (h : Hooks) : List (String × UserId) → List Telling → Daemon → Daemon → Prop where
  | done {d d₁ : Daemon} : Logged d d₁ → Tells h [] [] d d₁
  | nobody {key : String} {user : UserId} {changes : List (String × UserId)}
      {tellings : List Telling} {d d₁ d₂ : Daemon} :
      Logged d d₁ → d₁.settings.observers.get? (key, user) = none →
      Tells h changes tellings d₁ d₂ → Tells h ((key, user) :: changes) tellings d d₂
  | told {key : String} {user : UserId} {changes : List (String × UserId)}
      {tellings : List Telling} {d d₁ d₂ : Daemon} {observer : Observer} :
      Logged d d₁ → d₁.settings.observers.get? (key, user) = some observer →
      Tells h changes tellings ((tell h observer user).on d₁).2 d₂ →
      Tells h ((key, user) :: changes)
        (⟨key, user, observer, d₁.settings.values⟩ :: tellings) d d₂

variable {changes : List (String × UserId)} {tellings : List Telling} {d₁ : Daemon}

/-- Lines that are logged before the first of the `tellings` make no difference. -/
theorem Tells.logged {d₀ : Daemon} (hd : Logged d₀ d) (ht : Tells h changes tellings d d₁) :
    Tells h changes tellings d₀ d₁ := by
  cases ht with
  | done hlogged => exact .done (hd.trans hlogged)
  | nobody hlogged hnone hrest => exact .nobody (hd.trans hlogged) hnone hrest
  | told hlogged hsome hrest => exact .told (hd.trans hlogged) hsome hrest

/-- `announceAll` tells the observers of the changes, whatever these do in the meantime. -/
theorem tells_announceAll (h : Hooks) (changes : List (String × UserId)) (d : Daemon) :
    ∃ tellings, Tells h changes tellings d ((announceAll h changes).on d).2 := by
  induction changes generalizing d with
  | nil => exact ⟨[], .done (.refl d)⟩
  | cons change rest ih =>
    obtain ⟨key, user⟩ := change
    have hlogged := Act.logs_debug s!"Settings file changed '{key}' for user {user}" d
    rw [announceAll, Act.on_bind, Act.on_bind]
    generalize ((debug s!"Settings file changed '{key}' for user {user}").on d).2 = d₁ at hlogged ⊢
    rw [on_announce]
    cases hobserver : d₁.settings.observers.get? (key, user) with
    | none =>
      obtain ⟨tellings, ht⟩ := ih d₁
      exact ⟨tellings, .nobody hlogged hobserver ht⟩
    | some observer =>
      obtain ⟨tellings, ht⟩ := ih ((tell h observer user).on d₁).2
      exact ⟨_, .told hlogged hobserver ht⟩

/-- `reload` takes over all values of a file that can be read, and then tells the observers of what
    differs in it. It counts the differences. -/
theorem tells_reload (h : Hooks) {r : SettingsTable.Reading}
    (hr : readSettings? d.files path = .ok r) :
    ((reload h path).on d).1 = .ok (d.settings.values.changes r.table).length ∧
      ∃ tellings, Tells h (d.settings.values.changes r.table) tellings (d.withValues r.table)
        ((reload h path).on d).2 := by
  obtain ⟨j, htaken⟩ := takeFile_of_read hr
  obtain ⟨tellings, ht⟩ := tells_announceAll h (d.settings.values.changes r.table)
    { d.withValues r.table with journal := j }
  unfold reload reloadIn
  rw [Act.on_bind, htaken]
  exact ⟨rfl, tellings, ht.logged ⟨j, rfl⟩⟩

/-- Nobody is told of anything but a change, nor twice of the same one. -/
theorem Tells.sublist (ht : Tells h changes tellings d d₁) :
    (tellings.map Telling.pair).Sublist changes := by
  induction ht with
  | done _ => exact .slnil
  | nobody _ _ _ ih => exact ih.cons _
  | told _ _ _ ih => exact ih.cons_cons _

/-- If the observers leave the store alone, as `Hooks.SparesStore` says, then of each change the one
    is told that is registered at first, and finds in memory what is there at first. -/
theorem Tells.tellings_eq (hs : h.SparesStore) (ht : Tells h changes tellings d d₁) :
    tellings = changes.filterMap fun p => (d.settings.observers.get? p).map
      fun observer => ⟨p.1, p.2, observer, d.settings.values⟩ := by
  induction ht with
  | done _ => rfl
  | nobody hlogged hnone _ ih =>
    obtain ⟨j, rfl⟩ := hlogged
    rw [List.filterMap_cons_none (by rw [hnone]; rfl)]
    exact ih
  | told hlogged hsome _ ih =>
    obtain ⟨j, rfl⟩ := hlogged
    -- those told later find the store as the first one found it
    rw [hs] at ih
    rw [List.filterMap_cons_some (by rw [hsome]; rfl), ih]

/-- Then an observer is among the `tellings` exactly if it is that of a change. -/
theorem Tells.mem_tellings (hs : h.SparesStore) (ht : Tells h changes tellings d d₁) {key : String}
    {user : UserId} {observer : Observer} {values : SettingsTable} :
    ⟨key, user, observer, values⟩ ∈ tellings ↔
      (key, user) ∈ changes ∧ d.settings.observers.get? (key, user) = some observer ∧
        values = d.settings.values := by
  rw [ht.tellings_eq hs, List.mem_filterMap]
  constructor
  · rintro ⟨⟨key', user'⟩, hchange, htold⟩
    obtain ⟨observer', hregistered, heq⟩ := Option.map_eq_some_iff.1 htold
    cases heq
    exact ⟨hchange, hregistered, rfl⟩
  · rintro ⟨hchange, hregistered, rfl⟩
    exact ⟨(key, user), hchange, by rw [hregistered]; rfl⟩

/-- If all that are told are callbacks, and these do nothing else, then just their notes of the
    `tellings` are added to the events, the latest first. -/
theorem Tells.events (hrun : ∀ script, h.run script = pure ())
    (hscripts : ∀ t ∈ tellings, t.event?.isSome) (ht : Tells h changes tellings d d₁) :
    d₁.events = (tellings.filterMap Telling.event?).reverse ++ d.events := by
  -- the induction is on what is told, change by change; the events are the latest first
  induction ht with
  | done hlogged =>
    obtain ⟨j, rfl⟩ := hlogged
    rfl
  | nobody hlogged _ _ ih =>
    obtain ⟨j, rfl⟩ := hlogged
    exact ih hscripts
  | @told key user _ tellings d d₀ _ observer hlogged _ _ ih =>
    have hsame : d₀.events = d.events := by
      obtain ⟨j, rfl⟩ := hlogged
      rfl
    obtain ⟨told, action⟩ := observer
    cases action with
    | manager => cases hscripts _ List.mem_cons_self
    | script label steps =>
      have hnoted : ((tell h ⟨told, .script label steps⟩ user).on d₀).2.events =
          .changed label told user :: d.events := by
        rw [← hsame]
        simp only [tell, Act.on_bind, note, Act.on_modify, hrun, Act.on_pure]
      have hnote : Telling.event? ⟨key, user, ⟨told, .script label steps⟩, d₀.settings.values⟩ =
          some (.changed label told user) := rfl
      rw [ih fun t ht => hscripts t (List.mem_cons_of_mem _ ht), hnoted,
        List.filterMap_cons_some hnote, List.reverse_cons, List.append_assoc]
      rfl

/-! ### The exact difference -/

/-- Replacing the table of a store leaves exactly the new one, and finds exactly the pairs that look
    up differently in the two, each once. A reload that reads the new table counts just these, and
    tells their observers with the new table in memory: what comes of it is what they make of it
    when each of them is told in order, and none is told twice. If they leave the store alone, then
    an observer is told if and only if it is that of a pair which changed; if they are callbacks
    that do nothing else, then what is added to the events is that each of them was told. -/
theorem exact_of_replaceAll (s : SettingsStore) (t : SettingsTable) :
    (s.replaceAll t).2 = { s with values := t } ∧
    (s.replaceAll t).1.Nodup ∧
    (∀ key user, (key, user) ∈ (s.replaceAll t).1 ↔
      s.values.value? key user ≠ t.value? key user) ∧
    ∀ h path d ignored, d.settings = s → readSettings? d.files path = .ok ⟨t, ignored⟩ →
      ((reload h path).on d).1 = .ok (s.replaceAll t).1.length ∧
      ∃ tellings, Tells h (s.replaceAll t).1 tellings (d.withValues t) ((reload h path).on d).2 ∧
        (tellings.map Telling.pair).Nodup ∧
        (h.SparesStore → ∀ key user observer values,
          ⟨key, user, observer, values⟩ ∈ tellings ↔
            s.values.value? key user ≠ t.value? key user ∧
              s.observers.get? (key, user) = some observer ∧ values = t) ∧
        ((∀ script, h.run script = pure ()) → (∀ t ∈ tellings, t.event?.isSome) →
          ((reload h path).on d).2.events =
            (tellings.filterMap Telling.event?).reverse ++ d.events) := by
  have hnodup := SettingsTable.nodup_changes s.values t
  refine ⟨rfl, hnodup, fun key user => SettingsTable.mem_changes_iff,
    fun h path d ignored hs hread => ?_⟩
  subst hs
  -- the reload takes the file over and then tells; what it tells is among the changes, in their
  -- order
  obtain ⟨hcount, tellings, ht⟩ := tells_reload h hread
  refine ⟨hcount, tellings, ht, ht.sublist.nodup hnodup, fun hh key user observer values => ?_,
    fun hrun hscripts => (ht.events hrun hscripts).trans rfl⟩
  rw [ht.mem_tellings hh, SettingsTable.mem_changes_iff]
  rfl

/-- The mode of a user, and nothing else. -/
def modeOnly : SettingsTable := SettingsTable.put {} "mode" "2" 100

/-- A daemon with another mode of that user in memory, and a start, both of them observed. Somebody
    wrote the one mode into the file. -/
def outdated : Daemon where
  clock := default
  processes := default
  files := (FileSystem.replace {} "/s.toml" modeOnly.write).2
  settings := {
    values := (SettingsTable.put {} "mode" "1" 100).put "start" "60" 100
    file := some "/s.toml"
    observers := (Table.empty.insert ("mode", 100) ⟨"mode", .script "a" []⟩).insert ("start", 100)
      ⟨"start", .script "b" []⟩ }

/-- Both observers are told, of the mode that changed and of the start that is gone, in this order,
    and each of them notes it. -/
theorem exact_of_outdated :
    ((reload .quiet "/s.toml").on outdated).1 = .ok 2 ∧
    ∃ tellings, Tells .quiet [("mode", 100), ("start", 100)] tellings (outdated.withValues modeOnly)
        ((reload .quiet "/s.toml").on outdated).2 ∧
      ⟨"mode", 100, ⟨"mode", .script "a" []⟩, modeOnly⟩ ∈ tellings ∧
      ⟨"start", 100, ⟨"start", .script "b" []⟩, modeOnly⟩ ∈ tellings ∧
      ((reload .quiet "/s.toml").on outdated).2.events =
        [.changed "b" "start" 100, .changed "a" "mode" 100] := by
  have hnumbered : modeOnly.Numbered :=
    SettingsTable.Numbered.put (fun _ _ h => by cases h) ⟨by decide, by decide⟩ "mode" "2"
  have hwritten : FileSystem.replace {} "/s.toml" modeOnly.write = (.ok (), outdated.files) := rfl
  have hread := readSettings?_of_replace hnumbered hwritten
  obtain ⟨-, -, -, hreload⟩ := exact_of_replaceAll outdated.settings modeOnly
  obtain ⟨hcount, tellings, ht, -, htold, hevents⟩ := hreload .quiet "/s.toml" outdated [] rfl hread
  have hquiet := (Hooks.quiet_losing True).sparesStore
  -- both pairs look up differently, and both have a callback
  have hchanges : (outdated.settings.replaceAll modeOnly).1 = [("mode", 100), ("start", 100)] := by
    decide
  rw [hchanges] at hcount ht
  have htellings : tellings = [⟨"mode", 100, ⟨"mode", .script "a" []⟩, modeOnly⟩,
      ⟨"start", 100, ⟨"start", .script "b" []⟩, modeOnly⟩] := ht.tellings_eq hquiet
  refine ⟨hcount, tellings, ht, (htold hquiet _ _ _ _).2 ⟨by decide, rfl, rfl⟩,
    (htold hquiet _ _ _ _).2 ⟨by decide, rfl, rfl⟩, ?_⟩
  rw [hevents (fun _ => rfl) (by rw [htellings]; decide), htellings]
  rfl

end Daemon

end Twilight
