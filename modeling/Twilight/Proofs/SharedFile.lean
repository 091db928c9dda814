import Twilight.Proofs.Reloading

namespace Twilight

/-!
# A settings file that others write as well

A value is stored by writing all of memory. So an edit that was not read before is overwritten with
what memory holds, unless it is of the very pair that is stored.

* `FileEvent`, `Copied` — a settings file with the copy of it in memory, and what happens to them.
* `Copied.written?`, `Copied.latest` — what an event writes to a pair of key and user, and the value
  that was written to it last.
* `Copied.Overwritten` — an edit of a pair was overwritten, and nobody wrote to that pair since.
* `Copied.latest_eq_file_iff` — exactly then the file does not hold the latest value of the pair.
* `Daemon.SharedRun` — values are stored, others rewrite the file, and it is taken over, in any
  order.
* `Daemon.kept_iff_of_sharedRun` — after a reload memory and file hold the latest value of exactly
  the pairs of which no edit was overwritten, and whatever a reload takes from the file, it
  announces.
* `Daemon.not_kept_of_unread` — an edit that is lost, although a reload follows.
-/

/-- What happens to a settings file and to the copy of it in memory: somebody else rewrites the
    file, a value is stored in both, or the file is taken over. -/
inductive FileEvent where
  | edited (t : SettingsTable)
  | stored (key value : String) (user : UserId)
  | taken

/-- A settings file, and the copy of it in memory. -/
structure Copied where
  memory : SettingsTable
  file : SettingsTable

namespace Copied

/-- A file that was just read. -/
def of (t : SettingsTable) : Copied := ⟨t, t⟩

/-- What an event leaves. -/
def after (c : Copied) : FileEvent → Copied
  | .edited t => { c with file := t }
  | .stored key value user => .of (c.memory.put key value user)
  | .taken => .of c.file

def afterAll (c : Copied) (events : List FileEvent) : Copied := events.foldl after c

section

variable (key : String) (user : UserId)

/-- What an event writes to a pair of key and user, if it does: a value or none. Rewriting a file
    writes where the contents differ from those before. -/
def written? (c : Copied) : FileEvent → Option (Option String)
  | .edited t =>
    if t.value? key user = c.file.value? key user then none else some (t.value? key user)
  | .stored key' value user' => if key = key' ∧ user = user' then some (some value) else none
  | .taken => none

/-- The value that was written to a pair last, `value` if none was. -/
def latestFrom (value : Option String) (c : Copied) : List FileEvent → Option String
  | [] => value
  | e :: rest => latestFrom ((c.written? key user e).getD value) (c.after e) rest

/-- The value that was written to a pair last, that of the file at first if none was. -/
def latest (c : Copied) (events : List FileEvent) : Option String :=
  latestFrom key user (c.file.value? key user) c events

/-- Nobody writes to a pair. -/
def Unwritten (c : Copied) : List FileEvent → Prop
  | [] => True
  | e :: rest => c.written? key user e = none ∧ Unwritten (c.after e) rest

/-- Another pair is stored while the file has an edit of this one that was not read. -/
def Overwrites (c : Copied) : FileEvent → Prop
  | .stored key' _ user' =>
    ¬ (key = key' ∧ user = user') ∧ c.file.value? key user ≠ c.memory.value? key user
  | _ => False

/-- An edit of the pair was overwritten, and nobody wrote to the pair since. -/
def Overwritten (c : Copied) (events : List FileEvent) : Prop :=
  ∃ before e rest, events = before ++ e :: rest ∧ (c.afterAll before).Overwrites key user e ∧
    ((c.afterAll before).after e).Unwritten key user rest

end

variable {key : String} {user : UserId} {c : Copied} {e : FileEvent} {events : List FileEvent}

/-! ### One event -/

/-- What an event writes to a pair is what the file holds of it afterwards. -/
theorem file_of_written {value : Option String} (hw : c.written? key user e = some value) :
    (c.after e).file.value? key user = value := by
  cases e with
  | edited t => exact Option.some.inj (Option.ite_none_left_eq_some.1 hw).2
  | stored key' value' user' =>
    obtain ⟨hpair, hvalue⟩ := Option.ite_none_right_eq_some.1 hw
    show (c.memory.put key' value' user').value? key user = value
    rw [Daemon.value?_put, if_pos hpair]
    exact Option.some.inj hvalue
  | taken => cases hw

/-- An event that writes to a pair does not overwrite an edit of the same pair. -/
theorem not_overwrites_of_written {value : Option String}
    (hw : c.written? key user e = some value) : ¬ c.Overwrites key user e := by
  cases e with
  | edited t => exact id
  | stored key' value' user' => exact fun ho => ho.1 (Option.ite_none_right_eq_some.1 hw).1
  | taken => exact id

/-- An event that does not write to a pair leaves the value in the file, or memory takes its place.
    -/
theorem of_not_written (hw : c.written? key user e = none) :
    (¬ c.Overwrites key user e ∧
        (c.after e).file.value? key user = c.file.value? key user ∧
        ((c.after e).memory.value? key user = c.memory.value? key user ∨
          (c.after e).memory.value? key user = c.file.value? key user)) ∨
      c.Overwrites key user e ∧
        (c.after e).file.value? key user = c.memory.value? key user ∧
        (c.after e).memory.value? key user = c.memory.value? key user := by
  cases e with
  | edited t =>
    have hsame : t.value? key user = c.file.value? key user := by simpa [written?] using hw
    exact .inl ⟨id, hsame, .inl rfl⟩
  | stored key' value user' =>
    have hpair : ¬ (key = key' ∧ user = user') := by simpa [written?] using hw
    have hput : (c.memory.put key' value user').value? key user = c.memory.value? key user := by
      rw [Daemon.value?_put, if_neg hpair]
    by_cases hdiffer : c.file.value? key user = c.memory.value? key user
    · exact .inl ⟨fun ho => ho.2 hdiffer, hput.trans hdiffer.symm, .inl hput⟩
    · exact .inr ⟨⟨hpair, hdiffer⟩, hput, hput⟩
  | taken => exact .inl ⟨id, rfl, .inr rfl⟩

/-! ### Any number of events -/

/-- An edit is `Overwritten` by the first event, if nobody writes to the pair behind it, or by one
    of the others. -/
theorem overwritten_cons :
    c.Overwritten key user (e :: events) ↔
      c.Overwrites key user e ∧ (c.after e).Unwritten key user events ∨
        (c.after e).Overwritten key user events := by
  constructor
  · rintro ⟨before, e', rest, heq, ho, hrest⟩
    cases before with
    | nil =>
      obtain ⟨rfl, rfl⟩ := List.cons.inj heq
      exact .inl ⟨ho, hrest⟩
    | cons first before =>
      obtain ⟨rfl, rfl⟩ := List.cons.inj heq
      exact .inr ⟨before, e', rest, rfl, ho, hrest⟩
  · rintro (⟨ho, hrest⟩ | ⟨before, e', rest, rfl, ho, hrest⟩)
    · exact ⟨[], e, events, rfl, ho, hrest⟩
    · exact ⟨e :: before, e', rest, rfl, ho, hrest⟩

/-- From a value on that is in the file, the latest one is there unless an edit was overwritten.
    From one on that was overwritten, so that memory and file agree on something else, it also has
    to be written anew. -/
theorem latestFrom_eq_iff (value : Option String) (c : Copied) (events : List FileEvent) :
    (value = c.file.value? key user →
      (latestFrom key user value c events = (c.afterAll events).file.value? key user ↔
        ¬ c.Overwritten key user events)) ∧
    (value ≠ c.file.value? key user → c.memory.value? key user = c.file.value? key user →
      (latestFrom key user value c events = (c.afterAll events).file.value? key user ↔
        ¬ (c.Unwritten key user events ∨ c.Overwritten key user events))) := by
  -- on the events, for both at once: an edit that is overwritten leads from the first to the second
  induction events generalizing value c with
  | nil =>
    have hnone : ¬ c.Overwritten key user [] := by
      rintro ⟨before, e, rest, heq, -⟩
      cases before <;> cases heq
    refine ⟨fun hv => iff_of_true hv hnone, fun hv _ => iff_of_false hv ?_⟩
    exact fun h => h (.inl trivial)
  | cons e events ih =>
    have hunwritten : c.Unwritten key user (e :: events) ↔
        c.written? key user e = none ∧ (c.after e).Unwritten key user events := .rfl
    have hlatest : latestFrom key user value c (e :: events) =
        latestFrom key user ((c.written? key user e).getD value) (c.after e) events := rfl
    have hall : c.afterAll (e :: events) = (c.after e).afterAll events := rfl
    rw [hlatest, hall, overwritten_cons, hunwritten]
    cases hw : c.written? key user e with
    | some written =>
      have hno := not_overwrites_of_written hw
      have hrest := (ih written (c.after e)).1 (file_of_written hw).symm
      refine ⟨fun _ => hrest.trans ?_, fun _ _ => hrest.trans ?_⟩
      · simp [hno]
      · simp [hno]
    | none =>
      rcases of_not_written hw with ⟨hno, hfile, hmemory⟩ | ⟨ho, hfile, hmemory⟩
      · refine ⟨fun hv => ?_, fun hv hagree => ?_⟩
        · have hrest := (ih value (c.after e)).1 (hv.trans hfile.symm)
          exact hrest.trans (by simp [hno])
        · -- whichever of the two memory keeps, it is what the file holds
          have hagain : (c.after e).memory.value? key user = (c.after e).file.value? key user := by
            rw [hfile]
            exact hmemory.elim (·.trans hagree) id
          have hrest := (ih value (c.after e)).2 (by rw [hfile]; exact hv) hagain
          exact hrest.trans (by simp [hno])
      · have hdiffer : c.file.value? key user ≠ c.memory.value? key user := by
          cases e with
          | stored key' value' user' => exact ho.2
          | edited t => exact ho.elim
          | taken => exact ho.elim
        refine ⟨fun hv => ?_, fun _ hagree => absurd hagree.symm hdiffer⟩
        have hrest := (ih value (c.after e)).2 (by rw [hfile, hv]; exact hdiffer)
          (hmemory.trans hfile.symm)
        exact hrest.trans (by simp [ho])

/-- The file holds the latest value of a pair, unless an edit of it was overwritten. -/
theorem latest_eq_file_iff (c : Copied) (events : List FileEvent) (key : String) (user : UserId) :
    c.latest key user events = (c.afterAll events).file.value? key user ↔
      ¬ c.Overwritten key user events :=
  (latestFrom_eq_iff _ c events).1 rfl

/-- The last of the events comes after all the others. -/
theorem afterAll_snoc (c : Copied) (events : List FileEvent) (e : FileEvent) :
    c.afterAll (events ++ [e]) = (c.afterAll events).after e := by
  unfold afterAll
  rw [List.foldl_append]
  rfl

end Copied

namespace Daemon

open FileSystem (SameFile)
open Text.Numeral (IsInt32)

variable {path key value : String} {user : UserId} {d₀ d d₁ : Daemon} {c : Copied}
variable {events : List FileEvent} {h : Hooks}

/-! ### The store and the file -/

/-- The settings in memory, and those of the file at `path`, are those of `c`. -/
structure Shares (path : String) (c : Copied) (d : Daemon) : Prop where
  file : d.settings.file = some path
  memory : d.settings.values = c.memory
  held : ∃ ignored, readSettings? d.files path = .ok ⟨c.file, ignored⟩
  numbered : c.memory.Numbered

/-- Settings that are in step with their file share it as it was just read. -/
theorem Agrees.shares (ha : d.Agrees path) : Shares path (.of d.settings.values) d :=
  ⟨ha.file, rfl, ha.read, ha.numbered⟩

/-- A value that is stored is in memory, and the file is what memory is. -/
theorem storeSetting_of_ok (hf : d.settings.file = some path) (hn : d.settings.values.Numbered)
    (hu : IsInt32 user) (hok : ((storeSetting key value user).on d).1 = .ok ()) :
    ∃ fs, (storeSetting key value user).on d =
        (.ok (), { d.withValues (d.settings.values.put key value user) with files := fs }) ∧
      readSettings? fs path = .ok ⟨d.settings.values.put key value user, []⟩ := by
  rw [storeSetting_of_file hf] at hok ⊢
  generalize hreplaced : d.files.replace path
    (SettingsTable.write (d.settings.values.put key value user)) = replaced at hok ⊢
  obtain ⟨result, fs⟩ := replaced
  cases result with
  | error problem => cases hok
  | ok _ => exact ⟨fs, rfl, readSettings?_of_replace (hn.put hu key value) hreplaced⟩

/-- What comes of `d₀` when values are stored, others rewrite the file, and it is taken over, in the
    order of the events. In between anything may happen that leaves the store and its file alone.
    Others write what can be read, and no value fails to be stored. -/
inductive SharedRun (path : String) (d₀ : Daemon) : List FileEvent → Daemon → Prop where
  | start : SharedRun path d₀ [] d₀
  | edited {events : List FileEvent} {d : Daemon} {fs : FileSystem} {r : SettingsTable.Reading} :
      SharedRun path d₀ events d → readSettings? fs path = .ok r →
      SharedRun path d₀ (events ++ [.edited r.table]) { d with files := fs }
  | stored {events : List FileEvent} {d : Daemon} {key value : String} {user : UserId} :
      SharedRun path d₀ events d → IsInt32 user →
      ((storeSetting key value user).on d).1 = .ok () →
      SharedRun path d₀ (events ++ [.stored key value user]) ((storeSetting key value user).on d).2
  | taken {events : List FileEvent} {d : Daemon} : SharedRun path d₀ events d →
      SharedRun path d₀ (events ++ [.taken]) ((takeFile path).on d).2
  | aside {events : List FileEvent} {d d₁ : Daemon} : SharedRun path d₀ events d →
      SameStore path d d₁ → SharedRun path d₀ events d₁

/-- After a `SharedRun`, memory and file are what `afterAll` makes of the events. By induction on
    the run. -/
theorem SharedRun.shares (hr : SharedRun path d₀ events d) (h₀ : Shares path c d₀) :
    Shares path (c.afterAll events) d := by
  induction hr with
  | start => exact h₀
  | @edited events d fs r _ hread ih =>
    rw [Copied.afterAll_snoc]
    exact ⟨ih.file, ih.memory, ⟨r.ignored, hread⟩, ih.numbered⟩
  | @stored events d key value user _ hu hok ih =>
    -- what is written from memory is read back only if the ids are numbers of 32 bits
    have hn : d.settings.values.Numbered := by
      rw [ih.memory]
      exact ih.numbered
    obtain ⟨fs, he, hread⟩ := storeSetting_of_ok ih.file hn hu hok
    rw [Copied.afterAll_snoc, he]
    rw [ih.memory] at hread ⊢
    exact ⟨ih.file, rfl, ⟨[], hread⟩, ih.numbered.put hu key value⟩
  | @taken events d _ ih =>
    obtain ⟨ignored, hread⟩ := ih.held
    obtain ⟨j, he⟩ := takeFile_of_read hread
    rw [Copied.afterAll_snoc, he]
    exact ⟨ih.file, rfl, ⟨ignored, hread⟩, numbered_of_readSettings? hread⟩
  | aside _ hs ih =>
    obtain ⟨ignored, hread⟩ := ih.held
    exact ⟨hs.file.trans ih.file, hs.values.trans ih.memory,
      ⟨ignored, (readSettings?_congr hs.reads).trans hread⟩, ih.numbered⟩

/-! ### Whole calls -/

section

variable (ho : ∀ key user d, SameStore path d ((announce h key user).on d).2)
include ho

/-- A reload takes the file over, if the observers that it calls leave the store and its file alone.
    -/
theorem SharedRun.reload (hr : SharedRun path d₀ events d) :
    SharedRun path d₀ (events ++ [.taken]) ((Daemon.reload h path).on d).2 := by
  unfold Daemon.reload reloadIn
  rw [Act.on_bind]
  cases ((takeFile path).on d).1 with
  | error f => exact hr.taken
  | ok changes =>
    exact announceAll_induction (fun d j hd => hd.aside ⟨rfl, rfl, SameFile.refl _ path⟩)
      (fun key user d hd => hd.aside (ho key user d)) changes hr.taken

/-- A `SharedRun` goes on with `putSetting` that succeeds, which stores a value and tells its
    observer. -/
theorem SharedRun.putSetting (hr : SharedRun path d₀ events d) (hu : IsInt32 user)
    (hok : ((Daemon.putSetting h key value user).on d).1 = .ok ()) :
    SharedRun path d₀ (events ++ [.stored key value user])
      ((Daemon.putSetting h key value user).on d).2 := by
  unfold Daemon.putSetting at hok ⊢
  rw [putSettingBy_eq] at hok ⊢
  by_cases hf : d.settings.faults.failsSet key = true
  · rw [if_pos hf] at hok
    cases hok
  · rw [if_neg hf] at hok ⊢
    have hstored : ((storeSetting key value user).on d).1 = .ok () → SharedRun path d₀
        (events ++ [.stored key value user]) ((storeSetting key value user).on d).2 := hr.stored hu
    unfold storeSetting at hstored
    generalize (storeSettingBy FileSystem.replace key value user).on d = stored at hok hstored ⊢
    obtain ⟨result, d₁⟩ := stored
    cases result with
    | error f => cases hok
    | ok _ => exact (hstored rfl).aside (ho key user d₁)

end

/-! ### What is kept -/

/-- From the opening of a settings file on, in every run in which values are stored, others rewrite
    the file, and it is taken over, the last of these at the end: memory and file hold the same, and
    of a pair of key and user it is the latest value exactly if no edit of that pair was
    overwritten. Every reload on the way has memory take the file and then tells the observers of
    what differs in it, one after another. If they leave the store alone, then the observer of every
    pair that differs is told, and finds the file in memory; those that are callbacks and do nothing
    else note that they were. -/
theorem kept_iff_of_sharedRun (hopen : ((openSettings path).on d₀).1 = .ok ())
    (hr : SharedRun path ((openSettings path).on d₀).2 (events ++ [.taken]) d) :
    (∃ ignored, readSettings? d.files path = .ok ⟨d.settings.values, ignored⟩) ∧
    (∀ key user,
      d.settings.values.value? key user =
          (Copied.of ((openSettings path).on d₀).2.settings.values).latest key user
            (events ++ [.taken]) ↔
        ¬ (Copied.of ((openSettings path).on d₀).2.settings.values).Overwritten key user
            (events ++ [.taken])) ∧
    ∀ h before d₁, SharedRun path ((openSettings path).on d₀).2 before d₁ →
      ∃ t ignored tellings, readSettings? d₁.files path = .ok ⟨t, ignored⟩ ∧
        Tells h (d₁.settings.values.changes t) tellings (d₁.withValues t)
          ((reload h path).on d₁).2 ∧
        (∀ key user, (key, user) ∈ d₁.settings.values.changes t ↔
          d₁.settings.values.value? key user ≠ t.value? key user) ∧
        (h.SparesStore → ∀ key user observer,
          d₁.settings.values.value? key user ≠ t.value? key user →
          d₁.settings.observers.get? (key, user) = some observer →
          ⟨key, user, observer, t⟩ ∈ tellings) ∧
        ((∀ script, h.run script = pure ()) → (∀ t ∈ tellings, t.event?.isSome) →
          ((reload h path).on d₁).2.events =
            (tellings.filterMap Telling.event?).reverse ++ d₁.events) := by
  obtain ⟨r, hread⟩ := readSettings?_of_openSettings hopen
  have h₀ := (openSettings_on hread).2.2.shares
  have hs := hr.shares h₀
  -- the run ends with a reload
  have hsame : d.settings.values =
      ((Copied.of ((openSettings path).on d₀).2.settings.values).afterAll
        (events ++ [.taken])).file := by
    rw [hs.memory, Copied.afterAll_snoc]
    rfl
  refine ⟨?_, fun key user => ?_, fun h before d₁ hbefore => ?_⟩
  · rw [hsame]
    exact hs.held
  · -- after the reload memory is the file, of which the exact condition is known
    rw [hsame, ← Copied.latest_eq_file_iff, eq_comm]
  · obtain ⟨ignored, hheld⟩ := (hbefore.shares h₀).held
    obtain ⟨-, tellings, ht⟩ := tells_reload h hheld
    refine ⟨_, ignored, tellings, hheld, ht, fun key user => SettingsTable.mem_changes_iff,
      fun hh key user observer hdiffer hregistered => ?_,
      fun hrun hscripts => (ht.events hrun hscripts).trans rfl⟩
    exact (ht.mem_tellings hh).2 ⟨SettingsTable.mem_changes_iff.2 hdiffer, hregistered, rfl⟩

/-- A daemon without files, where a callback observes the mode of a user. -/
def observed : Daemon where
  clock := default
  processes := default
  settings := { observers := Table.empty.insert ("mode", 100) ⟨"mode", .script "a" []⟩ }

/-- It opened a file for its settings. -/
def openedObserved : Daemon := ((openSettings "/s.toml").on observed).2

/-- Somebody else wrote a mode into that file. -/
def editedOutside : Daemon :=
  { openedObserved with files := (openedObserved.files.replace "/s.toml" modeOnly.write).2 }

/-- The file of `editedOutside` reads as what somebody else wrote into it. -/
theorem readSettings?_editedOutside :
    readSettings? editedOutside.files "/s.toml" = .ok ⟨modeOnly, []⟩ := by
  have hnumbered : modeOnly.Numbered :=
    SettingsTable.Numbered.put (fun _ _ h => by cases h) ⟨by decide, by decide⟩ "mode" "2"
  have hwritten : openedObserved.files.replace "/s.toml" modeOnly.write =
      (.ok (), editedOutside.files) := rfl
  exact readSettings?_of_replace hnumbered hwritten

/-- The settings of `openedObserved` were just opened, and are shared with an empty file. -/
theorem shares_openedObserved :
    Shares "/s.toml" (.of openedObserved.settings.values) openedObserved := by
  have hread : readSettings? {} "/s.toml" = .ok {} := rfl
  exact (openSettings_on (d := observed) hread).2.2.shares

/-- An edit that was read stays when another value is stored, and the reload that read it had its
    observer told, who noted it. -/
theorem kept_of_read :
    (∃ d, SharedRun "/s.toml" openedObserved
        ([.edited modeOnly, .taken, .stored "start" "600" 100] ++ [.taken]) d ∧
      ¬ (Copied.of openedObserved.settings.values).Overwritten "mode" 100
        ([.edited modeOnly, .taken, .stored "start" "600" 100] ++ [.taken]) ∧
      d.settings.values.value? "mode" 100 = some "2") ∧
    ((reload .quiet "/s.toml").on editedOutside).2.events = [.changed "a" "mode" 100] := by
  have hedited : SharedRun "/s.toml" openedObserved [.edited modeOnly] editedOutside :=
    SharedRun.start.edited readSettings?_editedOutside
  obtain ⟨j, he⟩ := takeFile_of_read readSettings?_editedOutside
  have hok : ((storeSetting "start" "600" 100).on ((takeFile "/s.toml").on editedOutside).2).1 =
      .ok () := by
    rw [he]
    rfl
  -- the edit, its reload, the other value, and the reload at the end
  have hrun := (hedited.taken.stored ⟨by decide, by decide⟩ hok).taken
  obtain ⟨-, hkept, htells⟩ := kept_iff_of_sharedRun rfl hrun
  have hmemory := (hrun.shares shares_openedObserved).memory
  refine ⟨⟨_, hrun, (hkept "mode" 100).1 ?_, ?_⟩, ?_⟩
  · rw [hmemory]
    decide
  · rw [hmemory]
    decide
  · -- the one change of the edit has the callback as its observer
    obtain ⟨t, ignored, tellings, hread, ht, -, -, hevents⟩ := htells .quiet _ _ hedited
    obtain ⟨rfl, -⟩ := SettingsTable.Reading.mk.inj
      (Except.ok.inj (hread.symm.trans readSettings?_editedOutside))
    have htellings : tellings = [⟨"mode", 100, ⟨"mode", .script "a" []⟩, modeOnly⟩] :=
      ht.tellings_eq (Hooks.quiet_losing True).sparesStore
    rw [hevents (fun _ => rfl) (by rw [htellings]; decide), htellings]
    rfl

/-- An edit that was not read is gone once another value was stored, and no reload brings it back.
    -/
theorem not_kept_of_unread :
    ¬ ∀ events d, SharedRun "/s.toml" openedObserved (events ++ [.taken]) d → ∀ key user,
      d.settings.values.value? key user =
        (Copied.of openedObserved.settings.values).latest key user (events ++ [.taken]) := by
  intro hkept
  have hedited : SharedRun "/s.toml" openedObserved [.edited modeOnly] editedOutside :=
    SharedRun.start.edited readSettings?_editedOutside
  have hok : ((storeSetting "start" "600" 100).on editedOutside).1 = .ok () := rfl
  have hrun := (hedited.stored ⟨by decide, by decide⟩ hok).taken
  have hmode := hkept [.edited modeOnly, .stored "start" "600" 100] _ hrun "mode" 100
  rw [(hrun.shares shares_openedObserved).memory] at hmode
  exact absurd hmode (by decide)

end Daemon

end Twilight
