import Twilight.Appearance.Parameters
import Twilight.Proofs.Table
import Twilight.Proofs.Text.Lines
import Twilight.Proofs.Text.Numeral
import Twilight.Proofs.Toml.Document

namespace Twilight

/-!
# Written settings and parameters read back

* `ParameterTable.read?_write` — parameters are read as they were written.
* `SettingsTable.ofNamed_named` — settings under the written ids of their users are taken as theirs.
* `SettingsTable.numbered_of_read?` — what is read has such ids only.
* `SettingsTable.read?_write` — so settings are read as they were written, for all users whose ids
  are numbers of 32 bits.
-/

open Toml

/-! ### Texts -/

/-- The texts of `textEntries` are read back by `textsOf?`. -/
theorem textsOf?_textEntries (es : List (String × String)) :
    textsOf? (textEntries es) = some es := by
  induction es with
  | nil => rfl
  | cons e es ih =>
    show (textsOf? (textEntries es)).map (e :: ·) = some (e :: es)
    rw [ih]
    rfl

/-- What `writeEntries` writes does not begin with a byte order mark, which reading would drop. -/
theorem head?_writeEntries (es : List (String × String)) :
    (writeEntries es).head? ≠ some '\uFEFF' := by
  cases es with
  | nil => exact fun h => by cases h
  | cons e es =>
    obtain ⟨c, cs, hcs, hc⟩ := exists_writeKey e.1.toList
    show (writeEntry e.1 e.2 ++ writeEntries es).head? ≠ _
    rw [writeEntry_append, hcs]
    exact head?_ne (ne_of_isKeyStart hc (by decide))

/-- At the root of a document the entries read so far are those of the root. -/
theorem opens_root : Opens fun es => ⟨es, []⟩ where
  opened := fun _ _ => rfl
  append := fun _ _ v hkey => insertAt_append (by decide) hkey v

/-- `read?` reads back the parameters that `write` wrote. -/
theorem ParameterTable.read?_write (t : ParameterTable) :
    ParameterTable.read? t.write = some t := by
  have hreads : Reads {} t.write.toList ⟨[] ++ textEntries t.entries, []⟩ := by
    rw [ParameterTable.write, String.toList_ofList]
    exact Reads.entries opens_root t.pairwise_keys fun _ _ => rfl
  have hmark : t.write.toList.head? ≠ some '\uFEFF' := by
    rw [ParameterTable.write, String.toList_ofList]
    exact head?_writeEntries t.entries
  unfold ParameterTable.read?
  rw [hreads.document? hmark, Option.bind_some]
  show (textsOf? (textEntries t.entries)).map Table.ofList = some t
  rw [textsOf?_textEntries, Option.map_some, Table.ofList_entries]

/-! ### The tables of users -/

namespace SettingsTable

/-- The tables of users, as headers write them. -/
def userEntries (us : List (String × UserSettings)) : Entries :=
  us.map fun u => (u.1, .table .header (textEntries u.2.entries))

/-- The settings of `userEntries` are read back by `namedSettings?`, user by user. -/
theorem namedSettings?_userEntries (us : List (String × UserSettings)) :
    namedSettings? (userEntries us) = some us := by
  induction us with
  | nil => rfl
  | cons u us ih =>
    obtain ⟨name, settings⟩ := u
    have hsettings : userSettings? (.table .header (textEntries settings.entries)) =
        some settings := by
      show (textsOf? (textEntries settings.entries)).map Table.ofList = some settings
      rw [textsOf?_textEntries, Option.map_some, Table.ofList_entries]
    show namedSettings?
      ((name, .table .header (textEntries settings.entries)) :: userEntries us) = _
    simp only [namedSettings?, hsettings, ih]

/-- The document of users that were written: the table of all of them is implied by their headers.
    -/
def usersRoot (us : List (String × UserSettings)) : Entries :=
  if us = [] then [] else [("users", .table .implied (userEntries us))]

/-- One more user goes behind the others in `usersRoot`. -/
theorem usersRoot_append (us : List (String × UserSettings)) (name : String)
    (settings : UserSettings) : usersRoot (us ++ [(name, settings)]) =
      [("users", .table .implied (userEntries us ++
        [(name, .table .header (textEntries settings.entries))]))] := by
  unfold usersRoot userEntries
  rw [if_neg (by simp), List.map_append]
  rfl

/-- No user has an entry in `userEntries` under a name that nobody has. -/
theorem get?_userEntries {us : List (String × UserSettings)} {name : String}
    (hname : ∀ u ∈ us, u.1 ≠ name) : (userEntries us).get? name = none := by
  refine get?_eq_none fun e he => ?_
  obtain ⟨u, hu, rfl⟩ := List.mem_map.1 he
  exact hname u hu

/-- The header of a user with a new name opens an empty table behind the others. -/
theorem openTable_users {us : List (String × UserSettings)} {name : String}
    (hname : ∀ u ∈ us, u.1 ≠ name) :
    openTable ["users"] name (usersRoot us) =
      some [("users", .table .implied (userEntries us ++ [(name, .table .header [])]))] := by
  have hfresh := get?_userEntries hname
  unfold usersRoot
  by_cases hus : us = []
  · rw [hus]
    rfl
  · rw [if_neg hus]
    have husers : Entries.get? [("users", Value.table .implied (userEntries us))] "users" =
        some (.table .implied (userEntries us)) := rfl
    unfold openTable
    simp only [updateAt, husers, hfresh, set_of_get?_eq_none hfresh]
    rfl

/-- Below the header of the last user the entries read so far are those of that user. -/
theorem opens_user (us : List (String × UserSettings)) {name : String}
    (hname : ∀ u ∈ us, u.1 ≠ name) :
    Opens fun es => ⟨[("users", .table .implied (userEntries us ++ [(name, .table .header es)]))],
      ["users", name]⟩ where
  opened := fun _ _ => rfl
  append := by
    intro es key v hkey
    have hfresh := get?_userEntries hname
    have hlast : (userEntries us ++ [(name, Value.table .header es)] : Entries).get? name =
        some (.table .header es) := by
      rw [get?_append, hfresh]
      exact if_pos rfl
    have husers : ∀ sub, Entries.get? [("users", Value.table .implied sub)] "users" =
        some (.table .implied sub) := fun _ => rfl
    have hput : insertAt [] key v .header es = some (es ++ [(key, v)]) :=
      insertAt_append (by decide) hkey v
    simp only [changeOpened, husers, hlast, hput, Option.map_some, set_append hfresh]
    rfl

/-- What `writeUser` writes is read as one more user behind the others. -/
theorem reads_writeUser {us : List (String × UserSettings)} {name : String}
    (hname : ∀ u ∈ us, u.1 ≠ name) (settings : UserSettings) (opened : List String) :
    Reads ⟨usersRoot us, opened⟩ (writeUser name settings)
      ⟨usersRoot (us ++ [(name, settings)]), ["users", name]⟩ := by
  have hheader : Reads ⟨usersRoot us, opened⟩ (writeHeader "users" name)
      ⟨[("users", .table .implied (userEntries us ++ [(name, .table .header [])]))],
        ["users", name]⟩ := by
    refine Reads.line (List.cons_ne_nil _ _) fun rest => ?_
    rw [line?_writeHeader, openTable_users hname]
    rfl
  have hfresh : ∀ e ∈ settings.entries, Entries.get? [] e.1 = none := fun _ _ => rfl
  have hentries := Reads.entries (opens_user us hname) settings.pairwise_keys hfresh
  rw [usersRoot_append]
  exact hheader.trans hentries

/-- What `writeUsers` writes is read as the `usersRoot` of these users, behind those that were read
    earlier. By induction on the users, with the earlier ones left free. -/
theorem reads_writeUsers (earlier : List (String × UserSettings))
    {us : List (String × UserSettings)}
    (hnames : us.Pairwise fun u w => u.1 ≠ w.1)
    (hfresh : ∀ u ∈ us, ∀ w ∈ earlier, w.1 ≠ u.1) (opened : List String) :
    ∃ opened', Reads ⟨usersRoot earlier, opened⟩ (writeUsers us)
      ⟨usersRoot (earlier ++ us), opened'⟩ := by
  induction us generalizing earlier opened with
  | nil =>
    rw [List.append_nil]
    exact ⟨opened, Reads.refl _⟩
  | cons u us ih =>
    obtain ⟨name, settings⟩ := u
    obtain ⟨hne, hnames⟩ := List.pairwise_cons.1 hnames
    obtain ⟨hname, hfresh⟩ := List.forall_mem_cons.1 hfresh
    -- the first user is read behind the earlier ones, and is one of these for the rest
    have huser := reads_writeUser hname settings opened
    cases us with
    | nil => exact ⟨_, huser⟩
    | cons next us =>
      -- a blank line stands between two users
      have hblank : Reads ⟨usersRoot (earlier ++ [(name, settings)]), ["users", name]⟩ ['\n']
          ⟨usersRoot (earlier ++ [(name, settings)]), ["users", name]⟩ :=
        Reads.line (List.cons_ne_nil _ _) fun rest => line?_lineFeed _ rest
      have hlater : ∀ u ∈ next :: us, ∀ w ∈ earlier ++ [(name, settings)], w.1 ≠ u.1 := by
        intro u hu w hw
        rcases List.mem_append.1 hw with hw | hw
        · exact hfresh u hu w hw
        · rw [List.mem_singleton.1 hw]
          exact hne u hu
      obtain ⟨opened', hrest⟩ := ih _ hnames hlater ["users", name]
      refine ⟨opened', ?_⟩
      rw [List.append_assoc] at hrest
      exact huser.trans (hblank.trans hrest)

/-! ### Users and their names -/

/-- The ids of all users are numbers of 32 bits. -/
def Numbered (t : SettingsTable) : Prop :=
  ∀ user settings, t.get? user = some settings → Text.Numeral.IsInt32 user

/-- The id of a user is read back from its name. -/
theorem readInt32_name {user : UserId} (hu : Text.Numeral.IsInt32 user) :
    Text.Numeral.readInt32 (Text.trim (toString user).toList) = .ok user := by
  rw [Text.trim_of_not_blank fun c hc => Text.Numeral.isBlank_of_mem_toString_int hc]
  exact Text.Numeral.readInt32_toString hu

/-- Different users have different names. -/
theorem name_injective {user other : UserId} (hu : Text.Numeral.IsInt32 user)
    (ho : Text.Numeral.IsInt32 other) (h : toString user = toString other) : user = other := by
  have hread := readInt32_name hu
  rw [h, readInt32_name ho] at hread
  exact (Except.ok.inj hread).symm

variable {t : SettingsTable}

/-- The `named` settings of a table are its entries under the written ids, in whatever order these
    come. -/
theorem mem_named (ht : t.Numbered) {name : String} {settings : UserSettings} :
    (name, settings) ∈ t.named ↔ ∃ user, toString user = name ∧ t.get? user = some settings := by
  have hmem : ∀ name settings, (name, settings) ∈ (t.entries.map
      fun p => (toString p.1, p.2)) ↔
        ∃ user, toString user = name ∧ t.get? user = some settings := by
    intro name settings
    rw [List.mem_map]
    constructor
    · rintro ⟨⟨user, settings'⟩, hentry, heq⟩
      obtain ⟨rfl, rfl⟩ := Prod.mk.inj heq
      exact ⟨user, rfl, t.get?_eq_some_iff.2 hentry⟩
    · rintro ⟨user, rfl, hget⟩
      exact ⟨(user, settings), t.get?_eq_some_iff.1 hget, rfl⟩
  unfold named
  rw [← Table.get?_eq_some_iff, Table.get?_ofList, hmem]
  -- two users of one name are the same
  intro name settings settings' h h'
  obtain ⟨user, rfl, hget⟩ := (hmem _ _).1 h
  obtain ⟨user', heq, hget'⟩ := (hmem _ _).1 h'
  rw [name_injective (ht _ _ hget') (ht _ _ hget) heq, hget] at hget'
  exact Option.some.inj hget'

/-- A `Reading` takes the settings under a user's name as those of the user, and ignores nothing. -/
theorem take_name {user : UserId} (hu : Text.Numeral.IsInt32 user) (r : Reading)
    (settings : UserSettings) :
    r.take (toString user) settings = { r with table := r.table.insert user settings } := by
  unfold Reading.take
  rw [readInt32_name hu]

/-- Names of a table's users taken one after the other, into a part of the table: what is added is
    what they stand for. -/
theorem foldl_take (ht : t.Numbered) {us : List (String × UserSettings)}
    (hus : ∀ u ∈ us, ∃ user, toString user = u.1 ∧ t.get? user = some u.2) {r : Reading}
    (hr : ∀ user settings, r.table.get? user = some settings → t.get? user = some settings) :
    (us.foldl (fun r u => r.take u.1 u.2) r).ignored = r.ignored ∧
    ∀ user settings,
      (us.foldl (fun r u => r.take u.1 u.2) r).table.get? user = some settings ↔
        r.table.get? user = some settings ∨
          t.get? user = some settings ∧ (toString user, settings) ∈ us := by
  -- the induction is on the entries that are left; what was taken so far is part of the table
  -- already
  induction us generalizing r with
  | nil =>
    refine ⟨rfl, fun user settings => ⟨.inl, ?_⟩⟩
    rintro (h | ⟨-, h⟩)
    · exact h
    · cases h
  | cons u us ih =>
    obtain ⟨name, w⟩ := u
    obtain ⟨⟨a, rfl, ha⟩, hrest⟩ := List.forall_mem_cons.1 hus
    change t.get? a = some w at ha
    have hr' : ∀ user settings, (r.table.insert a w).get? user = some settings →
        t.get? user = some settings :=
      Table.forall_insert (P := fun user settings => t.get? user = some settings) ha hr
    obtain ⟨hignored, hget⟩ := ih hrest (r := { r with table := r.table.insert a w }) hr'
    rw [List.foldl_cons, take_name (ht a w ha)]
    refine ⟨hignored, fun user settings => ?_⟩
    rw [hget, Table.get?_insert, List.mem_cons, Prod.mk.injEq]
    by_cases hu : user = a
    · -- whatever is there under this user, it is the same
      rw [if_pos hu, hu, ha]
      constructor
      · rintro (h | ⟨h, hmem⟩)
        · exact .inr ⟨h, .inl ⟨rfl, (Option.some.inj h).symm⟩⟩
        · exact .inr ⟨h, .inr hmem⟩
      · rintro (h | ⟨h, -⟩)
        · exact .inl (ha.symm.trans (hr a settings h))
        · exact .inl h
    · rw [if_neg hu]
      constructor
      · rintro (h | ⟨h, hmem⟩)
        · exact .inl h
        · exact .inr ⟨h, .inr hmem⟩
      · rintro (h | ⟨h, ⟨hname, -⟩ | hmem⟩)
        · exact .inl h
        · exact absurd (name_injective (ht _ _ h) (ht _ _ ha) hname) hu
        · exact .inr ⟨h, hmem⟩

/-- The settings under the written ids of their users are taken as theirs. -/
theorem ofNamed_named (ht : t.Numbered) : ofNamed t.named = ⟨t, []⟩ := by
  -- the entries that were written are in order already
  have hentries : (Table.ofList t.named).entries = t.named := by
    show (Table.ofList (Table.ofList (t.entries.map _)).entries).entries = t.named
    rw [Table.ofList_entries]
    rfl
  have hus : ∀ u ∈ t.named, ∃ user, toString user = u.1 ∧ t.get? user = some u.2 := fun u hu =>
    (mem_named ht).1 hu
  obtain ⟨hignored, hget⟩ := foldl_take ht hus (r := {}) fun _ _ h => by cases h
  -- what is taken is the table, looked up user by user
  have htable : (t.named.foldl (fun r u => r.take u.1 u.2) ({} : Reading)).table = t := by
    apply Table.ext_get
    intro user
    apply Option.ext
    intro settings
    rw [hget]
    constructor
    · rintro (h | ⟨h, -⟩)
      · cases h
      · exact h
    · intro h
      exact .inr ⟨h, (mem_named ht).2 ⟨user, rfl, h⟩⟩
  unfold ofNamed
  rw [hentries]
  generalize t.named.foldl (fun r u => r.take u.1 u.2) ({} : Reading) = r at hignored htable
  obtain ⟨table, ignored⟩ := r
  obtain rfl : ignored = [] := hignored
  obtain rfl : table = t := htable
  rfl

/-- A table stays `Numbered` when a user with an id of 32 bits gets settings. -/
theorem Numbered.insert (ht : t.Numbered) {user : UserId} (hu : Text.Numeral.IsInt32 user)
    (settings : UserSettings) : Numbered (t.insert user settings) :=
  Table.forall_insert (P := fun user _ => Text.Numeral.IsInt32 user) hu ht

/-- A table stays `Numbered` when a value is put for a user with an id of 32 bits. -/
theorem Numbered.put (ht : t.Numbered) {user : UserId} (hu : Text.Numeral.IsInt32 user)
    (key value : String) : (t.put key value user).Numbered := ht.insert hu _

/-- Whatever is read, the ids of its users are numbers of 32 bits. -/
theorem numbered_of_read? {text : String} {r : Reading} (hr : read? text = some r) :
    r.table.Numbered := by
  -- a name that is no number of 32 bits is ignored
  have htake : ∀ (us : List (String × UserSettings)) (r : Reading), r.table.Numbered →
      (us.foldl (fun r u => r.take u.1 u.2) r).table.Numbered := by
    intro us
    induction us with
    | nil => exact fun _ h => h
    | cons u us ih =>
      intro r hr
      refine ih _ ?_
      show (r.take u.1 u.2).table.Numbered
      unfold Reading.take
      cases hread : Text.Numeral.readInt32 (Text.trim u.1.toList) with
      | error _ => exact hr
      | ok user => exact hr.insert (Text.Numeral.isInt32_of_readInt32 hread) _
  have hempty : ({} : Reading).table.Numbered := fun _ _ h => by cases h
  unfold read? at hr
  split at hr
  · cases hr
  · split at hr
    · rw [← Option.some.inj hr]
      exact hempty
    · obtain ⟨us, -, rfl⟩ := Option.map_eq_some_iff.1 hr
      exact htake _ _ hempty
    · cases hr

/-- `read?` reads back the settings that `write` wrote, and ignores nothing: the ids of users were
    numbers of 32 bits. -/
theorem read?_write (ht : t.Numbered) : read? t.write = some ⟨t, []⟩ := by
  by_cases hempty : t.isEmpty = true
  · -- nothing is written of a table without users
    have hnone : t = {} := by
      apply Table.ext_get
      intro user
      cases hget : t.get? user with
      | none => rfl
      | some settings =>
        have hmem := t.get?_eq_some_iff.1 hget
        rw [List.isEmpty_iff.1 hempty] at hmem
        cases hmem
    rw [hnone]
    rfl
  · have hnames : t.named.Pairwise fun u w => u.1 ≠ w.1 := Table.pairwise_keys _
    have hwrite : t.write.toList = writeUsers t.named := by
      unfold write
      rw [if_neg hempty, String.toList_ofList]
    have hne : t.named ≠ [] := by
      intro hnil
      cases hentries : t.entries with
      | nil => exact hempty (List.isEmpty_iff.2 hentries)
      | cons e es =>
        have hmem : (toString e.1, e.2) ∈ t.named := (mem_named ht).2
          ⟨e.1, rfl, t.get?_eq_some_iff.2 (by rw [hentries]; exact List.mem_cons_self)⟩
        rw [hnil] at hmem
        cases hmem
    obtain ⟨opened, hreads⟩ := reads_writeUsers [] hnames
      (fun _ _ _ h => by cases h) []
    rw [List.nil_append, ← hwrite] at hreads
    -- the text begins with a bracket
    have hmark : t.write.toList.head? ≠ some '\uFEFF' := by
      rw [hwrite]
      obtain ⟨u, us, hus⟩ := List.exists_cons_of_ne_nil hne
      rw [hus]
      cases us with
      | nil => exact head?_ne (by decide)
      | cons w us => exact head?_ne (by decide)
    have husers : (usersRoot t.named).get? "users" =
        some (.table .implied (userEntries t.named)) := by
      unfold usersRoot
      rw [if_neg hne]
      rfl
    unfold read?
    rw [hreads.document? hmark]
    simp only [husers, namedSettings?_userEntries, Option.map_some, ofNamed_named ht]

end SettingsTable

end Twilight
