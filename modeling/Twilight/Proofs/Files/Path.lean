import Mathlib.Data.List.Basic
import Twilight.Proofs.Files.Replace

namespace Twilight

/-!
# What paths mean

* `Path.pieces_append`, `Path.pieces_injective` — the pieces of a path in parts; they are all of the
  path.
* `Path.lead`, `Path.components_eq` — the components of a path are those of its pieces behind a
  lead.
* `Path.under`, `Path.components_join` — what a path means that is taken relative to another one.
* `Path.Plain`, `Path.components_of_plain`, `Path.eq_of_components_eq` — a path that is written
  without anything that does not count, and means its pieces as they are.
* `FileSystem.place?_eq`, `FileSystem.lookup?_of_replace_same` — where a path leads is up to its
  components, so that paths that mean the same lead to one file.
-/

namespace Path

variable {a b base path : String} {ps : List String}

/-! ### Pieces -/

/-- `splitAt` is the library's `List.splitOn`. -/
theorem splitAt_eq_splitOn (sep : Char) (cs : List Char) : splitAt sep cs = cs.splitOn sep := by
  induction cs with
  | nil => exact (List.splitOn_nil sep).symm
  | cons c cs ih =>
    rw [List.splitOn_cons_eq_if_modifyHead, ← ih, splitAt]
    by_cases hc : c = sep
    · rw [if_pos hc, if_pos (beq_iff_eq.2 hc)]
    · rw [if_neg hc, if_neg (fun h => hc (beq_iff_eq.1 h))]
      cases hs : splitAt sep cs with
      | nil => exact absurd (ih.symm.trans hs) (List.splitOn_ne_nil sep cs)
      | cons part parts => rfl

/-- The `pieces` of a path are what stands between its slashes. -/
theorem pieces_eq (path : String) : pieces path = (path.toList.splitOn '/').map String.ofList := by
  unfold pieces
  rw [splitAt_eq_splitOn]

/-- Joining two texts with a slash joins their `pieces`. -/
theorem pieces_append (a b : String) : pieces (a ++ "/" ++ b) = pieces a ++ pieces b := by
  have hslash : (a ++ "/" ++ b).toList = a.toList ++ '/' :: b.toList := by
    simp
  rw [pieces_eq, hslash, List.splitOn_append_cons_self, List.map_append, ← pieces_eq, ← pieces_eq]

/-- Every path has a piece, if only an empty one. -/
theorem pieces_ne_nil (path : String) : pieces path ≠ [] := by
  rw [pieces_eq]
  exact fun h => List.splitOn_ne_nil '/' path.toList (List.map_eq_nil_iff.1 h)

/-- A path is known by its `pieces`. -/
theorem pieces_injective (h : pieces a = pieces b) : a = b := by
  rw [pieces_eq, pieces_eq] at h
  have hsplit := List.map_injective_iff.2 (fun _ _ => String.ofList_injective) h
  have hjoined : ∀ cs : List Char, ['/'].intercalate (cs.splitOn '/') = cs :=
    fun _ => List.intercalate_splitOn '/'
  apply String.toList_injective
  rw [← hjoined a.toList, hsplit, hjoined]

/-- A path `isAbsolute` exactly if it is a slash and the rest. -/
theorem isAbsolute_iff : isAbsolute path = true ↔ ∃ rest, path = "/" ++ rest := by
  unfold isAbsolute
  rw [beq_iff_eq, List.head?_eq_some_iff]
  constructor
  · rintro ⟨cs, hcs⟩
    refine ⟨String.ofList cs, String.toList_injective ?_⟩
    rw [hcs, String.toList_append, String.toList_ofList]
    simp
  · rintro ⟨rest, rfl⟩
    exact ⟨rest.toList, by rw [String.toList_append]; rfl⟩

/-- The first of the `pieces` of an absolute path is empty. -/
theorem pieces_of_absolute (rest : String) : pieces ("/" ++ rest) = "" :: pieces rest :=
  pieces_append "" rest

/-- The first of the `pieces` of a relative path is not empty. -/
theorem pieces_of_relative (hr : ¬ isAbsolute path = true) (hne : path ≠ "") :
    ∃ first rest, pieces path = first :: rest ∧ first ≠ "" := by
  cases hcs : path.toList with
  | nil => exact absurd (String.toList_eq_nil_iff.1 hcs) hne
  | cons c cs =>
    have hc : ¬ c = '/' := by
      rintro rfl
      exact hr (by simp [isAbsolute, hcs])
    rw [pieces, hcs, splitAt, if_neg hc]
    cases splitAt '/' cs with
    | nil => exact ⟨_, _, rfl, by simp⟩
    | cons part parts => exact ⟨_, _, rfl, by simp⟩

/-! ### Components -/

/-- Where a path starts, so far as it says so. -/
def lead (path : String) : List Component :=
  if isAbsolute path then [.root] else if (pieces path).head? = some "." then [.here] else []

/-- An absolute path leads off from the root. -/
theorem lead_of_absolute (ha : isAbsolute path = true) : lead path = [.root] := if_pos ha

/-- A relative path that does not begin with a dot says nothing of where it starts. -/
theorem lead_of_relative (hr : ¬ isAbsolute path = true) (hdot : (pieces path).head? ≠ some ".") :
    lead path = [] := by
  unfold lead
  rw [if_neg hr, if_neg hdot]

/-- What pieces mean behind the first one does not depend on those before them. -/
theorem innerComponents_append (ps qs : List String) :
    innerComponents (ps ++ qs) = innerComponents ps ++ innerComponents qs :=
  List.filterMap_append

/-- The `lead` of a path is that of its part before a slash, and the root if nothing stands there.
    -/
theorem lead_append (a b : String) : lead (a ++ "/" ++ b) = if a = "" then [.root] else lead a := by
  have habsolute : isAbsolute (a ++ "/" ++ b) = (a.isEmpty || isAbsolute a) := by
    unfold isAbsolute
    by_cases ha : a = ""
    · subst ha
      simp
    · obtain ⟨c, cs, hcs⟩ := List.exists_cons_of_ne_nil fun h => ha (String.toList_eq_nil_iff.1 h)
      simp [hcs, ha]
  -- the first piece is that of the part before the slash
  have hhead : (pieces (a ++ "/" ++ b)).head? = (pieces a).head? := by
    rw [pieces_append]
    cases hp : pieces a with
    | nil => exact absurd hp (pieces_ne_nil a)
    | cons first rest => rfl
  unfold lead
  rw [habsolute, hhead]
  by_cases ha : a = ""
  · subst ha
    rfl
  · have hnot : a.isEmpty = false := by simpa using ha
    rw [hnot, if_neg ha, Bool.false_or]

/-- A path means its lead, and then its pieces but for those that do not count. -/
theorem components_eq (path : String) :
    components path = lead path ++ innerComponents (pieces path) := by
  by_cases ha : isAbsolute path = true
  · rw [lead_of_absolute ha]
    obtain ⟨rest, rfl⟩ := isAbsolute_iff.1 ha
    have hne : ("/" ++ rest).isEmpty = false := by simp
    unfold components
    rw [pieces_of_absolute]
    simp only [hne]
    rfl
  · by_cases hempty : path = ""
    · subst hempty
      decide
    · obtain ⟨first, rest, hpieces, hfirst⟩ := pieces_of_relative ha hempty
      unfold components lead
      rw [if_neg ha, hpieces]
      by_cases hdot : first = "."
      · subst hdot
        rfl
      · simp only [List.head?_cons, Option.some.injEq, if_neg hdot, List.nil_append]

/-- What comes after a slash goes on from where the part before it leads. -/
theorem components_append (a b : String) : components (a ++ "/" ++ b) =
    (if a = "" then [.root] else components a) ++ innerComponents (pieces b) := by
  rw [components_eq, pieces_append, innerComponents_append, lead_append]
  by_cases ha : a = ""
  · subst ha
    rfl
  · rw [if_neg ha, if_neg ha, components_eq a, List.append_assoc]

/-- Only the empty path has no `components`. -/
theorem components_eq_nil : components path = [] ↔ path = "" := by
  constructor
  · intro h
    by_contra hne
    rw [components_eq, List.append_eq_nil_iff] at h
    obtain ⟨hlead, hinner⟩ := h
    -- the lead of an absolute path is the root; a relative one has a first piece
    by_cases ha : isAbsolute path = true
    · rw [lead_of_absolute ha] at hlead
      cases hlead
    · obtain ⟨first, rest, hpieces, hfirst⟩ := pieces_of_relative ha hne
      rw [lead, if_neg ha, hpieces] at hlead
      rw [hpieces] at hinner
      by_cases hdot : first = "."
      · simp [hdot] at hlead
      · by_cases hup : first = ".." <;> simp [innerComponents, hfirst, hdot, hup] at hinner
  · rintro rfl
    decide

/-! ### Paths taken relative to others -/

/-- What a path means that is taken relative to one with the components `base`. A dot at its front
    does not count then. -/
def under (base : List Component) (path : String) : List Component :=
  if isAbsolute path = true ∨ base = [] then components path
  else base ++ innerComponents (pieces path)

/-- The `components` of a joined path are those of the second one `under` those of the first. -/
theorem components_join (base path : String) :
    components (join base path) = under (components base) path := by
  unfold under join
  by_cases ha : isAbsolute path = true
  · rw [if_pos ha, if_pos (.inl ha)]
  · by_cases hb : base = ""
    · -- joined to nothing, the path stands for itself
      have hnil : isAbsolute path = true ∨ components base = [] := .inr (components_eq_nil.2 hb)
      subst hb
      rw [if_pos hnil, if_neg ha, if_pos (by decide), String.empty_append]
    · have hempty : base.isEmpty = false := by simpa using hb
      have hnot : ¬ (isAbsolute path = true ∨ components base = []) := by
        rw [components_eq_nil]
        simp [ha, hb]
      rw [if_neg ha, if_neg hnot, hempty, Bool.false_or]
      by_cases hslash : (base.toList.getLast? == some '/') = true
      · -- the slash at the end has an empty piece behind it, which does not count
        obtain ⟨cs, hcs⟩ := List.getLast?_eq_some_iff.1 (beq_iff_eq.1 hslash)
        have hbase : base = String.ofList cs ++ "/" ++ "" := by
          apply String.toList_injective
          simp [hcs]
        have hpath : base ++ path = String.ofList cs ++ "/" ++ path := by
          rw [hbase, String.append_empty]
        have hnothing : innerComponents (pieces "") = [] := by decide
        rw [if_pos hslash, hpath, hbase, components_append, components_append, hnothing,
          List.append_nil]
      · rw [if_neg hslash, components_append, if_neg hb]

/-- `join` of anything to a base does not give the empty path. -/
theorem join_ne_empty (hp : path ≠ "") (base : String) : join base path ≠ "" := by
  unfold join
  split_ifs
  · exact hp
  · simp [hp]
  · simp [hp]

/-- The `components` of a name that is joined to a base are those of the base, and the name behind
    them. -/
theorem components_join_name {name : String} (hb : base ≠ "")
    (hn : components name = [.name name]) :
    components (join base name) = components base ++ [.name name] := by
  have hlead : lead name = [] ∧ innerComponents (pieces name) = [.name name] := by
    rw [components_eq] at hn
    unfold lead at hn ⊢
    split_ifs at hn ⊢ with ha hdot
    · cases hn
    · cases hn
    · exact ⟨rfl, hn⟩
  have hrelative : ¬ isAbsolute name = true := by
    intro ha
    rw [lead_of_absolute ha] at hlead
    cases hlead.1
  have hnot : ¬ (isAbsolute name = true ∨ components base = []) := by
    rw [components_eq_nil]
    simp [hrelative, hb]
  rw [components_join, under, if_neg hnot, hlead.2]

/-! ### Paths in plain -/

/-- What a piece means where it counts. -/
def word (piece : String) : Component :=
  if piece = "" then .root else if piece = "." then .here
  else if piece = ".." then .up else .name piece

/-- The piece that a component is written as. -/
def Component.piece : Component → String
  | .root => ""
  | .here => "."
  | .up => ".."
  | .name text => text

/-- A piece can be read off from what it means as a `word`. -/
theorem piece_word (piece : String) : (word piece).piece = piece := by
  unfold word
  split_ifs with hroot hhere hup
  · exact hroot.symm
  · exact hhere.symm
  · exact hup.symm
  · rfl

/-- Different pieces mean different things where they count. -/
theorem word_injective : Function.Injective word := Function.LeftInverse.injective piece_word

/-- Every piece behind the first one counts. -/
structure Plain (path : String) : Prop where
  ne_empty : path ≠ ""
  counts : ∀ piece ∈ (pieces path).tail, piece ≠ "" ∧ piece ≠ "."

/-- Where every piece counts, the `innerComponents` are the pieces, word for word. -/
theorem innerComponents_of_counts (h : ∀ piece ∈ ps, piece ≠ "" ∧ piece ≠ ".") :
    innerComponents ps = ps.map word := by
  unfold innerComponents
  rw [← List.filterMap_eq_map]
  refine List.filterMap_congr fun piece hp => ?_
  obtain ⟨hempty, hdot⟩ := h piece hp
  simp only [word, hempty, hdot, decide_false, Bool.false_or, Bool.false_eq_true, if_false,
    Function.comp_apply]
  split <;> rfl

/-- The `components` of a `Plain` path are its pieces, word for word. -/
theorem components_of_plain (h : Plain path) : components path = (pieces path).map word := by
  obtain ⟨hempty, hcounts⟩ := h
  by_cases ha : isAbsolute path = true
  · -- behind the root every piece counts
    obtain ⟨rest, rfl⟩ := isAbsolute_iff.1 ha
    rw [pieces_of_absolute] at hcounts
    have hinner : innerComponents (pieces rest) = (pieces rest).map word :=
      innerComponents_of_counts hcounts
    rw [components_eq, lead_of_absolute ha, pieces_of_absolute]
    show .root :: innerComponents (pieces rest) = _
    rw [hinner]
    rfl
  · obtain ⟨first, rest, hpieces, hfirst⟩ := pieces_of_relative ha hempty
    rw [hpieces] at hcounts
    have hinner : innerComponents rest = rest.map word := innerComponents_of_counts hcounts
    -- a dot at the front is where the path starts, and any other first piece counts
    by_cases hdot : first = "."
    · subst hdot
      rw [components_eq, hpieces, lead, if_neg ha, hpieces]
      show .here :: innerComponents rest = _
      rw [hinner]
      rfl
    · have hlead : lead path = [] := lead_of_relative ha (by simp [hpieces, hdot])
      rw [components_eq, hpieces, hlead, List.nil_append]
      refine innerComponents_of_counts fun piece hp => ?_
      rcases List.mem_cons.1 hp with rfl | hp
      · exact ⟨hfirst, hdot⟩
      · exact hcounts piece hp

/-- `Plain` paths with the same `components` are the same text. -/
theorem eq_of_components_eq (ha : Plain a) (hb : Plain b) (h : components a = components b) :
    a = b := by
  rw [components_of_plain ha, components_of_plain hb] at h
  exact pieces_injective (List.map_injective_iff.2 word_injective h)

/-- Where every piece counts, all of them go behind the path that they are taken relative to. -/
theorem under_of_counts (h : ∀ piece ∈ pieces path, piece ≠ "" ∧ piece ≠ ".")
    (base : List Component) :
    under base path = base ++ (pieces path).map word := by
  have hrelative : ¬ isAbsolute path = true := by
    intro ha
    obtain ⟨rest, rfl⟩ := isAbsolute_iff.1 ha
    rw [pieces_of_absolute] at h
    exact (h "" List.mem_cons_self).1 rfl
  have hlead : lead path = [] :=
    lead_of_relative hrelative fun hdot => (h "." (List.mem_of_head? hdot)).2 rfl
  unfold under
  rw [components_eq, hlead, List.nil_append, innerComponents_of_counts h]
  split_ifs with hbase
  · rw [hbase.resolve_left hrelative, List.nil_append]
  · rfl

end Path

namespace FileSystem

open Twilight.Path

variable {fs fs₁ : FileSystem} {a b path text : String} {place : Place}

/-! ### Places -/

/-- The place that a component leads to. -/
def onward (place : Place) : Component → Place
  | .root => []
  | .here => place
  | .up => place.dropLast
  | .name text => place ++ [text]

/-- Following the pieces of a path ends at the place that their components lead to, one after
    another. -/
theorem follow_eq {ps : List String} {target : Place} (h : fs.follow place ps = some target) :
    target = (innerComponents ps).foldl onward place := by
  induction ps generalizing place with
  | nil => exact (Option.some.inj h).symm
  | cons piece rest ih =>
    unfold follow at h
    split at h
    · rw [ih h]
      unfold step innerComponents
      by_cases hempty : piece = "" ∨ piece = "."
      · rcases hempty with rfl | rfl <;> rfl
      · obtain ⟨hne, hdot⟩ := not_or.1 hempty
        by_cases hup : piece = ".."
        · subst hup
          rfl
        · simp [hne, hdot, hup, onward]
    · cases h

/-- The `place?` of a path, if it has one, depends on its `components` alone: it is where these lead
    from `here`, one after the other. -/
theorem place?_eq (h : fs.place? path = some place) :
    place = (components path).foldl onward fs.here := by
  unfold place? at h
  split at h
  · rw [follow_eq h, components_eq, List.foldl_append]
    unfold origin lead
    split_ifs
    · rfl
    · rfl
    · rfl
  · cases h

/-- Of two paths that mean the same, one reads as the other one was written. -/
theorem lookup?_of_replace_same (hc : components a = components b)
    (hr : fs.replace a text = (.ok (), fs₁)) (hb : fs₁.place? b = some place) :
    ∃ id, fs₁.lookup? b = some (.file id (.text text)) := by
  obtain ⟨id, hlookup⟩ := lookup?_of_replace hr
  obtain ⟨target, htarget, hnode⟩ := Option.bind_eq_some_iff.1 hlookup
  have hsame : place = target := by
    rw [place?_eq hb, place?_eq htarget, hc]
  refine ⟨id, ?_⟩
  unfold lookup?
  rw [hb, hsame]
  exact hnode

end FileSystem

end Twilight
