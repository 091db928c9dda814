import Mathlib.Data.List.TakeWhile
import Twilight.Text.Blank
import Twilight.Text.Lines

namespace Twilight.Text

/-!
# White space and lines of given texts

* `trim_of_not_blank` — a text without white space stays.
* `trimStart_cons`, `trimEnd_append`, `trimEnd_snoc` — what is trimmed of a text in parts.
* `getLast?_trimEnd`, `trimEnd_eq_self_iff` — the end of a trimmed text, and the texts that keep
  theirs.
* `lines_append`, `lines_single`, `length_lines` — a first line, a last one, and how many there are.
-/

variable {c : Char} {cs ds : List Char}

/-! ### White space around a text -/

/-- `trimStart` stops at the first character that is not blank. -/
theorem trimStart_cons (hc : isBlank c = false) (cs : List Char) :
    trimStart (c :: cs) = c :: cs := by
  unfold trimStart
  exact List.dropWhile_cons_of_neg (by rw [hc]; decide)

/-- `trimEnd` drops a blank character at the end. -/
theorem trimEnd_snoc (hc : isBlank c = true) (cs : List Char) :
    trimEnd (cs ++ [c]) = trimEnd cs := by
  unfold trimEnd
  rw [List.reverse_append]
  show ((c :: cs.reverse).dropWhile isBlank).reverse = _
  rw [List.dropWhile_cons_of_pos hc]

/-- White space at the end is that of the last part, if that is not all white space. -/
theorem trimEnd_append (hds : trimEnd ds ≠ []) (cs : List Char) :
    trimEnd (cs ++ ds) = cs ++ trimEnd ds := by
  unfold trimEnd at hds ⊢
  have hne : (ds.reverse.dropWhile isBlank).isEmpty = false := by
    cases hdrop : ds.reverse.dropWhile isBlank with
    | nil => exact absurd (by rw [hdrop]; rfl) hds
    | cons d rest => rfl
  rw [List.reverse_append, List.dropWhile_append, if_neg (by rw [hne]; decide),
    List.reverse_append, List.reverse_reverse]

/-- `trimEnd` leaves something of a text that is not blank all through. -/
theorem trimEnd_ne_nil (hc : c ∈ cs) (hblank : isBlank c = false) : trimEnd cs ≠ [] := by
  intro hnil
  have hdrop : cs.reverse.dropWhile isBlank = [] := List.reverse_eq_nil_iff.1 hnil
  have hall := List.dropWhile_eq_nil_iff.1 hdrop c (List.mem_reverse.2 hc)
  rw [hblank] at hall
  cases hall

/-- `trimEnd` adds no character. -/
theorem mem_of_mem_trimEnd (hc : c ∈ trimEnd cs) : c ∈ cs := by
  unfold trimEnd at hc
  exact List.mem_reverse.1 ((List.dropWhile_sublist isBlank).subset (List.mem_reverse.1 hc))

/-- `trimStart` changes nothing in a text without blanks. -/
theorem trimStart_of_not_blank (hcs : ∀ c ∈ cs, isBlank c = false) : trimStart cs = cs := by
  cases cs with
  | nil => rfl
  | cons c rest => exact trimStart_cons (hcs c List.mem_cons_self) rest

/-- `trim` changes nothing in a text without blanks. -/
theorem trim_of_not_blank (hcs : ∀ c ∈ cs, isBlank c = false) : trim cs = cs := by
  have hreverse : ∀ c ∈ cs.reverse, isBlank c = false := by
    intro c hc
    exact hcs c (List.mem_reverse.1 hc)
  unfold trim
  rw [trimStart_of_not_blank hcs]
  show (trimStart cs.reverse).reverse = cs
  rw [trimStart_of_not_blank hreverse, List.reverse_reverse]

/-- What `trimEnd` leaves does not end in a blank. -/
theorem getLast?_trimEnd (cs : List Char) : ∀ c ∈ (trimEnd cs).getLast?, isBlank c = false := by
  intro c hc
  unfold trimEnd at hc
  rw [List.getLast?_reverse] at hc
  have hhead := List.head?_dropWhile_not isBlank cs.reverse
  rw [hc] at hhead
  simpa using hhead

/-- `trimEnd` changes nothing exactly if the text does not end in a blank. -/
theorem trimEnd_eq_self_iff : trimEnd cs = cs ↔ ∀ c ∈ cs.getLast?, isBlank c = false := by
  constructor
  · intro h
    rw [← h]
    exact getLast?_trimEnd cs
  · intro h
    rcases List.eq_nil_or_concat cs with rfl | ⟨ds, c, rfl⟩
    · rfl
    · rw [List.concat_eq_append] at h ⊢
      have hblank : isBlank c = false := h c (by simp)
      have hc : trimEnd [c] = [c] := congrArg List.reverse (trimStart_cons hblank [])
      rw [trimEnd_append (by rw [hc]; exact List.cons_ne_nil c []), hc]

/-! ### Lines -/

/-- A text that does not end in a line feed has one line more than line feeds. -/
theorem length_lines (hne : cs ≠ []) (hlast : ∀ c ∈ cs.getLast?, c ≠ '\n') :
    (lines cs).length = cs.count '\n' + 1 := by
  fun_induction lines cs with
  | case1 => exact absurd rfl hne
  | case2 cs ih =>
    have hcs : cs ≠ [] := by
      rintro rfl
      exact hlast '\n' rfl rfl
    have hrest := ih hcs (by rwa [List.getLast?_cons_of_ne_nil hcs] at hlast)
    rw [List.length_cons, List.count_cons_self, hrest]
  | case3 cs ih =>
    -- the line feed behind a carriage return ends the same line
    have hcs : cs ≠ [] := by
      rintro rfl
      exact hlast '\n' rfl rfl
    have hrest := ih hcs (by
      rwa [List.getLast?_cons_cons, List.getLast?_cons_of_ne_nil hcs] at hlast)
    rw [List.length_cons, List.count_cons_of_ne (by decide), List.count_cons_self, hrest]
  | case4 c cs hfeed hreturn hnone ih =>
    -- no line follows the character, so it is the last one
    have hcs : cs = [] := by
      by_contra hcs
      have hrest := ih hcs (by rwa [List.getLast?_cons_of_ne_nil hcs] at hlast)
      rw [hnone] at hrest
      cases hrest
    subst hcs
    rw [List.count_cons_of_ne (hlast c rfl)]
    rfl
  | case5 c cs hfeed hreturn l ls hsome ih =>
    have hcs : cs ≠ [] := by
      rintro rfl
      cases hsome
    have hrest := ih hcs (by rwa [List.getLast?_cons_of_ne_nil hcs] at hlast)
    rw [hsome] at hrest
    rw [List.count_cons_of_ne hfeed]
    exact hrest

/-- The `lines` of a text without line feeds are the text itself. -/
theorem lines_single (hne : cs ≠ []) (hcs : '\n' ∉ cs) : lines cs = [cs] := by
  induction cs with
  | nil => exact absurd rfl hne
  | cons c rest ih =>
    rw [List.mem_cons, not_or] at hcs
    obtain ⟨hc, hrest⟩ := hcs
    unfold lines
    split
    · rename_i heq
      cases heq
    · rename_i heq
      exact absurd (List.cons.inj heq).1.symm hc
    · rename_i heq
      rw [(List.cons.inj heq).2] at hrest
      -- a carriage return ends a line only in front of a line feed
      exact absurd List.mem_cons_self hrest
    · rename_i heq
      obtain ⟨rfl, rfl⟩ := List.cons.inj heq
      cases rest with
      | nil => rfl
      | cons d rest => rw [ih (List.cons_ne_nil d rest) hrest]

/-- The first of the `lines` of a text ends at the first line feed. -/
theorem lines_append (hfeed : '\n' ∉ cs) (hreturn : '\r' ∉ cs) (ds : List Char) :
    lines (cs ++ '\n' :: ds) = cs :: lines ds := by
  induction cs with
  | nil => rfl
  | cons c rest ih =>
    rw [List.mem_cons, not_or] at hfeed hreturn
    obtain ⟨hc, hfeed⟩ := hfeed
    obtain ⟨hc', hreturn⟩ := hreturn
    show lines (c :: (rest ++ '\n' :: ds)) = _
    rw [lines.eq_def (c :: (rest ++ '\n' :: ds))]
    -- of the equations of `lines` only the last fits a character that ends no line
    split
    · rename_i heq
      cases heq
    · rename_i heq
      exact absurd (List.cons.inj heq).1.symm hc
    · rename_i heq
      exact absurd (List.cons.inj heq).1.symm hc'
    · rename_i heq
      obtain ⟨rfl, rfl⟩ := List.cons.inj heq
      simp only [ih hfeed hreturn]

end Twilight.Text
