import Twilight.Log.Line

namespace Twilight.Log

/-!
# Texts and their color codes

* `Piece`, `textOf` — what texts are made of: characters, color codes from their escape character to
  the next `m`, and escape characters on their own.
* `Separate` — no escape character on its own stands where it would begin a color code.
* `stripColors_textOf_append`, `stripColors_textOf` — of such a text exactly the color codes are
  dropped, and what follows it is stripped as if it stood alone.
* `exists_pieces` — every text is such a text, but for a color code at its end that is not complete.
* `DropsCodes`, `dropsCodes_stripColors` — color codes are dropped, and nothing else.
-/

/-! ### Pieces -/

/-- A piece of a text. -/
inductive Piece where
  | plain (c : Char) (ne_escape : c ≠ '\x1b')
  | code (body : List Char) (no_end : 'm' ∉ body)
  /-- An escape character that begins no color code. -/
  | escape

namespace Piece

def text : Piece → List Char
  | .plain c _ => [c]
  | .code body _ => '\x1b' :: '[' :: (body ++ ['m'])
  | .escape => ['\x1b']

def isCode : Piece → Bool
  | .code _ _ => true
  | _ => false

end Piece

/-- The text that pieces make up. -/
def textOf (pieces : List Piece) : List Char := pieces.flatMap Piece.text

/-- All pieces but the color codes. -/
def withoutCodes (pieces : List Piece) : List Piece := pieces.filter fun p => !p.isCode

/-- No escape character on its own stands in front of a bracket, as the two would begin a color
    code. In front of another escape character it may stand. -/
def Separate : List Piece → Prop
  | [] => True
  | .escape :: ps => (textOf ps).head? ≠ some '[' ∧ Separate ps
  | _ :: ps => Separate ps

/-- Nothing, or a color code without its end. -/
inductive Unfinished : List Char → Prop
  | nothing : Unfinished []
  | code {body : List Char} : 'm' ∉ body → Unfinished ('\x1b' :: '[' :: body)

variable {c : Char} {cs body : List Char} {ps : List Piece}

/-- The text of pieces begins with that of the first one. -/
@[simp] theorem textOf_cons (p : Piece) (ps : List Piece) :
    textOf (p :: ps) = p.text ++ textOf ps := rfl

/-- Where a piece stands, the text begins with the piece. -/
theorem head?_textOf_append (p : Piece) (ps : List Piece) (cs : List Char) :
    (textOf (p :: ps) ++ cs).head? = (textOf (p :: ps)).head? := by
  cases p <;> rfl

/-! ### One piece at a time -/

/-- `stripColors` keeps every character but the escape. -/
theorem stripColors_plain (hc : c ≠ '\x1b') (cs : List Char) :
    stripColors (c :: cs) = c :: stripColors cs :=
  dropCodes.eq_4 c cs fun _ hescape _ => hc hescape

/-- `stripColors` keeps an escape character that has no bracket behind it. -/
theorem stripColors_escape (hcs : cs.head? ≠ some '[') :
    stripColors ('\x1b' :: cs) = '\x1b' :: stripColors cs := by
  refine dropCodes.eq_4 '\x1b' cs fun rest _ hbracket => hcs ?_
  rw [hbracket]
  rfl

/-- Inside a color code, everything is dropped up to the first `m`. -/
theorem dropCodes_body (hbody : 'm' ∉ body) (cs : List Char) :
    dropCodes true (body ++ cs) = dropCodes true cs := by
  induction body with
  | nil => rfl
  | cons b body ih =>
    rw [List.mem_cons, not_or] at hbody
    obtain ⟨hb, hbody⟩ := hbody
    have hinside : decide (b ≠ 'm') = true := decide_eq_true (Ne.symm hb)
    show dropCodes (b ≠ 'm') (body ++ cs) = _
    rw [hinside, ih hbody]

/-- `stripColors` drops a color code up to its end. -/
theorem stripColors_code (hbody : 'm' ∉ body) (cs : List Char) :
    stripColors ('\x1b' :: '[' :: (body ++ 'm' :: cs)) = stripColors cs :=
  dropCodes_body hbody ('m' :: cs)

/-- `stripColors` leaves nothing of a color code that has no end. -/
theorem stripColors_unfinished (hcs : Unfinished cs) : stripColors cs = [] := by
  cases hcs with
  | nothing => rfl
  | @code body hbody =>
    have hnone := dropCodes_body hbody []
    rw [List.append_nil] at hnone
    exact hnone

/-! ### Texts -/

/-- Of a text in pieces the color codes are dropped, and what follows is stripped on its own. Only
    where the text ends in an escape character, a bracket must not follow. -/
theorem stripColors_textOf_append (hps : Separate ps) (cs : List Char)
    (hend : ps.getLast? = some .escape → cs.head? ≠ some '[') :
    stripColors (textOf ps ++ cs) = textOf (withoutCodes ps) ++ stripColors cs := by
  induction ps with
  | nil => rfl
  | cons p ps ih =>
    -- the pieces behind the first one end as all of them do
    have hlast : ps.getLast? = some .escape → cs.head? ≠ some '[' := by
      intro hlast
      refine hend ?_
      rw [List.getLast?_cons, hlast]
      rfl
    cases p with
    | plain c hc =>
      show stripColors (c :: (textOf ps ++ cs)) = c :: (textOf (withoutCodes ps) ++ stripColors cs)
      rw [stripColors_plain hc, ih hps hlast]
    | code body hbody =>
      have htext : textOf (.code body hbody :: ps) ++ cs =
          '\x1b' :: '[' :: (body ++ 'm' :: (textOf ps ++ cs)) := by
        simp [Piece.text]
      rw [htext, stripColors_code hbody, ih hps hlast]
      rfl
    | escape =>
      obtain ⟨hhead, hps⟩ := hps
      -- behind the last piece comes the text that follows, and behind any other one the next piece
      have hnext : (textOf ps ++ cs).head? ≠ some '[' := by
        cases ps with
        | nil => exact hend rfl
        | cons q qs =>
          rw [head?_textOf_append]
          exact hhead
      show stripColors ('\x1b' :: (textOf ps ++ cs)) =
        '\x1b' :: (textOf (withoutCodes ps) ++ stripColors cs)
      rw [stripColors_escape hnext, ih hps hlast]

/-- `stripColors` leaves of pieces that are `Separate` all but the color codes. -/
theorem stripColors_textOf (hps : Separate ps) :
    stripColors (textOf ps) = textOf (withoutCodes ps) := by
  have hstrip := stripColors_textOf_append hps [] fun _ => nofun
  rw [List.append_nil] at hstrip
  exact hstrip.trans (List.append_nil _)

/-- `stripColors` leaves a text without escape characters as it is, whatever follows it. -/
theorem stripColors_append_of_plain (hcs : '\x1b' ∉ cs) (rest : List Char) :
    stripColors (cs ++ rest) = cs ++ stripColors rest := by
  induction cs with
  | nil => rfl
  | cons c cs ih =>
    rw [List.mem_cons, not_or] at hcs
    obtain ⟨hc, hcs⟩ := hcs
    show stripColors (c :: (cs ++ rest)) = c :: (cs ++ stripColors rest)
    rw [stripColors_plain (Ne.symm hc), ih hcs]

/-- `stripColors` changes nothing in a text without escape characters. -/
theorem stripColors_of_plain (hcs : '\x1b' ∉ cs) : stripColors cs = cs := by
  have hstrip := stripColors_append_of_plain hcs []
  rw [List.append_nil] at hstrip
  exact hstrip.trans (List.append_nil cs)

/-- Every text is made of pieces, up to a color code that is not complete. -/
theorem exists_pieces (cs : List Char) :
    ∃ ps rest, Separate ps ∧ Unfinished rest ∧ cs = textOf ps ++ rest := by
  -- a color code takes many characters at once, so the induction is on the length
  induction hn : cs.length using Nat.strongRecOn generalizing cs with
  | _ n ih =>
    subst hn
    cases cs with
    | nil => exact ⟨[], [], trivial, .nothing, rfl⟩
    | cons c cs =>
      by_cases hc : c = '\x1b'
      · subst hc
        by_cases hbracket : cs.head? = some '['
        · obtain ⟨ds, rfl⟩ := List.head?_eq_some_iff.1 hbracket
          -- a color code begins here, and ends at the next `m` if there is one
          by_cases hm : 'm' ∈ ds
          · obtain ⟨body, ds, rfl, hbody⟩ := List.eq_append_cons_of_mem hm
            obtain ⟨ps, rest, hps, hrest, rfl⟩ := ih ds.length (by simp; omega) ds rfl
            exact ⟨.code body hbody :: ps, rest, hps, hrest, by simp [Piece.text]⟩
          · exact ⟨[], _, trivial, .code hm, rfl⟩
        · obtain ⟨ps, rest, hps, hrest, rfl⟩ := ih cs.length (Nat.lt_succ_self _) cs rfl
          have hhead : (textOf ps).head? ≠ some '[' := by
            intro hhead
            rw [List.head?_append, hhead] at hbracket
            exact hbracket rfl
          exact ⟨.escape :: ps, rest, ⟨hhead, hps⟩, hrest, rfl⟩
      · obtain ⟨ps, rest, hps, hrest, rfl⟩ := ih cs.length (Nat.lt_succ_self _) cs rfl
        exact ⟨.plain c hc :: ps, rest, hps, hrest, rfl⟩

/-! ### Dropping color codes -/

/-- A function drops the color codes of a text and nothing else. -/
structure DropsCodes (strip : List Char → List Char) : Prop where
  /-- Of a text in pieces all but the color codes stays, in order. -/
  pieces : ∀ ps, Separate ps → strip (textOf ps) = textOf (withoutCodes ps)
  /-- Every text is one in pieces, but for a color code at its end that is not complete, and that is
      dropped as well. -/
  any : ∀ cs, ∃ ps rest, Separate ps ∧ Unfinished rest ∧ cs = textOf ps ++ rest ∧
    strip cs = textOf (withoutCodes ps)
  plain : ∀ cs, '\x1b' ∉ cs → strip cs = cs
  /-- A text that does not end in an escape character on its own is stripped apart from what
      follows. -/
  append : ∀ ps cs, Separate ps → ps.getLast? ≠ some .escape →
    strip (textOf ps ++ cs) = strip (textOf ps) ++ strip cs

/-- `stripColors` drops the color codes of every text, and nothing else. -/
theorem dropsCodes_stripColors : DropsCodes stripColors where
  pieces _ hps := stripColors_textOf hps
  any := by
    intro cs
    obtain ⟨ps, rest, hps, hrest, rfl⟩ := exists_pieces cs
    have hend : rest.head? ≠ some '[' := by
      cases hrest with
      | nothing => nofun
      | code => exact fun h => absurd (Option.some.inj h) (by decide)
    refine ⟨ps, rest, hps, hrest, rfl, ?_⟩
    rw [stripColors_textOf_append hps rest fun _ => hend, stripColors_unfinished hrest,
      List.append_nil]
  plain _ hcs := stripColors_of_plain hcs
  append := by
    intro ps cs hps hlast
    rw [stripColors_textOf_append hps cs fun h => absurd h hlast, stripColors_textOf hps]

end Twilight.Log
