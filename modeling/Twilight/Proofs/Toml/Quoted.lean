import Mathlib.Tactic.SplitIfs
import Twilight.Toml.Written

namespace Twilight.Toml

/-!
# Written strings read back

* `basic?_escapeWith`, `multiBasic?_escapeWith` — every character is read as it was written, in one
  turn of the reader.
* `multiBasicBody_run`, `literal_run` — no run of quotes in a written string closes it.
* `singleLine?_writeBasic`, `singleLine?_writeLiteral`, `multiBasic?_body`, `multiLiteral?_body` —
  each of the forms.
* `quoted?_writeText` — whichever form a string is written in, it is read back from it.
-/

variable {c d : Char} {cs rest more : List Char} {turns : Nat}

/-! ### Characters -/

/-- What is no control character, and no line feed, may stand for itself. -/
theorem isPrintable_of_not_control (hc : isControl c = false) (hfeed : c ≠ '\n') :
    isPrintable c = true := by
  by_cases htab : c = '\t'
  · rw [htab]
    rfl
  · unfold isControl at hc
    simp only [Bool.or_eq_false_iff, Bool.and_eq_false_iff, decide_eq_false_iff_not,
      bne_eq_false_iff_eq, beq_eq_false_iff_ne] at hc
    obtain ⟨hlow, hdelete⟩ := hc
    have hlow : 32 ≤ c.toNat := by
      rcases hlow with (hlow | htab') | hfeed'
      · exact Nat.not_lt.1 hlow
      · exact absurd htab' htab
      · exact absurd hfeed' hfeed
    unfold isPrintable
    simp only [Bool.or_eq_true, Bool.and_eq_true, decide_eq_true_eq, bne_iff_ne]
    exact .inr ⟨hlow, hdelete⟩

/-- `codePoint?` reads back four hexadecimal digits as `hexChar` writes them. -/
theorem codePoint?_hexChar :
    ∀ n < 128, codePoint? ['0', '0', hexChar (n / 16), hexChar n] = some (Char.ofNat n) := by
  decide

/-- `escape?` reads back a control character from its code, behind the backslash. -/
theorem escape?_escapeCode (hc : isControl c = true) :
    escape? ('u' :: '0' :: '0' :: hexChar (c.toNat / 16) :: hexChar c.toNat :: rest) =
      some (c, rest) := by
  have hlow : c.toNat < 128 := by
    unfold isControl at hc
    simp only [Bool.or_eq_true, Bool.and_eq_true, decide_eq_true_eq, beq_iff_eq] at hc
    omega
  show (codePoint? ['0', '0', hexChar (c.toNat / 16), hexChar c.toNat]).map _ = _
  rw [codePoint?_hexChar c.toNat hlow, Char.ofNat_toNat]
  rfl

/-- A character is written as an escape that stands for it and continues no line, or as itself. -/
theorem escapeWith_cases (hfeed : c ≠ '\n') (hquote : c ≠ '"') (lineFeed quote : List Char) :
    (∃ code, escapeWith lineFeed quote c = '\\' :: code ∧ ∀ rest,
      escape? (code ++ rest) = some (c, rest) ∧ continuation? (code ++ rest) = none) ∨
    (escapeWith lineFeed quote c = [c] ∧ c ≠ '\\' ∧ c ≠ '\r' ∧ isPrintable c = true) := by
  unfold escapeWith
  rw [if_neg hfeed, if_neg hquote]
  split_ifs with hslash htab hback hform hreturn hcontrol
  · exact .inl ⟨['\\'], rfl, fun rest => by rw [hslash]; exact ⟨rfl, rfl⟩⟩
  · exact .inl ⟨['t'], rfl, fun rest => by rw [htab]; exact ⟨rfl, rfl⟩⟩
  · exact .inl ⟨['b'], rfl, fun rest => by rw [hback]; exact ⟨rfl, rfl⟩⟩
  · exact .inl ⟨['f'], rfl, fun rest => by rw [hform]; exact ⟨rfl, rfl⟩⟩
  · exact .inl ⟨['r'], rfl, fun rest => by rw [hreturn]; exact ⟨rfl, rfl⟩⟩
  · exact .inl ⟨_, rfl, fun rest => ⟨escape?_escapeCode hcontrol, rfl⟩⟩
  · exact .inr ⟨rfl, hslash, hreturn,
      isPrintable_of_not_control (Bool.eq_false_iff.2 hcontrol) hfeed⟩

/-- `escapeWith` writes every character with at least one. -/
theorem escapeWith_ne_nil {lineFeed quote : List Char} (hfeed : lineFeed ≠ []) (hquote : quote ≠ [])
    (c : Char) : escapeWith lineFeed quote c ≠ [] := by
  unfold escapeWith
  split_ifs
  · exact hfeed
  · exact hquote
  all_goals exact List.cons_ne_nil _ _

/-- Apart from quotes, `escapeWith` writes nothing with a quote in front. -/
theorem exists_escapeWith {f : Char} {fs quote : List Char} (hf : f ≠ '"') (hc : c ≠ '"') :
    ∃ d ds, escapeWith (f :: fs) quote c = d :: ds ∧ d ≠ '"' := by
  by_cases hfeed : c = '\n'
  · exact ⟨f, fs, by rw [hfeed]; rfl, hf⟩
  · rcases escapeWith_cases hfeed hc (f :: fs) quote with ⟨code, hcode, -⟩ | ⟨hself, -⟩
    · exact ⟨'\\', code, hcode, by decide⟩
    · exact ⟨c, [], hself, hc⟩

/-! ### Strings on one line -/

/-- `basic?` takes a printable character as itself, if that is neither a quote nor a backslash. -/
theorem basic?_printable (hquote : c ≠ '"') (hslash : c ≠ '\\') (hc : isPrintable c = true) :
    basic? (turns + 1) (c :: rest) = consFound c (basic? turns rest) := by
  rw [basic?.eq_def]
  split
  · contradiction
  · contradiction
  · rename_i heq
    exact absurd (List.cons.inj heq).1 hquote
  · rename_i heq
    exact absurd (List.cons.inj heq).1 hslash
  · rename_i hturns heq
    obtain rfl := Nat.succ.inj hturns
    obtain ⟨rfl, rfl⟩ := List.cons.inj heq
    rw [if_pos hc]

/-- `basic?` takes an escape for what `escape?` makes of it. -/
theorem basic?_escape (he : escape? more = some (c, rest)) :
    basic? (turns + 1) ('\\' :: more) = consFound c (basic? turns rest) := by
  simp only [basic?, he]

/-- `basic?` reads back a character that was written by `escapeWith`, whichever it is. -/
theorem basic?_escapeWith (c : Char) (turns : Nat) (rest : List Char) :
    basic? (turns + 1) (escapeWith ['\\', 'n'] ['\\', '"'] c ++ rest) =
      consFound c (basic? turns rest) := by
  by_cases hfeed : c = '\n'
  · rw [hfeed]
    exact basic?_escape rfl
  · by_cases hquote : c = '"'
    · rw [hquote]
      exact basic?_escape rfl
    · rcases escapeWith_cases hfeed hquote ['\\', 'n'] ['\\', '"'] with
        ⟨code, hcode, hread⟩ | ⟨hself, hslash, -, hprintable⟩
      · rw [hcode]
        exact basic?_escape (hread rest).1
      · rw [hself]
        exact basic?_printable hquote hslash hprintable

/-- `basic?` reads back the characters of a text, up to the closing quote. By induction on the
    characters. -/
theorem basic?_body (hturns : cs.length < turns) (rest : List Char) :
    basic? turns (cs.flatMap (escapeWith ['\\', 'n'] ['\\', '"']) ++ '"' :: rest) =
      some (cs, rest) := by
  induction cs generalizing turns with
  | nil =>
    obtain ⟨turns, rfl⟩ := Nat.exists_eq_add_one_of_ne_zero (Nat.ne_of_gt hturns)
    rfl
  | cons c cs ih =>
    obtain ⟨turns, rfl⟩ := Nat.exists_eq_add_one_of_ne_zero (Nat.ne_zero_of_lt hturns)
    have hless : cs.length < turns := Nat.lt_of_succ_lt_succ hturns
    rw [List.flatMap_cons, List.append_assoc, basic?_escapeWith, ih hless]
    rfl

/-- A text does not get shorter where each character is written as one or more. -/
theorem length_le_flatMap {f : Char → List Char} (hf : ∀ c, f c ≠ []) (cs : List Char) :
    cs.length ≤ (cs.flatMap f).length := by
  induction cs with
  | nil => exact Nat.le_refl 0
  | cons c cs ih =>
    have hpos : 0 < (f c).length := List.length_pos_iff.2 (hf c)
    rw [List.flatMap_cons, List.length_append, List.length_cons]
    omega

/-- `singleLine?` reads back what `writeBasic` writes. -/
theorem singleLine?_writeBasic (cs rest : List Char) :
    singleLine? (writeBasic cs ++ rest) = some (cs, rest) := by
  have hlength := length_le_flatMap
    (escapeWith_ne_nil (List.cons_ne_nil '\\' ['n']) (List.cons_ne_nil '\\' ['"'])) cs
  have hall : writeBasic cs ++ rest =
      '"' :: (cs.flatMap (escapeWith ['\\', 'n'] ['\\', '"']) ++ '"' :: rest) := by
    unfold writeBasic
    rw [List.append_assoc]
    rfl
  rw [hall]
  refine basic?_body ?_ rest
  rw [List.length_append]
  omega

/-- A literal string holds no quote of its kind, and nothing that needs an escape. -/
theorem literal?_body (hquote : '\'' ∉ cs) (hcs : ∀ c ∈ cs, isPrintable c = true)
    (rest : List Char) : literal? (cs ++ '\'' :: rest) = some (cs, rest) := by
  induction cs with
  | nil => rfl
  | cons c cs ih =>
    rw [List.mem_cons, not_or] at hquote
    obtain ⟨hc, hquote⟩ := hquote
    obtain ⟨hprintable, hcs⟩ := List.forall_mem_cons.1 hcs
    show literal? (c :: (cs ++ '\'' :: rest)) = _
    rw [literal?.eq_def]
    -- of the equations of `literal?` only the last fits a character that is no quote
    split
    · rename_i heq
      cases heq
    · rename_i heq
      exact absurd (List.cons.inj heq).1.symm hc
    · rename_i heq
      obtain ⟨rfl, rfl⟩ := List.cons.inj heq
      rw [if_pos hprintable, ih hquote hcs]
      rfl

/-- `singleLine?` reads back what `writeLiteral` writes, if that can be written so. -/
theorem singleLine?_writeLiteral (hquote : '\'' ∉ cs) (hcs : ∀ c ∈ cs, isPrintable c = true)
    (rest : List Char) : singleLine? (writeLiteral cs ++ rest) = some (cs, rest) := by
  show literal? ((cs ++ ['\'']) ++ rest) = _
  rw [List.append_assoc]
  exact literal?_body hquote hcs rest

/-! ### Runs of quotes -/

/-- The first one of some characters is the first one. -/
theorem head?_ne (hd : d ≠ c) : (d :: rest).head? ≠ some c := fun h => hd (Option.some.inj h)

/-- `takeWhile` takes a run of quotes up to its end. -/
theorem takeWhile_run (hrest : rest.head? ≠ some c) (k : Nat) :
    (List.replicate k c ++ rest).takeWhile (· = c) = List.replicate k c := by
  have hnone : rest.takeWhile (· = c) = [] := by
    cases rest with
    | nil => rfl
    | cons d ds =>
      have hd : d ≠ c := fun h => hrest (congrArg some h)
      exact List.takeWhile_cons_of_neg (by rw [decide_eq_true_eq]; exact hd)
  rw [List.takeWhile_append_of_pos, hnone, List.append_nil]
  intro d hd
  exact decide_eq_true (List.eq_of_mem_replicate hd)

/-- A run of up to five quotes at the end of a string: the last three close it. -/
theorem closing?_replicate {k : Nat} (hk : k ≤ 2) (hrest : rest.head? ≠ some c) :
    closing? c (List.replicate (k + 3) c ++ rest) = some (List.replicate k c, rest) := by
  have hown : min (k + 3 - 3) 2 = k := by omega
  unfold closing?
  rw [takeWhile_run hrest, List.length_replicate]
  show (if k + 3 < 3 then none else some (List.replicate (min (k + 3 - 3) 2) c,
    (List.replicate (k + 3) c ++ rest).drop (min (k + 3 - 3) 2 + 3))) = _
  rw [if_neg (by omega), hown, List.drop_left' List.length_replicate]

/-- By `closing?`, a run of one or two quotes inside a text closes nothing. -/
theorem closing?_run {k : Nat} (hk : k ≤ 2) (hrest : rest.head? ≠ some c) :
    closing? c (List.replicate k c ++ rest) = none := by
  unfold closing?
  rw [takeWhile_run hrest, List.length_replicate]
  exact if_pos (by omega)

/-- The quotes in front of a text: as many as are left in a run of two, and then its end, or
    something else. -/
inductive Run (quote : Char) (left : Nat) : List Char → Prop where
  | ends {k : Nat} : k ≤ left → Run quote left (List.replicate k quote)
  | goes {k : Nat} {ds : List Char} : k ≤ left → ds ≠ [] → ds.head? ≠ some quote →
      Run quote left (List.replicate k quote ++ ds)

/-- One more quote in front makes the `Run` longer by one. -/
theorem Run.cons {quote : Char} {left : Nat} (hr : Run quote left cs) :
    Run quote (left + 1) (quote :: cs) := by
  cases hr with
  | @ends k hk => exact .ends (k := k + 1) (Nat.succ_le_succ hk)
  | @goes k ds hk hne hds => exact .goes (k := k + 1) (Nat.succ_le_succ hk) hne hds

/-- There is no quote in front of another character. -/
theorem Run.of_ne {quote : Char} (hc : c ≠ quote) (left : Nat) (cs : List Char) :
    Run quote left (c :: cs) :=
  @Run.goes quote left 0 (c :: cs) (Nat.zero_le left) (List.cons_ne_nil c cs) (head?_ne hc)

/-- A `Run` may be shorter than it is allowed to be. -/
theorem Run.mono {quote : Char} {left more : Nat} (hr : Run quote left cs) (hle : left ≤ more) :
    Run quote more cs := by
  cases hr with
  | ends hk => exact .ends (Nat.le_trans hk hle)
  | goes hk hne hds => exact .goes (Nat.le_trans hk hle) hne hds

/-- What stands between the quotes that open and close a string, at one of its own quotes. -/
theorem Run.closing? {quote : Char} (hr : Run quote 2 cs) (hrest : rest.head? ≠ some quote) :
    (cs = List.replicate cs.length quote ∧
      Toml.closing? quote (cs ++ quote :: quote :: quote :: rest) = some (cs, rest)) ∨
    Toml.closing? quote (cs ++ quote :: quote :: quote :: rest) = none := by
  cases hr with
  | @ends k hk =>
    left
    have hall : List.replicate k quote ++ quote :: quote :: quote :: rest =
        List.replicate (k + 3) quote ++ rest := by
      rw [← List.replicate_append_replicate, List.append_assoc]
      rfl
    rw [hall, closing?_replicate hk hrest, List.length_replicate]
    exact ⟨rfl, rfl⟩
  | @goes k ds hk hne hds =>
    right
    obtain ⟨d, ds, rfl⟩ := List.exists_cons_of_ne_nil hne
    rw [List.append_assoc]
    exact closing?_run hk hds

/-! ### Literal strings on several lines -/

/-- Without three quotes in a row there are two at the front at most. -/
theorem run_of_not_hasTriple {quote : Char} (hcs : hasTriple quote cs = false) :
    Run quote 2 cs := by
  match cs with
  | [] => exact .ends (k := 0) (Nat.zero_le 2)
  | a :: cs =>
    by_cases ha : a = quote
    · rw [ha] at hcs ⊢
      match cs with
      | [] => exact .ends (k := 1) (by decide)
      | b :: cs =>
        refine Run.cons ?_
        by_cases hb : b = quote
        · rw [hb] at hcs ⊢
          match cs with
          | [] => exact .ends (k := 1) (Nat.le_refl 1)
          | c :: cs =>
            -- a third quote would make three
            have hc : c ≠ quote := by
              intro hc
              rw [hc] at hcs
              simp [hasTriple] at hcs
            exact (Run.of_ne hc 0 cs).cons
        · exact Run.of_ne hb 1 cs
    · exact Run.of_ne ha 2 cs

/-- What follows in a text without three quotes in a row has none, either. -/
theorem hasTriple_tail {quote : Char} (hcs : hasTriple quote (c :: cs) = false) :
    hasTriple quote cs = false := by
  match cs with
  | [] => rfl
  | [_] => rfl
  | a :: b :: cs =>
    unfold hasTriple at hcs
    exact (Bool.or_eq_false_iff.1 hcs).2

/-- `multiLiteral?` reads back a text without control characters and three quotes in a row, up to
    the closing quotes. By induction on the characters, with the run of quotes at the front in view.
    -/
theorem multiLiteral?_body (htriple : hasTriple '\'' cs = false)
    (hcs : ∀ c ∈ cs, isControl c = false) (hrest : rest.head? ≠ some '\'') :
    multiLiteral? (cs ++ '\'' :: '\'' :: '\'' :: rest) = some (cs, rest) := by
  induction cs with
  | nil =>
    have hends : closing? '\'' ('\'' :: '\'' :: '\'' :: rest) = some ([], rest) :=
      closing?_replicate (Nat.zero_le 2) hrest
    simp only [List.nil_append, multiLiteral?, hends]
  | cons c cs ih =>
    obtain ⟨hcontrol, hcs⟩ := List.forall_mem_cons.1 hcs
    have hread := ih (hasTriple_tail htriple) hcs
    show multiLiteral? (c :: (cs ++ '\'' :: '\'' :: '\'' :: rest)) = _
    rw [multiLiteral?.eq_def]
    split
    · rename_i heq
      cases heq
    · rename_i heq
      obtain ⟨rfl, rfl⟩ := List.cons.inj heq
      -- the character is a quote: only quotes follow, up to the end, or something else comes first
      rcases (run_of_not_hasTriple htriple).closing? hrest with ⟨-, hends⟩ | hgoes
      · rw [← List.cons_append, hends]
      · rw [← List.cons_append, hgoes, hread]
        rfl
    · rename_i heq
      obtain ⟨rfl, rfl⟩ := List.cons.inj heq
      rw [hread]
      rfl
    · rename_i heq
      rw [(List.cons.inj heq).1] at hcontrol
      cases hcontrol
    · rename_i hfeed _ heq
      obtain ⟨rfl, rfl⟩ := List.cons.inj heq
      rw [if_pos (isPrintable_of_not_control hcontrol hfeed), hread]
      rfl

/-! ### Basic strings on several lines -/

/-- A quote that is not the third in a row is written as itself. -/
theorem multiBasicBody_quote {quotes : Nat} (hq : quotes ≠ 2) (cs : List Char) :
    multiBasicBody quotes ('"' :: cs) = '"' :: multiBasicBody (quotes + 1) cs := by
  show (if quotes = 2 then _ else _) = _
  rw [if_neg hq]

/-- A character that is no quote is written by `escapeWith`, and begins a new count of quotes. -/
theorem multiBasicBody_of_ne (hc : c ≠ '"') (quotes : Nat) (cs : List Char) :
    multiBasicBody quotes (c :: cs) = escapeWith ['\n'] ['"'] c ++ multiBasicBody 0 cs := by
  show (if c = '"' then _ else _) = _
  rw [if_neg hc]

/-- A text does not get shorter by `multiBasicBody`. -/
theorem length_le_multiBasicBody (quotes : Nat) (cs : List Char) :
    cs.length ≤ (multiBasicBody quotes cs).length := by
  induction cs generalizing quotes with
  | nil => exact Nat.le_refl 0
  | cons c cs ih =>
    by_cases hc : c = '"'
    · rw [hc]
      by_cases htwo : quotes = 2
      · rw [htwo]
        exact Nat.le_succ_of_le (Nat.succ_le_succ (ih 0))
      · rw [multiBasicBody_quote htwo]
        exact Nat.succ_le_succ (ih (quotes + 1))
    · have hpos : 0 < (escapeWith ['\n'] ['"'] c).length := List.length_pos_iff.2
        (escapeWith_ne_nil (List.cons_ne_nil _ _) (List.cons_ne_nil _ _) c)
      have hlength := ih 0
      rw [multiBasicBody_of_ne hc, List.length_append, List.length_cons]
      omega

/-- `multiBasicBody` writes no more than two quotes in a row, those in front of it included. -/
theorem multiBasicBody_run (quotes : Nat) (hq : quotes ≤ 2) (cs : List Char) :
    Run '"' (2 - quotes) (multiBasicBody quotes cs) := by
  induction cs generalizing quotes with
  | nil => exact .ends (k := 0) (Nat.zero_le _)
  | cons c cs ih =>
    by_cases hc : c = '"'
    · rw [hc]
      by_cases htwo : quotes = 2
      · rw [htwo]
        exact Run.of_ne (by decide) 0 _
      · have hleft : 2 - quotes = 2 - (quotes + 1) + 1 := by omega
        rw [multiBasicBody_quote htwo, hleft]
        exact (ih (quotes + 1) (by omega)).cons
    · obtain ⟨d, ds, hescape, hd⟩ := exists_escapeWith (f := '\n') (by decide) hc
      rw [multiBasicBody_of_ne hc, hescape]
      exact Run.of_ne hd _ _

/-- What `multiBasicBody` writes as quotes alone was quotes alone. -/
theorem eq_of_multiBasicBody {quotes : Nat} {cs : List Char}
    (hcs : ∀ d ∈ multiBasicBody quotes cs, d = '"') : multiBasicBody quotes cs = cs := by
  induction cs generalizing quotes with
  | nil => rfl
  | cons c cs ih =>
    by_cases hc : c = '"'
    · rw [hc] at hcs ⊢
      by_cases htwo : quotes = 2
      · rw [htwo] at hcs
        exact absurd (hcs '\\' List.mem_cons_self) (by decide)
      · rw [multiBasicBody_quote htwo] at hcs ⊢
        rw [ih (List.forall_mem_cons.1 hcs).2]
    · obtain ⟨d, ds, hescape, hd⟩ := exists_escapeWith (f := '\n') (by decide) hc
      rw [multiBasicBody_of_ne hc, hescape] at hcs
      exact absurd (hcs d List.mem_cons_self) hd

/-- `multiBasic?` takes an escape for what `escape?` makes of it, if no line is continued there. -/
theorem multiBasic?_escape (hcontinues : continuation? more = none)
    (he : escape? more = some (c, rest)) :
    multiBasic? (turns + 1) ('\\' :: more) = consFound c (multiBasic? turns rest) := by
  simp only [multiBasic?, hcontinues, he]

/-- `multiBasic?` reads back a character that was written by `escapeWith`, if that is no quote. -/
theorem multiBasic?_escapeWith (hc : c ≠ '"') (turns : Nat) (rest : List Char) :
    multiBasic? (turns + 1) (escapeWith ['\n'] ['"'] c ++ rest) =
      consFound c (multiBasic? turns rest) := by
  by_cases hfeed : c = '\n'
  · rw [hfeed]
    rfl
  · -- the character is escaped, or stands for itself
    rcases escapeWith_cases hfeed hc ['\n'] ['"'] with
      ⟨code, hcode, hread⟩ | ⟨hself, hslash, hreturn, hprintable⟩
    · rw [hcode]
      exact multiBasic?_escape (hread rest).2 (hread rest).1
    · rw [hself]
      show multiBasic? (turns + 1) (c :: rest) = _
      rw [multiBasic?.eq_def]
      split
      · contradiction
      · contradiction
      · rename_i heq
        exact absurd (List.cons.inj heq).1 hc
      · rename_i heq
        exact absurd (List.cons.inj heq).1 hslash
      · rename_i heq
        exact absurd (List.cons.inj heq).1 hfeed
      · rename_i heq
        exact absurd (List.cons.inj heq).1 hreturn
      · rename_i hturns heq
        obtain rfl := Nat.succ.inj hturns
        obtain ⟨rfl, rfl⟩ := List.cons.inj heq
        rw [if_pos hprintable]

/-- `multiBasic?` reads back what `multiBasicBody` writes, up to the closing quotes. By induction on
    the characters, with any number of quotes in front. -/
theorem multiBasic?_body (quotes : Nat) (hq : quotes ≤ 2) (hturns : cs.length < turns)
    (hrest : rest.head? ≠ some '"') :
    multiBasic? turns (multiBasicBody quotes cs ++ '"' :: '"' :: '"' :: rest) =
      some (cs, rest) := by
  induction cs generalizing turns quotes with
  | nil =>
    obtain ⟨turns, rfl⟩ := Nat.exists_eq_add_one_of_ne_zero (Nat.ne_of_gt hturns)
    have hends : closing? '"' ('"' :: '"' :: '"' :: rest) = some ([], rest) :=
      closing?_replicate (Nat.zero_le 2) hrest
    show multiBasic? (turns + 1) ('"' :: '"' :: '"' :: rest) = _
    simp only [multiBasic?, hends]
  | cons c cs ih =>
    obtain ⟨turns, rfl⟩ := Nat.exists_eq_add_one_of_ne_zero (Nat.ne_zero_of_lt hturns)
    have hless : cs.length < turns := Nat.lt_of_succ_lt_succ hturns
    by_cases hc : c = '"'
    · rw [hc]
      by_cases htwo : quotes = 2
      · -- the third quote of a run is escaped
        have hread := ih 0 (Nat.zero_le 2) hless
        rw [htwo]
        show multiBasic? (turns + 1)
          ('\\' :: '"' :: (multiBasicBody 0 cs ++ '"' :: '"' :: '"' :: rest)) = _
        rw [multiBasic?_escape rfl rfl, hread]
        rfl
      · have hread := ih (quotes + 1) (by omega) hless
        have hrun : Run '"' 2 ('"' :: multiBasicBody (quotes + 1) cs) := by
          have hbody := (multiBasicBody_run (quotes + 1) (by omega) cs).cons
          exact hbody.mono (by omega)
        rw [multiBasicBody_quote htwo, List.cons_append]
        simp only [multiBasic?]
        rw [← List.cons_append]
        rcases hrun.closing? hrest with ⟨hquotes, hends⟩ | hgoes
        · -- nothing but quotes is left, and they are taken at once
          have hall : multiBasicBody (quotes + 1) cs = cs := by
            refine eq_of_multiBasicBody fun d hd => ?_
            have hmem := List.mem_cons_of_mem '"' hd
            rw [hquotes] at hmem
            exact List.eq_of_mem_replicate hmem
          rw [hends, hall]
        · rw [hgoes, hread]
          rfl
    · rw [multiBasicBody_of_ne hc, List.append_assoc, multiBasic?_escapeWith hc,
        ih 0 (Nat.zero_le 2) hless]
      rfl

/-! ### Strings of any kind -/

/-- What does not begin with three quotes is read by `quoted?` as a single line. -/
theorem quoted?_eq_singleLine? (hbasic : ∀ more, cs ≠ '"' :: '"' :: '"' :: more)
    (hliteral : ∀ more, cs ≠ '\'' :: '\'' :: '\'' :: more) : quoted? cs = singleLine? cs := by
  rw [quoted?.eq_def]
  split
  · rename_i more
    exact absurd rfl (hbasic more)
  · rename_i more
    exact absurd rfl (hliteral more)
  · rfl

/-- `quoted?` reads back what `writeBasic` writes, up to the end of the line. -/
theorem quoted?_writeBasic (cs rest : List Char) :
    quoted? (writeBasic cs ++ '\n' :: rest) = some (cs, '\n' :: rest) := by
  have hall : writeBasic cs ++ '\n' :: rest =
      '"' :: (cs.flatMap (escapeWith ['\\', 'n'] ['\\', '"']) ++ '"' :: '\n' :: rest) := by
    unfold writeBasic
    rw [List.append_assoc]
    rfl
  have hsingle := @quoted?_eq_singleLine? (writeBasic cs ++ '\n' :: rest) ?basic ?literal
  case basic =>
    -- neither the first character nor what follows an empty string is a quote
    intro more heq
    rw [hall] at heq
    have heq := (List.cons.inj heq).2
    cases cs with
    | nil => exact absurd (List.cons.inj (List.cons.inj heq).2).1 (by decide)
    | cons c cs =>
      have hhead : ∃ d ds, escapeWith ['\\', 'n'] ['\\', '"'] c = d :: ds ∧ d ≠ '"' := by
        by_cases hquote : c = '"'
        · exact ⟨'\\', ['"'], by rw [hquote]; rfl, by decide⟩
        · exact exists_escapeWith (by decide) hquote
      obtain ⟨d, ds, hescape, hd⟩ := hhead
      rw [List.flatMap_cons, hescape] at heq
      exact hd (List.cons.inj heq).1
  case literal =>
    intro more heq
    rw [hall] at heq
    exact absurd (List.cons.inj heq).1 (by decide)
  rw [hsingle, singleLine?_writeBasic]

/-- `quoted?` reads back what `writeLiteral` writes, if that can be written so. -/
theorem quoted?_writeLiteral (hquote : '\'' ∉ cs) (hcs : ∀ c ∈ cs, isPrintable c = true)
    (rest : List Char) :
    quoted? (writeLiteral cs ++ '\n' :: rest) = some (cs, '\n' :: rest) := by
  have hall : writeLiteral cs ++ '\n' :: rest = '\'' :: (cs ++ '\'' :: '\n' :: rest) := by
    unfold writeLiteral
    rw [List.append_assoc]
    rfl
  have hsingle := @quoted?_eq_singleLine? (writeLiteral cs ++ '\n' :: rest) ?basic ?literal
  case basic =>
    intro more heq
    rw [hall] at heq
    exact absurd (List.cons.inj heq).1 (by decide)
  case literal =>
    intro more heq
    rw [hall] at heq
    have heq := (List.cons.inj heq).2
    cases cs with
    | nil => exact absurd (List.cons.inj (List.cons.inj heq).2).1 (by decide)
    | cons c cs =>
      -- two more quotes at the front would be in the text
      rw [(List.cons.inj heq).1] at hquote
      exact hquote List.mem_cons_self
  rw [hsingle, singleLine?_writeLiteral hquote hcs]

/-- `dropLineEnd` drops nothing but the end of a line. -/
theorem dropLineEnd_of_ne (hfeed : c ≠ '\n') (hreturn : c ≠ '\r') (cs : List Char) :
    dropLineEnd (c :: cs) = c :: cs := by
  unfold dropLineEnd
  split
  · rename_i heq
    exact absurd (List.cons.inj heq).1 hfeed
  · rename_i heq
    exact absurd (List.cons.inj heq).1 hreturn
  · rfl

/-- The line end behind the opening quotes is the one that was put there. -/
theorem dropLineEnd_leadingBreak
    (hstart : '\n' ∉ cs → ∃ d ds, more = d :: ds ∧ d ≠ '\n' ∧ d ≠ '\r') :
    dropLineEnd (leadingBreak cs ++ more) = more := by
  unfold leadingBreak
  by_cases hfeed : '\n' ∈ cs
  · rw [if_pos hfeed]
    rfl
  · obtain ⟨d, ds, rfl, hd, hd'⟩ := hstart hfeed
    rw [if_neg hfeed]
    exact dropLineEnd_of_ne hd hd' ds

/-- `quoted?` reads back what `writeMultiBasic` writes, up to the end of the line. -/
theorem quoted?_writeMultiBasic (cs rest : List Char) :
    quoted? (writeMultiBasic cs ++ '\n' :: rest) = some (cs, '\n' :: rest) := by
  have hall : writeMultiBasic cs ++ '\n' :: rest = '"' :: '"' :: '"' ::
      (leadingBreak cs ++ (multiBasicBody 0 cs ++ '"' :: '"' :: '"' :: '\n' :: rest)) := by
    unfold writeMultiBasic
    rw [List.append_assoc, List.append_assoc, List.append_assoc]
    rfl
  -- without a break behind the opening quotes, no line end may follow, as reading would drop it
  have hstart : '\n' ∉ cs →
      ∃ d ds, multiBasicBody 0 cs ++ '"' :: '"' :: '"' :: '\n' :: rest = d :: ds ∧
      d ≠ '\n' ∧ d ≠ '\r' := by
    intro hfeed
    cases cs with
    | nil => exact ⟨'"', _, rfl, by decide, by decide⟩
    | cons c cs =>
      rw [List.mem_cons, not_or] at hfeed
      by_cases hc : c = '"'
      · rw [hc]
        exact ⟨'"', _, rfl, by decide, by decide⟩
      · rw [multiBasicBody_of_ne hc]
        rcases escapeWith_cases (Ne.symm hfeed.1) hc ['\n'] ['"'] with
          ⟨code, hcode, -⟩ | ⟨hself, -, hreturn, -⟩
        · rw [hcode]
          exact ⟨'\\', _, rfl, by decide, by decide⟩
        · rw [hself]
          exact ⟨c, _, rfl, Ne.symm hfeed.1, hreturn⟩
  have hlength : cs.length ≤ (multiBasicBody 0 cs).length := length_le_multiBasicBody 0 cs
  rw [hall]
  show multiBasic? _ (dropLineEnd (leadingBreak cs ++ _)) = _
  rw [dropLineEnd_leadingBreak hstart]
  refine multiBasic?_body 0 (Nat.zero_le 2) ?_ (head?_ne (by decide))
  rw [List.length_append, List.length_append]
  omega

/-- `quoted?` reads back what `writeMultiLiteral` writes, if that can be written so. -/
theorem quoted?_writeMultiLiteral (htriple : hasTriple '\'' cs = false)
    (hcs : ∀ c ∈ cs, isControl c = false) (rest : List Char) :
    quoted? (writeMultiLiteral cs ++ '\n' :: rest) = some (cs, '\n' :: rest) := by
  have hall : writeMultiLiteral cs ++ '\n' :: rest = '\'' :: '\'' :: '\'' ::
      (leadingBreak cs ++ (cs ++ '\'' :: '\'' :: '\'' :: '\n' :: rest)) := by
    unfold writeMultiLiteral
    rw [List.append_assoc, List.append_assoc, List.append_assoc]
    rfl
  -- without a break behind the opening quotes, no line end may follow, as reading would drop it
  have hstart : '\n' ∉ cs → ∃ d ds, cs ++ '\'' :: '\'' :: '\'' :: '\n' :: rest = d :: ds ∧
      d ≠ '\n' ∧ d ≠ '\r' := by
    intro hfeed
    cases cs with
    | nil => exact ⟨'\'', _, rfl, by decide, by decide⟩
    | cons c cs =>
      rw [List.mem_cons, not_or] at hfeed
      refine ⟨c, _, rfl, Ne.symm hfeed.1, ?_⟩
      intro hreturn
      have hcontrol := hcs c List.mem_cons_self
      rw [hreturn] at hcontrol
      cases hcontrol
  rw [hall]
  show multiLiteral? (dropLineEnd (leadingBreak cs ++ _)) = _
  rw [dropLineEnd_leadingBreak hstart]
  exact multiLiteral?_body htriple hcs (head?_ne (by decide))

/-- `quoted?` reads back what `writeText` writes, up to the end of the line. The cases are the four
    forms that a text can be written in. -/
theorem quoted?_writeText (cs rest : List Char) :
    quoted? (writeText cs ++ '\n' :: rest) = some (cs, '\n' :: rest) := by
  have hcontrols : (cs.any isControl) = false → ∀ c ∈ cs, isControl c = false := fun h c hc =>
    Bool.eq_false_iff.2 fun hcontrol => by
      rw [List.any_eq_true.2 ⟨c, hc, hcontrol⟩] at h
      cases h
  unfold writeText
  simp only [Bool.and_eq_true, Bool.not_eq_true', List.contains_eq_mem, decide_eq_false_iff_not,
    decide_eq_true_eq]
  -- one case per style that `writeText` chooses, each read back by its own lemma
  split_ifs with hbasic hliteral hmulti hraw hfeed
  · exact quoted?_writeBasic cs rest
  · obtain ⟨⟨hplain, hfeed⟩, hquote⟩ := hliteral
    refine quoted?_writeLiteral hquote (fun c hc => ?_) rest
    exact isPrintable_of_not_control (hcontrols hplain c hc) fun heq => hfeed (heq ▸ hc)
  · exact quoted?_writeMultiBasic cs rest
  · exact quoted?_writeMultiLiteral hraw.2 (hcontrols hraw.1) rest
  · exact quoted?_writeMultiBasic cs rest
  · exact quoted?_writeBasic cs rest

end Twilight.Toml
