import Twilight.Proofs.Toml.Quoted

namespace Twilight.Toml

/-!
# Written documents read back

* `keyPart?_writeKey`, `value?_writeText` — a written key and a written value.
* `line?_writeEntry`, `line?_writeHeader` — a written line.
* `Reads` — what the lines of a text make of the table read so far; it composes line by line.
* `Reads.entries` — lines of entries append them to the table that is open.
* `Reads.document?` — a text that is read through is a document.
-/

variable {c d : Char} {cs ks vs rest : List Char}

/-! ### Keys -/

/-- What a written key starts with. -/
def IsKeyStart (c : Char) : Prop := isBareChar c = true ∨ c = '"' ∨ c = '\''

instance (c : Char) : Decidable (IsKeyStart c) :=
  inferInstanceAs (Decidable (_ ∨ _ ∨ _))

/-- What starts a key is none of the characters that do not. -/
theorem ne_of_isKeyStart (hc : IsKeyStart c) (hd : ¬IsKeyStart d) : c ≠ d := fun h => hd (h ▸ hc)

/-- What `writeKey` writes is not empty, and begins as a key does. -/
theorem exists_writeKey (ks : List Char) : ∃ c cs, writeKey ks = c :: cs ∧ IsKeyStart c := by
  unfold writeKey
  dsimp only
  split_ifs with hbare hbasic hliteral
  · obtain ⟨hne, hall⟩ := hbare
    obtain ⟨c, cs, rfl⟩ := List.exists_cons_of_ne_nil hne
    exact ⟨c, cs, rfl, .inl (List.all_eq_true.1 hall c List.mem_cons_self)⟩
  · exact ⟨'"', _, rfl, .inr (.inl rfl)⟩
  · exact ⟨'\'', _, rfl, .inr (.inr rfl)⟩
  · exact ⟨'"', _, rfl, .inr (.inl rfl)⟩

/-- A key in quotes is read by `keyPart?` as the text in them. -/
theorem keyPart?_of_singleLine? (hc : c = '"' ∨ c = '\'')
    (hread : singleLine? (c :: cs) = some (ks, rest)) :
    keyPart? (c :: cs) = some (String.ofList ks, rest) := by
  unfold keyPart?
  simp only [if_pos hc, hread, Option.map_some]

/-- A written key is read up to a character that is none of a bare key. -/
theorem keyPart?_writeKey (hd : isBareChar d = false) (ks rest : List Char) :
    keyPart? (writeKey ks ++ d :: rest) = some (String.ofList ks, d :: rest) := by
  unfold writeKey
  dsimp only
  split_ifs with hbare hbasic hliteral
  · -- a bare key ends at the first character that cannot be in one
    obtain ⟨hne, hall⟩ := hbare
    have hall : ∀ c ∈ ks, isBareChar c = true := List.all_eq_true.1 hall
    obtain ⟨c, cs, rfl⟩ := List.exists_cons_of_ne_nil hne
    have hc : isBareChar c = true := hall c List.mem_cons_self
    have hquote : ¬(c = '"' ∨ c = '\'') := by
      rintro (rfl | rfl)
      · cases hc
      · cases hc
    have htake : (c :: cs ++ d :: rest).takeWhile isBareChar = c :: cs := by
      rw [List.takeWhile_append_of_pos hall, List.takeWhile_cons_of_neg (by rw [hd]; decide),
        List.append_nil]
    have hdrop : (c :: cs ++ d :: rest).dropWhile isBareChar = d :: rest := by
      rw [List.dropWhile_append_of_pos hall, List.dropWhile_cons_of_neg (by rw [hd]; decide)]
    show (if c = '"' ∨ c = '\'' then _ else _) = _
    rw [if_neg hquote]
    show (if (c :: cs ++ d :: rest).takeWhile isBareChar = [] then none else
      some (String.ofList ((c :: cs ++ d :: rest).takeWhile isBareChar),
        (c :: cs ++ d :: rest).dropWhile isBareChar)) = _
    rw [htake, hdrop, if_neg (List.cons_ne_nil c cs)]
  · exact keyPart?_of_singleLine? (.inl rfl) (singleLine?_writeBasic ks (d :: rest))
  · -- between apostrophes nothing is escaped, so every character has to be printable
    obtain ⟨hplain, hquote⟩ := Bool.and_eq_true_iff.1 hliteral
    obtain ⟨hcontrol, hfeed⟩ := Bool.and_eq_true_iff.1 hplain
    refine keyPart?_of_singleLine? (.inr rfl) (singleLine?_writeLiteral ?_ ?_ (d :: rest))
    · simpa using hquote
    · intro c hc
      simp only [Bool.not_eq_true', List.any_eq_false, List.contains_eq_mem,
        decide_eq_false_iff_not] at hcontrol hfeed
      exact isPrintable_of_not_control (Bool.eq_false_iff.2 (hcontrol c hc)) fun h => hfeed (h ▸ hc)
  · exact keyPart?_of_singleLine? (.inl rfl) (singleLine?_writeBasic ks (d :: rest))

/-- `skipSpaces` stops at the first character that is no space. -/
theorem skipSpaces_cons (hc : isSpace c = false) (cs : List Char) :
    skipSpaces (c :: cs) = c :: cs := List.dropWhile_cons_of_neg (by rw [hc]; decide)

/-- `skipSpaces` skips nothing in front of a written key. -/
theorem skipSpaces_writeKey (ks rest : List Char) :
    skipSpaces (writeKey ks ++ rest) = writeKey ks ++ rest := by
  obtain ⟨c, cs, hcs, hc⟩ := exists_writeKey ks
  have hspace : isSpace c = false := by
    unfold isSpace
    simp only [Bool.or_eq_false_iff, beq_eq_false_iff_ne]
    exact ⟨ne_of_isKeyStart hc (by decide), ne_of_isKeyStart hc (by decide)⟩
  rw [hcs]
  exact skipSpaces_cons hspace _

/-- A key ends where no dot follows. -/
theorem keyTail?_end (hc : isSpace c = false) (hdot : c ≠ '.') (turns : Nat) (cs : List Char) :
    keyTail? turns (c :: cs) = some ([], c :: cs) := by
  cases turns with
  | zero => rfl
  | succ turns =>
    unfold keyTail?
    rw [skipSpaces_cons hc]
    split
    · rename_i heq
      exact absurd (List.cons.inj heq).1 hdot
    · rfl

/-- `key?` reads back the key of an entry, up to the equals sign. -/
theorem key?_writeKey (ks rest : List Char) :
    key? (writeKey ks ++ ' ' :: '=' :: rest) = some (⟨[], String.ofList ks⟩, '=' :: rest) := by
  unfold key?
  rw [skipSpaces_writeKey, keyPart?_writeKey (by decide)]
  rfl

/-- `key?` reads back the two keys of a header, up to the bracket. -/
theorem key?_writeHeader (ks vs rest : List Char) :
    key? (writeKey ks ++ '.' :: (writeKey vs ++ ']' :: rest)) =
      some (⟨[String.ofList ks], String.ofList vs⟩, ']' :: rest) := by
  have htail : keyTail? ('.' :: (writeKey vs ++ ']' :: rest)).length
      ('.' :: (writeKey vs ++ ']' :: rest)) = some ([String.ofList vs], ']' :: rest) := by
    have hpart : keyPart? (skipSpaces (writeKey vs ++ ']' :: rest)) =
        some (String.ofList vs, ']' :: rest) := by
      rw [skipSpaces_writeKey, keyPart?_writeKey (by decide)]
    rw [List.length_cons]
    unfold keyTail?
    rw [skipSpaces_cons (by decide)]
    simp only [hpart, keyTail?_end (c := ']') (by decide) (by decide), Option.map_some]
  unfold key?
  rw [skipSpaces_writeKey, keyPart?_writeKey (by decide)]
  simp only [htail]
  rfl

/-! ### Values and lines -/

/-- What `writeText` writes begins with a quote. -/
theorem exists_writeText (vs : List Char) :
    ∃ c cs, writeText vs = c :: cs ∧ (c = '"' ∨ c = '\'') := by
  unfold writeText
  dsimp only
  split_ifs
  · exact ⟨'"', _, rfl, .inl rfl⟩
  · exact ⟨'\'', _, rfl, .inr rfl⟩
  · exact ⟨'"', _, rfl, .inl rfl⟩
  · exact ⟨'\'', _, rfl, .inr rfl⟩
  · exact ⟨'"', _, rfl, .inl rfl⟩
  · exact ⟨'"', _, rfl, .inl rfl⟩

/-- `value?` reads back what `writeText` writes, up to the end of the line. -/
theorem value?_writeText (depth : Nat) (vs rest : List Char) :
    value? depth (writeText vs ++ '\n' :: rest) =
      some (.text (String.ofList vs), '\n' :: rest) := by
  obtain ⟨c, cs, hcs, hc⟩ := exists_writeText vs
  have hread := quoted?_writeText vs rest
  rw [hcs] at hread ⊢
  rw [List.cons_append] at hread ⊢
  rw [value?.eq_def]
  simp only [if_pos hc, hread, Option.map_some]

/-- `keyValue?` reads back the key and the value of a written entry, up to the end of the line. -/
theorem keyValue?_writeEntry (depth : Nat) (ks vs rest : List Char) :
    keyValue? (value? depth) (writeKey ks ++ ' ' :: '=' :: ' ' :: (writeText vs ++ '\n' :: rest)) =
      some ((⟨[], String.ofList ks⟩, .text (String.ofList vs)), '\n' :: rest) := by
  have hvalue : skipSpaces (' ' :: (writeText vs ++ '\n' :: rest)) =
      writeText vs ++ '\n' :: rest := by
    obtain ⟨c, cs, hcs, hc⟩ := exists_writeText vs
    have hspace : isSpace c = false := by
      rcases hc with rfl | rfl
      · rfl
      · rfl
    rw [hcs]
    exact skipSpaces_cons hspace _
  unfold keyValue?
  rw [key?_writeKey]
  show (value? depth (skipSpaces (' ' :: (writeText vs ++ '\n' :: rest)))).map _ = _
  rw [hvalue, value?_writeText]
  rfl

/-- The characters that `writeEntry` writes: the key and the text with an equals sign between them,
    and a line feed. -/
theorem writeEntry_append (key value : String) (rest : List Char) :
    writeEntry key value ++ rest = writeKey key.toList ++
      ' ' :: '=' :: ' ' :: (writeText value.toList ++ '\n' :: rest) := by
  unfold writeEntry
  rw [List.append_assoc, List.append_assoc, List.append_assoc]
  rfl

/-- A line with a key and a value is read by `line?` into the table that is open. -/
theorem line?_of_keyValue? {k : DottedKey} {v : Value} (hc : IsKeyStart c) (p : Progress)
    (hread : keyValue? (value? (nestingLimit - 1)) (c :: cs) = some ((k, v), '\n' :: rest)) :
    line? p (c :: cs) =
      (changeOpened (insertAt k.path k.last v) p.opened .header p.root).map
        fun root => ({ p with root := root }, rest) := by
  have hspace : isSpace c = false := by
    unfold isSpace
    simp only [Bool.or_eq_false_iff, beq_eq_false_iff_ne]
    exact ⟨ne_of_isKeyStart hc (by decide), ne_of_isKeyStart hc (by decide)⟩
  -- the line is neither blank nor a header
  have hbracket : c ≠ '[' := ne_of_isKeyStart hc (by decide)
  have hblank : ¬(c = '#' ∨ c = '\n' ∨ c = '\r') := by
    rintro (h | h | h)
    · exact ne_of_isKeyStart hc (by decide) h
    · exact ne_of_isKeyStart hc (by decide) h
    · exact ne_of_isKeyStart hc (by decide) h
  unfold line?
  rw [skipSpaces_cons hspace]
  split
  · rename_i heq
    exact absurd (List.cons.inj heq).1 hbracket
  · rename_i heq
    exact absurd (List.cons.inj heq).1 hbracket
  · rename_i heq
    cases heq
  · rename_i heq
    obtain ⟨rfl, rfl⟩ := List.cons.inj heq
    rw [if_neg hblank, hread]
    show (changeOpened (insertAt k.path k.last v) p.opened .header p.root).bind _ = _
    cases changeOpened (insertAt k.path k.last v) p.opened .header p.root with
    | none => rfl
    | some root => rfl

/-- The line of an entry puts it into the table that is open. -/
theorem line?_writeEntry (p : Progress) (key value : String) (rest : List Char) :
    line? p (writeEntry key value ++ rest) =
      (changeOpened (insertAt [] key (.text value)) p.opened .header p.root).map
        fun root => ({ p with root := root }, rest) := by
  have hread := keyValue?_writeEntry (nestingLimit - 1) key.toList value.toList rest
  obtain ⟨c, cs, hcs, hc⟩ := exists_writeKey key.toList
  rw [writeEntry_append]
  rw [hcs] at hread ⊢
  rw [String.ofList_toList, String.ofList_toList] at hread
  exact line?_of_keyValue? hc p hread

/-- `line?` reads what `writeHeader` writes as the header of a table, which is open from then on. -/
theorem line?_writeHeader (p : Progress) (outer inner : String) (rest : List Char) :
    line? p (writeHeader outer inner ++ rest) =
      (openTable [outer] inner p.root).map
        fun root => ({ root := root, opened := [outer, inner] }, rest) := by
  have hread := key?_writeHeader outer.toList inner.toList ('\n' :: rest)
  have hall : writeHeader outer inner ++ rest = '[' :: (writeKey outer.toList ++
      '.' :: (writeKey inner.toList ++ ']' :: '\n' :: rest)) := by
    unfold writeHeader
    rw [List.append_assoc]
    show '[' :: ((writeKey outer.toList ++ '.' :: writeKey inner.toList) ++ _) = _
    rw [List.append_assoc]
    rfl
  obtain ⟨c, cs, hcs, hc⟩ := exists_writeKey outer.toList
  -- it is not the header of an array of tables
  have hbracket : c ≠ '[' := ne_of_isKeyStart hc (by decide)
  rw [hall]
  rw [hcs] at hread ⊢
  rw [String.ofList_toList, String.ofList_toList] at hread
  unfold line?
  rw [skipSpaces_cons (by decide)]
  split
  · rename_i heq
    exact absurd (List.cons.inj (List.cons.inj heq).2).1 hbracket
  · rename_i heq
    obtain rfl := (List.cons.inj heq).2
    rw [hread]
    show (openTable [outer] inner p.root).bind _ = _
    cases openTable [outer] inner p.root with
    | none => rfl
    | some root => rfl
  · rename_i heq
    cases heq
  · rename_i hother heq
    exact absurd (List.cons.inj heq).1.symm hother

/-- An empty line changes nothing. -/
theorem line?_lineFeed (p : Progress) (rest : List Char) :
    line? p ('\n' :: rest) = some (p, rest) := rfl

/-! ### Line after line -/

/-- The lines of a text, in front of any other text, lead from one table read so far to another. -/
def Reads (p : Progress) (text : List Char) (q : Progress) : Prop :=
  ∀ rest turns, (text ++ rest).length < turns →
    ∃ left, rest.length < left ∧ lines? turns p (text ++ rest) = lines? left q rest

namespace Reads

variable {p q r : Progress} {text more : List Char}

theorem refl (p : Progress) : Reads p [] p := fun _ turns hturns => ⟨turns, hturns, rfl⟩

theorem trans (hr : Reads p text q) (hm : Reads q more r) : Reads p (text ++ more) r := by
  intro rest turns hturns
  rw [List.append_assoc] at hturns ⊢
  obtain ⟨left, hleft, heq⟩ := hr (more ++ rest) turns hturns
  obtain ⟨left', hleft', heq'⟩ := hm rest left hleft
  exact ⟨left', hleft', heq.trans heq'⟩

/-- A text that is read as one line is read as lines. -/
theorem line (hne : text ≠ []) (hline : ∀ rest, line? p (text ++ rest) = some (q, rest)) :
    Reads p text q := by
  intro rest turns hturns
  obtain ⟨turns, rfl⟩ := Nat.exists_eq_add_one_of_ne_zero (Nat.ne_zero_of_lt hturns)
  have hpos : 0 < text.length := List.length_pos_iff.2 hne
  rw [List.length_append] at hturns
  refine ⟨turns, by omega, ?_⟩
  show (if text ++ rest = [] then some p.root else _) = _
  rw [if_neg (List.append_ne_nil_of_left_ne_nil hne rest), hline rest]

/-- A text that `Reads` through to some progress is read by `lines?` as what was read then. -/
theorem lines? (hr : Reads p text q) : Toml.lines? (text.length + 1) p text = some q.root := by
  obtain ⟨left, -, heq⟩ := hr [] (text.length + 1) (by rw [List.append_nil]; omega)
  rw [List.append_nil] at heq
  rw [heq]
  cases left with
  | zero => rfl
  | succ left => rfl

/-- No byte order mark is in front of a text that is read through. -/
theorem document? {s : String} (hr : Reads {} s.toList q)
    (hmark : s.toList.head? ≠ some '\uFEFF') : Toml.document? s = some q.root := by
  unfold Toml.document?
  split
  · rename_i heq
    rw [heq] at hmark
    exact absurd rfl hmark
  · exact hr.lines?

end Reads

/-! ### Entries -/

/-- A key is looked up in the first entries, and then in those behind them. -/
theorem get?_append (es fs : Entries) (key : String) :
    (es ++ fs : Entries).get? key = (es.get? key <|> fs.get? key) := by
  induction es with
  | nil => rfl
  | cons e es ih =>
    obtain ⟨k, v⟩ := e
    show (if k = key then some v else Entries.get? (es ++ fs) key) =
      ((if k = key then some v else Entries.get? es key) <|> fs.get? key)
    by_cases hk : k = key
    · rw [if_pos hk, if_pos hk]
      rfl
    · rw [if_neg hk, if_neg hk, ih]

/-- A key that no entry has is not found. -/
theorem get?_eq_none {es : Entries} {key : String} (hes : ∀ e ∈ es, e.1 ≠ key) :
    es.get? key = none := by
  induction es with
  | nil => rfl
  | cons e es ih =>
    obtain ⟨he, hes⟩ := List.forall_mem_cons.1 hes
    show (if e.1 = key then some e.2 else Entries.get? es key) = none
    rw [if_neg he, ih hes]

/-- Setting a new key puts an entry behind the others. -/
theorem set_of_get?_eq_none {es : Entries} {key : String} (hkey : es.get? key = none) (v : Value) :
    es.set key v = es ++ [(key, v)] := by
  induction es with
  | nil => rfl
  | cons e es ih =>
    obtain ⟨k, w⟩ := e
    change (if k = key then some w else Entries.get? es key) = none at hkey
    show (if k = key then (k, v) :: es else (k, w) :: Entries.set es key v) = _
    by_cases hk : k = key
    · rw [if_pos hk] at hkey
      cases hkey
    · rw [if_neg hk] at hkey ⊢
      rw [ih hkey]
      rfl

/-- The value under the key of the last entry, if no earlier one has it, is put in its place. -/
theorem set_append {es : Entries} {key : String} (hkey : es.get? key = none) (v w : Value) :
    Entries.set (es ++ [(key, v)]) key w = es ++ [(key, w)] := by
  induction es with
  | nil => exact if_pos rfl
  | cons e es ih =>
    obtain ⟨k, u⟩ := e
    change (if k = key then some u else Entries.get? es key) = none at hkey
    show (if k = key then _ else (k, u) :: Entries.set (es ++ [(key, v)]) key w) = _
    by_cases hk : k = key
    · rw [if_pos hk] at hkey
      cases hkey
    · rw [if_neg hk] at hkey ⊢
      rw [ih hkey]
      rfl

/-- The entries of a table of texts. -/
def textEntries (es : List (String × String)) : Entries := es.map fun e => (e.1, .text e.2)

/-- Inserting under a new key puts an entry behind the others, where the table may be extended. -/
theorem insertAt_append {form : TableForm} {es : Entries} {key : String} (hform : form ≠ .dotted)
    (hkey : es.get? key = none) (v : Value) :
    insertAt [] key v form es = some (es ++ [(key, v)]) := by
  have hopen : ¬ decide (form = .dotted) = List.isEmpty ([] : List String) := by simpa using hform
  unfold insertAt updateAt
  rw [if_neg hopen]
  simp only [hkey, set_of_get?_eq_none hkey]

/-- The progress with given entries in the table that is open: a new entry is put behind them. -/
structure Opens (focus : Entries → Progress) : Prop where
  opened : ∀ es fs, (focus es).opened = (focus fs).opened
  append : ∀ es key v, es.get? key = none →
    changeOpened (insertAt [] key v) (focus es).opened .header (focus es).root =
      some (focus (es ++ [(key, v)])).root

/-- The lines of entries put them behind those that the open table has. -/
theorem Reads.entries {focus : Entries → Progress} (ho : Opens focus) {es : List (String × String)}
    (hkeys : es.Pairwise fun e f => e.1 ≠ f.1) {earlier : Entries}
    (hfresh : ∀ e ∈ es, earlier.get? e.1 = none) :
    Reads (focus earlier) (writeEntries es) (focus (earlier ++ textEntries es)) := by
  induction es generalizing earlier with
  | nil =>
    show Reads (focus earlier) [] (focus (earlier ++ []))
    rw [List.append_nil]
    exact Reads.refl _
  | cons e es ih =>
    obtain ⟨key, value⟩ := e
    obtain ⟨hne, hkeys⟩ := List.pairwise_cons.1 hkeys
    obtain ⟨hkey, hfresh⟩ := List.forall_mem_cons.1 hfresh
    have hline : ∀ rest, line? (focus earlier) (writeEntry key value ++ rest) =
        some (focus (earlier ++ [(key, .text value)]), rest) := by
      intro rest
      rw [line?_writeEntry, ho.append earlier key (.text value) hkey, Option.map_some]
      rw [ho.opened earlier (earlier ++ [(key, .text value)])]
    -- the keys that follow are new still
    have hrest : ∀ f ∈ es, (earlier ++ [(key, Value.text value)] : Entries).get? f.1 = none := by
      intro f hf
      rw [get?_append, hfresh f hf]
      show (if key = f.1 then some (Value.text value) else none) = none
      rw [if_neg (hne f hf)]
    have hall : earlier ++ textEntries ((key, value) :: es) =
        earlier ++ [(key, .text value)] ++ textEntries es := by
      rw [List.append_assoc]
      rfl
    have hwritten : writeEntry key value ≠ [] := by
      have hwrite := writeEntry_append key value []
      rw [List.append_nil] at hwrite
      rw [hwrite]
      exact List.append_ne_nil_of_right_ne_nil _ (List.cons_ne_nil _ _)
    rw [hall]
    exact (Reads.line hwritten hline).trans (ih hkeys hrest)

end Twilight.Toml
