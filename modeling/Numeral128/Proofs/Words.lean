import Numeral128.Proofs.RoundTrip
import Numeral128.Proofs.Scanning

/-!
# Numerals within words

A numeral is read character by character, a word by a search for the next blank.  The two agree on
where words end: whatever reading a numeral comes to, it takes no blank after those before the
numeral (`exists_taken`), so that it stops within the first word or at one of its ends.

`scanInt_within_word` says so of scans.  The integer is scanned from the first word that is left,
and the next word is what it has left of this word, or the word after it if nothing is left
(`Session.StandsWithin`).  Hence a scan of an integer and one of a word, one after the other, keep
every character that is not blank, in order, but for those of the numeral.
-/

namespace Numeral128

/-! ### Blanks and words -/

/-- The characters of `text` before its first blank. -/
def beforeBlank (text : List Char) : List Char := text.takeWhile fun c => !isBlank c

/-- The `text` from its first blank on. -/
def fromBlank (text : List Char) : List Char := text.dropWhile fun c => !isBlank c

/-- The characters of `text` that are not blank. -/
def solids (text : List Char) : List Char := text.filter fun c => !isBlank c

section Words

variable {text taken left : List Char}

theorem wordOf_eq (text : List Char) : wordOf text = beforeBlank (text.dropWhile isBlank) := rfl

theorem afterWord_eq (text : List Char) : afterWord text = fromBlank (text.dropWhile isBlank) := rfl

theorem beforeBlank_append_fromBlank (text : List Char) :
    beforeBlank text ++ fromBlank text = text :=
  List.takeWhile_append_dropWhile

theorem isBlank_of_mem_beforeBlank {c : Char} (h : c ∈ beforeBlank text) : isBlank c = false := by
  simpa using List.mem_takeWhile_imp h

theorem isBlank_of_mem_wordOf {c : Char} (h : c ∈ wordOf text) : isBlank c = false :=
  isBlank_of_mem_beforeBlank h

/-- Characters `taken` that are not blank extend the start of a word. -/
theorem beforeBlank_append (h : ∀ c ∈ taken, isBlank c = false) (left : List Char) :
    beforeBlank (taken ++ left) = taken ++ beforeBlank left :=
  List.takeWhile_append_of_pos fun c hc => by rw [h c hc]; rfl

theorem fromBlank_append (h : ∀ c ∈ taken, isBlank c = false) (left : List Char) :
    fromBlank (taken ++ left) = fromBlank left :=
  List.dropWhile_append_of_pos fun c hc => by rw [h c hc]; rfl

/-- The first word goes on after the characters `taken` of it, with what is `left`. -/
theorem wordOf_of_taken (h : text.dropWhile isBlank = taken ++ left)
    (htaken : ∀ c ∈ taken, isBlank c = false) :
    wordOf text = taken ++ beforeBlank left ∧ afterWord text = fromBlank left := by
  rw [wordOf_eq, afterWord_eq, h]
  exact ⟨beforeBlank_append htaken left, fromBlank_append htaken left⟩

/-- A `text` that does not begin with a blank begins with a word. -/
theorem wordOf_of_beforeBlank_ne_nil (h : beforeBlank text ≠ []) :
    wordOf text = beforeBlank text := by
  cases text with
  | nil => exact absurd rfl h
  | cons c cs =>
    by_cases hc : isBlank c = true
    · simp [beforeBlank, hc] at h
    · rw [wordOf_eq, List.dropWhile_cons_of_neg hc]

theorem fromBlank_of_beforeBlank_eq_nil (h : beforeBlank text = []) : fromBlank text = text := by
  have hsplit := beforeBlank_append_fromBlank text
  rwa [h, List.nil_append] at hsplit

/-- What a scan of a word answers when `text` is left. -/
def wordAnswer (text : List Char) : Option (List Char) :=
  if wordOf text = [] then none else some (wordOf text)

theorem getD_wordAnswer (text : List Char) : (wordAnswer text).getD [] = wordOf text := by
  unfold wordAnswer
  split_ifs with h
  · exact h.symm
  · rfl

/-- The next word is what is left of a word, or the word after it if nothing is left. -/
theorem wordAnswer_eq (text : List Char) :
    wordAnswer text =
      if beforeBlank text = [] then wordAnswer (fromBlank text) else some (beforeBlank text) := by
  by_cases h : beforeBlank text = []
  · rw [if_pos h, fromBlank_of_beforeBlank_eq_nil h]
  · rw [if_neg h, wordAnswer, wordOf_of_beforeBlank_ne_nil h, if_neg h]

/-- The solid characters of `xs` come before those of `ys`. -/
theorem solids_append (xs ys : List Char) : solids (xs ++ ys) = solids xs ++ solids ys :=
  List.filter_append xs ys

theorem solids_of_blank (h : ∀ c ∈ text, isBlank c = true) : solids text = [] := by
  unfold solids
  rw [List.filter_eq_nil_iff]
  intro c hc
  simp [h c hc]

theorem solids_of_solid (h : ∀ c ∈ text, isBlank c = false) : solids text = text := by
  unfold solids
  rw [List.filter_eq_self]
  intro c hc
  simp [h c hc]

theorem solids_dropWhile (text : List Char) : solids (text.dropWhile isBlank) = solids text := by
  have hblanks : ∀ c ∈ text.takeWhile isBlank, isBlank c = true :=
    fun c hc => List.mem_takeWhile_imp hc
  have hsplit := solids_append (text.takeWhile isBlank) (text.dropWhile isBlank)
  rwa [List.takeWhile_append_dropWhile, solids_of_blank hblanks, List.nil_append, eq_comm] at hsplit

/-- The solid characters of `text` are those of its first word and those after it. -/
theorem solids_eq (text : List Char) : solids text = wordOf text ++ solids (afterWord text) := by
  have hword : ∀ c ∈ wordOf text, isBlank c = false := fun c hc => isBlank_of_mem_wordOf hc
  calc solids text
      = solids (wordOf text ++ afterWord text) := by
        rw [wordOf_eq, afterWord_eq, beforeBlank_append_fromBlank, solids_dropWhile]
    _ = wordOf text ++ solids (afterWord text) := by rw [solids_append, solids_of_solid hword]

end Words

/-! ### What a numeral takes -/

theorem BaseChoice.isBlank_of_mem_prefixOf {choice : BaseChoice} {text : List Char} {c : Char}
    (h : c ∈ choice.prefixOf text) : isBlank c = false := by
  -- a prefix is empty, or a zero and a letter
  obtain hnil | ⟨x, hx, hletter⟩ := choice.prefixOf_eq_nil_or text
  · simp [hnil] at h
  · rw [hletter] at h
    rcases hx with rfl | rfl <;> rcases List.mem_pair.mp h with rfl | rfl <;> decide

/-- The signs, prefixes and digits that are passed before a text is rejected are not blank: it is
`taken` and then `left`. -/
theorem Rejects.exists_taken {t : IntType} {choice : BaseChoice} {text left : List Char}
    {e : Rejection} (h : Rejects t choice text e left) :
    ∃ taken, text = taken ++ left ∧ ∀ c ∈ taken, isBlank c = false := by
  have hsign : ∀ c ∈ signOf text, isBlank c = false := isBlank_of_isSign (isSign_signOf text)
  have hpre : ∀ c ∈ choice.prefixOf (afterSign text), isBlank c = false :=
    fun c hc => BaseChoice.isBlank_of_mem_prefixOf hc
  have hhead : ∀ c ∈ signOf text ++ choice.prefixOf (afterSign text), isBlank c = false :=
    List.forall_mem_append.mpr ⟨hsign, hpre⟩
  -- up to the digits every text divides in the same way
  have hsplit : text = signOf text ++ choice.prefixOf (afterSign text) ++
      choice.afterPrefix (afterSign text) := by
    rw [List.append_assoc, choice.prefixOf_append_afterPrefix, signOf_append_afterSign]
  cases h with
  | nothing => exact ⟨[], rfl, by simp⟩
  | minusSign _ => exact ⟨[], rfl, by simp⟩
  | cutOff _ _ hcut =>
    rw [BaseChoice.afterPrefix_eq_nil_iff.mpr hcut] at hsplit
    exact ⟨_, hsplit, hhead⟩
  | notDigit _ hds _ =>
    rw [hds] at hsplit
    exact ⟨_, hsplit, hhead⟩
  | @outOfRange _ b k _ _ hk =>
    -- the digits that are passed are a part of the run of digits
    have hdigits : ∀ c ∈ (choice.afterPrefix (afterSign text)).take k, isBlank c = false := by
      intro c hc
      have hrun := List.takeWhile_prefix (l := choice.afterPrefix (afterSign text)) b.isDigit
      obtain ⟨rest, hrest⟩ := hrun
      rw [← hrest, List.take_append_of_le_length hk.1.1] at hc
      exact Base.isBlank_of_isDigit (List.mem_takeWhile_imp (List.mem_of_mem_take hc))
    refine ⟨signOf text ++ choice.prefixOf (afterSign text) ++
      (choice.afterPrefix (afterSign text)).take k, ?_, ?_⟩
    · rw [List.append_assoc, List.take_append_drop, ← hsplit]
    · exact List.forall_mem_append.mpr ⟨hhead, hdigits⟩

/-- Once the blanks before it have been passed, a numeral of type `t` takes no blank, and at least
one character if there is a value. -/
theorem exists_taken (t : IntType) (choice : BaseChoice) (text : List Char) :
    ∃ taken, text.dropWhile isBlank = taken ++ (readText t choice text).reader ∧
      (∀ c ∈ taken, isBlank c = false) ∧
      ∀ value, (readText t choice text).outcome = .ok value → taken ≠ [] := by
  obtain ⟨e, left, hrejects⟩ | ⟨b, w, s, p, d, rest, rfl, hshape, hminus, hin⟩ :=
    rejects_or_numeralShape t choice text
  · obtain ⟨taken, htext, htaken⟩ := hrejects.exists_taken
    obtain ⟨houtcome, hleft⟩ := readText_of_rejects hrejects
    refine ⟨taken, by rw [hleft, htext], htaken, ?_⟩
    intro value hvalue
    simp [houtcome] at hvalue
  · rw [hshape.readText_of_inRange hminus hin, hshape.dropWhile_isBlank]
    -- sign, prefix and digits have been taken, and none of them is blank
    refine ⟨s ++ p ++ d, rfl, ?_, ?_⟩
    · intro c hc
      rcases List.mem_append.mp hc with hc | hc
      · rcases List.mem_append.mp hc with hc | hc
        · exact isBlank_of_isSign hshape.isSign c hc
        · rw [hshape.prefix_eq] at hc
          exact BaseChoice.isBlank_of_mem_prefixOf hc
      · exact Base.isBlank_of_isDigit (hshape.isDigit_of_mem hc)
    · intro _ _
      exact List.append_ne_nil_of_right_ne_nil (s ++ p) hshape.digits_ne_nil

/-! ### Scans -/

theorem byteLength_pos {text : List Char} (h : text ≠ []) : 0 < byteLength text := by
  obtain ⟨c, cs, rfl⟩ := List.exists_cons_of_ne_nil h
  have hc := c.utf8Size_pos
  unfold byteLength
  omega

namespace TextReader

/-- A jump over the characters `cs`, which are to come, leads behind them. -/
theorem Between.jump {r : TextReader} {before cs ds : List Char}
    (h : r.Between before (cs ++ ds)) :
    (r.jump (r.offset + byteLength cs)).Between (before ++ cs) ds where
  text_eq := by
    show r.text = _
    rw [h.text_eq, List.append_assoc]
  offset_eq := by
    show r.offset + byteLength cs = _
    rw [h.offset_eq, byteLength_append]
  last_eq o ho := by simp [TextReader.jump, ReadPosition.ofOffset] at ho

/-- Two readers of one text are as far apart as the text `passed` between them is long. -/
theorem Placed.offset_eq_add {r r' : TextReader} {passed : List Char} (h : r.Placed)
    (h' : r'.Placed) (htext : r'.text = r.text) (hrest : r.rest = passed ++ r'.rest) :
    r'.offset = r.offset + byteLength passed := by
  have hbefore := h.offset_add
  have hafter := h'.offset_add
  rw [hrest, byteLength_append] at hbefore
  rw [htext] at hafter
  omega

/-- Behind the bytes of `passed` stands what is `left`. -/
theorem Placed.suffixAt?_eq {r : TextReader} {passed left : List Char} (h : r.Placed)
    (hrest : r.rest = passed ++ left) :
    suffixAt? r.text (r.offset + byteLength passed) = some left := by
  obtain ⟨before, after, hbetween⟩ := h
  rw [hbetween.rest_eq] at hrest
  rw [hbetween.text_eq, hbetween.offset_eq, ← byteLength_append, hrest, ← List.append_assoc,
    suffixAt?_byteLength]

end TextReader

namespace Session

variable {s : Session} {t : IntType}

/-- A scan of a word passes `wordOf` of what is left, or all blanks if there is none. -/
theorem step_scanWord_of_ready (h : s.scanner.failed = false) (hplaced : s.scanner.reader.Placed) :
    (s.step .scanWord).answer = .word (wordAnswer s.scanner.rest) ∧
      (s.step .scanWord).session.scanner.rest = afterWord s.scanner.rest ∧
      (s.step .scanWord).session.scanner.reader.text = s.scanner.reader.text ∧
      ((s.step .scanWord).session.scanner.failed = true ↔ wordOf s.scanner.rest = []) := by
  obtain ⟨before, after, hbetween⟩ := hplaced
  have hrest : s.scanner.rest = after := hbetween.rest_eq
  unfold wordAnswer
  by_cases hword : wordOf s.scanner.rest = []
  · rw [step_scanWord_of_nil h hword, if_pos hword]
    refine ⟨rfl, ?_, rfl, iff_of_true rfl hword⟩
    have hnil : afterWord after = [] := by
      rw [afterWord, List.dropWhile_eq_nil_iff.mpr (wordOf_eq_nil_iff.mp (hrest ▸ hword)),
        List.dropWhile_nil]
    -- without a word the jump goes to the end of the text, over blanks only
    have hend : s.scanner.reader.offset + byteLength after =
        byteLength s.scanner.reader.text := by
      rw [hbetween.offset_eq, hbetween.text_eq, byteLength_append]
    rw [← List.append_nil after] at hbetween
    have hjump := hbetween.jump
    rw [hend] at hjump
    rw [hrest, hnil]
    exact hjump.rest_eq
  · rw [step_scanWord_of_word h hword, if_neg hword]
    have hready : ¬ s.scanner.failed = true := by simp [h]
    refine ⟨rfl, ?_, rfl, iff_of_false hready hword⟩
    rw [hrest]
    rw [← blanks_append_word after] at hbetween
    exact hbetween.jump.rest_eq

/-- A scan of a word ends behind the blanks and `wordOf` of what is left. -/
theorem offset_step_scanWord (hs : s.Reachable) (h : s.scanner.failed = false) :
    s.scanner.rest = s.scanner.rest.takeWhile isBlank ++ wordOf s.scanner.rest ++
        (s.step .scanWord).session.scanner.rest ∧
      (s.step .scanWord).session.scanner.offset =
        s.scanner.offset + byteLength (s.scanner.rest.takeWhile isBlank) +
          byteLength (wordOf s.scanner.rest) := by
  obtain ⟨-, hrest, htext, -⟩ := step_scanWord_of_ready h hs.placed
  have hpassed : s.scanner.rest = s.scanner.rest.takeWhile isBlank ++ wordOf s.scanner.rest ++
      (s.step .scanWord).session.scanner.rest := by
    rw [hrest, blanks_append_word]
  have hoffset : (s.step .scanWord).session.scanner.offset = s.scanner.offset + _ :=
    hs.placed.offset_eq_add (hs.step .scanWord).placed htext hpassed
  rw [byteLength_append, ← Nat.add_assoc] at hoffset
  exact ⟨hpassed, hoffset⟩

theorem rest_step_scanInt (h : s.scanner.failed = false) (t : IntType) :
    (s.step (.scanInt t)).session.scanner.rest =
      (readText t s.scanner.choice s.scanner.rest).reader := by
  rw [Scanner.rest, (reader_step_scanInt h).1]
  exact rest_readNumeral t s.scanner.choice s.scanner.reader

/-- A scan of type `t` that does not fail has read a value. -/
theorem exists_ok_of_step_scanInt (h : s.scanner.failed = false)
    (hnext : (s.step (.scanInt t)).session.scanner.failed = false) :
    ∃ value, (readText t s.scanner.choice s.scanner.rest).outcome = .ok value := by
  have houtcome := outcome_readNumeral t s.scanner.choice s.scanner.reader
  cases hread : (s.scanner.reading t).outcome with
  | ok value => exact ⟨value, houtcome.symm.trans hread⟩
  | error e =>
    rw [step_scanInt_of_error h hread] at hnext
    simp [Scanner.failed] at hnext

/-- The session `s`, reset if a scan has failed. -/
def recovered (s : Session) : Session := if s.scanner.failed then (s.step .reset).session else s

theorem reader_recovered (s : Session) : s.recovered.scanner.reader = s.scanner.reader := by
  unfold recovered
  split_ifs <;> rfl

theorem rest_recovered (s : Session) : s.recovered.scanner.rest = s.scanner.rest := by
  rw [Scanner.rest, reader_recovered, Scanner.rest]

theorem failed_recovered (s : Session) : s.recovered.scanner.failed = false := by
  unfold recovered
  split_ifs with h
  · rfl
  · simpa using h

/-- From `s` the word `word` can be scanned, which takes the bytes from `q` on.  The session `read`
comes of scanning an integer instead, and stands within this word or at one of its ends: a scan of a
word, after a reset if the integer has failed, gives what is left of the word, or the next word if
nothing is left of it. -/
structure StandsWithin (s read : Session) (word : List Char) (q : Nat) : Prop where
  answer_eq : (s.step .scanWord).answer = .word (some word)
  offset_eq : (s.step .scanWord).session.scanner.offset = q + byteLength word
  suffixAt?_eq :
    suffixAt? s.scanner.reader.text q = some (word ++ (s.step .scanWord).session.scanner.rest)
  le_offset : q ≤ read.scanner.offset
  offset_le : read.scanner.offset ≤ q + byteLength word
  /-- A value takes at least one character of the word. -/
  lt_offset : read.scanner.failed = false → q < read.scanner.offset
  /-- What is left of the word is the next word. -/
  answer_within : read.scanner.offset < q + byteLength word →
    ∃ left, suffixAt? word (read.scanner.offset - q) = some left ∧
      (read.recovered.step .scanWord).answer = .word (some left)
  /-- If nothing is left of it, the next word is the one after it. -/
  answer_at_end : read.scanner.offset = q + byteLength word →
    (read.recovered.step .scanWord).answer = ((s.step .scanWord).session.step .scanWord).answer
  /-- The solid characters are those that the integer took, the word after it, and the others. -/
  solids_eq : ∃ taken found, prefixAt? word (read.scanner.offset - q) = some taken ∧
    (read.recovered.step .scanWord).answer = .word found ∧
    solids s.scanner.rest =
      taken ++ found.getD [] ++ solids (read.recovered.step .scanWord).session.scanner.rest

/-- It is enough that the characters between the blanks and where `read` stands are solid. -/
theorem StandsWithin.of_taken {read : Session} {taken : List Char} (hs : s.Reachable)
    (hready : s.scanner.failed = false) (hword : wordOf s.scanner.rest ≠ [])
    (hread : read.Reachable) (htext : read.scanner.reader.text = s.scanner.reader.text)
    (hsplit : s.scanner.rest.dropWhile isBlank = taken ++ read.scanner.rest)
    (htaken : ∀ c ∈ taken, isBlank c = false)
    (hvalue : read.scanner.failed = false → taken ≠ []) :
    StandsWithin s read (wordOf s.scanner.rest)
      (s.scanner.offset + byteLength (s.scanner.rest.takeWhile isBlank)) := by
  obtain ⟨hwordEq, hafterEq⟩ := wordOf_of_taken hsplit htaken
  -- the scans of a word from `s`, from there on, and from `read`
  obtain ⟨hwhole, hwholeRest, -, hfailed⟩ := step_scanWord_of_ready hready hs.placed
  have hwholeReady : (s.step .scanWord).session.scanner.failed = false := by
    rwa [← Bool.not_eq_true, hfailed]
  obtain ⟨hsecond, -⟩ := step_scanWord_of_ready hwholeReady (hs.step .scanWord).placed
  obtain ⟨hnext, hnextRest, -⟩ := step_scanWord_of_ready read.failed_recovered
    (by rw [reader_recovered]; exact hread.placed)
  rw [rest_recovered] at hnext hnextRest
  -- where the word ends, and where the numeral ends
  obtain ⟨hpassedWord, hend⟩ := offset_step_scanWord hs hready
  have hpassed : s.scanner.rest =
      s.scanner.rest.takeWhile isBlank ++ taken ++ read.scanner.rest := by
    rw [List.append_assoc, ← hsplit, List.takeWhile_append_dropWhile]
  have hoffset : read.scanner.offset = s.scanner.offset + _ :=
    hs.placed.offset_eq_add hread.placed htext hpassed
  rw [byteLength_append, ← Nat.add_assoc] at hoffset
  have hlength : byteLength (wordOf s.scanner.rest) =
      byteLength taken + byteLength (beforeBlank read.scanner.rest) := by
    rw [hwordEq, byteLength_append]
  -- so far is `read` behind the start of the word
  have htakenLength : read.scanner.offset -
      (s.scanner.offset + byteLength (s.scanner.rest.takeWhile isBlank)) = byteLength taken := by
    omega
  constructor
  case answer_eq => rw [hwhole, wordAnswer, if_neg hword]
  case offset_eq => exact hend
  case suffixAt?_eq =>
    rw [List.append_assoc] at hpassedWord
    exact hs.placed.suffixAt?_eq hpassedWord
  case le_offset => omega
  case offset_le => omega
  case lt_offset =>
    intro hok
    have hpos := byteLength_pos (hvalue hok)
    omega
  case answer_within =>
    intro hlt
    have hleft : beforeBlank read.scanner.rest ≠ [] := by
      intro hnil
      rw [hnil, byteLength] at hlength
      omega
    refine ⟨beforeBlank read.scanner.rest, ?_, ?_⟩
    · rw [htakenLength, hwordEq, suffixAt?_byteLength]
    · rw [hnext, wordAnswer_eq, if_neg hleft]
  case answer_at_end =>
    intro heq
    have hleft : beforeBlank read.scanner.rest = [] := by
      by_contra hne
      have hpos := byteLength_pos hne
      omega
    rw [hnext, hsecond, hwholeRest, wordAnswer_eq, if_pos hleft, hafterEq]
  case solids_eq =>
    refine ⟨taken, wordAnswer read.scanner.rest, ?_, hnext, ?_⟩
    · rw [htakenLength, hwordEq, prefixAt?_byteLength]
    · rw [getD_wordAnswer, hnextRest, List.append_assoc, ← Numeral128.solids_eq,
        ← solids_dropWhile s.scanner.rest, hsplit, solids_append, solids_of_solid htaken]

end Session

/-- **A numeral ends within its word.**  Let no scan have failed.  If only blanks are left, a scan
of an integer finds nothing and ends at the end of the text.  Otherwise it ends within the word that
could be scanned instead, or at one of its ends, and not at the start of it if there is a value.  A
scan of a word after that, and after a reset if the integer has failed, gives the part of the word
that is left, or the word after it, and with the characters of the numeral no solid character is
lost or moved. -/
theorem scanInt_within_word {s : Session} (hs : s.Reachable) (hready : s.scanner.failed = false)
    (t : IntType) :
    let read := (s.step (.scanInt t)).session
    ((∀ c ∈ s.scanner.rest, isBlank c = true) →
      read.scanner.rejection? = some .nothing ∧
        read.scanner.offset = byteLength s.scanner.reader.text) ∧
    ((∃ c ∈ s.scanner.rest, isBlank c = false) →
      ∃ word q, Session.StandsWithin s read word q) := by
  intro read
  have hread : read.Reachable := hs.step (.scanInt t)
  have htext : read.scanner.reader.text = s.scanner.reader.text := by
    rw [(Session.reader_step_scanInt hready).1]
    exact TextReader.text_readNumeral t s.scanner.choice s.scanner.reader
  have hrest := Session.rest_step_scanInt hready t
  constructor
  · intro hblank
    -- only blanks: reading finds nothing, and nothing is left
    have hnil := List.dropWhile_eq_nil_iff.mpr hblank
    have houtcome := outcome_readNumeral t s.scanner.choice s.scanner.reader
    change (s.scanner.reading t).outcome = (readText t s.scanner.choice s.scanner.rest).outcome
      at houtcome
    rw [readText_of_nil hnil] at hrest houtcome
    constructor
    · show (s.step (.scanInt t)).session.scanner.rejection? = _
      rw [Session.step_scanInt_of_error hready houtcome]
      rfl
    · have hend := hread.placed.offset_add
      change read.scanner.offset + byteLength read.scanner.rest = _ at hend
      rwa [hrest, byteLength, Nat.add_zero, htext] at hend
  · rintro ⟨c, hc, hsolid⟩
    obtain ⟨taken, hsplit, htaken, hvalue⟩ :=
      exists_taken t s.scanner.choice s.scanner.rest
    have hword : wordOf s.scanner.rest ≠ [] := by
      intro hnil
      rw [wordOf_eq_nil_iff.mp hnil c hc] at hsolid
      exact absurd hsolid (by decide)
    rw [← hrest] at hsplit
    refine ⟨_, _, .of_taken hs hready hword hread htext hsplit htaken ?_⟩
    intro hok
    obtain ⟨value, houtcome⟩ := Session.exists_ok_of_step_scanInt hready hok
    exact hvalue value houtcome

/-- The value ends before a letter, in the middle of the word `"-0x1g"`, and the letter is the next
word. -/
theorem scanInt_within_word_letter :
    let s := (Session.start "é -0x1g z".toList .detect fun _ => 999).final [.scanWord]
    let read := (s.step (.scanInt .signed)).session
    s.scanner.failed = false ∧ (∃ c ∈ s.scanner.rest, isBlank c = false) ∧
      read.scanner.failed = false ∧ read.scanner.offset = 3 + 4 ∧
      Session.StandsWithin s read "-0x1g".toList 3 ∧
      (read.recovered.step .scanWord).answer = .word (some ['g']) := by
  intro s read
  have hs : s.Reachable := (Session.Reachable.start _ _ _).final _
  have hready : s.scanner.failed = false := by decide +kernel
  have hsolid : ∃ c ∈ s.scanner.rest, isBlank c = false := ⟨'-', by decide +kernel, by decide⟩
  have hoffset : read.scanner.offset = 3 + 4 := by decide +kernel
  obtain ⟨word, q, h⟩ := (scanInt_within_word hs hready .signed).2 hsolid
  -- the theorem speaks of some word and some place, which the scan of a word then fixes
  have hword : word = "-0x1g".toList := by
    have hanswer : (s.step .scanWord).answer = .word (some "-0x1g".toList) := rfl
    rw [h.answer_eq] at hanswer
    simpa using hanswer
  have hq : q = 3 := by
    have hend : (s.step .scanWord).session.scanner.offset = 3 + 5 := by decide +kernel
    have hlength : byteLength "-0x1g".toList = 5 := by decide
    rw [h.offset_eq, hword, hlength] at hend
    omega
  rw [hword, hq] at h
  obtain ⟨left, hleft, hnext⟩ := h.answer_within (hoffset.trans_lt (by decide))
  have hg : left = ['g'] := by
    have hat : suffixAt? "-0x1g".toList (3 + 4 - 3) = some ['g'] := by decide
    rw [hoffset, hat] at hleft
    simpa using hleft.symm
  rw [hg] at hnext
  exact ⟨hready, hsolid, by decide +kernel, hoffset, h, hnext⟩

end Numeral128
