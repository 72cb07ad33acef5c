import Numeral128.Proofs.Progress

/-!
# Words of a text

`HasWords text words` says that `words` are the maximal runs of solid characters of a text, in
order.  It follows the text from run to run, so that it accounts for every character: blanks, a run
that no solid character prolongs, and what comes after it.  A text has one such list of words
(`existsUnique_hasWords`), and the words are made up of its solid characters
(`HasWords.flatten_eq`).

A session that scans words until none is left answers with this list (`Session.scanWords`): one scan
takes the first word of what is left (`Session.step_scanWord_of_ready`), and leaves the text from
its end on.  As scans of words jump, no character can be taken back afterwards
(`Session.unread_step_scanWord`).  `scanWords_tokenise` is the main statement.
-/

namespace Numeral128

/-! ### Words -/

/-- The list is that of the maximal runs of solid characters of the text, in order. -/
inductive HasWords : List Char → List (List Char) → Prop
  /-- Only blanks are left. -/
  | nil {text : List Char} : (∀ c ∈ text, isBlank c = true) → HasWords text []
  /-- A run of solid characters ends at a blank or at the end of the text. -/
  | cons {blanks word rest : List Char} {words : List (List Char)} :
      (∀ c ∈ blanks, isBlank c = true) → word ≠ [] → (∀ c ∈ word, isBlank c = false) →
      (∀ c ∈ rest.head?, isBlank c = true) → HasWords rest words →
      HasWords (blanks ++ word ++ rest) (word :: words)

section Words

variable {text blanks word rest : List Char} {words : List (List Char)}

theorem dropWhile_isBlank_append (hblanks : ∀ c ∈ blanks, isBlank c = true) (hword : word ≠ [])
    (hsolid : ∀ c ∈ word, isBlank c = false) :
    (blanks ++ word ++ rest).dropWhile isBlank = word ++ rest := by
  obtain ⟨c, cs, rfl⟩ := List.exists_cons_of_ne_nil hword
  have hc : isBlank c = false := hsolid c List.mem_cons_self
  rw [List.append_assoc, List.dropWhile_append_of_pos hblanks, List.cons_append,
    List.dropWhile_cons_of_neg (by simp [hc])]

/-- A `text` that does not go on with a solid character has no word at its start. -/
theorem beforeBlank_eq_nil (h : ∀ c ∈ text.head?, isBlank c = true) : beforeBlank text = [] := by
  unfold beforeBlank
  cases text with
  | nil => rfl
  | cons c cs =>
    have hc : isBlank c = true := h c rfl
    rw [List.takeWhile_cons_of_neg (by simp [hc])]

/-- The first word of a text is the first run `word` of solid characters, and `rest` comes after it.
-/
theorem wordOf_append (hblanks : ∀ c ∈ blanks, isBlank c = true) (hword : word ≠ [])
    (hsolid : ∀ c ∈ word, isBlank c = false) (hrest : ∀ c ∈ rest.head?, isBlank c = true) :
    wordOf (blanks ++ word ++ rest) = word ∧ afterWord (blanks ++ word ++ rest) = rest := by
  have hdrop : (blanks ++ word ++ rest).dropWhile isBlank = word ++ rest :=
    dropWhile_isBlank_append hblanks hword hsolid
  rcases wordOf_of_taken hdrop hsolid with ⟨hfirst, hafter⟩
  have hnil := beforeBlank_eq_nil hrest
  constructor
  · rw [hfirst, hnil, List.append_nil]
  · rw [hafter, fromBlank_of_beforeBlank_eq_nil hnil]

/-- The first word of `text` ends at a blank or at the end of the text. -/
theorem isBlank_of_mem_head?_afterWord (text : List Char) :
    ∀ c ∈ (afterWord text).head?, isBlank c = true := by
  intro c hc
  have hnot := List.head?_dropWhile_not (fun c => !isBlank c) (text.dropWhile isBlank)
  change (afterWord text).head? = some c at hc
  rw [← afterWord, hc] at hnot
  simpa using hnot

/-- The words of `text` are its first word and the `words` after it. -/
theorem hasWords_of_wordOf_ne_nil (hword : wordOf text ≠ []) (h : HasWords (afterWord text) words) :
    HasWords text (wordOf text :: words) := by
  have hblanks : ∀ c ∈ text.takeWhile isBlank, isBlank c = true :=
    fun c hc => List.mem_takeWhile_imp hc
  have hsolid : ∀ c ∈ wordOf text, isBlank c = false := fun c hc => isBlank_of_mem_wordOf hc
  have hcons := HasWords.cons hblanks hword hsolid (isBlank_of_mem_head?_afterWord text) h
  rwa [blanks_append_word] at hcons

theorem length_afterWord_lt (hword : wordOf text ≠ []) : (afterWord text).length < text.length := by
  have hsplit := congrArg List.length (blanks_append_word text)
  have hpos := List.length_pos_iff.mpr hword
  rw [List.length_append, List.length_append] at hsplit
  omega

/-- Every `text` has words, which are found by taking one after another. -/
theorem exists_hasWords (text : List Char) : ∃ words, HasWords text words := by
  by_cases hword : wordOf text = []
  · exact ⟨[], .nil (wordOf_eq_nil_iff.mp hword)⟩
  · have hlt := length_afterWord_lt hword
    obtain ⟨words, hwords⟩ := exists_hasWords (afterWord text)
    exact ⟨_, hasWords_of_wordOf_ne_nil hword hwords⟩
termination_by text.length

namespace HasWords

theorem wordOf_eq_nil (h : HasWords text []) : wordOf text = [] := by
  cases h with
  | nil hblank => exact wordOf_eq_nil_iff.mpr hblank

/-- The first of the words, `word`, is the first one of `text`, and the others are those after it.
-/
theorem of_cons (h : HasWords text (word :: words)) :
    wordOf text = word ∧ word ≠ [] ∧ HasWords (afterWord text) words := by
  cases h with
  | cons hblanks hword hsolid hrest hwords =>
    rcases wordOf_append hblanks hword hsolid hrest with ⟨hfirst, hafter⟩
    rw [hafter]
    exact ⟨hfirst, hword, hwords⟩

/-- No text has two lists of words, `words` and `words'`. -/
theorem unique {words' : List (List Char)} (h : HasWords text words) (h' : HasWords text words') :
    words' = words := by
  -- the text determines the first word and what comes after it
  induction h generalizing words' with
  | nil hblank =>
    cases words' with
    | nil => rfl
    | cons word' words' =>
      obtain ⟨hfirst, hword, -⟩ := h'.of_cons
      exact absurd (hfirst.symm.trans (wordOf_eq_nil_iff.mpr hblank)) hword
  | cons hblanks hword hsolid hrest _ ih =>
    rcases wordOf_append hblanks hword hsolid hrest with ⟨hfirst, hafter⟩
    cases words' with
    | nil => exact absurd (hfirst.symm.trans h'.wordOf_eq_nil) hword
    | cons word' words' =>
      obtain ⟨hfirst', -, hwords'⟩ := h'.of_cons
      rw [hafter] at hwords'
      rw [ih hwords', ← hfirst', hfirst]

theorem forall_mem (h : HasWords text words) :
    ∀ word ∈ words, word ≠ [] ∧ ∀ c ∈ word, isBlank c = false := by
  induction h with
  | nil _ => simp
  | cons _ hword hsolid _ _ ih => exact List.forall_mem_cons.mpr ⟨⟨hword, hsolid⟩, ih⟩

/-- No solid character of `text` is lost, duplicated or moved. -/
theorem flatten_eq (h : HasWords text words) : words.flatten = solids text := by
  induction h with
  | nil hblank => exact (solids_of_blank hblank).symm
  | cons hblanks _ hsolid _ _ ih =>
    rw [List.flatten_cons, ih, solids_append, solids_append, solids_of_blank hblanks,
      solids_of_solid hsolid, List.nil_append]

end HasWords

/-- So `HasWords` is a function of the text. -/
theorem existsUnique_hasWords (text : List Char) : ∃! words, HasWords text words := by
  obtain ⟨words, hwords⟩ := exists_hasWords text
  exact ⟨words, hwords, fun _ hwords' => hwords.unique hwords'⟩

end Words

/-! ### Scans -/

namespace Session

variable {s : Session} {word : List Char} {words : List (List Char)}

/-- After a scan of a word by `s` no character can be taken back. -/
theorem unread_step_scanWord (hready : s.scanner.failed = false) :
    ((s.step .scanWord).session.step (.reader .unread)).session = (s.step .scanWord).session := by
  by_cases hword : wordOf s.scanner.rest = []
  · rw [step_scanWord_of_nil hready hword]
    rfl
  · rw [step_scanWord_of_word hready hword]
    rfl

/-- If `s` has no word left, a scan of a word fails at the end of the text. -/
theorem step_scanWord_of_hasWords_nil (hs : s.Reachable) (hready : s.scanner.failed = false)
    (h : HasWords s.scanner.rest []) :
    (s.step .scanWord).answer = .word none ∧
      (s.step .scanWord).session.scanner.status = .outOfWords ∧
      (s.step .scanWord).session.scanner.offset = byteLength s.scanner.reader.text := by
  have hword := h.wordOf_eq_nil
  -- a scan without a word still passes the blanks, up to the end
  have hend := (offset_step_scanWord hs hready).2
  have hplace : s.scanner.offset + byteLength s.scanner.rest = byteLength s.scanner.reader.text :=
    hs.placed.offset_add
  rw [takeWhile_isBlank_of_wordOf_nil hword, hword, hplace] at hend
  refine ⟨?_, ?_, hend⟩
  · rw [step_scanWord_of_nil hready hword]
  · rw [step_scanWord_of_nil hready hword]

/-- Otherwise it gives the first `word` that is left, and the others are left then. -/
theorem step_scanWord_of_hasWords_cons (hs : s.Reachable) (hready : s.scanner.failed = false)
    (h : HasWords s.scanner.rest (word :: words)) :
    (s.step .scanWord).answer = .word (some word) ∧
      (s.step .scanWord).session.scanner.failed = false ∧
      HasWords (s.step .scanWord).session.scanner.rest words := by
  obtain ⟨hanswer, hrest, -, hfailed⟩ := step_scanWord_of_ready hready hs.placed
  obtain ⟨rfl, hword, hwords⟩ := h.of_cons
  rw [hanswer, hrest, wordAnswer, if_neg hword]
  refine ⟨rfl, ?_, hwords⟩
  rwa [← Bool.not_eq_true, hfailed]

/-- As many scans of words as it takes to find that none of `words` is left. -/
def scansOf (words : List (List Char)) : List ScanCommand :=
  List.replicate (words.length + 1) .scanWord

/-- Scans of words give the `words` that are left, and then nothing. -/
theorem scanWords (hs : s.Reachable) (hready : s.scanner.failed = false)
    (h : HasWords s.scanner.rest words) :
    (s.run (scansOf words)).map SessionStep.answer =
        words.map (fun word => ScanAnswer.word (some word)) ++ [.word none] ∧
      (∀ step ∈ s.run (scansOf words),
        (step.session.step (.reader .unread)).session = step.session) ∧
      (s.final (scansOf words)).scanner.status = .outOfWords ∧
      (s.final (scansOf words)).scanner.offset = byteLength s.scanner.reader.text := by
  -- by induction on the words, from the session after the first scan
  have hunread := unread_step_scanWord hready
  induction words generalizing s with
  | nil =>
    rcases step_scanWord_of_hasWords_nil hs hready h with ⟨hanswer, hfinal⟩
    refine ⟨congrArg ([·]) hanswer, ?_, hfinal⟩
    exact List.forall_mem_singleton.mpr hunread
  | cons word words ih =>
    rcases step_scanWord_of_hasWords_cons hs hready h with ⟨hanswer, hnext, hwords⟩
    obtain ⟨hanswers, hunreads, hfinal⟩ :=
      ih (hs.step .scanWord) hnext hwords (unread_step_scanWord hnext)
    rw [text_step] at hfinal
    refine ⟨congrArg₂ List.cons hanswer hanswers, ?_, hfinal⟩
    exact List.forall_mem_cons.mpr ⟨hunread, hunreads⟩

end Session

/-- **Scans of words are a tokeniser.**  Let no scan have failed.  There is one list of the maximal
runs of solid characters of the text that is left: none of them is empty or holds a blank, and they
make up all solid characters in order.  Scans of words give these one after another, and the scan
after the last one gives nothing: it fails, for no rejection, at the end of the text.  After none of
these scans does it make a difference to take a character back. -/
theorem scanWords_tokenise {s : Session} (hs : s.Reachable) (hready : s.scanner.failed = false) :
    ∃ words, (∀ words', HasWords s.scanner.rest words' ↔ words' = words) ∧
      (∀ word ∈ words, word ≠ [] ∧ ∀ c ∈ word, isBlank c = false) ∧
      words.flatten = solids s.scanner.rest ∧
      let scans := List.replicate (words.length + 1) ScanCommand.scanWord
      (s.run scans).map SessionStep.answer =
        words.map (fun word => ScanAnswer.word (some word)) ++ [.word none] ∧
      (∀ step ∈ s.run scans, (step.session.step (.reader .unread)).session = step.session) ∧
      (s.final scans).scanner.offset = byteLength s.scanner.reader.text ∧
      (s.final scans).scanner.failed = true ∧ (s.final scans).scanner.rejection? = none := by
  obtain ⟨words, hwords, hunique⟩ := existsUnique_hasWords s.scanner.rest
  obtain ⟨hanswers, hunread, hstatus, hend⟩ := Session.scanWords hs hready hwords
  refine ⟨words, ?_, hwords.forall_mem, hwords.flatten_eq, hanswers, hunread, hend, ?_, ?_⟩
  · intro words'
    constructor
    · exact hunique words'
    · rintro rfl
      exact hwords
  · rw [Scanner.failed_eq_true_iff]
    change (s.final (Session.scansOf words)).scanner.status ≠ _
    rw [hstatus]
    simp
  · show (s.final (Session.scansOf words)).scanner.rejection? = none
    rw [Scanner.rejection?, hstatus]

/-- Letters of two bytes and a no-break space within the second word. -/
theorem scanWords_tokenise_no_break_space :
    let s := (Session.start "é a\u00a0b \tü\r\n".toList .detect fun _ => 999).final [.scanWord]
    s.scanner.failed = false ∧
      HasWords s.scanner.rest ["a\u00a0b".toList, ['ü']] ∧
      (s.run [.scanWord, .scanWord, .scanWord]).map SessionStep.answer =
        [.word (some "a\u00a0b".toList), .word (some ['ü']), .word none] ∧
      (s.final [.scanWord, .scanWord, .scanWord]).scanner.offset = 13 := by
  intro s
  have hs : s.Reachable := (Session.Reachable.start _ _ _).final _
  have hready : s.scanner.failed = false := by decide +kernel
  have hwords : HasWords s.scanner.rest ["a\u00a0b".toList, ['ü']] := by
    have hrest : s.scanner.rest = [' '] ++ "a\u00a0b".toList ++
        ([' ', '\t'] ++ ['ü'] ++ ['\r', '\n']) := by decide +kernel
    rw [hrest]
    apply HasWords.cons (by simp [isBlank]) (by simp) (by simp [isBlank]) (by simp [isBlank])
    apply HasWords.cons (by simp [isBlank]) (by simp) (by simp [isBlank]) (by simp [isBlank])
    exact .nil (by simp [isBlank])
  obtain ⟨words, hunique, -, -, hanswers, -, hend, -⟩ := scanWords_tokenise hs hready
  -- the words are determined by the text
  obtain rfl := (hunique _).mp hwords
  exact ⟨hready, hwords, hanswers, hend⟩

end Numeral128
