import Numeral128.Proofs.Reading

/-!
# Dialogues with a reader

A reader is asked for characters one after another, and is told to take the last one back.
`Dialogue s calls s'` says which calls lead a reader from `s` to `s'`, and with which answers.  What
`Recorded` notes while a numeral is read is such a dialogue (`dialogue_readNumeral`), and a reader
does not notice that it is noted (`sideBySide_recorded`).

`TakesBackOne` is the rule for one character of pushback: a character is taken back only right after
it has been read.  Of a reader that does not keep its characters in any order, nothing can be said
whatever the calls are.  But if a lawful reader is asked by this rule, it moves on by the characters
it gives less those it takes back (`Dialogue.exists_passed`).
-/

namespace Numeral128

open CharReader

/-! ### Lists of calls -/

namespace ReaderCall

/-- The calls that read the characters `cs` one after another. -/
def reads (cs : List Char) : List ReaderCall := cs.map fun c => read (some c)

/-- Whether the call gave a character. -/
def givesChar : ReaderCall → Bool
  | read (some _) => true
  | _ => false

/-- A character is taken back only right after it has been read.  `justRead` says whether there is
one before the first call. -/
def TakesBackOne : Bool → List ReaderCall → Prop
  | _, [] => True
  | _, read answer :: calls => TakesBackOne answer.isSome calls
  | justRead, unread :: calls => justRead = true ∧ TakesBackOne false calls

variable {cs ds : List Char} {c : Char} {call : ReaderCall} {calls before after : List ReaderCall}

@[simp] theorem reads_nil : reads [] = [] := rfl

@[simp] theorem reads_cons (c : Char) (cs : List Char) :
    reads (c :: cs) = read (some c) :: reads cs := rfl

@[simp] theorem reads_append (cs ds : List Char) : reads (cs ++ ds) = reads cs ++ reads ds :=
  List.map_append

@[simp] theorem unread_notMem_reads : unread ∉ reads cs := by simp [reads]

@[simp] theorem read_none_notMem_reads : read none ∉ reads cs := by simp [reads]

@[simp] theorem count_unread_reads (cs : List Char) : (reads cs).count unread = 0 :=
  List.count_eq_zero.mpr unread_notMem_reads

theorem reads_inj : reads cs = reads ds ↔ cs = ds := by
  apply List.map_inj_right
  intro c d h
  simpa using h

/-- A `call` that gives no character comes after the characters `cs` that are read first. -/
theorem exists_of_reads_append (hcall : call ∉ reads cs)
    (h : reads cs ++ calls = before ++ call :: after) :
    ∃ middle, before = reads cs ++ middle ∧ calls = middle ++ call :: after := by
  rcases List.append_eq_append_iff.mp h with ⟨middle, hbefore, hcalls⟩ | ⟨middle, hreads, hafter⟩
  · exact ⟨middle, hbefore, hcalls⟩
  · cases middle with
    | nil => exact ⟨[], by simpa using hreads.symm, hafter.symm⟩
    | cons first middle =>
      -- then the call would be one of those that read a character
      obtain ⟨rfl, -⟩ := List.cons.inj hafter
      simp [hreads] at hcall

/-- The end is met after the characters `cs` that are read, and nothing comes behind it. -/
theorem eq_of_reads_append_end (h : reads cs ++ [read none] = before ++ read none :: after) :
    before = reads cs ∧ after = [] := by
  obtain ⟨middle, rfl, hmiddle⟩ := exists_of_reads_append read_none_notMem_reads h
  obtain ⟨rfl, rfl⟩ : middle = [] ∧ after = [] := by
    simpa [List.append_eq_singleton_iff] using hmiddle.symm
  exact ⟨List.append_nil _, rfl⟩

/-- Once the character `c` has been read, it does not matter what was before it. -/
theorem takesBackOne_concat_append (justRead : Bool) (cs : List Char) (c : Char) :
    TakesBackOne justRead (reads (cs ++ [c]) ++ calls) ↔ TakesBackOne true calls := by
  induction cs generalizing justRead with
  | nil => exact Iff.rfl
  | cons d cs ih => exact ih true

theorem takesBackOne_append_read (justRead : Bool) (cs : List Char) (answer : Option Char) :
    TakesBackOne justRead (reads cs ++ read answer :: calls) ↔
      TakesBackOne answer.isSome calls := by
  induction cs generalizing justRead with
  | nil => exact Iff.rfl
  | cons d cs ih => exact ih true

theorem TakesBackOne.reads_append (h : ∀ justRead, TakesBackOne justRead calls) (justRead : Bool)
    (cs : List Char) : TakesBackOne justRead (reads cs ++ calls) := by
  induction cs generalizing justRead with
  | nil => exact h justRead
  | cons c cs ih => exact ih true

/-- Right before a character is taken back, one has been read, unless it is the one before the first
call. -/
theorem TakesBackOne.exists_read_or {justRead : Bool}
    (h : TakesBackOne justRead (before ++ unread :: after)) :
    before = [] ∧ justRead = true ∨ ∃ init c, before = init ++ [read (some c)] := by
  induction before generalizing justRead with
  | nil => exact Or.inl ⟨rfl, h.1⟩
  | cons call before ih =>
    -- the rule says of each call what it leaves for the next one
    cases call with
    | read answer =>
      rcases ih h with ⟨rfl, hanswer⟩ | ⟨init, c, rfl⟩
      · obtain ⟨c, rfl⟩ := Option.isSome_iff_exists.mp hanswer
        exact Or.inr ⟨[], c, rfl⟩
      · exact Or.inr ⟨read answer :: init, c, rfl⟩
    | unread =>
      rcases ih h.2 with ⟨-, hfalse⟩ | ⟨init, c, rfl⟩
      · exact absurd hfalse Bool.false_ne_true
      · exact Or.inr ⟨unread :: init, c, rfl⟩

/-- Right before a character is taken back, one, `c`, has been read. -/
theorem TakesBackOne.exists_read (h : TakesBackOne false (before ++ unread :: after)) :
    ∃ init c, before = init ++ [read (some c)] := by
  rcases h.exists_read_or with ⟨-, hfalse⟩ | hread
  · exact absurd hfalse Bool.false_ne_true
  · exact hread

end ReaderCall

open ReaderCall

/-! ### Dialogues with a reader -/

section Dialogues

variable {σ : Type} [CharReader σ] {s s' s'' : σ} {calls : List ReaderCall}

/-- From `s` on the reader gets these calls and gives these answers, which leads it to its last
state. -/
inductive Dialogue : σ → List ReaderCall → σ → Prop
  | done (s : σ) : Dialogue s [] s
  | onRead {s s' s'' : σ} {answer : Option Char} {calls : List ReaderCall} :
      read s = (answer, s') → Dialogue s' calls s'' → Dialogue s (.read answer :: calls) s''
  | onUnread {s s' : σ} {calls : List ReaderCall} :
      Dialogue (unread s) calls s' → Dialogue s (.unread :: calls) s'

theorem Dialogue.concat_read (h : Dialogue s calls s') :
    Dialogue s (calls ++ [.read (read s').1]) (read s').2 := by
  induction h with
  | done s => exact .onRead rfl (.done _)
  | onRead hread _ ih => exact .onRead hread ih
  | onUnread _ ih => exact .onUnread ih

theorem Dialogue.concat_unread (h : Dialogue s calls s') :
    Dialogue s (calls ++ [.unread]) (unread s') := by
  induction h with
  | done s => exact .onUnread (.done _)
  | onRead hread _ ih => exact .onRead hread ih
  | onUnread _ ih => exact .onUnread ih

/-- What is noted while a numeral is read is the dialogue with the reader `s`. -/
theorem dialogue_readNumeral (t : IntType) (choice : BaseChoice) (s : σ) :
    let recorded := (readNumeral t choice ({ reader := s } : Recorded σ)).reader
    Dialogue s recorded.calls recorded.reader := by
  -- each operation on the reader is noted at the end, so the dialogue grows there
  refine readNumeral_preserves (P := fun r : Recorded σ => Dialogue s r.calls r.reader) ?_ ?_ t
    choice (.done s)
  · intro r hr
    exact hr.concat_read
  · intro r hr
    exact hr.concat_unread

/-- A reader does not notice that its calls are noted, so that `r` and the reader in it go side by
side. -/
theorem sideBySide_recorded : SideBySide fun (r : Recorded σ) (s : σ) => r.reader = s := by
  constructor
  · rintro r _ rfl
    exact ⟨rfl, rfl⟩
  · rintro r _ rfl
    rfl

/-- A lawful reader moves on by the characters it gives less those it takes back.  `pending` is the
character that may be taken back at the start, if there is one. -/
theorem Dialogue.exists_passed_pending [LawfulReader σ] (h : Dialogue s calls s')
    (pending : Option Char)
    (hpending : ∀ c ∈ pending, LawfulReader.rest (unread s) = c :: LawfulReader.rest s)
    (hcalls : TakesBackOne pending.isSome calls) :
    ∃ passed, pending.toList ++ LawfulReader.rest s = passed ++ LawfulReader.rest s' ∧
      calls.countP givesChar + pending.toList.length = passed.length + calls.count .unread := by
  -- the induction is on the dialogue, and `pending` follows the calls
  induction h generalizing pending with
  | done s => exact ⟨pending.toList, rfl, by simp⟩
  | @onRead s s' s'' answer calls hread _ ih =>
    cases answer with
    | none =>
      have hrest : LawfulReader.rest s' = LawfulReader.rest s := by
        have hfst := LawfulReader.read_fst s
        have hsnd := LawfulReader.rest_read s
        rw [hread] at hfst hsnd
        rw [hsnd, List.head?_eq_none_iff.mp hfst.symm, List.tail_nil]
      obtain ⟨passed, hpassed, hcount⟩ := ih none (by simp) hcalls
      rw [hrest] at hpassed
      refine ⟨pending.toList ++ passed, ?_, ?_⟩
      · rw [List.append_assoc, ← hpassed]
        rfl
      · simp [givesChar] at hcount ⊢
        omega
    | some c =>
      have hrest : LawfulReader.rest s = c :: LawfulReader.rest s' := by
        have hfst := LawfulReader.read_fst s
        have hsnd := LawfulReader.rest_read s
        rw [hread] at hfst hsnd
        obtain ⟨cs, hcs⟩ := List.head?_eq_some_iff.mp hfst.symm
        rw [hsnd, hcs, List.tail_cons]
      -- this character may be taken back next
      have hback : ∀ d ∈ some c, LawfulReader.rest (unread s') = d :: LawfulReader.rest s' := by
        intro d hd
        rw [LawfulReader.rest_unread hread, hrest, Option.some.inj hd]
      obtain ⟨passed, hpassed, hcount⟩ := ih (some c) hback hcalls
      refine ⟨pending.toList ++ passed, ?_, ?_⟩
      · rw [List.append_assoc, ← hpassed, hrest]
        rfl
      · simp [List.countP_cons, givesChar] at hcount ⊢
        omega
  | @onUnread s s' calls _ ih =>
    obtain ⟨hsome, hcalls⟩ := hcalls
    obtain ⟨c, rfl⟩ := Option.isSome_iff_exists.mp hsome
    have hrest : LawfulReader.rest (unread s) = c :: LawfulReader.rest s := hpending c rfl
    obtain ⟨passed, hpassed, hcount⟩ := ih none (by simp) hcalls
    refine ⟨passed, ?_, ?_⟩
    · rw [← hpassed, hrest]
      rfl
    · simp [givesChar] at hcount ⊢
      omega

/-- With no character pending at the start: what is `passed` counts as many characters as were given
less those taken back. -/
theorem Dialogue.exists_passed [LawfulReader σ] (h : Dialogue s calls s')
    (hcalls : TakesBackOne false calls) :
    ∃ passed, LawfulReader.rest s = passed ++ LawfulReader.rest s' ∧
      calls.countP givesChar = passed.length + calls.count .unread := by
  have hpending : ∀ c ∈ (none : Option Char),
      LawfulReader.rest (unread s) = c :: LawfulReader.rest s := by simp
  exact h.exists_passed_pending none hpending hcalls

end Dialogues

end Numeral128
