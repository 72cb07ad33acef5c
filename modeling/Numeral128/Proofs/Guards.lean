import Mathlib.Logic.Relation
import Numeral128.Proofs.Accumulation
import Numeral128.Proofs.Reading

/-!
# No value leaves the range

A digit is appended in the arithmetic of the type, so what the guard computes has to lie in the
range as well as what it guards.  `AppendStep.Exact` says both: the digit is appended just in case
the integer that the longer numeral denotes lies in the range, and every value on the way does.  It
holds upward (`exact_appendUp`) and downward (`exact_appendDown`) from any accumulator on the side
of zero to which the numeral is accumulated (`IntType.CanOccur`).

The loop that reads digits starts with zero, which is on both sides.  A turn of the loop (`Turn`)
hands such an accumulator on to the next (`Turn.canOccur_next`), and so each turn has one
(`Turn.canOccur_of_reaches`).
-/

namespace Numeral128

namespace IntType

/-! ### One digit -/

/-- Whether numerals of the type are accumulated downward, which only negative ones of the signed
type are. -/
def descends : IntType → Bool → Bool
  | signed, negative => negative
  | unsigned, _ => false

/-- What the bound of `t` leaves for the digits before the last one, `d`. -/
def room (t : IntType) (negative : Bool) (d : Nat) : Int :=
  if t.descends negative then t.lower + d else t.upper - d

/-- The integer that the numeral of `acc` denotes with a further digit `d`. -/
def extended (t : IntType) (b : Base) (negative : Bool) (acc : Int) (d : Nat) : Int :=
  if t.descends negative then acc * b.toNat - d else acc * b.toNat + d

/-- The accumulators that can occur: values of the type on the side of zero to which the numeral is
accumulated.  In the unsigned type these are all. -/
structure CanOccur (t : IntType) (negative : Bool) (acc : Int) : Prop where
  inRange : t.InRange acc
  side : if t.descends negative then acc ≤ 0 else 0 ≤ acc

/-- The step appends a digit just in case the longer numeral denotes an integer in the range, that
is `extended`, and computes no value outside it. -/
structure AppendStep.Exact (t : IntType) (b : Base) (room acc extended : Int) (step : AppendStep) :
    Prop where
  accumulator_eq : step.accumulator = if t.InRange extended then some extended else none
  /-- The guard is computed in any case, the rest only if the digit is appended. -/
  intermediates_eq : step.intermediates =
    [room, room.tdiv b.toNat] ++
      if t.InRange extended then [acc * b.toNat, extended] else []
  inRange_of_mem : ∀ n ∈ step.intermediates, t.InRange n

variable {t : IntType} {b : Base} {negative : Bool} {acc acc' room extended : Int} {d : Nat}
  {step : AppendStep} {p : Prop} [Decidable p]

/-- A step that is guarded by `p` is exact if `p` says that the longer numeral is in range, and what
each branch computes is. -/
theorem AppendStep.exact_of_eq_ite
    (hstep : step =
      if p then ⟨[room, room.tdiv b.toNat, acc * b.toNat, extended], some extended⟩
      else ⟨[room, room.tdiv b.toNat], none⟩)
    (hp : p ↔ t.InRange extended) (hroom : t.InRange room)
    (hbound : t.InRange (room.tdiv b.toNat)) (hshifted : p → t.InRange (acc * b.toNat)) :
    step.Exact t b room acc extended := by
  -- the guard is computed in both cases, and the rest where it holds
  by_cases h : p
  · have hin : t.InRange extended := hp.mp h
    rw [if_pos h] at hstep
    rw [hstep]
    refine ⟨by rw [if_pos hin], by rw [if_pos hin]; rfl, ?_⟩
    simpa using ⟨hroom, hbound, hshifted h, hin⟩
  · have hout : ¬ t.InRange extended := fun hin => h (hp.mpr hin)
    rw [if_neg h] at hstep
    rw [hstep]
    refine ⟨by rw [if_neg hout], by rw [if_neg hout]; rfl, ?_⟩
    simpa using ⟨hroom, hbound⟩

/-- Upward from `acc`, where the bound is the greatest value of `t`. -/
theorem exact_appendUp (h0 : 0 ≤ acc) (hd : d < b.toNat) :
    (t.appendUp b acc d).Exact t b (t.upper - d) acc (acc * b.toNat + d) := by
  have hlower := t.lower_nonpos
  have hbase := t.toNat_le_upper b
  have hmul : 0 ≤ acc * b.toNat := Int.mul_nonneg h0 (Int.natCast_nonneg _)
  -- the quotient is between zero and what is divided
  have hle : (t.upper - d).tdiv b.toNat ≤ t.upper - d := Int.tdiv_le_self _ (by omega)
  have hnonneg : 0 ≤ (t.upper - d).tdiv b.toNat :=
    Int.tdiv_nonneg (by omega) (Int.natCast_nonneg _)
  refine AppendStep.exact_of_eq_ite (t.appendUp_eq hd) ?_ ?_ ?_ ?_
  · rw [InRange]
    omega
  · exact ⟨by omega, by omega⟩
  · exact ⟨by omega, by omega⟩
  · intro h
    exact ⟨by omega, by omega⟩

/-- Downward from `acc`, where the bound is the least value. -/
theorem exact_appendDown (h0 : acc ≤ 0) (hd : d < b.toNat) :
    (signed.appendDown b acc d).Exact signed b (signed.lower + d) acc (acc * b.toNat - d) := by
  have hupper := signed.upper_nonneg
  have hbase := lower_signed_le b
  have hmul : acc * b.toNat ≤ 0 := Int.mul_nonpos_of_nonpos_of_nonneg h0 (Int.natCast_nonneg _)
  -- the quotient is between zero and what is divided
  -- division cuts toward zero, so the negative quotient is that of the positive number
  have hneg : (signed.lower + d).tdiv b.toNat = -((-(signed.lower + d)).tdiv b.toNat) := by
    rw [Int.neg_tdiv, neg_neg]
  have hle : (-(signed.lower + d)).tdiv b.toNat ≤ -(signed.lower + d) :=
    Int.tdiv_le_self _ (by omega)
  have hnonneg : 0 ≤ (-(signed.lower + d)).tdiv b.toNat :=
    Int.tdiv_nonneg (by omega) (Int.natCast_nonneg _)
  refine AppendStep.exact_of_eq_ite (appendDown_eq hd) ?_ ?_ ?_ ?_
  · rw [InRange]
    omega
  · exact ⟨by omega, by omega⟩
  · exact ⟨by omega, by omega⟩
  · intro h
    exact ⟨by omega, by omega⟩

/-- In either direction the step is exact, from an accumulator `acc` that can occur. -/
theorem exact_append (hacc : t.CanOccur negative acc) (hd : d < b.toNat) :
    (t.append b negative acc d).Exact t b (t.room negative d) acc
      (t.extended b negative acc d) := by
  have hside := hacc.side
  -- only the signed type goes down, and only after a minus sign
  cases hdown : t.descends negative with
  | true =>
    have htype : t = signed ∧ negative = true := by
      cases t with
      | signed => exact ⟨rfl, hdown⟩
      | unsigned => cases hdown
    obtain ⟨rfl, rfl⟩ := htype
    exact exact_appendDown hside hd
  | false =>
    have happend : t.append b negative acc d = t.appendUp b acc d := by
      cases t with
      | signed =>
        obtain rfl : negative = false := hdown
        rfl
      | unsigned => cases negative <;> rfl
    rw [hdown] at hside
    rw [happend, room, extended, hdown]
    exact exact_appendUp hside hd

/-- An accumulator stays on its side of zero, and so `acc'` can occur. -/
theorem canOccur_append? (hacc : t.CanOccur negative acc) (hd : d < b.toNat)
    (h : t.append? b negative acc d = some acc') : t.CanOccur negative acc' := by
  have hb : (0 : Int) ≤ b.toNat := Int.natCast_nonneg _
  have hside := hacc.side
  rw [append?, (exact_append hacc hd).accumulator_eq] at h
  split_ifs at h with hin
  obtain rfl := Option.some.inj h
  refine ⟨hin, ?_⟩
  rw [extended]
  split_ifs at hside ⊢
  · have := Int.mul_nonpos_of_nonpos_of_nonneg hside hb
    omega
  · have := Int.mul_nonneg hside hb
    omega

theorem canOccur_zero (t : IntType) (negative : Bool) : t.CanOccur negative 0 where
  inRange := ⟨t.lower_nonpos, t.upper_nonneg⟩
  side := by rw [ite_self]

end IntType

/-! ### The loop -/

/-- A turn of the loop that reads digits: the accumulator, the digit to append to it, and the reader
behind this digit. -/
structure Turn (σ : Type) where
  accumulator : Int
  digit : Nat
  reader : σ
  deriving DecidableEq, Repr

namespace Turn

variable {σ : Type} [CharReader σ] {t : IntType} {b : Base} {negative : Bool}
  {start turn next : Turn σ}

/-- What the loop gives from a turn on. -/
def result (t : IntType) (b : Base) (negative : Bool) (turn : Turn σ) : Except Rejection Int × σ :=
  readDigits t b negative turn.accumulator turn.digit turn.reader

/-- The next turn: there is one if the digit can be appended and is followed by another. -/
def next? (t : IntType) (b : Base) (negative : Bool) (turn : Turn σ) : Option (Turn σ) :=
  (t.append? b negative turn.accumulator turn.digit).bind fun accumulator =>
    match CharReader.read turn.reader with
    | (none, _) => none
    | (some c, reader) => (b.digit? c).map fun digit => { accumulator, digit, reader }

/-- One turn follows after another, or several. -/
def Reaches (t : IntType) (b : Base) (negative : Bool) : Turn σ → Turn σ → Prop :=
  Relation.ReflTransGen fun turn next => turn.next? t b negative = some next

/-- What a next turn takes: the digit is appended, and a character that is a digit is read. -/
theorem exists_of_next? (h : turn.next? t b negative = some next) :
    ∃ c, t.append? b negative turn.accumulator turn.digit = some next.accumulator ∧
      CharReader.read turn.reader = (some c, next.reader) ∧ b.digit? c = some next.digit := by
  obtain ⟨acc, hacc, hnext⟩ := Option.bind_eq_some_iff.mp h
  split at hnext
  · cases hnext
  · rename_i c reader hread
    obtain ⟨digit, hdigit, rfl⟩ := Option.map_eq_some_iff.mp hnext
    exact ⟨c, hacc, hread, hdigit⟩

/-- The loop goes on with the `next` turn. -/
theorem result_of_next? (h : turn.next? t b negative = some next) :
    turn.result t b negative = next.result t b negative := by
  obtain ⟨c, hacc, hread, hdigit⟩ := exists_of_next? h
  rw [result, readDigits_of_read hacc hread]
  dsimp only
  rw [hdigit]
  rfl

/-- The loop ends with the accumulator of the last `turn`, unless its digit cannot be appended. -/
theorem outcome_of_last (h : turn.next? t b negative = none) :
    (turn.result t b negative).1 =
      match t.append? b negative turn.accumulator turn.digit with
      | none => .error (.outOfRange b)
      | some acc => .ok acc := by
  cases hacc : t.append? b negative turn.accumulator turn.digit with
  | none => rw [result, readDigits, hacc]
  | some acc =>
    rw [next?, hacc, Option.bind_some] at h
    rcases hread : CharReader.read turn.reader with ⟨answer, reader⟩
    rw [hread] at h
    rw [result, readDigits_of_read hacc hread]
    cases answer with
    | none => rfl
    | some c =>
      have hdigit : b.digit? c = none := Option.map_eq_none_iff.mp h
      dsimp only
      rw [hdigit]

/-- An accumulator that can occur, and a digit of the base. -/
structure CanOccur (t : IntType) (b : Base) (negative : Bool) (turn : Turn σ) : Prop where
  accumulator : t.CanOccur negative turn.accumulator
  digit_lt : turn.digit < b.toNat

/-- **One turn.**  An accumulator that can occur is handed on to the `next` turn. -/
theorem canOccur_next (hturn : turn.CanOccur t b negative)
    (h : turn.next? t b negative = some next) : next.CanOccur t b negative := by
  obtain ⟨c, hacc, -, hdigit⟩ := exists_of_next? h
  exact ⟨IntType.canOccur_append? hturn.accumulator hturn.digit_lt hacc, Base.digit?_lt hdigit⟩

/-- **All turns.**  By induction on their number from `start`, each `turn` has such an accumulator.
-/
theorem canOccur_of_reaches (hstart : start.CanOccur t b negative)
    (h : start.Reaches t b negative turn) : turn.CanOccur t b negative := by
  induction h with
  | refl => exact hstart
  | tail _ hnext ih => exact canOccur_next ih hnext

/-- The `result` of the loop is that of each of its turns. -/
theorem result_of_reaches (h : start.Reaches t b negative turn) :
    start.result t b negative = turn.result t b negative := by
  induction h with
  | refl => rfl
  | tail _ hnext ih => exact ih.trans (result_of_next? hnext)

end Turn

/-- **No value leaves the range.**  From every accumulator that can occur, a digit is appended just
in case the integer that the longer numeral denotes lies in the range, nothing on the way leaves the
range, and the new accumulator can occur.  So every turn of the loop that reads digits has an
accumulator that can occur: the loop begins with one, goes on from turn to turn, and its outcome is
that of the last turn. -/
theorem guards_exact (t : IntType) (b : Base) (negative : Bool) :
    (∀ acc d, t.CanOccur negative acc → d < b.toNat →
      (t.append b negative acc d).Exact t b (t.room negative d) acc
          (t.extended b negative acc d) ∧
        ∀ acc' ∈ t.append? b negative acc d, t.CanOccur negative acc') ∧
    ∀ {σ : Type} [CharReader σ] (c : Char) (digit : Nat) (s : σ), b.digit? c = some digit →
      let start : Turn σ := { accumulator := 0, digit, reader := s }
      readMagnitude t b negative c s = start.result t b negative ∧
      ∀ turn, start.Reaches t b negative turn →
        turn.CanOccur t b negative ∧
        start.result t b negative = turn.result t b negative ∧
        (turn.next? t b negative = none →
          (turn.result t b negative).1 =
            match t.append? b negative turn.accumulator turn.digit with
            | none => .error (.outOfRange b)
            | some acc => .ok acc) := by
  constructor
  · intro acc d hacc hd
    exact ⟨IntType.exact_append hacc hd, fun acc' h => IntType.canOccur_append? hacc hd h⟩
  · intro σ _ c digit s hdigit start
    -- the loop starts with the first digit and an accumulator of zero
    have hstart : start.CanOccur t b negative := ⟨t.canOccur_zero negative, Base.digit?_lt hdigit⟩
    refine ⟨by rw [readMagnitude, hdigit]; rfl, fun turn hreaches => ?_⟩
    exact ⟨Turn.canOccur_of_reaches hstart hreaches, Turn.result_of_reaches hreaches,
      Turn.outcome_of_last⟩

/-- Downward, the least value is reached and not passed, and the second of two digits finds the
first one negated. -/
theorem guards_exact_least :
    let start : Turn TextReader :=
      { accumulator := 0, digit := 1, reader := { text := "7".toList } }
    IntType.signed.CanOccur true (-17014118346046923173168730371588410572) ∧
      8 < Base.ten.toNat ∧ 9 < Base.ten.toNat ∧
      IntType.signed.append? .ten true (-17014118346046923173168730371588410572) 8 =
        some (-2 ^ 127) ∧
      IntType.signed.append? .ten true (-17014118346046923173168730371588410572) 9 = none ∧
      Base.ten.digit? '1' = some 1 ∧
      ∃ turn, start.Reaches .signed .ten true turn ∧ turn.accumulator = -1 ∧ turn.digit = 7 ∧
        turn.CanOccur .signed .ten true := by
  intro start
  have hacc : IntType.signed.CanOccur true (-17014118346046923173168730371588410572) :=
    ⟨by decide, by decide⟩
  have h8 : 8 < Base.ten.toNat := by decide
  have h9 : 9 < Base.ten.toNat := by decide
  have hdigit : Base.ten.digit? '1' = some 1 := by decide
  obtain ⟨hexact, hloop⟩ := guards_exact .signed .ten true
  have heq8 := (hexact _ 8 hacc h8).1.accumulator_eq
  have heq9 := (hexact _ 9 hacc h9).1.accumulator_eq
  -- an eight reaches the least value, and a nine would pass it
  rw [if_pos (by decide)] at heq8
  rw [if_neg (by decide)] at heq9
  have hnext : start.next? .signed .ten true =
      some { accumulator := -1, digit := 7, reader := (CharReader.read start.reader).2 } := by
    decide +kernel
  have hreaches : start.Reaches .signed .ten true _ := .single hnext
  obtain ⟨-, hturns⟩ := hloop '1' 1 start.reader hdigit
  exact ⟨hacc, h8, h9, heq8, heq9, hdigit, _, hreaches, rfl, rfl, (hturns _ hreaches).1⟩

end Numeral128
