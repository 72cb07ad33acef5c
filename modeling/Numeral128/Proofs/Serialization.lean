import Numeral128.Proofs.Fill
import Numeral128.Proofs.LayoutField
import Numeral128.Proofs.Lookup
import Numeral128.Proofs.Record
import Numeral128.Serial.Settings

/-!
# Layouts that are serialized and read back

A layout is serialized to a structure with an entry for each field, and every value of a field is
read back from its serialized form (`LayoutField.read_write`).  A fill is written as a character but
read as a text of one character or a digit, so that this is not the same function both ways.

A map is read name by name (`LayoutField.readEntries_eq`).  What is found under the name of a field
depends neither on the order of the entries nor on those with other names, and where nothing is
found the field has its default.  So any part of the serialized fields is read back, and the rest is
as in the default layout (`Layout.read_of_some_fields`).  This is so in every format that is written
and read as `SerialFormat.Lawful` says, of which `Serial.format` is one (`Serial.format_lawful`).
-/

namespace Numeral128

section Formats

variable {δ ε : Type} {F : SerialFormat δ ε}

/-! ### Values of fields -/

/-- **One field.**  Every value of the field `f` is read back from its serialized form, a width if
it has 64 bits. -/
theorem LayoutField.read_write (hF : F.Lawful) {l : Layout} (hwidth : l.width < sizeBound)
    (f : LayoutField) : f.read F.toDataFormat (f.write F (f.get l)) = .ok (f.get l) := by
  have hchoice : ∀ {α : Type} [Spelled α] (a : α), F.choice α (F.ofChoice a) = .ok a :=
    fun a => hF.choice_of_found (hF.found_ofChoice a) (Spelled.lookup_spelling a)
  have hbool : ∀ b, F.bool (F.ofBool b) = .ok b :=
    fun b => hF.lawful.bool_of_found (hF.found_ofBool b)
  -- there are four kinds of fields, each written in its own way
  cases f with
  | base => exact hchoice l.base
  | alignment => exact hchoice l.alignment
  | uppercase => exact hbool l.uppercase
  | showPrefix => exact hbool l.showPrefix
  | showPlus => exact hbool l.showPlus
  | width => exact hF.lawful.size_of_found hwidth (hF.found_ofSize hwidth)
  | fill => exact (hF.lawful.fill_eq_ok_iff _ _).mpr (Or.inl (hF.found_ofChar l.fill))

/-- Whatever is read as a layout `l` has a width of 64 bits. -/
theorem Layout.width_lt_of_read {F : DataFormat δ ε} (hF : F.Lawful) {d : δ} {l : Layout}
    (h : Layout.read F d = .ok l) : l.width < sizeBound := by
  refine hF.record_induction (fun l => l.width < sizeBound) _ _ _ (by decide) ?_ h
  -- reading a structure keeps what each of its fields keeps
  intro reader hreader d change hchange l hl
  obtain ⟨f, -, rfl⟩ := List.mem_map.mp hreader
  have hmap : (f.read F d).map f.set = .ok change := hchange
  cases hread : f.read F d with
  | error e =>
    rw [hread] at hmap
    cases hmap
  | ok a =>
    rw [hread] at hmap
    obtain rfl := Except.ok.inj hmap
    -- only a width that was read can make a difference
    cases f with
    | width => exact hF.size_lt hread
    | base | uppercase | showPrefix | showPlus | fill | alignment => exact hl

/-! ### Parts of a layout -/

section Parts

variable {entries unknown : List (String × δ)} {l : Layout} {S : LayoutField → Bool}

/-- Under the name of the field `f` there is its entry, or nothing if it is not in `S`. -/
theorem LayoutField.lookup_of_some_fields
    (hunknown : ∀ entry ∈ unknown, ∀ f : LayoutField, entry.1 ≠ f.name)
    (hperm : entries.Perm ((LayoutField.all.filter S).map (LayoutField.entry F l) ++ unknown))
    (f : LayoutField) :
    entries.lookup f.name = if S f = true then some (f.write F (f.get l)) else none := by
  -- an entry with the name of a field is that of this field
  have hentry : ∀ entry ∈ entries, entry.1 = f.name →
      S f = true ∧ entry.2 = f.write F (f.get l) := by
    intro entry hmem hname
    obtain hknown | hother := List.mem_append.mp (hperm.mem_iff.mp hmem)
    · obtain ⟨g, hg, rfl⟩ := List.mem_map.mp hknown
      obtain rfl := LayoutField.name_injective hname
      exact ⟨(List.mem_filter.mp hg).2, rfl⟩
    · exact absurd hname (hunknown entry hother f)
  by_cases hf : S f = true
  · rw [if_pos hf]
    have hmem : LayoutField.entry F l f ∈ entries := by
      apply hperm.mem_iff.mpr
      apply List.mem_append_left
      exact List.mem_map_of_mem (List.mem_filter.mpr ⟨f.mem_all, hf⟩)
    exact lookup_eq_some_of_forall hmem fun entry hentries hname => (hentry entry hentries hname).2
  · rw [if_neg hf, lookup_eq_none_iff_not_mem]
    intro hname
    obtain ⟨entry, hmem, hname⟩ := List.mem_map.mp hname
    exact hf (hentry entry hmem hname).1

/-- No field `f` has two entries, which is what formats ask for that refuse a name given twice. -/
theorem LayoutField.count_name_le
    (hunknown : ∀ entry ∈ unknown, ∀ f : LayoutField, entry.1 ≠ f.name)
    (hperm : entries.Perm ((LayoutField.all.filter S).map (LayoutField.entry F l) ++ unknown))
    (f : LayoutField) : (entries.map Prod.fst).count f.name ≤ 1 := by
  have hnames : ((LayoutField.all.filter S).map (LayoutField.entry F l)).map Prod.fst =
      (LayoutField.all.filter S).map LayoutField.name := by
    rw [List.map_map]
    rfl
  have hnodup : ((LayoutField.all.filter S).map LayoutField.name).Nodup := by
    apply List.Nodup.map (fun f g h => LayoutField.name_injective h)
    exact List.Nodup.filter S (by decide)
  have hnone : f.name ∉ unknown.map Prod.fst := by
    intro hmem
    obtain ⟨entry, hentry, hname⟩ := List.mem_map.mp hmem
    exact hunknown entry hentry f hname
  -- the order of the entries does not matter for their number
  rw [(hperm.map Prod.fst).count_eq, List.map_append, List.count_append, hnames,
    List.count_eq_zero_of_not_mem hnone, Nat.add_zero]
  exact List.nodup_iff_count_le_one.mp hnodup f.name

/-- A map with the fields in `S` is read to the layout with these fields and the defaults. -/
theorem Layout.read_ofEntries (hF : F.Lawful) (hwidth : l.width < sizeBound)
    (hunknown : ∀ entry ∈ unknown, ∀ f : LayoutField, entry.1 ≠ f.name)
    (hperm : entries.Perm ((LayoutField.all.filter S).map (LayoutField.entry F l) ++ unknown)) :
    Layout.read F.toDataFormat (F.ofEntries entries) =
      .ok (LayoutField.layout fun f => if S f = true then f.get l else f.get {}) := by
  apply (hF.lawful.record_of_map _ _ _ (hF.found_ofEntries entries)).mpr
  apply LayoutField.readEntries_eq
  intro f
  rw [LayoutField.readOr, hF.member?_ofEntries (LayoutField.count_name_le hunknown hperm f),
    LayoutField.lookup_of_some_fields hunknown hperm f]
  by_cases hf : S f = true
  · rw [if_pos hf, if_pos hf]
    exact LayoutField.read_write hF hwidth f
  · rw [if_neg hf, if_neg hf]

theorem Layout.read_write (hF : F.Lawful) (hwidth : l.width < sizeBound) :
    Layout.read F.toDataFormat (Layout.write F l) = .ok l := by
  have hnone : ∀ entry ∈ ([] : List (String × δ)), ∀ f : LayoutField, entry.1 ≠ f.name :=
    fun _ hmem => absurd hmem List.not_mem_nil
  have hall : (LayoutField.all.map (LayoutField.entry F l)).Perm
      ((LayoutField.all.filter fun _ => true).map (LayoutField.entry F l) ++ []) := .refl _
  rw [Layout.write, hF.ofRecord_eq]
  exact Layout.read_ofEntries hF hwidth hnone hall

end Parts

end Formats

/-! ### The format of serialized forms -/

namespace Serial

theorem exists_eq_scalar {d : Datum} {value : Scalar} (h : d.found = .scalar value) :
    d = .scalar value := by
  cases d with
  | scalar x =>
    obtain rfl := Found.scalar.inj h
    rfl
  | list items => cases h
  | map entries => cases h

theorem payload?_of_found {d : Datum} {payload : FillPayload}
    (h : d.found.payload? = some payload) : payload? d = .ok payload := by
  rw [payload?, h]

theorem size?_lt {d : Datum} {n : Nat} (h : size? d = .ok n) : n < sizeBound := by
  unfold size? at h
  split at h
  next m =>
    split_ifs at h with hm
    obtain rfl := Except.ok.inj h
    exact hm
  next => cases h
  next => cases h

/-- What every field of a structure keeps, `P`, is kept by reading the structure. -/
theorem record?_induction {α : Type} {P : α → Prop} {name : String}
    {fields : List (FieldReader Datum SerialError α)} {a b : α} {d : Datum} (ha : P a)
    (hkeep : ∀ f ∈ fields, ∀ d change, f.read d = .ok change → ∀ a, P a → P (change a))
    (h : record? name fields a d = .ok b) : P b := by
  cases d with
  | scalar value => cases h
  | map entries => exact readEntries_induction ha hkeep (readRecord_eq_ok_iff.mp h)
  | list items =>
    rw [record?] at h
    split at h
    next b' hitems =>
      split_ifs at h
      obtain rfl := Except.ok.inj h
      exact readItems_induction ha hkeep hitems
    next => cases h

theorem toDataFormat_lawful : format.toDataFormat.Lawful where
  bool_of_found h := by
    obtain rfl := exists_eq_scalar h
    rfl
  size_of_found hn h := by
    obtain rfl := exists_eq_scalar h
    exact if_pos hn
  size_lt h := size?_lt h
  payload_of_text h := payload?_of_found (congrArg Found.payload? h)
  payload_of_int hn h :=
    payload?_of_found ((congrArg Found.payload? h).trans (Found.payload?_int hn))
  payload_of_other {d} htext hint := by
    have hpayload : d.found.payload? = none := Found.payload?_eq_none htext hint
    refine ⟨.custom FillPayload.mismatchMessage, ?_⟩
    show payload? d = _
    rw [payload?, hpayload]
  record_of_map {_} _ _ _ {d _} h := by
    cases d with
    | map entries => exact readRecord_eq_ok_iff
    | scalar value => cases h
    | list items => cases h
  record_induction _ _ _ _ _ _ ha hkeep h := record?_induction ha hkeep h

/-- **Serialized forms.**  They are written and read as `SerialFormat.Lawful` promises. -/
theorem format_lawful : format.Lawful where
  lawful := toDataFormat_lawful
  choice_of_found {α _ d name a} h hspelling := by
    obtain rfl := exists_eq_scalar h
    show named? α name = _
    rw [named?, hspelling]
  found_ofBool b := rfl
  found_ofSize _ := rfl
  found_ofChar c := rfl
  found_ofChoice a := rfl
  found_ofEntries entries := rfl
  member?_ofEntries _ := rfl
  ofRecord_eq name entries := rfl

end Serial

/-- **Layouts survive serialization, in whole and in part.**  Let `F` be a format that is written
and read as promised, and let all widths have 64 bits.  A map that has the serialized fields of a
layout `l` in `S`, in any order and among any entries with other names, is read to the layout with
these fields and the defaults of the others.  The serialized form has all fields and is read to `l`
itself.  So whatever is read as a layout, serializing it and reading that gives the same. -/
theorem Layout.read_of_some_fields {δ ε : Type} {F : SerialFormat δ ε} (hF : F.Lawful) :
    (∀ (l : Layout) (S : LayoutField → Bool) (unknown entries : List (String × δ)),
      l.width < sizeBound → (∀ entry ∈ unknown, ∀ f : LayoutField, entry.1 ≠ f.name) →
      entries.Perm ((LayoutField.all.filter S).map (LayoutField.entry F l) ++ unknown) →
      Layout.read F.toDataFormat (F.ofEntries entries) =
        .ok (LayoutField.layout fun f => if S f = true then f.get l else f.get {})) ∧
    (∀ l : Layout, l.width < sizeBound →
      Layout.write F l = F.ofEntries (LayoutField.all.map (LayoutField.entry F l)) ∧
      Layout.read F.toDataFormat (Layout.write F l) = .ok l) ∧
    ∀ (d : δ) (l : Layout), Layout.read F.toDataFormat d = .ok l →
      Layout.read F.toDataFormat (Layout.write F l) = .ok l := by
  refine ⟨?_, fun l hwidth => ⟨hF.ofRecord_eq _ _, Layout.read_write hF hwidth⟩, ?_⟩
  · intro l S unknown entries hwidth hunknown hperm
    exact Layout.read_ofEntries hF hwidth hunknown hperm
  · intro d l hread
    exact Layout.read_write hF (Layout.width_lt_of_read hF.lawful hread)

/-- The fill and the width of a layout, after an entry that is almost a fill.  The fill is a digit,
and the width is the greatest of 64 bits.  A list with a base is a layout, too. -/
theorem Layout.read_of_some_fields_digit_fill :
    let l : Layout := { base := .sixteen, width := sizeBound - 1, fill := '7', alignment := .left }
    let unknown : List (String × Datum) := [("Fill", .scalar (.bool true))]
    let entries := unknown ++
      [LayoutField.entry Serial.format l .width, LayoutField.entry Serial.format l .fill]
    let short : Datum := .list [.map [("octal", .scalar .null)]]
    Serial.layout? (.map entries) = .ok { width := sizeBound - 1, fill := '7' } ∧
      Serial.layout? short = .ok { base := .eight } ∧
      Serial.layout? (Serial.ofLayout { base := .eight }) = .ok { base := .eight } := by
  intro l unknown entries short
  obtain ⟨hsome, -, hagain⟩ := Layout.read_of_some_fields Serial.format_lawful
  have hunknown : ∀ entry ∈ unknown, ∀ f : LayoutField, entry.1 ≠ f.name := by
    intro entry hmem f
    rw [List.mem_singleton.mp hmem]
    cases f <;> decide
  have hpart := hsome l (fun f => decide (f = .fill ∨ f = .width)) unknown entries (by decide)
    hunknown List.perm_append_comm
  have hshort : Serial.layout? short = .ok { base := .eight } := rfl
  exact ⟨hpart, hshort, hagain short _ hshort⟩

end Numeral128
