import Mathlib.Data.List.Nodup
import Numeral128.Proofs.Lookup
import Numeral128.Toml.Document

/-!
# Keys of tables

The tables of a document have different keys.  `Value.Distinct` says this of a value and all that is
in it, and `Node.Distinct` of a table under construction.  New entries are appended only if their
key is not there yet, and all other changes replace an entry in place, so that whatever is done
below a table leaves its keys different (`Entries.Distinct.update`).

This is carried through the readers of values, lines and documents, and through the tables that
stand for moments, to `distinct_of_parse?`.
-/

namespace Numeral128.Toml

/-- In a value, and in every value in it, the keys of tables differ. -/
inductive Value.Distinct : Value → Prop
  | text (s : String) : Distinct (.text s)
  | integer (n : Int) : Distinct (.integer n)
  | float (x : Binary64) : Distinct (.float x)
  | boolean (b : Bool) : Distinct (.boolean b)
  | moment (m : Moment) : Distinct (.moment m)
  | array {items : List Value} : (∀ v ∈ items, Distinct v) → Distinct (.array items)
  | table {entries : List (String × Value)} : (entries.map Prod.fst).Nodup →
      (∀ entry ∈ entries, Distinct entry.2) → Distinct (.table entries)

theorem Value.Distinct.of_table {entries : List (String × Value)}
    (h : (Value.table entries).Distinct) :
    (entries.map Prod.fst).Nodup ∧ ∀ entry ∈ entries, entry.2.Distinct := by
  cases h with
  | table hnodup hentries => exact ⟨hnodup, hentries⟩

/-- In a part of a document under construction, and in every part of it, the keys of tables
differ. -/
inductive Node.Distinct : Node → Prop
  | leaf {v : Value} : v.Distinct → Distinct (.leaf v)
  | table {origin : Origin} {entries : Entries} : (entries.map Prod.fst).Nodup →
      (∀ entry ∈ entries, Distinct entry.2) → Distinct (.table origin entries)
  | series {tables : List Entries} : (∀ entries ∈ tables, (entries.map Prod.fst).Nodup) →
      (∀ entries ∈ tables, ∀ entry ∈ entries, Distinct entry.2) → Distinct (.series tables)

/-- The keys of a table under construction differ, and so do those of all tables in it. -/
structure Entries.Distinct (entries : Entries) : Prop where
  nodup : (entries.map Prod.fst).Nodup
  distinct_of_mem : ∀ entry ∈ entries, entry.2.Distinct

/-! ### Changes of tables -/

namespace Entries.Distinct

variable {entries : Entries} {key : String} {node : Node}

theorem nil : Entries.Distinct [] := ⟨List.nodup_nil, fun _ h => absurd h List.not_mem_nil⟩

theorem node_of_lookup (h : Distinct entries) (hkey : entries.lookup key = some node) :
    node.Distinct :=
  h.distinct_of_mem _ (mem_of_lookup_eq_some hkey)

/-- A new `key` may be appended.  That it is new is what the callers have looked up. -/
theorem concat (h : Distinct entries) (hkey : key ∉ entries.map Prod.fst) (hnode : node.Distinct) :
    Distinct (entries ++ [(key, node)]) := by
  constructor
  · rw [List.map_append, List.map_singleton, List.nodup_append_comm]
    exact List.nodup_cons.mpr ⟨hkey, h.nodup⟩
  · intro entry hentry
    obtain hold | hnew := List.mem_append.mp hentry
    · exact h.distinct_of_mem entry hold
    · rw [List.mem_singleton.mp hnew]
      exact hnode

/-- The node of an existing `key` may be replaced, and if there is no such `key` nothing changes. -/
theorem replace (h : Distinct entries) (hnode : node.Distinct) :
    Distinct (entries.replace key node) := by
  constructor
  · exact (map_fst_replaced entries key node).symm ▸ h.nodup
  · intro entry hentry
    obtain ⟨old, hold, rfl⟩ := List.mem_map.mp hentry
    split_ifs
    · exact hnode
    · exact h.distinct_of_mem old hold

theorem filter (h : Distinct entries) (p : String × Node → Bool) :
    Distinct (entries.filter p) where
  nodup := h.nodup.sublist (List.filter_sublist.map Prod.fst)
  distinct_of_mem entry hentry := h.distinct_of_mem entry (List.mem_of_mem_filter hentry)

theorem table (h : Distinct entries) (origin : Origin) : (Node.table origin entries).Distinct :=
  .table h.nodup h.distinct_of_mem

theorem series {tables : List Entries} (h : ∀ entries ∈ tables, Distinct entries) :
    (Node.series tables).Distinct :=
  .series (fun entries hmem => (h entries hmem).nodup)
    fun entries hmem => (h entries hmem).distinct_of_mem

/-- A change `f` that keeps the keys of a table different may be made in the table below any `path`.
-/
theorem update {made : Origin} {f : Origin → Entries → Option Entries}
    (hf : ∀ origin entries entries', Distinct entries → f origin entries = some entries' →
      Distinct entries')
    {path : List String} {origin : Origin} {entries' : Entries} (h : Distinct entries)
    (hupdate : Entries.update made f path origin entries = some entries') : Distinct entries' := by
  -- at the end of the path `f` changes the table itself, and above it one entry is replaced
  induction path generalizing origin entries entries' with
  | nil => exact hf origin entries entries' h hupdate
  | cons key path ih =>
    unfold Entries.update at hupdate
    -- a missing table is made on the way and appended
    cases hlookup : entries.lookup key with
    | none =>
      rw [hlookup] at hupdate
      obtain ⟨sub, hsub, rfl⟩ := Option.map_eq_some_iff.mp hupdate
      exact h.concat (lookup_eq_none_iff_not_mem.mp hlookup) ((ih nil hsub).table made)
    | some node =>
      rw [hlookup] at hupdate
      have hnode := h.node_of_lookup hlookup
      cases hnode with
      | leaf => exact absurd hupdate nofun
      | table hnodup hentries =>
        dsimp only at hupdate
        split_ifs at hupdate
        obtain ⟨sub, hsub, rfl⟩ := Option.map_eq_some_iff.mp hupdate
        exact h.replace ((ih ⟨hnodup, hentries⟩ hsub).table _)
      | @series tables hnodup hentries =>
        dsimp only at hupdate
        cases hlast : tables.getLast? with
        | none =>
          rw [hlast] at hupdate
          exact absurd hupdate nofun
        | some last =>
          rw [hlast] at hupdate
          obtain ⟨sub, hsub, rfl⟩ := Option.map_eq_some_iff.mp hupdate
          -- the last table of the series is changed, the others stay
          have hmem : last ∈ tables := List.mem_of_getLast? hlast
          refine h.replace (series fun entries hentries' => ?_)
          obtain hold | hnew := List.mem_append.mp hentries'
          · have hold := List.dropLast_subset tables hold
            exact ⟨hnodup entries hold, hentries entries hold⟩
          · rw [List.mem_singleton.mp hnew]
            exact ih ⟨hnodup last hmem, hentries last hmem⟩ hsub

/-- A header `[key]` makes a table, or moves one that has been made by other headers to the end. -/
theorem openTable {entries' : Entries} (h : Distinct entries)
    (hopen : entries.openTable key = some entries') : Distinct entries' := by
  unfold Entries.openTable at hopen
  split at hopen
  next hlookup =>
    obtain rfl := Option.some.inj hopen
    exact h.concat (lookup_eq_none_iff_not_mem.mp hlookup) (nil.table .header)
  next sub hlookup =>
    obtain rfl := Option.some.inj hopen
    have hsub : Distinct sub := by
      cases h.node_of_lookup hlookup with
      | table hnodup hentries => exact ⟨hnodup, hentries⟩
    -- the entry moves to the end, so its key is not among those that stay
    refine (h.filter _).concat ?_ (hsub.table .header)
    intro hmem
    obtain ⟨entry, hentry, rfl⟩ := List.mem_map.mp hmem
    simpa using (List.mem_filter.mp hentry).2
  next => exact absurd hopen nofun

/-- A header `[[key]]` makes a series of tables or adds an empty one to it. -/
theorem openSeries {entries' : Entries} (h : Distinct entries)
    (hopen : entries.openSeries key = some entries') : Distinct entries' := by
  unfold Entries.openSeries at hopen
  split at hopen
  next hlookup =>
    obtain rfl := Option.some.inj hopen
    exact h.concat (lookup_eq_none_iff_not_mem.mp hlookup)
      (series (List.forall_mem_singleton.mpr nil))
  next tables hlookup =>
    obtain rfl := Option.some.inj hopen
    refine h.replace (series fun entries hentries => ?_)
    cases h.node_of_lookup hlookup with
    | series hnodup hdistinct =>
      obtain hold | hnew := List.mem_append.mp hentries
      · exact ⟨hnodup entries hold, hdistinct entries hold⟩
      · rw [List.mem_singleton.mp hnew]
        exact nil
  next => exact absurd hopen nofun

/-- An entry `key = v` is added below `path` only where there is no such `key`. -/
theorem insert {entries' : Entries} {path : List String} {v : Value} {origin : Origin}
    (h : Distinct entries) (hv : v.Distinct)
    (hinsert : entries.insert path key v origin = some entries') : Distinct entries' := by
  refine h.update ?_ hinsert
  intro origin entries entries' h hadd
  split_ifs at hadd with hmade hlookup
  obtain rfl := Option.some.inj hadd
  have hnone : entries.lookup key = none := Option.not_isSome_iff_eq_none.mp hlookup
  exact h.concat (lookup_eq_none_iff_not_mem.mp hnone) (.leaf hv)

end Entries.Distinct

/-! ### Finished tables -/

theorem entriesToValues_eq_map (entries : Entries) :
    entriesToValues entries = entries.map fun entry => (entry.1, entry.2.toValue) := by
  induction entries with
  | nil => rfl
  | cons entry entries ih => rw [entriesToValues, ih, List.map_cons]

theorem seriesToValues_eq_map (tables : List Entries) :
    seriesToValues tables = tables.map fun entries => .table (entriesToValues entries) := by
  induction tables with
  | nil => rfl
  | cons entries tables ih => rw [seriesToValues, ih, List.map_cons]

theorem distinct_entriesToValues {entries : Entries} (hnodup : (entries.map Prod.fst).Nodup)
    (h : ∀ entry ∈ entries, entry.2.toValue.Distinct) :
    (Value.table (entriesToValues entries)).Distinct := by
  rw [entriesToValues_eq_map]
  refine .table ?_ (List.forall_mem_map.mpr h)
  rwa [List.map_map]

/-- A `node` becomes a value with the same keys. -/
theorem Node.Distinct.toValue {node : Node} (h : node.Distinct) : node.toValue.Distinct := by
  induction h with
  | leaf hv => exact hv
  | table hnodup _ ih => exact distinct_entriesToValues hnodup ih
  | @series tables hnodup _ ih =>
    rw [Node.toValue, seriesToValues_eq_map]
    refine .array (List.forall_mem_map.mpr fun entries hentries => ?_)
    exact distinct_entriesToValues (hnodup entries hentries) (ih entries hentries)

theorem Entries.Distinct.toValues {entries : Entries} (h : entries.Distinct) :
    (Value.table (entriesToValues entries)).Distinct :=
  distinct_entriesToValues h.nodup fun entry hentry => (h.distinct_of_mem entry hentry).toValue

/-! ### Reading values -/

section Words

variable {cs rest : List Char} {v : Value}

/-- What `moment?` reads are moments. -/
theorem exists_eq_moment (h : moment? cs = some v) : ∃ m, v = .moment m := by
  unfold moment? at h
  split at h
  next => exact ⟨_, (Option.some.inj h).symm⟩
  next =>
    split_ifs at h
    obtain ⟨time, -, h⟩ := Option.bind_eq_some_iff.mp h
    obtain ⟨offset, -, h⟩ := Option.bind_eq_some_iff.mp h
    exact ⟨_, (Option.some.inj h).symm⟩
  next =>
    split at h
    next => exact ⟨_, (Option.some.inj h).symm⟩
    next => exact absurd h nofun

/-- What `integer?` reads are integers, whatever their base. -/
theorem exists_eq_integer (h : integer? cs = some v) : ∃ n, v = .integer n := by
  have hbounded : ∀ n, inInt64? n = some v → ∃ n, v = .integer n := by
    intro n h
    unfold inInt64? at h
    split_ifs at h
    exact ⟨n, (Option.some.inj h).symm⟩
  unfold integer? at h
  split at h
  all_goals
    obtain ⟨digits, -, h⟩ := Option.bind_eq_some_iff.mp h
    exact hbounded _ h

/-- What `float?` reads are finite numbers, or the names of those that are not. -/
theorem exists_eq_float (h : float? cs = some v) : ∃ x, v = .float x := by
  have hfinite : ∀ x, (if x = Binary64.infinite false then none else some (Value.float x)) =
      some v → ∃ x, v = .float x := by
    intro x h
    split_ifs at h
    exact ⟨x, (Option.some.inj h).symm⟩
  unfold float? at h
  dsimp only at h
  split at h
  next => exact ⟨_, (Option.some.inj h).symm⟩
  split at h
  next => exact ⟨_, (Option.some.inj h).symm⟩
  obtain ⟨whole, -, h⟩ := Option.bind_eq_some_iff.mp h
  -- there are a fraction, an exponent or both
  split at h
  next =>
    split at h
    next => exact absurd h nofun
    next =>
      obtain ⟨fraction, -, h⟩ := Option.bind_eq_some_iff.mp h
      split at h <;> obtain ⟨exponent, -, h⟩ := Option.bind_eq_some_iff.mp h <;>
        exact hfinite _ h
  next =>
    obtain ⟨fraction, -, h⟩ := Option.bind_eq_some_iff.mp h
    split at h <;> obtain ⟨exponent, -, h⟩ := Option.bind_eq_some_iff.mp h <;>
      exact hfinite _ h

/-- The word `cs` is a truth value, a moment or a number, so it has no parts with keys. -/
theorem distinct_of_ofWord? (h : ofWord? cs = some v) : v.Distinct := by
  unfold ofWord? at h
  split_ifs at h
  · -- the two truth values
    exact Option.some.inj h ▸ .boolean true
  · exact Option.some.inj h ▸ .boolean false
  · -- a word that is no moment may be a float, and else it must be an integer
    cases hmoment : moment? cs with
    | some v' =>
      obtain ⟨m, rfl⟩ := exists_eq_moment hmoment
      rw [hmoment] at h
      exact Option.some.inj h ▸ .moment m
    | none =>
      rw [hmoment] at h
      cases hfloat : float? cs with
      | some v' =>
        obtain ⟨x, rfl⟩ := exists_eq_float hfloat
        rw [hfloat] at h
        exact Option.some.inj h ▸ .float x
      | none =>
        rw [hfloat] at h
        obtain ⟨n, rfl⟩ := exists_eq_integer h
        exact .integer n

end Words

section Values

variable {read : List Char → Option (Value × List Char)}

/-- The values `vs` of an array are read one by one, and each as `read` promises. -/
theorem distinct_of_elements?
    (hread : ∀ cs v rest, read cs = some (v, rest) → v.Distinct) {budget : Nat}
    {cs rest : List Char} {vs : List Value} (h : elements? read budget cs = some (vs, rest)) :
    ∀ v ∈ vs, v.Distinct := by
  -- the values come one after the other, so the induction follows the budget
  induction budget generalizing cs rest vs with
  | zero => exact absurd h nofun
  | succ budget ih =>
    unfold elements? at h
    obtain ⟨start, -, h⟩ := Option.bind_eq_some_iff.mp h
    split at h
    next =>
      obtain ⟨rfl, -⟩ := Prod.mk.inj (Option.some.inj h)
      exact fun v hv => absurd hv List.not_mem_nil
    next =>
      obtain ⟨⟨v, after⟩, hv, h⟩ := Option.bind_eq_some_iff.mp h
      obtain ⟨stop, -, h⟩ := Option.bind_eq_some_iff.mp h
      split at h
      next =>
        obtain ⟨rfl, -⟩ := Prod.mk.inj (Option.some.inj h)
        exact List.forall_mem_singleton.mpr (hread _ _ _ hv)
      next =>
        obtain ⟨⟨vs', rest'⟩, hvs, h⟩ := Option.map_eq_some_iff.mp h
        obtain ⟨rfl, -⟩ := Prod.mk.inj h
        exact List.forall_mem_cons.mpr ⟨hread _ _ _ hv, ih hvs⟩
      next => exact absurd h nofun

/-- Each pair of an inline table goes through `Entries.insert`, and this is why a `key` that comes
twice is refused. -/
theorem distinct_of_inlineEntries?
    (hread : ∀ cs v rest, read cs = some (v, rest) → v.Distinct) {budget : Nat}
    {cs rest : List Char} {entries entries' : Entries} (hentries : entries.Distinct)
    (h : inlineEntries? read budget entries cs = some (entries', rest)) : entries'.Distinct := by
  induction budget generalizing cs entries with
  | zero => exact absurd h nofun
  | succ budget ih =>
    unfold inlineEntries? at h
    obtain ⟨⟨path, key, afterKey⟩, -, h⟩ := Option.bind_eq_some_iff.mp h
    obtain ⟨afterMark, -, h⟩ := Option.bind_eq_some_iff.mp h
    obtain ⟨⟨v, afterValue⟩, hv, h⟩ := Option.bind_eq_some_iff.mp h
    obtain ⟨inserted, hinsert, h⟩ := Option.bind_eq_some_iff.mp h
    have hinserted := hentries.insert (hread _ _ _ hv) hinsert
    split at h
    next => exact ih hinserted h
    next =>
      obtain ⟨rfl, -⟩ := Prod.mk.inj (Option.some.inj h)
      exact hinserted
    next => exact absurd h nofun

theorem distinct_of_inlineTable?
    (hread : ∀ cs v rest, read cs = some (v, rest) → v.Distinct) {cs rest : List Char} {v : Value}
    (h : inlineTable? read cs = some (v, rest)) : v.Distinct := by
  unfold inlineTable? at h
  split at h
  next =>
    obtain ⟨rfl, -⟩ := Prod.mk.inj (Option.some.inj h)
    exact .table List.nodup_nil fun entry hentry => absurd hentry List.not_mem_nil
  next =>
    obtain ⟨⟨entries, rest'⟩, hentries, h⟩ := Option.map_eq_some_iff.mp h
    obtain ⟨rfl, -⟩ := Prod.mk.inj h
    exact (distinct_of_inlineEntries? hread .nil hentries).toValues

theorem distinct_of_text? {cs rest : List Char} {v : Value}
    (h : value?.text? cs = some (v, rest)) : v.Distinct := by
  obtain ⟨string, -, h⟩ := Option.map_eq_some_iff.mp h
  obtain ⟨rfl, -⟩ := Prod.mk.inj h
  exact .text _

/-- In every value that is read the keys of tables differ.  The induction is on the `depth` that is
left for values in values. -/
theorem distinct_of_value? {depth : Nat} {cs rest : List Char} {v : Value}
    (h : value? depth cs = some (v, rest)) : v.Distinct := by
  induction depth using Nat.strongRecOn generalizing cs rest v with
  | ind depth ih =>
    unfold value? at h
    split at h
    next => exact distinct_of_text? h
    next => exact distinct_of_text? h
    next => exact absurd h nofun
    next depth cs =>
      obtain ⟨⟨vs, rest'⟩, hvs, h⟩ := Option.map_eq_some_iff.mp h
      obtain ⟨rfl, -⟩ := Prod.mk.inj h
      -- the elements are read one level deeper, which is where the hypothesis applies
      exact .array (distinct_of_elements? (fun _ _ _ => ih depth (Nat.lt_succ_self depth)) hvs)
    next => exact absurd h nofun
    next depth cs =>
      exact distinct_of_inlineTable? (fun _ _ _ => ih depth (Nat.lt_succ_self depth)) h
    next =>
      obtain ⟨word, hword, h⟩ := Option.map_eq_some_iff.mp h
      obtain ⟨rfl, -⟩ := Prod.mk.inj h
      exact distinct_of_ofWord? hword

end Values

/-! ### Tables that stand for moments -/

/-- Each of the resolved `items'` comes from one of the `items`. -/
theorem exists_mem_of_resolveItems? {items items' : List Value}
    (h : resolveItems? items = some items') {v' : Value} (hv' : v' ∈ items') :
    ∃ v ∈ items, v.resolve? = some v' := by
  induction items generalizing items' with
  | nil =>
    obtain rfl := Option.some.inj h
    exact absurd hv' List.not_mem_nil
  | cons v items ih =>
    obtain ⟨first, hfirst, h⟩ := Option.bind_eq_some_iff.mp h
    obtain ⟨others, hothers, h⟩ := Option.bind_eq_some_iff.mp h
    obtain rfl := Option.some.inj h
    obtain rfl | hmem := List.mem_cons.mp hv'
    · exact ⟨v, List.mem_cons_self, hfirst⟩
    · obtain ⟨w, hw, hresolve⟩ := ih hothers hmem
      exact ⟨w, List.mem_cons_of_mem v hw, hresolve⟩

/-- Resolving changes values only, so that the `entries'` have the keys of the `entries`. -/
theorem exists_mem_of_resolveEntries? {entries entries' : List (String × Value)}
    (h : resolveEntries? entries = some entries') :
    entries'.map Prod.fst = entries.map Prod.fst ∧
      ∀ entry' ∈ entries', ∃ entry ∈ entries, entry.2.resolve? = some entry'.2 := by
  induction entries generalizing entries' with
  | nil =>
    obtain rfl := Option.some.inj h
    exact ⟨rfl, fun entry' h => absurd h List.not_mem_nil⟩
  | cons entry entries ih =>
    obtain ⟨key, v⟩ := entry
    -- the entries are resolved one after the other, and all of them must succeed
    obtain ⟨first, hfirst, h⟩ := Option.bind_eq_some_iff.mp h
    obtain ⟨others, hothers, h⟩ := Option.bind_eq_some_iff.mp h
    obtain rfl := Option.some.inj h
    obtain ⟨hkeys, hvalues⟩ := ih hothers
    refine ⟨by rw [List.map_cons, List.map_cons, hkeys], List.forall_mem_cons.mpr ⟨?_, ?_⟩⟩
    · exact ⟨(key, v), List.mem_cons_self, hfirst⟩
    · intro entry' hentry'
      obtain ⟨entry, hentry, hresolve⟩ := hvalues entry' hentry'
      exact ⟨entry, List.mem_cons_of_mem _ hentry, hresolve⟩

/-- If the table `v` stands for a moment it becomes one, and all others keep their keys. -/
theorem Value.Distinct.resolve? {v v' : Value} (h : v.Distinct) (hv' : v.resolve? = some v') :
    v'.Distinct := by
  -- only tables may stand for moments, and what they contain is resolved first
  induction h generalizing v' with
  | text s => exact Option.some.inj hv' ▸ .text s
  | integer n => exact Option.some.inj hv' ▸ .integer n
  | float x => exact Option.some.inj hv' ▸ .float x
  | boolean b => exact Option.some.inj hv' ▸ .boolean b
  | moment m => exact Option.some.inj hv' ▸ .moment m
  | array _ ih =>
    obtain ⟨items', hitems', rfl⟩ := Option.map_eq_some_iff.mp hv'
    refine .array fun w hw => ?_
    obtain ⟨v, hv, hresolve⟩ := exists_mem_of_resolveItems? hitems' hw
    exact ih v hv hresolve
  | @table entries hnodup _ ih =>
    unfold Value.resolve? at hv'
    split at hv'
    next =>
      obtain ⟨m, rfl⟩ := exists_eq_moment hv'
      exact .moment m
    next => exact absurd hv' nofun
    next =>
      obtain ⟨entries', hentries', rfl⟩ := Option.map_eq_some_iff.mp hv'
      obtain ⟨hkeys, hvalues⟩ := exists_mem_of_resolveEntries? hentries'
      refine .table (hkeys ▸ hnodup) fun entry' hentry' => ?_
      obtain ⟨entry, hentry, hresolve⟩ := hvalues entry' hentry'
      exact ih entry hentry hresolve

/-! ### Reading documents -/

section Documents

variable {d d' : Draft} {parents path : List String} {key : String} {v : Value}

theorem Draft.distinct_openTable (h : d.entries.Distinct)
    (hopen : d.openTable parents key = some d') : d'.entries.Distinct := by
  obtain ⟨entries, hentries, rfl⟩ := Option.map_eq_some_iff.mp hopen
  exact h.update (fun _ _ _ h hkey => h.openTable hkey) hentries

theorem Draft.distinct_openSeries (h : d.entries.Distinct)
    (hopen : d.openSeries parents key = some d') : d'.entries.Distinct := by
  obtain ⟨entries, hentries, rfl⟩ := Option.map_eq_some_iff.mp hopen
  exact h.update (fun _ _ _ h hkey => h.openSeries hkey) hentries

theorem Draft.distinct_insert (h : d.entries.Distinct) (hv : v.Distinct)
    (hinsert : d.insert path key v = some d') : d'.entries.Distinct := by
  obtain ⟨entries, hentries, rfl⟩ := Option.map_eq_some_iff.mp hinsert
  exact h.update (fun _ _ _ h hkey => h.insert hv hkey) hentries

/-- One line leaves the keys of the draft `d` different. -/
theorem distinct_line? {cs rest : List Char} (h : d.entries.Distinct)
    (hline : line? d cs = some (d', rest)) : d'.entries.Distinct := by
  unfold line? at hline
  -- a comment, a header in double brackets, a header, a key and a value
  split at hline
  next =>
    obtain ⟨after, -, hline⟩ := Option.bind_eq_some_iff.mp hline
    obtain ⟨rfl, -⟩ := Prod.mk.inj (Option.some.inj hline)
    exact h
  next =>
    obtain ⟨⟨parents, key, afterKey⟩, -, hline⟩ := Option.bind_eq_some_iff.mp hline
    obtain ⟨afterMark, -, hline⟩ := Option.bind_eq_some_iff.mp hline
    obtain ⟨afterMarks, -, hline⟩ := Option.bind_eq_some_iff.mp hline
    obtain ⟨after, -, hline⟩ := Option.bind_eq_some_iff.mp hline
    obtain ⟨d1, hopen, hline⟩ := Option.bind_eq_some_iff.mp hline
    obtain ⟨rfl, -⟩ := Prod.mk.inj (Option.some.inj hline)
    exact Draft.distinct_openSeries h hopen
  next =>
    obtain ⟨⟨parents, key, afterKey⟩, -, hline⟩ := Option.bind_eq_some_iff.mp hline
    obtain ⟨afterMark, -, hline⟩ := Option.bind_eq_some_iff.mp hline
    obtain ⟨after, -, hline⟩ := Option.bind_eq_some_iff.mp hline
    obtain ⟨d1, hopen, hline⟩ := Option.bind_eq_some_iff.mp hline
    obtain ⟨rfl, -⟩ := Prod.mk.inj (Option.some.inj hline)
    exact Draft.distinct_openTable h hopen
  next =>
    obtain ⟨⟨path, key, afterKey⟩, -, hline⟩ := Option.bind_eq_some_iff.mp hline
    obtain ⟨afterMark, -, hline⟩ := Option.bind_eq_some_iff.mp hline
    obtain ⟨⟨v, afterValue⟩, hvalue, hline⟩ := Option.bind_eq_some_iff.mp hline
    obtain ⟨after, -, hline⟩ := Option.bind_eq_some_iff.mp hline
    obtain ⟨d1, hinsert, hline⟩ := Option.bind_eq_some_iff.mp hline
    obtain ⟨rfl, -⟩ := Prod.mk.inj (Option.some.inj hline)
    exact Draft.distinct_insert h (distinct_of_value? hvalue) hinsert

/-- All lines do, by induction on the `budget`, which bounds their number. -/
theorem distinct_lines? {budget : Nat} {cs : List Char} (h : d.entries.Distinct)
    (hlines : lines? budget d cs = some d') : d'.entries.Distinct := by
  induction budget generalizing d cs with
  | zero => exact absurd hlines nofun
  | succ budget ih =>
    unfold lines? at hlines
    split at hlines
    next => exact Option.some.inj hlines ▸ h
    next => exact ih h hlines
    next => exact ih h hlines
    next =>
      obtain ⟨⟨d1, rest⟩, hline, hlines⟩ := Option.bind_eq_some_iff.mp hlines
      exact ih (distinct_line? h hline) hlines

/-- **Keys of documents differ.**  In every `text` that is read as a document the keys of each table
differ. -/
theorem distinct_of_parse? {text : List Char} {entries : List (String × Value)}
    (h : parse? text = some entries) : (Value.table entries).Distinct := by
  obtain ⟨d, hlines, h⟩ := Option.bind_eq_some_iff.mp h
  obtain ⟨v, hresolve, h⟩ := Option.bind_eq_some_iff.mp h
  have hdistinct : v.Distinct := (distinct_lines? .nil hlines).toValues.resolve? hresolve
  split at h
  next entries' =>
    obtain rfl := Option.some.inj h
    exact hdistinct
  next => exact absurd h nofun

end Documents

end Numeral128.Toml
