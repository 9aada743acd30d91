import PluginKit.Metadata.Calls
import PluginKit.Proofs.Text.Field

/-!
# `PluginKit.Proofs.Metadata`: annotations as a map, tables and their lifetime

A list of annotations never gets two values for a key, so it is a map: looking up and membership
agree, and the order in which annotations were added does not matter to a reader. A table that is
created, filled and destroyed leaves the store with the tables that it had.

* `lookup_eq_some_iff`, `lookup_eq_of_perm`: annotations are a map.
* `lookup_put`, `nodup_put`: one more annotation.
* `foldl_put`: many annotations with keys of their own.
* `Table.Keyed`: what every table that was filled from nothing satisfies.
* `Table.fill`, `Table.filled_fill`: a table after the calls that fill it.
* `Store.find?_create`, `Store.find?_update`, `Store.tables_destroy_update`,
  `Store.tables_destroy_create`: the life of a table.
* `Store.find?_create_of_ne`, `Store.find?_update_of_ne`, `Store.find?_destroy_of_ne`: the other
  tables.
* `Store.live_create`, `Store.live_update`, `Store.live_destroy`: how many are alive.
-/

set_option autoImplicit false

namespace PluginKit

namespace Metadata

section
variable {κ β : Type} [BEq κ] [LawfulBEq κ]

theorem lookup_cons_of_ne {key k : κ} (h : key ≠ k) (v : β) (rest : List (κ × β)) :
    List.lookup key ((k, v) :: rest) = rest.lookup key := by
  rw [List.lookup_cons, beq_eq_false_iff_ne.mpr h]

/-- Where no key has two values, looking up is membership. With two, the first would hide the
other. -/
theorem lookup_eq_some_iff {entries : List (κ × β)} (h : (entries.map Prod.fst).Nodup) {key : κ}
    {value : β} :
    entries.lookup key = some value ↔ (key, value) ∈ entries := by
  induction entries with
  | nil => simp
  | cons entry rest ih =>
      obtain ⟨k, v⟩ := entry
      obtain ⟨hnew, hrest⟩ := List.nodup_cons.mp h
      by_cases hk : key = k
      · -- the key stands at the head, so it cannot stand in the rest again
        subst hk
        have habsent : (key, value) ∉ rest := fun hmem =>
          hnew (List.mem_map.mpr ⟨(key, value), hmem, rfl⟩)
        simp [habsent, eq_comm]
      · simp [lookup_cons_of_ne hk, hk, ih hrest]

/-- Where a key is not found, there is none. -/
theorem lookup_eq_none_iff {entries : List (κ × β)} {key : κ} :
    entries.lookup key = none ↔ key ∉ entries.map Prod.fst := by
  rw [List.lookup_eq_none_iff]
  simp only [bne_iff_ne, ne_eq, List.mem_map, not_exists, not_and]
  exact ⟨fun h entry hentry heq => h entry hentry heq.symm,
    fun h entry hentry heq => h entry hentry heq.symm⟩

/-- Of many keys, one that is new comes behind the others, and another changes nothing. The library
has this for a key in front. -/
theorem eraseDups_concat (keys : List κ) (key : κ) :
    (keys ++ [key]).eraseDups = keys.eraseDups ++ if key ∈ keys then [] else [key] := by
  rw [List.eraseDups_append]
  by_cases hkey : key ∈ keys
  · simp [List.removeAll, hkey]
  · simp [List.removeAll, hkey, List.eraseDups_cons]

/-- A reader does not see in which order annotations stand, so any order of adding them is as
good. -/
theorem lookup_eq_of_perm {entries others : List (κ × β)} (perm : entries.Perm others)
    (h : (entries.map Prod.fst).Nodup) (key : κ) : entries.lookup key = others.lookup key := by
  have hothers : (others.map Prod.fst).Nodup := (perm.map Prod.fst).nodup_iff.mp h
  apply Option.ext
  intro value
  rw [lookup_eq_some_iff h, lookup_eq_some_iff hothers]
  exact perm.mem_iff

end

section
variable {κ : Type} [DecidableEq κ]

/-- A reader finds the latest value under the key and the old ones under all others. -/
theorem lookup_put [BEq κ] [LawfulBEq κ] (key other : κ) (value : MetaValue)
    (entries : List (κ × MetaValue)) :
    (put key value entries).lookup other
      = if key = other then some value else entries.lookup other := by
  induction entries with
  | nil =>
      by_cases hother : key = other
      · simp [put, hother]
      · simp [put, hother, Ne.symm hother]
  | cons entry rest ih =>
      obtain ⟨k, v⟩ := entry
      by_cases hk : k = key
      · subst hk
        by_cases hother : k = other
        · simp [put, hother]
        · simp [put, hother, lookup_cons_of_ne (Ne.symm hother)]
      · -- the head is another key, so the value goes into the rest
        by_cases hother : k = other
        · subst hother
          simp [put, hk, Ne.symm hk]
        · simp [put, hk, lookup_cons_of_ne (Ne.symm hother), ih]

/-- A key that is new comes behind the others. -/
theorem put_of_notMem {key : κ} {entries : List (κ × MetaValue)}
    (h : key ∉ entries.map Prod.fst) (value : MetaValue) :
    put key value entries = entries ++ [(key, value)] := by
  induction entries with
  | nil => rfl
  | cons entry rest ih =>
      obtain ⟨k, v⟩ := entry
      rw [List.map_cons, List.mem_cons, not_or] at h
      simp [put, Ne.symm h.1, ih h.2]

/-- What is there after one more annotation is that one, or was there before. -/
theorem mem_put {key : κ} {value : MetaValue} {entries : List (κ × MetaValue)}
    {entry : κ × MetaValue} (h : entry ∈ put key value entries) :
    entry = (key, value) ∨ entry ∈ entries := by
  induction entries with
  | nil => exact .inl (List.mem_singleton.mp h)
  | cons first rest ih =>
      obtain ⟨k, v⟩ := first
      by_cases hk : k = key
      · rw [put, if_pos hk, hk] at h
        rcases List.mem_cons.mp h with hnew | hrest
        · exact .inl hnew
        · exact .inr (List.mem_cons_of_mem _ hrest)
      · rw [put, if_neg hk] at h
        rcases List.mem_cons.mp h with rfl | hrest
        · exact .inr List.mem_cons_self
        · exact (ih hrest).imp_right (List.mem_cons_of_mem _)

/-- A key that is there keeps its place, with another value. -/
theorem keys_put_of_mem {key : κ} {entries : List (κ × MetaValue)}
    (h : key ∈ entries.map Prod.fst) (value : MetaValue) :
    (put key value entries).map Prod.fst = entries.map Prod.fst := by
  induction entries with
  | nil => exact absurd h List.not_mem_nil
  | cons entry rest ih =>
      obtain ⟨k, v⟩ := entry
      by_cases hk : k = key
      · simp [put, hk]
      · have hrest : key ∈ rest.map Prod.fst :=
          (List.mem_cons.mp h).resolve_left (Ne.symm hk)
        simp [put, hk, ih hrest]

/-- No key gets two values: one that is there is replaced. -/
theorem nodup_put {entries : List (κ × MetaValue)} (h : (entries.map Prod.fst).Nodup) (key : κ)
    (value : MetaValue) : ((put key value entries).map Prod.fst).Nodup := by
  by_cases hkey : key ∈ entries.map Prod.fst
  · rw [keys_put_of_mem hkey]
    exact h
  · rw [put_of_notMem hkey, List.map_append, List.nodup_append]
    refine ⟨h, by simp, fun k hk new hnew heq => hkey ?_⟩
    have hnew : new = key := List.mem_singleton.mp hnew
    rw [← hnew, ← heq]
    exact hk

/-- Annotations whose keys are new and different come behind the others in their order. -/
theorem foldl_put {α : Type} (name : α → κ) (value : α → MetaValue) (more : List α)
    (entries : List (κ × MetaValue))
    (h : (entries.map Prod.fst ++ more.map name).Nodup) :
    more.foldl (fun es e => put (name e) (value e) es) entries
      = entries ++ more.map fun e => (name e, value e) := by
  induction more generalizing entries with
  | nil => simp
  | cons e rest ih =>
      have hnew : name e ∉ entries.map Prod.fst := by
        intro hmem
        have hne := (List.nodup_append.mp h).2.2 _ hmem (name e) (by simp)
        exact hne rfl
      rw [List.foldl_cons, put_of_notMem hnew, ih]
      · simp
      · simpa using h

end

namespace Table

/-- No key twice, and no zero byte in a key, which would end it. Whoever asks for a key by its bytes
finds it then. -/
structure Keyed (t : Table) : Prop where
  distinct : t.keys.Nodup
  zeroFree : ∀ key ∈ t.keys, 0 ∉ key

theorem keyed_empty : empty.Keyed := ⟨List.nodup_nil, fun _ h => absurd h List.not_mem_nil⟩

/-- Adding keeps a table keyed. -/
theorem Keyed.add {t : Table} (h : t.Keyed) {key : Bytes} (hzero : 0 ∉ key) (value : MetaValue) :
    (t.add key value).Keyed := by
  refine ⟨nodup_put h.distinct key value, fun other hother => ?_⟩
  have hother : other ∈ (put key value t.entries).map Prod.fst := hother
  by_cases hkey : key ∈ t.entries.map Prod.fst
  · rw [keys_put_of_mem hkey] at hother
    exact h.zeroFree other hother
  · rw [put_of_notMem hkey, List.map_append, List.mem_append] at hother
    rcases hother with hold | hnew
    · exact h.zeroFree other hold
    · rw [List.mem_singleton.mp hnew]
      exact hzero

end Table

/-! ### Filling a table -/

namespace Table

/-- A new table after some calls. -/
def fill (calls : List Addition) : Table := calls.foldl apply empty

/-- A keyed table in which no text has a zero character, so that every text has a form that ends at
one. -/
structure Filled (t : Table) : Prop extends Keyed t where
  texts : ∀ entry ∈ t.entries, ∀ text, entry.2 = .string text → '\x00' ∉ text.toList

theorem filled_empty : empty.Filled :=
  ⟨keyed_empty, fun _ h => absurd h List.not_mem_nil⟩

theorem Filled.add {t : Table} (h : t.Filled) {key : Bytes} (hzero : 0 ∉ key) {value : MetaValue}
    (htext : ∀ text, value = .string text → '\x00' ∉ text.toList) : (t.add key value).Filled := by
  have hkeyed := h.toKeyed.add hzero value
  refine ⟨hkeyed, fun entry hentry text hvalue => ?_⟩
  rcases mem_put hentry with rfl | hold
  · exact htext text hvalue
  · exact h.texts entry hold text hvalue

/-- Every call that adds something keeps a table filled: keys and texts end before their first
zero. -/
theorem Filled.apply {t : Table} (h : t.Filled) (call : Addition) : (t.apply call).Filled := by
  have hkey (key : Bytes) : 0 ∉ Terminated.bytes key := Terminated.zero_notMem key
  cases call with
  | text key text =>
      refine h.add (hkey key) fun stored hstored => ?_
      rw [← MetaValue.string.inj hstored]
      exact Utf8.zero_notMem_decodeLossy (Terminated.zero_notMem text)
  | signed key n => exact h.add (hkey key) nofun
  | unsigned key n => exact h.add (hkey key) nofun
  | double key x => exact h.add (hkey key) nofun
  | boolean key b => exact h.add (hkey key) nofun

/-- Whatever calls filled a table, no key is in it twice, and no zero is in a key or text. -/
theorem filled_fill (calls : List Addition) : (fill calls).Filled := by
  have hfrom : ∀ t : Table, t.Filled → (calls.foldl apply t).Filled := by
    induction calls with
    | nil => exact fun _ h => h
    | cons call rest ih => exact fun t h => ih (t.apply call) (h.apply call)
  exact hfrom empty filled_empty

end Table

namespace Store

variable {s : Store}

/-- The next name is new. -/
theorem next_notMem (s : Store) : s.next ∉ s.tables.map Prod.fst := fun h =>
  Nat.lt_irrefl _ (s.fresh _ h)

/-- A new table is empty. -/
theorem find?_create (s : Store) : s.create.2.find? s.create.1 = some Table.empty := by
  have hnew : s.tables.lookup s.next = none := by
    rw [List.lookup_eq_none_iff]
    intro t ht
    have hne : s.next ≠ t.1 := fun heq => s.next_notMem (heq ▸ List.mem_map_of_mem ht)
    simpa using hne
  show List.lookup s.next (s.tables ++ [(s.next, Table.empty)]) = _
  rw [List.lookup_append, hnew]
  simp

/-- A table that is changed reads as changed. -/
theorem find?_update {ref : Ref} {t : Table} (h : s.find? ref = some t) (change : Table → Table) :
    (s.update ref change).find? ref = some (change t) := by
  unfold find? at h
  show (s.tables.map fun t => if t.1 = ref then (t.1, change t.2) else t).lookup ref = _
  generalize s.tables = tables at h
  induction tables with
  | nil => simp at h
  | cons entry rest ih =>
      obtain ⟨other, held⟩ := entry
      by_cases href : ref = other
      · subst href
        rw [List.lookup_cons_self] at h
        simp [Option.some.inj h]
      · rw [lookup_cons_of_ne href] at h
        rw [List.map_cons, if_neg (Ne.symm href), lookup_cons_of_ne href]
        exact ih h

/-- A new table leaves the others as they are. -/
theorem find?_create_of_ne {ref : Ref} (h : ref ≠ s.next) :
    s.create.2.find? ref = s.find? ref := by
  show (s.tables ++ [(s.next, Table.empty)]).lookup ref = s.tables.lookup ref
  rw [List.lookup_append, lookup_cons_of_ne h, List.lookup_nil, Option.or_none]

/-- A change of one table leaves the others as they are, so nobody sees what is put into another
table. -/
theorem find?_update_of_ne {ref other : Ref} (h : other ≠ ref) (change : Table → Table) :
    (s.update ref change).find? other = s.find? other := by
  show (s.tables.map fun t => if t.1 = ref then (t.1, change t.2) else t).lookup other
    = s.tables.lookup other
  induction s.tables with
  | nil => rfl
  | cons t rest ih =>
      obtain ⟨name, held⟩ := t
      rw [List.map_cons]
      by_cases hname : other = name
      · subst hname
        simp [h]
      · rw [lookup_cons_of_ne hname, ← ih]
        by_cases href : name = ref
        · rw [if_pos href, lookup_cons_of_ne hname]
        · rw [if_neg href, lookup_cons_of_ne hname]

/-- A table that is forgotten leaves the others as they are. -/
theorem find?_destroy_of_ne {ref other : Ref} (h : other ≠ ref) :
    (s.destroy ref).find? other = s.find? other := by
  show (s.tables.filter fun t => t.1 ≠ ref).lookup other = s.tables.lookup other
  induction s.tables with
  | nil => rfl
  | cons t rest ih =>
      obtain ⟨name, held⟩ := t
      by_cases hname : other = name
      · subst hname
        simp [h]
      · rw [lookup_cons_of_ne hname, ← ih]
        by_cases href : name = ref
        · rw [List.filter_cons_of_neg (by simpa using href)]
        · rw [List.filter_cons_of_pos (by simpa using href), lookup_cons_of_ne hname]

/-! ### How many tables are alive -/

/-- A new table is one more. -/
theorem live_create (s : Store) : s.create.2.live = s.live + 1 := by
  show (s.tables ++ [(s.next, Table.empty)]).length = s.tables.length + 1
  rw [List.length_append]
  rfl

/-- Filling a table makes neither more nor fewer. -/
theorem live_update (s : Store) (ref : Ref) (change : Table → Table) :
    (s.update ref change).live = s.live := List.length_map _

/-- Where a table is alive, there is one less without it. -/
theorem live_destroy {ref : Ref} {t : Table} (h : s.find? ref = some t) :
    (s.destroy ref).live + 1 = s.live := by
  have hmem : ref ∈ s.tables.map Prod.fst :=
    List.mem_map.mpr ⟨(ref, t), (lookup_eq_some_iff s.distinct).mp h, rfl⟩
  have hnames : (s.destroy ref).tables.map Prod.fst = (s.tables.map Prod.fst).erase ref := by
    rw [s.distinct.erase_eq_filter, List.filter_map]
    show (s.tables.filter fun t => t.1 ≠ ref).map Prod.fst = _
    congr 2
    funext t
    by_cases hname : t.1 = ref <;> simp [hname]
  unfold live
  rw [← List.length_map Prod.fst, hnames, List.length_erase_of_mem hmem, List.length_map]
  have hpos := List.length_pos_of_mem hmem
  rw [List.length_map] at hpos
  omega

/-- What was put into a table goes with it, so it does not matter how far filling it had come. -/
theorem tables_destroy_update (s : Store) (ref : Ref) (change : Table → Table) :
    ((s.update ref change).destroy ref).tables = (s.destroy ref).tables := by
  show (s.tables.map fun t => if t.1 = ref then (t.1, change t.2) else t).filter
      (fun t => t.1 ≠ ref) = s.tables.filter (fun t => t.1 ≠ ref)
  induction s.tables with
  | nil => rfl
  | cons t rest ih =>
      by_cases href : t.1 = ref
      · simpa [href] using ih
      · simpa [href] using ih

/-- A table that is created and destroyed leaves no trace but the number that it had. -/
theorem tables_destroy_create (s : Store) : (s.create.2.destroy s.create.1).tables = s.tables := by
  have hold : ∀ t ∈ s.tables, t.1 ≠ s.next := fun t ht heq =>
    s.next_notMem (heq ▸ List.mem_map_of_mem ht)
  show (s.tables ++ [(s.next, Table.empty)]).filter (fun t => t.1 ≠ s.next) = _
  rw [List.filter_append]
  simpa using hold

end Store

end Metadata

end PluginKit
