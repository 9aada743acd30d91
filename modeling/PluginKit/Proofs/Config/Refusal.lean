import PluginKit.Proofs.Config.FieldByField

/-!
# `PluginKit.Proofs.Config.Refusal`: how a schema refuses what it is given

A schema fails in one of three ways (`Schema.Fails`): for what a value is, for the keys of a block
that it is shown, or under one key of such a block, with the schema of the field there. Only the last
way puts a key around the error. Lists, options and wrappers fail where what is in them does, and put
nothing around it.

* `Schema.under?`, `Schema.record?`: the schema under a key of a block, and the fields of a block.
* `Fields.Misses`: what can be wrong with the keys of a block for the fields of a record.
* `OfValue`: results that fail, if at all, for what a value is.
* `fails_step`, `fails_record`, `fails_of_decode`: how a line of a record fails, how a record does, and
  how every schema does.
-/

set_option autoImplicit false

namespace PluginKit

namespace Config

/-! ### Schemas under a key -/

/-- The schema of the field that a key stands for. -/
def Fields.schema? (key : String) : Fields → Option Schema
  | .nil => none
  | .cons _ first aliases _ schema rest =>
    if key = first ∨ key ∈ aliases then some schema else rest.schema? key

namespace Schema

/-- What is decoded under a key of a block. Lists, options and wrappers are no level of their own. -/
def under? (key : String) : Schema → Option Schema
  | .record _ _ fields => fields.schema? key
  | .map inner => some inner
  | .option inner | .list inner | .wrapped inner => inner.under? key
  | _ => none

/-- The fields that a block is read with, and whether it may have no other keys. -/
def record? : Schema → Option (Bool × Fields)
  | .record _ strict fields => some (strict, fields)
  | .option inner | .list inner | .wrapped inner => inner.record?
  | _ => none

end Schema

mutual

/-- Whether nothing is decoded by its place among other entries, as the members of a tuple are. -/
def Schema.tupleFree : Schema → Bool
  | .tuple _ | .namedTuple _ _ => false
  | .option inner | .list inner | .map inner | .wrapped inner => inner.tupleFree
  | .record _ _ fields => fields.tupleFree
  | _ => true

/-- Whether this holds of all schemas of fields. -/
def Fields.tupleFree : Fields → Bool
  | .nil => true
  | .cons _ _ _ _ schema rest => schema.tupleFree && rest.tupleFree

end

/-- A record without tuples has none under any of its keys, so the path to an error stays in schemas
without tuples. -/
theorem Fields.tupleFree_of_schema? {key : String} {inner : Schema} :
    ∀ {fields : Fields}, fields.tupleFree = true → fields.schema? key = some inner →
      inner.tupleFree = true
  | .nil, _, h => by cases h
  | .cons _ first aliases _ schema rest, free, h => by
      obtain ⟨hschema, hrest⟩ := Bool.and_eq_true_iff.mp free
      rw [schema?] at h
      split at h
      · rw [← Option.some.inj h]
        exact hschema
      · exact tupleFree_of_schema? hrest h

theorem Schema.tupleFree_of_under? {key : String} {inner : Schema} :
    ∀ schema : Schema, schema.tupleFree = true → schema.under? key = some inner →
      inner.tupleFree = true
  | .record _ _ _, free, h => Fields.tupleFree_of_schema? free h
  | .map _, free, h => Option.some.inj h ▸ free
  | .option inner, free, h | .list inner, free, h | .wrapped inner, free, h =>
      tupleFree_of_under? inner free h

/-! ### Keys of a block -/

/-- What is wrong with some keys for the fields of a record. -/
inductive Fields.Misses (strict : Bool) (fields : Fields) (keys : List String) : Misfit → Prop where
  /-- No key stands for a field that has to be given. -/
  | missing {name key : String} {schema : Schema} (field : fields.Has name key none schema)
      (needed : ∀ inner, schema ≠ .option inner)
      (absent : ∀ k ∈ keys, ∀ first, fields.find? k ≠ some (name, first)) :
      Misses strict fields keys (.missingField key)
  /-- A key stands for no field. -/
  | unknown {key : String} (present : key ∈ keys) (unknown : key ∉ fields.keys)
      (closed : strict = true) : Misses strict fields keys (.unknownField key fields.keys)
  /-- Two keys stand for one field. -/
  | duplicate {name key k k' : String} (present : k ∈ keys) (present' : k' ∈ keys) (differ : k ≠ k')
      (stands : ∃ first, fields.find? k = some (name, first))
      (stands' : fields.find? k' = some (name, key)) :
      Misses strict fields keys (.duplicateField key)

/-- Whether a misfit is one of the keys of a block. -/
def Misfit.ofKeys : Misfit → Bool
  | .missingField _ | .unknownField _ _ | .duplicateField _ => true
  | _ => false

namespace Fields

variable {fields : Fields} {key : String}

/-- A key is found exactly if some field has it as its key or as an alias. An unknown key is told the
list of `keys`, so the list and the search must not drift apart. -/
theorem find?_eq_none_iff : ∀ fields : Fields, fields.find? key = none ↔ key ∉ fields.keys
  | .nil => by simp [find?, keys]
  | .cons name first aliases default schema rest => by
      rw [find?]
      split
      · rename_i h
        simp only [keys, reduceCtorEq, false_iff, not_not, List.cons_append, List.mem_cons,
          List.mem_append]
        tauto
      · rename_i h
        rw [find?_eq_none_iff rest]
        simp only [keys, List.cons_append, List.mem_cons, List.mem_append]
        tauto

/-- The same keys, in whatever order and however often. -/
theorem Misses.congr {strict : Bool} {keys others : List String} {m : Misfit}
    (h : fields.Misses strict keys m) (same : ∀ key, key ∈ keys ↔ key ∈ others) :
    fields.Misses strict others m := by
  cases h with
  | missing field needed absent =>
      exact .missing field needed fun k hk => absent k ((same k).mpr hk)
  | unknown present unknown closed => exact .unknown ((same _).mp present) unknown closed
  | duplicate present present' differ stands stands' =>
      exact .duplicate ((same _).mp present) ((same _).mp present') differ stands stands'

/-- Where no key is that of two fields, a field is found by its first key. -/
theorem find?_of_has_of_nodup {name : String} {default : Option Datum} {schema : Schema} :
    ∀ {fields : Fields}, fields.keys.Nodup → fields.Has name key default schema →
      fields.find? key = some (name, key)
  | .cons n first aliases d s rest, distinct, h => by
      rw [find?]
      rcases h with ⟨rfl, rfl, -, -⟩ | h
      · exact if_pos (.inl rfl)
      · obtain ⟨-, hrest, hapart⟩ := List.nodup_append.mp distinct
        have hother : ¬ (key = first ∨ key ∈ aliases) := fun hkey =>
          hapart key (List.mem_cons.mpr hkey) key h.key_mem rfl
        rw [if_neg hother]
        exact find?_of_has_of_nodup hrest h

/-- A missing field is missing from the block, unless another field has the same key. -/
theorem Misses.notMem {strict : Bool} {keys : List String}
    (h : fields.Misses strict keys (.missingField key)) (distinct : fields.keys.Nodup) :
    key ∉ keys := by
  cases h with
  | missing field needed absent =>
      intro hkey
      exact absent key hkey key (find?_of_has_of_nodup distinct field)

/-- A key is decoded with the schema of its field. -/
theorem exists_of_decodeKey_eq_error {source : Source} {e : DecodeError} :
    ∀ {fields : Fields}, fields.decodeKey key source = .error e →
      ∃ inner, fields.schema? key = some inner ∧ inner.decode source = .error e
  | .nil, h => by cases h
  | .cons _ first aliases _ schema rest, h => by
      rw [decodeKey] at h
      rw [schema?]
      split at h
      · rename_i hkey
        exact ⟨schema, if_pos hkey, h⟩
      · rename_i hkey
        obtain ⟨inner, hinner, hfails⟩ := exists_of_decodeKey_eq_error h
        exact ⟨inner, by rw [if_neg hkey, hinner], hfails⟩

/-- A field has to be given if it has no default and is no option. -/
theorem missingField_eq_error {default : Option Datum} {schema : Schema} {e : DecodeError}
    (h : missingField key default schema = .error e) :
    (∀ inner, schema ≠ .option inner) ∧ default = none ∧ e = (Misfit.missingField key).here := by
  unfold missingField at h
  split at h
  · cases h
  · cases h
  · rename_i hneeded
    exact ⟨hneeded, rfl, (Except.error.inj h).symm⟩

/-- Fields cannot be completed where one that has to be given was not read. -/
theorem complete_eq_error {read : List (String × Datum)} {e : DecodeError} :
    ∀ {fields : Fields}, fields.complete read = .error e →
      ∃ name key schema, fields.Has name key none schema ∧ (∀ inner, schema ≠ .option inner) ∧
        read.lookup name = none ∧ e = (Misfit.missingField key).here
  | .nil, h => by cases h
  | .cons name key aliases default schema rest, h => by
      rw [complete] at h
      -- whatever this field is, what is left of an error comes from the others
      have hothers : ∀ d : Datum, (do return (name, d) :: (← rest.complete read)) = .error e →
          ∃ n k s, (cons name key aliases default schema rest).Has n k none s ∧
            (∀ inner, s ≠ .option inner) ∧ read.lookup n = none ∧
            e = (Misfit.missingField k).here := by
        intro d hd
        rcases bind_eq_error.mp hd with hrest | ⟨_, -, hd⟩
        · obtain ⟨n, k, s, hhas, hneeded, hnone, he⟩ := complete_eq_error hrest
          exact ⟨n, k, s, .inr hhas, hneeded, hnone, he⟩
        · cases hd
      cases hread : read.lookup name with
      | some d =>
          rw [hread] at h
          exact hothers d h
      | none =>
          rw [hread] at h
          rcases bind_eq_error.mp h with hfirst | ⟨d, -, h⟩
          · obtain ⟨hneeded, rfl, he⟩ := missingField_eq_error hfirst
            exact ⟨name, key, schema, .inl ⟨rfl, rfl, rfl, rfl⟩, hneeded, hread, he⟩
          · exact hothers d h

/-- A key that stands for a field has been read for it. -/
theorem Reads.lookup_ne_none {strict : Bool} {lines : List (String × List Entry)}
    {read : List (String × Datum)} (h : fields.Reads strict lines read) {name first : String}
    {line : String × List Entry} (hline : line ∈ lines)
    (hstands : fields.find? line.1 = some (name, first)) : read.lookup name ≠ none := by
  obtain ⟨⟨slots, hslots, rfl⟩, -⟩ := h
  obtain ⟨slot, hslot, htakes⟩ := exists_of_mem_right hslots.flip hline
  cases htakes with
  | skipped hunknown _ =>
      rw [hunknown] at hstands
      cases hstands
  | @taken n _ d hknown _ =>
      obtain ⟨rfl, -⟩ := Prod.mk.inj (Option.some.inj (hknown.symm.trans hstands))
      rw [ne_eq, Metadata.lookup_eq_none_iff, not_not]
      have hmem : (n, d) ∈ slots.flatten :=
        List.mem_flatten.mpr ⟨_, hslot, List.mem_singleton.mpr rfl⟩
      exact List.mem_map_of_mem hmem

/-- What has been read for a field was read under a key that stands for it. -/
theorem Reads.exists_line {strict : Bool} {lines : List (String × List Entry)}
    {read : List (String × Datum)} (h : fields.Reads strict lines read) {name : String}
    (hname : name ∈ read.map Prod.fst) :
    ∃ line ∈ lines, ∃ first, fields.find? line.1 = some (name, first) := by
  obtain ⟨⟨slots, hslots, rfl⟩, -⟩ := h
  obtain ⟨entry, hentry, rfl⟩ := List.mem_map.mp hname
  obtain ⟨slot, hslot, hmem⟩ := List.mem_flatten.mp hentry
  obtain ⟨line, hline, htakes⟩ := exists_of_mem_right hslots hslot
  cases htakes with
  | skipped _ _ => exact absurd hmem List.not_mem_nil
  | @taken n first _ hknown _ =>
      rw [List.mem_singleton.mp hmem]
      exact ⟨line, hline, first, hknown⟩

end Fields

/-! ### Values -/

/-- Fails, if at all, for what a value is: below no key, and for no key. Every reading of a single
value is of this kind, so `fails_of_decode` needs to look closer only at blocks. The property is
kept by `bind`, and the lemmas below say it of each function that decoding puts together. -/
def OfValue {α : Type} (x : Except DecodeError α) : Prop :=
  ∀ e, x = .error e → e.path = [] ∧ e.root.ofKeys = false

namespace OfValue

variable {α β : Type}

/-- What succeeds does not fail for anything. This ends the branch of a reading in which the value
is what was asked for. -/
theorem ok (a : α) : OfValue (.ok a) := by
  intro e h
  cases h

/-- A misfit that is found on the spot has no key around it. Which misfit it is decides whether it is
one of the keys of a block; for each constructor that readings use, `h` holds by `rfl`. -/
theorem here {m : Misfit} (h : m.ofKeys = false) :
    OfValue (.error m.here : Except DecodeError α) := by
  intro e he
  cases he
  exact ⟨rfl, h⟩

/-- Readings one after the other: the error is that of the part that fails. Nothing need be known
of the second part but what it does with any value at all. -/
theorem bind {x : Except DecodeError α} {next : α → Except DecodeError β} (h : OfValue x)
    (hnext : ∀ a, OfValue (next a)) : OfValue (x >>= next) := by
  intro e he
  rcases bind_eq_error.mp he with hfirst | ⟨a, -, hsecond⟩
  · exact h e hfirst
  · exact hnext a e hsecond

end OfValue

/-! The functions that decoding is put together from. Each of them looks at one value, or at how many
there are, and none at what stands under a key. -/

section
variable (source : Source) (expecting : String)

/-- Taking one entry from a source fails for the number of entries. This comes first in all readings
of a single value. -/
theorem ofValue_single : OfValue source.single := by
  unfold Source.single
  split
  · exact .ok _
  · exact .here rfl
  · exact .ok _

/-- A source that is not what was expected is refused as a whole, whether it is an entry, a block or
a list of entries. -/
theorem ofValue_mismatch {α : Type} : OfValue (source.mismatch expecting : Except DecodeError α) :=
  .here rfl

/-- A single value is wanted: the source has one entry, and that is no block. What comes after looks
at the entry, so this is the first part of every scalar. -/
theorem ofValue_scalar : OfValue (source.scalar expecting) := by
  refine (ofValue_single source).bind fun one => ?_
  cases one with
  | entry e => exact .ok e
  | block b => exact ofValue_mismatch (.block b) expecting
  | listed es => exact ofValue_mismatch (.listed es) expecting

/-- The keys of a block, for a record or a map. That a source shows no block is a fault of its value;
what the keys are is not looked at here. -/
theorem ofValue_keys : OfValue source.keys := by
  refine (ofValue_single source).bind fun one => ?_
  split
  · exact .ok _
  · exact .ok _
  · exact .here rfl

/-- The entries that a list or a tuple goes through. A source without entries of its own is refused,
and the entries themselves are decoded later. -/
theorem ofValue_entries : OfValue (source.entries expecting) := by
  unfold Source.entries
  split
  · exact .ok _
  · exact .here rfl
  · exact ofValue_mismatch _ expecting

/-- An entry that is no number is refused for what it is; likewise one that is no text. -/
theorem ofValue_number (e : Entry) : OfValue e.number? := by
  cases e with
  | number x => exact .ok x
  | boolean | text | block => exact .here rfl

theorem ofValue_text (e : Entry) : OfValue e.text? := by
  cases e with
  | text s => exact .ok s
  | boolean | number | block => exact .here rfl

/-- What is made of one text fails only for what the text is. Characters, texts, levels and variants
are read in this way. -/
theorem ofValue_scalar_text {α : Type} {next : String → Except DecodeError α}
    (hnext : ∀ s, OfValue (next s)) :
    OfValue (source.scalar expecting >>= fun e => e.text? >>= next) :=
  (ofValue_scalar source expecting).bind fun e => (ofValue_text e).bind hnext

/-- What is made of one number fails only for what the number is. Integers and floating-point numbers
are read in this way. -/
theorem ofValue_scalar_number {α : Type} {next : Double → Except DecodeError α}
    (hnext : ∀ x, OfValue (next x)) :
    OfValue (source.scalar expecting >>= fun e => e.number? >>= next) :=
  (ofValue_scalar source expecting).bind fun e => (ofValue_number e).bind hnext

/-- A number that is no integer, or out of range, is one misfit (`ofDouble_eq_error` says which). -/
theorem ofValue_ofDouble (t : IntegerType) (x : Double) : OfValue (t.ofDouble x) := by
  unfold IntegerType.ofDouble
  split
  · split
    · exact .ok _
    · exact .here rfl
  · exact .here rfl

/-- The level of a log is read from its name in any case, and a name of no level is refused. -/
theorem ofValue_severityOfText (s : String) : OfValue (severityOfText s) := by
  unfold severityOfText
  dsimp only
  -- one case for each name of a level, and one for what is none of them
  repeat' split
  all_goals first | exact .ok _ | exact .here rfl

/-- A choice is made by the name of a variant. A name of none is refused, and so is a variant that
would need more than its name, because a text has nothing more to give. -/
theorem ofValue_chooseVariant (variants : List Variant) (s : String) :
    OfValue (chooseVariant variants s) := by
  unfold chooseVariant
  split
  · exact .here rfl
  · split
    · exact .ok _
    · exact .here rfl
    · exact .here rfl
    · exact .here rfl

end

/-! ### One step -/

/-- The block that an entry is, if it is one. -/
def Entry.block? : Entry → Option Block
  | .block keys => some keys
  | _ => none

/-- The blocks that a source shows. -/
def Source.blocks : Source → List Block
  | .block b => [b]
  | .listed es => es.filterMap Entry.block?
  | .entry e => e.block?.toList

/-- How a schema fails on a source: for what a value is, for the keys of a block that the source
shows, or under one of these keys, with the schema that the key asks for. -/
inductive Schema.Fails (schema : Schema) (source : Source) : DecodeError → Prop where
  | value {e : DecodeError} (path : e.path = []) (root : e.root.ofKeys = false) :
      Fails schema source e
  | keys {block : Block} {strict : Bool} {fields : Fields} {m : Misfit}
      (shown : block ∈ source.blocks) (asked : schema.record? = some (strict, fields))
      (misses : fields.Misses strict (block.map Prod.fst) m) : Fails schema source m.here
  | below {block : Block} {line : String × List Entry} {inner : Schema} {e : DecodeError}
      (shown : block ∈ source.blocks) (listed : line ∈ block)
      (asked : schema.under? line.1 = some inner)
      (fails : inner.decode (.listed line.2) = .error e) : Fails schema source (e.under line.1)

namespace Schema.Fails

variable {schema inner : Schema} {source part : Source} {e : DecodeError}

theorem of_value (h : OfValue (schema.decode source)) (hfails : schema.decode source = .error e) :
    schema.Fails source e :=
  .value (h e hfails).1 (h e hfails).2

/-- What fails in a part of a source fails there, if the schema of the part looks at the same keys. -/
theorem lift (h : inner.Fails part e) (hshown : ∀ block ∈ part.blocks, block ∈ source.blocks)
    (hrecord : schema.record? = inner.record?)
    (hunder : ∀ key, schema.under? key = inner.under? key) :
    schema.Fails source e := by
  cases h with
  | value path root => exact .value path root
  | keys shown asked misses => exact .keys (hshown _ shown) (hrecord.trans asked) misses
  | below shown listed asked fails =>
      exact .below (hshown _ shown) listed ((hunder _).trans asked) fails

end Schema.Fails

/-- A block that is offered is shown. -/
theorem mem_blocks_of_keys {source : Source} {block : Block} (h : source.keys = .ok block) :
    block ∈ source.blocks := by
  cases source with
  | block b =>
      obtain rfl := Except.ok.inj h
      exact List.mem_singleton.mpr rfl
  | entry e =>
      cases e with
      | block b =>
          obtain rfl := Except.ok.inj h
          exact List.mem_singleton.mpr rfl
      | number | boolean | text => cases h
  | listed es =>
      -- only one entry is offered, and only as the block that it is
      cases es with
      | nil => cases h
      | cons e rest =>
          cases rest with
          | cons second rest => cases h
          | nil =>
              cases e with
              | block b =>
                  obtain rfl := Except.ok.inj h
                  exact List.mem_singleton.mpr rfl
              | number | boolean | text => cases h

/-- The entries of a list show no block that the list does not show. -/
theorem blocks_entry_subset {source : Source} {expecting : String} {es : List Entry}
    (h : source.entries expecting = .ok es) {e : Entry} (he : e ∈ es) :
    ∀ block ∈ (Source.entry e).blocks, block ∈ source.blocks := by
  intro block hblock
  cases source with
  | block b => cases h
  | entry e => cases h
  | listed all =>
      obtain rfl := Except.ok.inj h
      exact List.mem_filterMap.mpr ⟨e, he, Option.mem_toList.mp hblock⟩

section
variable {name : String} {strict : Bool} {fields : Fields} {source : Source} {block : Block}
  {e : DecodeError}

/-- A line cannot be read after others for its key, or for what it lists. -/
theorem fails_step {before after : Block} {line : String × List Entry}
    {read : List (String × Datum)} (shown : before ++ line :: after ∈ source.blocks)
    (distinct : ((before ++ line :: after).map Prod.fst).Nodup)
    (hbefore : before.foldlM (fields.step strict) [] = .ok read)
    (h : fields.step strict read line = .error e) :
    (Schema.record name strict fields).Fails source e := by
  have hmem : line ∈ before ++ line :: after := by simp
  have hkey := List.mem_map_of_mem (f := Prod.fst) hmem
  unfold Fields.step at h
  split at h
  · rename_i hunknown
    split at h
    · rename_i hstrict
      rw [← Except.error.inj h]
      exact .keys shown rfl (.unknown hkey ((Fields.find?_eq_none_iff _).mp hunknown) hstrict)
    · cases h
  · rename_i field key hknown
    split at h
    · rename_i hagain
      rw [← Except.error.inj h]
      -- what was read for the field before came from another line, so under another key
      have hreads := Fields.foldlM_step_eq_ok_iff_reads.mp hbefore
      obtain ⟨other, hother, hstands⟩ := hreads.exists_line (Fields.lookup_isSome_iff.mp hagain)
      have hdiffer : other.1 ≠ line.1 := by
        rw [List.map_append, List.map_cons] at distinct
        exact (List.nodup_append.mp distinct).2.2 _ (List.mem_map_of_mem hother) _
          List.mem_cons_self
      have hotherkey := List.mem_map_of_mem (f := Prod.fst)
        (List.mem_append_left (line :: after) hother)
      exact .keys shown rfl (.duplicate hotherkey hkey hdiffer hstands hknown)
    · split at h
      · cases h
      · rename_i inside hinside
        rw [← Except.error.inj h]
        obtain ⟨inner, hinner, hfails⟩ := Fields.exists_of_decodeKey_eq_error hinside
        exact .below shown hmem hinner hfails

/-- A block is no record for its keys, or for what one of them lists. -/
theorem fails_record (hblock : source.keys = .ok block) (distinct : (block.map Prod.fst).Nodup)
    (h : (Schema.record name strict fields).decode source = .error e) :
    (Schema.record name strict fields).Fails source e := by
  have hshown := mem_blocks_of_keys hblock
  rw [decode_record_eq, hblock] at h
  change (do
    let read ← block.foldlM (fields.step strict) []
    Datum.record <$> fields.complete read) = .error e at h
  rcases bind_eq_error.mp h with hwalk | ⟨read, hread, h⟩
  · -- the walk ends at one line, after others that were read
    obtain ⟨before, line, after, read, hsplit, hbefore, hline⟩ := exists_of_foldlM_eq_error hwalk
    rw [hsplit] at hshown distinct
    exact fails_step hshown distinct hbefore hline
  · -- all lines were read, and a field that is needed was not among them
    have hreads := Fields.foldlM_step_eq_ok_iff_reads.mp hread
    obtain ⟨field, key, schema, hhas, hneeded, hnone, rfl⟩ :=
      Fields.complete_eq_error (map_eq_error.mp h)
    refine .keys hshown rfl (.missing hhas hneeded fun k hk first hstands => ?_)
    obtain ⟨line, hline, rfl⟩ := List.mem_map.mp hk
    exact hreads.lookup_ne_none hline hstands hnone

end

/-- How a schema fails. Most schemas look at one value; a list, an option and a wrapper fail where
what is in them does. -/
theorem fails_of_decode : ∀ (schema : Schema) {source : Source} {e : DecodeError},
    schema.tupleFree = true → (∀ block ∈ source.blocks, (block.map Prod.fst).Nodup) →
    schema.decode source = .error e → schema.Fails source e
  | .boolean, source, _, _, _, h => by
      refine .of_value ?_ h
      rw [Schema.decode]
      refine (ofValue_scalar source _).bind fun entry => ?_
      cases entry with
      | boolean b => exact .ok _
      | number | text | block => exact .here rfl
  | .integer t, source, _, _, _, h => by
      refine .of_value ?_ h
      rw [Schema.decode]
      exact ofValue_scalar_number source _ fun x => (ofValue_ofDouble t x).bind fun n => .ok _
  | .single, source, _, _, _, h => by
      refine .of_value ?_ h
      rw [Schema.decode]
      exact ofValue_scalar_number source _ fun x => .ok _
  | .double, source, _, _, _, h => by
      refine .of_value ?_ h
      rw [Schema.decode]
      exact ofValue_scalar_number source _ fun x => .ok _
  | .character, source, _, _, _, h => by
      refine .of_value ?_ h
      rw [Schema.decode]
      refine ofValue_scalar_text source _ fun s => ?_
      split
      · exact .ok _
      · exact .here rfl
  | .text expecting, source, _, _, _, h => by
      refine .of_value ?_ h
      rw [Schema.decode]
      exact ofValue_scalar_text source expecting fun s => .ok _
  | .bytes expecting, source, _, _, _, h => by
      refine .of_value ?_ h
      unfold Schema.decode
      split
      · exact .ok _
      · exact .ok _
      · exact ofValue_mismatch _ expecting
  | .level, source, _, _, _, h => by
      refine .of_value ?_ h
      rw [Schema.decode]
      exact ofValue_scalar_text source _ fun s => (ofValue_severityOfText s).bind fun l => .ok _
  | .never expecting, source, _, _, _, h => .of_value (ofValue_mismatch source expecting) h
  | .ignored, _, _, _, _, h => by cases h
  | .any, _, _, _, _, h => by cases h
  | .choice name variants, source, _, _, _, h => by
      refine .of_value ?_ h
      rw [Schema.decode]
      exact ofValue_scalar_text source _ fun s => ofValue_chooseVariant variants s
  | .wrapped inner, source, e, free, distinct, h => by
      have hinner : inner.decode source = .error e := by rwa [Schema.decode] at h
      have hfails := fails_of_decode inner free distinct hinner
      exact hfails.lift (fun _ => id) rfl fun _ => rfl
  | .option inner, source, e, free, distinct, h => by
      have hinner : inner.decode source = .error e := by
        unfold Schema.decode at h
        split at h
        · cases h
        · exact map_eq_error.mp h
      have hfails := fails_of_decode inner free distinct hinner
      exact hfails.lift (fun _ => id) rfl fun _ => rfl
  | .list inner, source, e, free, distinct, h => by
      rw [Schema.decode] at h
      rcases bind_eq_error.mp h with hnone | ⟨es, hes, h⟩
      · obtain ⟨hpath, hroot⟩ := ofValue_entries source _ e hnone
        exact .value hpath hroot
      · rcases bind_eq_error.mp h with helements | ⟨_, -, h⟩
        · -- one of the entries fails, and shows what the list shows
          obtain ⟨entry, hentry, hinner⟩ := exists_of_mapM_eq_error helements
          have hshown := blocks_entry_subset hes hentry
          have hfails := fails_of_decode inner free
            (fun block hblock => distinct block (hshown block hblock)) hinner
          exact hfails.lift hshown rfl fun _ => rfl
        · cases h
  | .map inner, source, e, free, distinct, h => by
      rw [Schema.decode] at h
      rcases bind_eq_error.mp h with hnone | ⟨block, hblock, h⟩
      · obtain ⟨hpath, hroot⟩ := ofValue_keys source e hnone
        exact .value hpath hroot
      · rcases bind_eq_error.mp h with hlines | ⟨_, -, h⟩
        · obtain ⟨line, hline, hinner⟩ := exists_of_mapM_eq_error hlines
          split at hinner
          · cases hinner
          · rename_i inside hinside
            rw [← Except.error.inj hinner]
            exact .below (mem_blocks_of_keys hblock) hline rfl hinside
        · cases h
  | .record name strict fields, source, e, _, distinct, h => by
      cases hblock : source.keys with
      | ok block => exact fails_record hblock (distinct block (mem_blocks_of_keys hblock)) h
      | error first =>
          rw [decode_record_eq, hblock] at h
          obtain rfl : first = e := Except.error.inj h
          obtain ⟨hpath, hroot⟩ := ofValue_keys source first hblock
          exact .value hpath hroot

end Config

end PluginKit
