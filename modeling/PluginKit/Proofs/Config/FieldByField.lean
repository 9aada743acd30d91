import PluginKit.Proofs.Config.Gather
import PluginKit.Proofs.Config.Record

/-!
# `PluginKit.Proofs.Config.FieldByField`: strict records, one field at a time

A strict record whose fields have one key each reads as if every field looked up its own key, without
the others: the walk over the block meets each key once, and each key stands for one field. What is
left of the walk is that the block has no other keys.

* `Fields.Has`, `Fields.Plain`: the fields of a record, and records with one key for each.
* `Fields.alone`, `Fields.each`: the fields, each read by itself.
* `lookup_of_reads`, `complete_eq_each`: the walk finds what the fields find.
* `exists_reads`: where the fields find something, the walk goes through.
* `decode_strict_eq_ok_iff`: when a block is such a record.
* `alone_text_eq_ok_iff` and the others: when fields of a kind can be read from a block of items.
-/

set_option autoImplicit false

namespace PluginKit

namespace Config

/-- The fields of a record. -/
def Schema.fields : Schema → Fields
  | .record _ _ fields => fields
  | _ => .nil

namespace Fields

/-- A field with its name, its key, its default and its schema. -/
def Has (name key : String) (default : Option Datum) (schema : Schema) : Fields → Prop
  | .nil => False
  | .cons n k _ d s rest =>
    (n = name ∧ k = key ∧ d = default ∧ s = schema) ∨ rest.Has name key default schema

/-- The names of the fields. -/
def names : Fields → List String
  | .nil => []
  | .cons name _ _ _ _ rest => name :: rest.names

/-- Every field has a name and a key of its own, and no other key. The records of the two plugins
are such records; aliases and shared keys are what the walk over a block has to look out for, and
none of that can happen here. -/
inductive Plain : Fields → Prop where
  | nil : Plain .nil
  | cons {name key : String} {default : Option Datum} {schema : Schema} {rest : Fields}
      (newName : name ∉ rest.names) (newKey : key ∉ rest.keys) (others : rest.Plain) :
      Plain (.cons name key [] default schema rest)

/-- A field read by itself, from what its key lists. No other line of the block has a say in it,
which is how the documentation of a field reads and not how the walk over the block works. -/
def alone (lines : List (String × List Entry)) (key : String) (default : Option Datum)
    (schema : Schema) : Except DecodeError Datum :=
  match lines.lookup key with
  | some entries => schema.decode (.listed entries)
  | none => missingField key default schema

/-- The fields, each read by itself, in the order in which the record declares them. The error is
that of the first field that fails. -/
def each (lines : List (String × List Entry)) :
    Fields → Except DecodeError (List (String × Datum))
  | .nil => .ok []
  | .cons name key _ default schema rest => do
    let d ← alone lines key default schema
    let others ← rest.each lines
    return (name, d) :: others

variable {fields : Fields} {name key : String} {default : Option Datum} {schema : Schema}

theorem Has.name_mem : ∀ {fields : Fields}, fields.Has name key default schema →
    name ∈ fields.names
  | .cons .., .inl ⟨hname, _⟩ => hname ▸ List.mem_cons_self
  | .cons .., .inr h => List.mem_cons_of_mem _ h.name_mem

theorem Has.key_mem : ∀ {fields : Fields}, fields.Has name key default schema → key ∈ fields.keys
  | .cons .., .inl ⟨_, hkey, _⟩ => hkey ▸ List.mem_cons_self
  | .cons .., .inr h => List.mem_cons_of_mem _ (List.mem_append_right _ h.key_mem)

namespace Plain

/-- Looking up the key of a field finds that field. Without aliases there is no earlier field that
could claim the key. -/
theorem find?_of_has (plain : fields.Plain) (h : fields.Has name key default schema) :
    fields.find? key = some (name, key) := by
  induction plain with
  | nil => exact absurd h id
  | @cons n k d s rest newName newKey others ih =>
      rcases h with ⟨rfl, rfl, -, -⟩ | h
      · rw [find?, if_pos (Or.inl rfl)]
      · have hne : key ≠ k := fun heq => newKey (heq ▸ h.key_mem)
        rw [find?, if_neg (by simpa using hne)]
        exact ih h

/-- What is listed under the key of a field is decoded by the schema of that field and by no
other. -/
theorem decodeKey_of_has (plain : fields.Plain) (h : fields.Has name key default schema)
    (source : Source) : fields.decodeKey key source = schema.decode source := by
  induction plain with
  | nil => exact absurd h id
  | @cons n k d s rest newName newKey others ih =>
      rcases h with ⟨-, rfl, -, rfl⟩ | h
      · rw [decodeKey, if_pos (Or.inl rfl)]
      · have hne : key ≠ k := fun heq => newKey (heq ▸ h.key_mem)
        rw [decodeKey, if_neg (by simpa using hne)]
        exact ih h

/-- A key that is found is the key of a field. -/
theorem has_of_find? (plain : fields.Plain) {first : String}
    (h : fields.find? key = some (name, first)) :
    ∃ default schema, fields.Has name key default schema := by
  induction plain with
  | nil => cases h
  | @cons n k d s rest newName newKey others ih =>
      rw [find?] at h
      split at h
      · rename_i hkey
        have hkey : key = k := by simpa using hkey
        obtain ⟨rfl, -⟩ := Prod.mk.inj (Option.some.inj h)
        exact ⟨d, s, .inl ⟨rfl, hkey.symm, rfl, rfl⟩⟩
      · obtain ⟨d, s, hhas⟩ := ih h
        exact ⟨d, s, .inr hhas⟩

/-- A key that the record knows is the key of a field, so strictness asks of the keys of a block
nothing but to be such keys. -/
theorem has_of_mem_keys (plain : fields.Plain) (h : key ∈ fields.keys) :
    ∃ name default schema, fields.Has name key default schema := by
  induction plain with
  | nil => cases h
  | @cons n k d s rest newName newKey others ih =>
      rcases List.mem_cons.mp h with rfl | h
      · exact ⟨n, d, s, .inl ⟨rfl, rfl, rfl, rfl⟩⟩
      · obtain ⟨n, d, s, hhas⟩ := ih h
        exact ⟨n, d, s, .inr hhas⟩

/-- No two keys stand for one field, so a walk over different keys cannot read a field twice and
never ends in a repeated field. -/
theorem key_unique (plain : fields.Plain) (h : fields.Has name key default schema)
    {key' : String} {default' : Option Datum} {schema' : Schema}
    (h' : fields.Has name key' default' schema') : key = key' := by
  induction plain with
  | nil => exact absurd h id
  | cons newName newKey others ih =>
      rcases h with ⟨rfl, rfl, -, -⟩ | h
      · rcases h' with ⟨-, rfl, -, -⟩ | h'
        · rfl
        · exact absurd h'.name_mem newName
      · rcases h' with ⟨rfl, -, -, -⟩ | h'
        · exact absurd h.name_mem newName
        · exact ih h h'

end Plain

variable {lines : List (String × List Entry)} {read values : List (String × Datum)}

/-! ### From the walk to the fields -/

/-- What the walk has read for a field is what its key lists, or nothing without the key. The keys
of a block are distinct, so the first line with the key is the only one. -/
theorem lookup_of_reads (plain : fields.Plain) (distinct : (lines.map Prod.fst).Nodup)
    (hread : fields.Reads true lines read) (h : fields.Has name key default schema) :
    match lines.lookup key with
    | some entries => ∃ d, schema.decode (.listed entries) = .ok d ∧ read.lookup name = some d
    | none => read.lookup name = none := by
  obtain ⟨⟨slots, hslots, rfl⟩, hdistinct⟩ := hread
  cases hkey : lines.lookup key with
  | some entries =>
      -- the walk has met the key, and it was this field's value that it added
      have hline := (Metadata.lookup_eq_some_iff distinct).mp hkey
      obtain ⟨slot, hslot, htakes⟩ := exists_of_mem_right hslots.flip hline
      cases htakes with
      | skipped _ hlax => cases hlax
      | @taken n _ d hknown hfits =>
          rw [plain.find?_of_has h] at hknown
          obtain ⟨rfl, -⟩ := Prod.mk.inj (Option.some.inj hknown)
          rw [plain.decodeKey_of_has h] at hfits
          refine ⟨d, hfits, (Metadata.lookup_eq_some_iff hdistinct).mpr ?_⟩
          exact List.mem_flatten.mpr ⟨_, hslot, List.mem_singleton.mpr rfl⟩
  | none =>
      show slots.flatten.lookup name = none
      rw [Option.eq_none_iff_forall_ne_some]
      intro d hd
      -- what was read for the name was read under its one key, which the lines do not have
      obtain ⟨slot, hslot, hmem⟩ :=
        List.mem_flatten.mp ((Metadata.lookup_eq_some_iff hdistinct).mp hd)
      obtain ⟨line, hline, htakes⟩ := exists_of_mem_right hslots hslot
      cases htakes with
      | skipped _ hlax => cases hlax
      | taken hknown _ =>
          obtain ⟨rfl, -⟩ := Prod.mk.inj (List.mem_singleton.mp hmem)
          obtain ⟨_, _, hhas⟩ := plain.has_of_find? hknown
          rw [plain.key_unique h hhas, Metadata.lookup_eq_none_iff] at hkey
          exact hkey (List.mem_map_of_mem hline)

/-- Fields that have been read for agree with fields that read for themselves. Completing a record
after the walk goes over the declared fields, so the proof does, too. -/
theorem complete_eq_each_of_lookup : ∀ part : Fields,
    (∀ name key default schema, part.Has name key default schema →
      match lines.lookup key with
      | some entries => ∃ d, schema.decode (.listed entries) = .ok d ∧ read.lookup name = some d
      | none => read.lookup name = none) →
    part.complete read = part.each lines
  | .nil, _ => rfl
  | .cons name key _ default schema rest, h => by
      -- Field by field, as both walks go; the hypothesis is passed on for the fields that are left.
      have hfirst := h name key default schema (.inl ⟨rfl, rfl, rfl, rfl⟩)
      have hrest := complete_eq_each_of_lookup rest fun n k d s hhas => h n k d s (.inr hhas)
      rw [complete, each, hrest, alone]
      cases hkey : lines.lookup key with
      | some entries =>
          rw [hkey] at hfirst
          obtain ⟨d, hd, hread⟩ := hfirst
          rw [hread]
          dsimp only
          rw [hd]
          rfl
      | none =>
          rw [hkey] at hfirst
          rw [hfirst]

/-- The fields find in the walk what they would have found by themselves: defaults and missing
fields included, as a key that is not there is not there for either. -/
theorem complete_eq_each (plain : fields.Plain) (distinct : (lines.map Prod.fst).Nodup)
    (hread : fields.Reads true lines read) : fields.complete read = fields.each lines :=
  complete_eq_each_of_lookup fields fun _ _ _ _ => lookup_of_reads plain distinct hread

/-! ### From the fields to the walk -/

/-- A field that reads for itself can read what its key lists. -/
theorem decode_of_each : ∀ {fields : Fields} {values : List (String × Datum)},
    fields.each lines = .ok values → fields.Has name key default schema →
    ∀ {entries : List Entry}, lines.lookup key = some entries →
    ∃ d, schema.decode (.listed entries) = .ok d
  | .cons .., _, h, .inl ⟨_, rfl, _, rfl⟩, entries, hkey => by
      rw [each, alone, hkey] at h
      obtain ⟨d, hd, -⟩ := bind_eq_ok.mp h
      exact ⟨d, hd⟩
  | .cons .., _, h, .inr hhas, entries, hkey => by
      rw [each] at h
      obtain ⟨_, -, h⟩ := bind_eq_ok.mp h
      obtain ⟨_, hrest, -⟩ := bind_eq_ok.mp h
      exact decode_of_each hrest hhas hkey

/-- Keys that are all known and can all be read add one name each, and no name twice. This is what
the walk needs to get to its end without a repeated field. -/
theorem exists_slots (plain : fields.Plain) (distinct : (lines.map Prod.fst).Nodup)
    (hreadable : ∀ line ∈ lines, ∃ name default schema d,
      fields.Has name line.1 default schema ∧ schema.decode (.listed line.2) = .ok d) :
    ∃ slots, List.Forall₂ (fields.Takes true) lines slots ∧
      (slots.flatten.map Prod.fst).Nodup ∧
      ∀ name ∈ slots.flatten.map Prod.fst,
        ∃ line ∈ lines, ∃ default schema, fields.Has name line.1 default schema := by
  induction lines with
  | nil => exact ⟨[], .nil, List.nodup_nil, fun _ h => absurd h List.not_mem_nil⟩
  | cons line rest ih =>
      obtain ⟨hnew, hothers⟩ := List.nodup_cons.mp distinct
      obtain ⟨name, default, schema, d, hhas, hd⟩ := hreadable line List.mem_cons_self
      obtain ⟨slots, hslots, hnames, hfrom⟩ :=
        ih hothers fun other h => hreadable other (List.mem_cons_of_mem _ h)
      have htakes : fields.Takes true line [(name, d)] := by
        rw [← plain.decodeKey_of_has hhas] at hd
        exact .taken (plain.find?_of_has hhas) hd
      refine ⟨[(name, d)] :: slots, .cons htakes hslots, ?_, ?_⟩
      · -- another line with the same name would have the same key
        refine List.nodup_cons.mpr ⟨fun hmem => hnew ?_, hnames⟩
        obtain ⟨other, hother, _, _, hhas'⟩ := hfrom name hmem
        rw [plain.key_unique hhas hhas']
        exact List.mem_map_of_mem hother
      · intro n hn
        rcases List.mem_cons.mp hn with rfl | hn
        · exact ⟨line, List.mem_cons_self, default, schema, hhas⟩
        · obtain ⟨other, hother, hhas'⟩ := hfrom n hn
          exact ⟨other, List.mem_cons_of_mem _ hother, hhas'⟩

/-- Where every key is known and every field finds something, the walk goes through. A field that is
not in the block was completed by its default, and does not matter to the walk. -/
theorem exists_reads (plain : fields.Plain) (distinct : (lines.map Prod.fst).Nodup)
    (known : ∀ line ∈ lines, line.1 ∈ fields.keys) (h : fields.each lines = .ok values) :
    ∃ read, fields.Reads true lines read := by
  have hreadable : ∀ line ∈ lines, ∃ name default schema d,
      fields.Has name line.1 default schema ∧ schema.decode (.listed line.2) = .ok d := by
    intro line hline
    obtain ⟨name, default, schema, hhas⟩ := plain.has_of_mem_keys (known line hline)
    have hkey := (Metadata.lookup_eq_some_iff distinct).mpr hline
    obtain ⟨d, hd⟩ := decode_of_each h hhas hkey
    exact ⟨name, default, schema, d, hhas, hd⟩
  obtain ⟨slots, hslots, hnames, -⟩ := exists_slots plain distinct hreadable
  exact ⟨slots.flatten, ⟨slots, hslots, rfl⟩, hnames⟩

/-- The walk goes through only where every key is known, because a strict record refuses the others
as unknown fields. -/
theorem Reads.known (plain : fields.Plain) (hread : fields.Reads true lines read) :
    ∀ line ∈ lines, line.1 ∈ fields.keys := by
  intro line hline
  obtain ⟨⟨slots, hslots, -⟩, -⟩ := hread
  obtain ⟨slot, -, htakes⟩ := exists_of_mem_right hslots.flip hline
  cases htakes with
  | skipped _ hlax => cases hlax
  | taken hknown _ =>
      obtain ⟨_, _, hhas⟩ := plain.has_of_find? hknown
      exact hhas.key_mem

end Fields

/-- A block is a strict record with one key for each field when it has no other keys and every field
can be read by itself. From here on nothing has to be said about the order of the lines. -/
theorem decode_strict_eq_ok_iff {name : String} {fields : Fields} (plain : fields.Plain)
    {source : Source} {lines : List (String × List Entry)} (hlines : source.keys = .ok lines)
    (distinct : (lines.map Prod.fst).Nodup) {d : Datum} :
    (Schema.record name true fields).decode source = .ok d ↔
      (∀ line ∈ lines, line.1 ∈ fields.keys) ∧
        ∃ values, fields.each lines = .ok values ∧ d = .record values := by
  rw [decode_record_eq_ok_iff]
  constructor
  · rintro ⟨_, read, values, hkeys, hread, hvalues, rfl⟩
    obtain rfl := Except.ok.inj (hlines.symm.trans hkeys)
    -- after the walk the fields are completed from it, which is reading them by themselves
    rw [Fields.complete_eq_each plain distinct hread] at hvalues
    exact ⟨hread.known plain, values, hvalues, rfl⟩
  · rintro ⟨hknown, values, hvalues, rfl⟩
    obtain ⟨read, hread⟩ := Fields.exists_reads plain distinct hknown hvalues
    rw [← Fields.complete_eq_each plain distinct hread] at hvalues
    exact ⟨lines, read, values, hlines, hread, hvalues, rfl⟩

/-! ### Fields of one value -/

section
variable {entries : List Entry} {d : Datum}

/-- A scalar is asked of exactly one entry: none and several are both refused, before the entry is
looked at. -/
theorem eq_singleton_of_scalar {expecting : String} {e : Entry}
    (h : (Source.listed entries).scalar expecting = .ok e) : entries = [e] := by
  cases entries with
  | nil => cases h
  | cons first rest =>
      cases rest with
      | nil => exact congrArg (fun e => [e]) (Except.ok.inj h)
      | cons => cases h

/-- A text is read from one entry that is a text, and from nothing else; numbers are not spelled
out. -/
theorem decode_text_eq_ok_iff {expecting : String} :
    (Schema.text expecting).decode (.listed entries) = .ok d ↔
      ∃ s, entries = [.text s] ∧ d = .text s := by
  constructor
  · intro h
    rw [Schema.decode] at h
    obtain ⟨e, he, h⟩ := bind_eq_ok.mp h
    obtain ⟨s, hs, h⟩ := bind_eq_ok.mp h
    cases e with
    | text t =>
        obtain rfl := Except.ok.inj hs
        exact ⟨t, eq_singleton_of_scalar he, (Except.ok.inj h).symm⟩
    | number | boolean | block => cases hs
  · rintro ⟨s, rfl, rfl⟩
    rfl

/-- A boolean is read from one entry that is a boolean. The texts `true` and `false` are none. -/
theorem decode_boolean_eq_ok_iff :
    Schema.boolean.decode (.listed entries) = .ok d ↔
      ∃ b, entries = [.boolean b] ∧ d = .boolean b := by
  constructor
  · intro h
    rw [Schema.decode] at h
    obtain ⟨e, he, h⟩ := bind_eq_ok.mp h
    cases e with
    | boolean b => exact ⟨b, eq_singleton_of_scalar he, (Except.ok.inj h).symm⟩
    | number | text | block => cases h
  · rintro ⟨b, rfl, rfl⟩
    rfl

/-- A text that may be missing: no entry stands for none, one entry is the text, and a second one is
refused as it is for a text that has to be there. -/
theorem decode_option_text_eq_ok_iff {expecting : String} :
    (Schema.option (.text expecting)).decode (.listed entries) = .ok d ↔
      ∃ s : Option String, entries = (s.map Entry.text).toList ∧
        d = s.elim .absent fun s => .present (.text s) := by
  constructor
  · intro h
    cases entries with
    | nil => exact ⟨none, rfl, (Except.ok.inj h).symm⟩
    | cons e rest =>
        obtain ⟨inner, hinner, rfl⟩ := map_eq_ok h
        obtain ⟨s, hs, rfl⟩ := decode_text_eq_ok_iff.mp hinner
        exact ⟨some s, hs, rfl⟩
  · rintro ⟨s, rfl, rfl⟩
    cases s <;> rfl

/-! ### Fields of a block of items -/

variable {items : List Item} {key : String}

/-- A field of a block of items reads what the items with its key list, all of them together, and
falls back to its default only if no item has the key. -/
theorem alone_ofItems (items : List Item) (key : String) (default : Option Datum)
    (schema : Schema) :
    Fields.alone (Block.ofItems items) key default schema
      = if key ∈ items.map Item.key then
          schema.decode (.listed (listedUnder key (Item.lines items)))
        else missingField key default schema := by
  unfold Fields.alone
  rw [lookup_ofItems]
  by_cases hkey : key ∈ items.map Item.key
  · rw [if_pos hkey, if_pos hkey]
  · rw [if_neg hkey, if_neg hkey]

/-- A key that no item has lists nothing. The converse fails: an item without values and children
has its key and lists nothing either. -/
theorem listedUnder_of_missing (h : key ∉ items.map Item.key) :
    listedUnder key (Item.lines items) = [] :=
  listedUnder_of_notMem key _ (by rwa [Item.keys_lines])

/-- A text that has to be given: without the key the field is missing, so exactly one text is
listed. -/
theorem alone_text_eq_ok_iff {expecting : String} :
    Fields.alone (Block.ofItems items) key none (.text expecting) = .ok d ↔
      ∃ s, listedUnder key (Item.lines items) = [.text s] ∧ d = .text s := by
  rw [alone_ofItems]
  by_cases hkey : key ∈ items.map Item.key
  · rw [if_pos hkey]
    exact decode_text_eq_ok_iff
  · rw [if_neg hkey, listedUnder_of_missing hkey]
    exact ⟨nofun, fun ⟨_, hlisted, _⟩ => nomatch hlisted⟩

/-- A text that may be missing. A key that is there but lists nothing says the same as no key. -/
theorem alone_option_text_eq_ok_iff {expecting : String} :
    Fields.alone (Block.ofItems items) key none (.option (.text expecting)) = .ok d ↔
      ∃ s : Option String, listedUnder key (Item.lines items) = (s.map Entry.text).toList ∧
        d = s.elim .absent fun s => .present (.text s) := by
  rw [alone_ofItems]
  by_cases hkey : key ∈ items.map Item.key
  · rw [if_pos hkey]
    exact decode_option_text_eq_ok_iff
  · rw [if_neg hkey, listedUnder_of_missing hkey]
    constructor
    · intro h
      exact ⟨none, rfl, (Except.ok.inj h).symm⟩
    · rintro ⟨s, hs, rfl⟩
      cases s with
      | none => rfl
      | some s => cases hs

/-- A boolean with a default. The default is used only without the key: a key that lists nothing is
refused, unlike for a text that may be missing. -/
theorem alone_boolean_eq_ok_iff {b : Bool} :
    Fields.alone (Block.ofItems items) key (some (.boolean b)) .boolean = .ok d ↔
      ∃ c, (key ∈ items.map Item.key → listedUnder key (Item.lines items) = [.boolean c]) ∧
        (key ∉ items.map Item.key → c = b) ∧ d = .boolean c := by
  rw [alone_ofItems]
  by_cases hkey : key ∈ items.map Item.key
  · rw [if_pos hkey, decode_boolean_eq_ok_iff]
    simp [hkey]
  · rw [if_neg hkey]
    constructor
    · intro h
      exact ⟨b, fun h => absurd h hkey, fun _ => rfl, (Except.ok.inj h).symm⟩
    · rintro ⟨c, -, hc, rfl⟩
      rw [hc hkey]
      rfl

/-- A list that may be missing, in which every entry becomes an element. A key that lists nothing
gives the empty list, so a block without children leaves no trace in it. -/
theorem alone_list_eq_ok_iff {inner : Schema} :
    Fields.alone (Block.ofItems items) key (some (.list [])) (.list inner) = .ok d ↔
      ∃ ds, List.Forall₂ (fun e d => inner.decode (.entry e) = .ok d)
        (listedUnder key (Item.lines items)) ds ∧ d = .list ds := by
  rw [alone_ofItems]
  -- Without the key the default stands in, and the empty list is also what the key lists.
  by_cases hkey : key ∈ items.map Item.key
  · rw [if_pos hkey, Schema.decode]
    constructor
    · intro h
      obtain ⟨es, hes, helements⟩ := bind_eq_ok.mp h
      obtain ⟨ds, hds, hd⟩ := bind_eq_ok.mp helements
      rw [← Except.ok.inj hes] at hds
      exact ⟨ds, forall₂_of_mapM hds, (Except.ok.inj hd).symm⟩
    · rintro ⟨ds, hds, rfl⟩
      exact bind_eq_ok.mpr ⟨_, rfl, bind_eq_ok.mpr ⟨ds, mapM_eq_ok hds, rfl⟩⟩
  · rw [if_neg hkey, listedUnder_of_missing hkey]
    constructor
    · intro h
      exact ⟨[], .nil, (Except.ok.inj h).symm⟩
    · rintro ⟨ds, hds, rfl⟩
      cases hds
      rfl

/-- One field after the other, as a rule for taking a record apart by hand. -/
theorem each_cons_eq_ok_iff {lines : List (String × List Entry)} {name key : String}
    {aliases : List String} {default : Option Datum} {schema : Schema} {rest : Fields}
    {values : List (String × Datum)} :
    (Fields.cons name key aliases default schema rest).each lines = .ok values ↔
      ∃ d others, Fields.alone lines key default schema = .ok d ∧ rest.each lines = .ok others ∧
        values = (name, d) :: others := by
  rw [Fields.each, bind_eq_ok]
  constructor
  · rintro ⟨d, hd, h⟩
    obtain ⟨others, hothers, h⟩ := bind_eq_ok.mp h
    exact ⟨d, others, hd, hothers, (Except.ok.inj h).symm⟩
  · rintro ⟨d, others, hd, hothers, rfl⟩
    exact ⟨d, hd, bind_eq_ok.mpr ⟨others, hothers, rfl⟩⟩

end

end Config

end PluginKit
