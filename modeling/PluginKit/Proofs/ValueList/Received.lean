import PluginKit.Proofs.Metadata
import PluginKit.Proofs.Steps
import PluginKit.Proofs.Text.Field
import PluginKit.ValueList.Received

/-!
# `PluginKit.Proofs.ValueList.Received`: reading a list

Decoding is a row of readings, and a list decodes when every one of them succeeds. A value is 64 bits
on its way and gets its kind back from the data source that describes it.

* `Describes`, `Labels`, `readReports`: values, the sources that fit them, and the reports that
  both make.
* `Decodes`, `ofRaw_eq_ok_iff`: a list and what it decodes to, part by part.
* `time_ofRaw`: the time of a decoded list.
* `entries_of_readMetadata`, `texts_of_readMetadata`: what annotations that were read looked like.
-/

set_option autoImplicit false

namespace PluginKit

/-- The number of a kind stands for that kind. -/
theorem Kind.ofCode?_code (k : Kind) : Kind.ofCode? k.code = some k := by
  cases k <;> rfl

/-- The kind says which of its readings the 64 bits of a value have. -/
theorem Value.read_bits (v : Value) : v.kind.read v.bits = v := by
  cases v with
  | derive n =>
      show Value.derive n.toUInt64.toInt64 = .derive n
      rw [Int64.toInt64_toUInt64]
  | counter | gauge | absolute => rfl

/-- Reading bits as a kind loses none of them. -/
theorem Kind.bits_read (k : Kind) (bits : UInt64) : (k.read bits).bits = bits := by
  cases k with
  | derive =>
      show bits.toInt64.toUInt64 = bits
      rw [UInt64.toUInt64_toInt64]
  | counter | gauge | absolute => rfl

namespace ValueList

variable {abi : Abi}

/-- The elements of a data set that count. -/
def elements (set : DataSet abi) : List (DataSource abi) :=
  declaredElements set.count set.sources

/-- A source that fits a value: the value's kind, and a name that can be read. -/
def Describes (source : DataSource abi) (value : Value) : Prop :=
  source.type = value.kind.code ∧ ∃ name, source.name.decode = .ok name

/-- A report with the name and the bounds of its source. -/
structure Labels (source : DataSource abi) (report : Report) : Prop where
  name : source.name.decode = .ok report.name
  min : report.min = source.min
  max : report.max = source.max

/-- A value that is read with a source of its kind is that value again. -/
theorem readReport_bits {source : DataSource abi} {value : Value} {name : String}
    (hkind : source.type = value.kind.code) (hname : source.name.decode = .ok name)
    (plugin : String) :
    readReport plugin value.bits source = .ok ⟨name, value, source.min, source.max⟩ := by
  unfold readReport readField
  rw [hkind, Kind.ofCode?_code, hname]
  show Except.ok (⟨name, value.kind.read value.bits, source.min, source.max⟩ : Report) = _
  rw [Value.read_bits]

/-- Values and sources that fit make reports, one for each value and in their order. -/
theorem readReports {sources : List (DataSource abi)} {values : List Value}
    (h : List.Forall₂ Describes sources values) (plugin : String) :
    ∃ reports, (((values.map Value.bits).zip sources).mapM fun p => readReport plugin p.1 p.2)
        = .ok reports ∧
      reports.map Report.value = values ∧ List.Forall₂ Labels sources reports := by
  induction h with
  | nil => exact ⟨[], rfl, rfl, .nil⟩
  | @cons source value sources values hfirst _ ih =>
      obtain ⟨hkind, name, hname⟩ := hfirst
      obtain ⟨reports, hread, hvalues, hlabels⟩ := ih
      refine ⟨⟨name, value, source.min, source.max⟩ :: reports, ?_, ?_,
        .cons ⟨hname, rfl, rfl⟩ hlabels⟩
      · rw [List.map_cons, List.zip_cons_cons, List.mapM_cons, readReport_bits hkind hname, hread]
        rfl
      · rw [List.map_cons, hvalues]

/-! ### What was decoded -/

/-- Reading a field is decoding it, with somebody to blame when that fails. -/
theorem decode_of_readField {plugin field text : String} {f : TextField abi.nameLength}
    (h : readField plugin field f = .ok text) : f.decode = .ok text := by
  unfold readField at h
  cases hf : f.decode with
  | error e =>
      rw [hf] at h
      cases h
  | ok s =>
      rw [hf] at h
      exact congrArg Except.ok (Except.ok.inj h)

/-- A field that decodes is read, whoever would be to blame. -/
theorem readField_of_decode {text : String} {f : TextField abi.nameLength}
    (h : f.decode = .ok text) (plugin field : String) : readField plugin field f = .ok text := by
  unfold readField
  rw [h]
  rfl

/-- Whatever kind the source has, a value keeps its bits when it is read. -/
theorem bits_readReport {plugin : String} {bits : UInt64} {source : DataSource abi} {r : Report}
    (h : readReport plugin bits source = .ok r) : r.value.bits = bits := by
  unfold readReport at h
  cases hkind : Kind.ofCode? source.type with
  | none =>
      rw [hkind] at h
      cases h
  | some kind =>
      rw [hkind] at h
      obtain ⟨name, -, h⟩ := bind_eq_ok.mp h
      rw [← Except.ok.inj h]
      exact kind.bits_read bits

/-- What stands past the end of the other list is not paired, so it makes no difference whether it
is taken off before. -/
theorem zip_take_length {α β : Type} (as : List α) (bs : List β) :
    (as.take bs.length).zip bs = as.zip bs := by
  have htake : (as.zip bs).take bs.length = (as.take bs.length).zip (bs.take bs.length) :=
    List.take_zipWith
  rw [List.take_length] at htake
  rw [← htake]
  apply List.take_of_length_le
  rw [List.length_zip]
  exact Nat.min_le_right _ _

/-- The values that count, each with its source. -/
def pairs (set : DataSet abi) (list : RawList abi) : List (UInt64 × DataSource abi) :=
  (declaredElements list.count list.values).zip (elements set)

/-- A list and what it decodes to, part by part. -/
structure Decodes (set : DataSet abi) (list : RawList abi) (l : ValueList) : Prop where
  plugin : list.plugin.decode = .ok l.plugin
  values : List.Forall₂ (fun p r => readReport l.plugin p.1 p.2 = .ok r) (pairs set list) l.values
  pluginInstance : ∃ text, list.pluginInstance.decode = .ok text ∧
    l.pluginInstance = nonEmptyText text
  type : list.type.decode = .ok l.type
  typeInstance : ∃ text, list.typeInstance.decode = .ok text ∧ l.typeInstance = nonEmptyText text
  host : list.host.decode = .ok l.host
  metadata : readMetadata l.plugin list.metadata = .ok l.metadata
  time : l.time = Ticks.toInstant list.time
  interval : l.interval = Ticks.toDuration list.interval
  declared : l.declared = list.count

/-- Decoding succeeds exactly when every part decodes. Later modules take a decoded list apart with
it and never open the decoder. -/
theorem ofRaw_eq_ok_iff {set : DataSet abi} {list : RawList abi} {l : ValueList} :
    ofRaw set list = .ok l ↔ Decodes set list l := by
  constructor
  · intro h
    -- The steps in the order in which the list is read, each with what it has read.
    unfold ofRaw at h
    obtain ⟨plugin, hplugin, h⟩ := bind_eq_ok.mp h
    obtain ⟨values, hvalues, h⟩ := bind_eq_ok.mp h
    obtain ⟨pluginInstance, hpluginInstance, h⟩ := bind_eq_ok.mp h
    obtain ⟨type, htype, h⟩ := bind_eq_ok.mp h
    obtain ⟨typeInstance, htypeInstance, h⟩ := bind_eq_ok.mp h
    obtain ⟨host, hhost, h⟩ := bind_eq_ok.mp h
    obtain ⟨metadata, hmetadata, h⟩ := bind_eq_ok.mp h
    obtain rfl := Except.ok.inj h
    exact {
      plugin := decode_of_readField hplugin
      values := forall₂_of_mapM hvalues
      pluginInstance := ⟨_, decode_of_readField hpluginInstance, rfl⟩
      type := decode_of_readField htype
      typeInstance := ⟨_, decode_of_readField htypeInstance, rfl⟩
      host := decode_of_readField hhost
      metadata := hmetadata
      time := rfl
      interval := rfl
      declared := rfl }
  · intro h
    obtain ⟨pluginInstance, hpluginInstance, hfirst⟩ := h.pluginInstance
    obtain ⟨typeInstance, htypeInstance, hsecond⟩ := h.typeInstance
    have hvalues := mapM_eq_ok h.values
    unfold pairs elements at hvalues
    unfold ofRaw
    rw [readField_of_decode h.plugin]
    dsimp only [bind, Except.bind]
    rw [hvalues, readField_of_decode hpluginInstance]
    dsimp only
    rw [readField_of_decode h.type, readField_of_decode htypeInstance]
    dsimp only
    rw [readField_of_decode h.host, h.metadata, ← hfirst, ← hsecond, ← h.time, ← h.interval,
      ← h.declared]
    rfl

/-- A decoded list has the time of the raw one. -/
theorem time_ofRaw {set : DataSet abi} {list : RawList abi} {l : ValueList}
    (h : ofRaw set list = .ok l) : l.time = Ticks.toInstant list.time :=
  (ofRaw_eq_ok_iff.mp h).time

/-- An annotation that is read has the bytes of its key and the value in the table, and its text has
no zero character. -/
theorem readMetaEntry_eq_ok {plugin : String} {table : Metadata.Table} {key : Metadata.Bytes}
    {entry : String × MetaValue} (h : readMetaEntry plugin table key = .ok entry) :
    Utf8.encode entry.1 = key ∧ table.find? key = some entry.2 ∧
      ∀ text, entry.2 = .string text → '\x00' ∉ text.toList := by
  unfold readMetaEntry at h
  obtain ⟨name, hname, h⟩ := bind_eq_ok.mp h
  have hkey : Utf8.encode name = key := by
    cases hdecode : Utf8.decode key with
    | error e =>
        rw [hdecode] at hname
        cases hname
    | ok s =>
        rw [hdecode] at hname
        rw [← Except.ok.inj hname]
        exact Utf8.encode_of_decode hdecode
  dsimp only at h
  cases hfind : table.find? key with
  | none =>
      rw [hfind] at h
      cases h
  | some held =>
      rw [hfind] at h
      -- the reading that the kind chooses gives back what is held
      cases held with
      | string text =>
          simp only [Metadata.Table.getString, Metadata.Table.get, hfind] at h
          by_cases hzero : text.toList.contains '\x00'
          · rw [if_pos hzero] at h
            cases h
          · rw [if_neg hzero] at h
            obtain rfl := Except.ok.inj h
            refine ⟨hkey, rfl, fun other hother => ?_⟩
            obtain rfl := MetaValue.string.inj hother
            simpa using hzero
      | signed n =>
          simp only [Metadata.Table.getSigned, Metadata.Table.get, hfind] at h
          obtain rfl := Except.ok.inj h
          exact ⟨hkey, rfl, nofun⟩
      | unsigned n =>
          simp only [Metadata.Table.getUnsigned, Metadata.Table.get, hfind] at h
          obtain rfl := Except.ok.inj h
          exact ⟨hkey, rfl, nofun⟩
      | double x =>
          simp only [Metadata.Table.getDouble, Metadata.Table.get, hfind] at h
          obtain rfl := Except.ok.inj h
          exact ⟨hkey, rfl, nofun⟩
      | boolean b =>
          simp only [Metadata.Table.getBoolean, Metadata.Table.get, hfind] at h
          obtain rfl := Except.ok.inj h
          exact ⟨hkey, rfl, nofun⟩

/-- The annotations that are read from a table are its entries, with their keys as texts. The keys
have to be different, since each is looked up in the whole table. -/
theorem entries_of_readMetadata {plugin : String} {table : Metadata.Table}
    {metadata : List (String × MetaValue)} (hkeys : table.keys.Nodup)
    (h : readMetadata plugin (some table) = .ok metadata) :
    table.entries = metadata.map fun e => (Utf8.encode e.1, e.2) := by
  have hread : List.Forall₂ (fun p e => readMetaEntry plugin table p.1 = .ok e) table.entries
      metadata := List.forall₂_map_left_iff.mp (forall₂_of_mapM h)
  have hheld : ∀ p ∈ table.entries, table.find? p.1 = some p.2 := by
    intro p hp
    exact (Metadata.lookup_eq_some_iff hkeys).mpr hp
  rw [← List.forall₂_eq_eq_eq, List.forall₂_map_right_iff]
  refine (List.forall₂_and_left _ _ |>.mpr ⟨hheld, hread⟩).imp ?_
  rintro ⟨key, value⟩ entry ⟨hfind, hentry⟩
  obtain ⟨hkey, hvalue, -⟩ := readMetaEntry_eq_ok hentry
  rw [hvalue] at hfind
  rw [hkey, Option.some.inj hfind]

/-- No text that is read has a zero character in it. -/
theorem texts_of_readMetadata {plugin : String} {table : Option Metadata.Table}
    {metadata : List (String × MetaValue)} (h : readMetadata plugin table = .ok metadata) :
    ∀ entry ∈ metadata, ∀ text, entry.2 = .string text → '\x00' ∉ text.toList := by
  cases table with
  | none =>
      obtain rfl := Except.ok.inj h
      exact fun _ hentry => absurd hentry List.not_mem_nil
  | some table =>
      intro entry hentry
      obtain ⟨key, -, hread⟩ := exists_of_mem_right (forall₂_of_mapM h) hentry
      exact (readMetaEntry_eq_ok hread).2.2

end ValueList

end PluginKit
