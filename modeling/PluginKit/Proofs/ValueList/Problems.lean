import PluginKit.Proofs.ValueList.Received

/-!
# `PluginKit.Proofs.ValueList.Problems`: why a list cannot be decoded

A list comes with many texts and with numbers for the kinds of its values, and any of them can be
wrong. `problems` lists all that is wrong with a list, in the order in which its parts are read, and
knows nothing of when reading stops. Decoding looks for exactly these problems: the first of them is
the error, and without any the list decodes.

* `textProblems`, `sourceProblems`, `entryProblems`, `problems`: what is wrong, part by part.
* `Legible`, `problems_eq_nil_iff`: a list with which nothing is wrong.
* `ofRaw_blames`: decoding and the problems.
* `ofRaw_names_first_problem`: when decoding succeeds, with which values, and with which error it
  fails otherwise.
-/

set_option autoImplicit false

namespace PluginKit

/-- A number stands for at most one kind. -/
theorem Kind.ofCode?_eq_some_iff {code : Int} {k : Kind} :
    Kind.ofCode? code = some k ↔ code = k.code := by
  constructor
  · intro h
    unfold Kind.ofCode? at h
    split at h <;> cases h <;> rfl
  · rintro rfl
    exact Kind.ofCode?_code k

namespace ValueList

open Utf8 (IsText)

variable {abi : Abi}

/-! ### What is wrong with a part -/

/-- The problem of a text, if it has one. A text has one problem at most, at the first byte that
cannot be read. -/
def textProblems (plugin field : String) (bytes : List UInt8) : List ReceiveError :=
  match Utf8.decode bytes with
  | .ok _ => []
  | .error fault => [.text plugin field fault]

/-- The problems of a data source, first of its type, then of its name. -/
def sourceProblems (plugin : String) (source : DataSource abi) : List ReceiveError :=
  (if (Kind.ofCode? source.type).isSome then [] else [.dataSourceType plugin source.type]) ++
    textProblems plugin "data source name" source.name.content

/-- The problems of an annotation, first of its key, then of its text if it has one. What the store
keeps is a text already, so the second never comes up (`textProblems_encode`). -/
def entryProblems (plugin : String) (entry : Metadata.Bytes × MetaValue) : List ReceiveError :=
  textProblems plugin "metadata key" entry.1 ++
    match entry.2 with
    | .string text => textProblems plugin "metadata value" (Terminated.bytes (Utf8.encode text))
    | _ => []

/-- The sources of the values that count. A source without a value is never read, so it cannot be
wrong. -/
def usedSources (set : DataSet abi) (list : RawList abi) : List (DataSource abi) :=
  (elements set).take (declaredElements list.count list.values).length

/-- The annotations of a list, in the order of their table. -/
def annotations (list : RawList abi) : List (Metadata.Bytes × MetaValue) :=
  (list.metadata.map Metadata.Table.entries).getD []

/-- All that is wrong with a list of a plugin that has a name. -/
def namedProblems (plugin : String) (set : DataSet abi) (list : RawList abi) :
    List ReceiveError :=
  (usedSources set list).flatMap (sourceProblems plugin) ++
    textProblems plugin "plugin_instance" list.pluginInstance.content ++
    textProblems plugin "type" list.type.content ++
    textProblems plugin "type_instance" list.typeInstance.content ++
    textProblems plugin "host" list.host.content ++
    (annotations list).flatMap (entryProblems plugin)

/-- All that is wrong with a list, in the order in which it is read. Without the plugin's name there
is nobody to blame, and nothing else is read. -/
def problems (set : DataSet abi) (list : RawList abi) : List ReceiveError :=
  match list.plugin.decode with
  | .error fault => [.text "" "plugin name" fault]
  | .ok plugin => namedProblems plugin set list

/-! ### Lists with which nothing is wrong -/

/-- Every text is one, and every type is that of a kind. -/
structure Legible (set : DataSet abi) (list : RawList abi) : Prop where
  plugin : IsText list.plugin.content
  types : ∀ source ∈ usedSources set list, ∃ kind : Kind, source.type = kind.code
  names : ∀ source ∈ usedSources set list, IsText source.name.content
  pluginInstance : IsText list.pluginInstance.content
  type : IsText list.type.content
  typeInstance : IsText list.typeInstance.content
  host : IsText list.host.content
  keys : ∀ entry ∈ annotations list, IsText entry.1
  texts : ∀ entry ∈ annotations list, ∀ text, entry.2 = .string text →
    IsText (Terminated.bytes (Utf8.encode text))

/-- A text without a problem is one that decodes. -/
theorem textProblems_eq_nil_iff {plugin field : String} {bytes : List UInt8} :
    textProblems plugin field bytes = [] ↔ IsText bytes := by
  unfold textProblems
  cases hdecode : Utf8.decode bytes with
  | ok s => exact iff_of_true rfl ⟨s, Utf8.decode_eq_ok_iff.mp hdecode⟩
  | error fault =>
      refine iff_of_false (List.cons_ne_nil _ _) ?_
      rintro ⟨s, hs⟩
      rw [Utf8.decode_eq_ok_iff.mpr hs] at hdecode
      cases hdecode

/-- A source has no problem when a kind has its type and its name is a text. -/
theorem sourceProblems_eq_nil_iff {plugin : String} {source : DataSource abi} :
    sourceProblems plugin source = [] ↔
      (∃ kind : Kind, source.type = kind.code) ∧ IsText source.name.content := by
  unfold sourceProblems
  rw [List.append_eq_nil_iff, textProblems_eq_nil_iff]
  refine and_congr_left fun _ => ?_
  simp only [← Kind.ofCode?_eq_some_iff, ← Option.isSome_iff_exists]
  split <;> simp_all

/-- An annotation has none when its key is a text, and its value too if it is one. -/
theorem entryProblems_eq_nil_iff {plugin : String} {entry : Metadata.Bytes × MetaValue} :
    entryProblems plugin entry = [] ↔ IsText entry.1 ∧
      ∀ text, entry.2 = .string text → IsText (Terminated.bytes (Utf8.encode text)) := by
  obtain ⟨key, value⟩ := entry
  cases value <;> simp [entryProblems, textProblems_eq_nil_iff]

/-- The parts behind the plugin's name have no problems exactly when nothing is wrong with them. -/
theorem namedProblems_eq_nil_iff {plugin : String} {set : DataSet abi} {list : RawList abi}
    (hplugin : IsText list.plugin.content) :
    namedProblems plugin set list = [] ↔ Legible set list := by
  unfold namedProblems
  simp only [List.append_assoc, List.append_eq_nil_iff, List.flatMap_eq_nil_iff, textProblems_eq_nil_iff,
    sourceProblems_eq_nil_iff, entryProblems_eq_nil_iff]
  constructor
  · rintro ⟨hsources, hpluginInstance, htype, htypeInstance, hhost, hentries⟩
    exact ⟨hplugin, fun source h => (hsources source h).1, fun source h => (hsources source h).2,
      hpluginInstance, htype, htypeInstance, hhost, fun entry h => (hentries entry h).1,
      fun entry h => (hentries entry h).2⟩
  · intro h
    exact ⟨fun source hsource => ⟨h.types source hsource, h.names source hsource⟩,
      h.pluginInstance, h.type, h.typeInstance, h.host,
      fun entry hentry => ⟨h.keys entry hentry, h.texts entry hentry⟩⟩

/-- The lists without problems are those with which nothing is wrong. -/
theorem problems_eq_nil_iff {set : DataSet abi} {list : RawList abi} :
    problems set list = [] ↔ Legible set list := by
  unfold problems
  cases hplugin : list.plugin.decode with
  | ok plugin => exact namedProblems_eq_nil_iff ⟨plugin, Utf8.decode_eq_ok_iff.mp hplugin⟩
  | error fault =>
      refine iff_of_false (List.cons_ne_nil _ _) fun h => ?_
      obtain ⟨s, hs⟩ := h.plugin
      have hdecode : list.plugin.decode = .ok s := Utf8.decode_eq_ok_iff.mpr hs
      rw [hplugin] at hdecode
      cases hdecode

/-! ### Reading looks for these problems -/

/-- Reading a field blames the problem of its text. -/
theorem readField_blames (plugin field : String) (f : TextField abi.nameLength) :
    Blames (readField plugin field f) (textProblems plugin field f.content) := by
  unfold readField TextField.decode textProblems
  cases Utf8.decode f.content <;> exact rfl

/-- Reading a value looks at the type of its source before it looks at the name, and so do the
problems. -/
theorem readReport_blames (plugin : String) (bits : UInt64) (source : DataSource abi) :
    Blames (readReport plugin bits source) (sourceProblems plugin source) := by
  unfold readReport sourceProblems
  cases hkind : Kind.ofCode? source.type with
  | none => exact rfl
  | some kind =>
      rw [Option.isSome_some, if_pos rfl, List.nil_append, ← List.append_nil (textProblems _ _ _)]
      exact (readField_blames plugin _ source.name).bind fun _ _ => rfl

/-- A text that is kept as text has nothing wrong with it. -/
theorem textProblems_encode {text : String} (h : '\x00' ∉ text.toList) (plugin field : String) :
    textProblems plugin field (Terminated.bytes (Utf8.encode text)) = [] := by
  have hzero : 0 ∉ Utf8.encode text := fun hmem => h ((Utf8.zero_mem_encode text).mp hmem)
  have hwhole := Terminated.bytes_append_zeros hzero 0
  rw [List.replicate_zero, List.append_nil] at hwhole
  rw [textProblems_eq_nil_iff, hwhole]
  exact ⟨text, rfl⟩

/-- What is wrong with an annotation of a table that was filled is what reading finds wrong. Of such
a table the keys are different, so reading a key finds the entry that is looked at. -/
theorem readMetaEntry_blames (plugin : String) {table : Metadata.Table} (h : table.Filled)
    {entry : Metadata.Bytes × MetaValue} (hentry : entry ∈ table.entries) :
    Blames (readMetaEntry plugin table entry.1) (entryProblems plugin entry) := by
  obtain ⟨key, value⟩ := entry
  have hfind : table.find? key = some value :=
    (Metadata.lookup_eq_some_iff h.distinct).mpr hentry
  unfold readMetaEntry entryProblems
  refine Blames.bind ?_ fun name _ => ?_
  · unfold textProblems
    cases Utf8.decode key <;> exact rfl
  · -- the kind that the table names is the kind that is read
    rw [hfind]
    cases value with
    | string text =>
        have hzero := h.texts (key, .string text) hentry text rfl
        have hread : table.getString key = .ok text := by
          simp [Metadata.Table.getString, Metadata.Table.get, hfind, hzero]
        dsimp only
        rw [textProblems_encode hzero, hread]
        rfl
    | signed n =>
        simp only [Metadata.Table.getSigned, Metadata.Table.get, hfind]
        rfl
    | unsigned n =>
        simp only [Metadata.Table.getUnsigned, Metadata.Table.get, hfind]
        rfl
    | double x =>
        simp only [Metadata.Table.getDouble, Metadata.Table.get, hfind]
        rfl
    | boolean b =>
        simp only [Metadata.Table.getBoolean, Metadata.Table.get, hfind]
        rfl

/-- Reading goes through the keys in the order of the table, and stops at the first that is
wrong. -/
theorem readMetadata_blames (plugin : String) {list : RawList abi}
    (h : ∀ table, list.metadata = some table → table.Filled) :
    Blames (readMetadata plugin list.metadata)
      ((annotations list).flatMap (entryProblems plugin)) := by
  unfold annotations
  cases htable : list.metadata with
  | none => exact rfl
  | some table =>
      show Blames (table.keys.mapM (readMetaEntry plugin table)) _
      -- reading goes by the keys of the table, and each of them finds its own entry
      rw [Metadata.Table.keys, List.mapM_map]
      exact Blames.mapM fun entry hentry => readMetaEntry_blames plugin (h table htable) hentry

/-- The second parts of pairs are as many as there are first parts for. -/
theorem map_snd_zip_eq_take {α β : Type} (as : List α) (bs : List β) :
    (as.zip bs).map Prod.snd = bs.take as.length := by
  induction as generalizing bs with
  | nil => rfl
  | cons a as ih =>
      cases bs with
      | nil => rfl
      | cons b bs => rw [List.zip_cons_cons, List.map_cons, ih, List.length_cons, List.take_succ_cons]

/-- The sources that are looked for problems are those that are read. -/
theorem usedSources_eq (set : DataSet abi) (list : RawList abi) :
    usedSources set list = (pairs set list).map Prod.snd :=
  (map_snd_zip_eq_take _ _).symm

/-- Decoding looks for the problems of a list in their order. -/
theorem ofRaw_blames (set : DataSet abi) {list : RawList abi}
    (h : ∀ table, list.metadata = some table → table.Filled) :
    Blames (ofRaw set list) (problems set list) := by
  unfold ofRaw problems
  cases hplugin : list.plugin.decode with
  | error fault =>
      have hread : readField "" "plugin name" list.plugin
          = .error (.text "" "plugin name" fault) := by
        unfold readField
        rw [hplugin]
        rfl
      rw [hread]
      rfl
  | ok plugin =>
      dsimp only
      unfold namedProblems
      rw [readField_of_decode hplugin, usedSources_eq, List.flatMap_map]
      simp only [List.append_assoc]
      -- the rows of reading, part by part, against the problems in the same order
      refine (Blames.mapM fun p _ => readReport_blames plugin p.1 p.2).bind fun values _ => ?_
      refine (readField_blames plugin _ _).bind fun pluginInstance _ => ?_
      refine (readField_blames plugin _ _).bind fun type _ => ?_
      refine (readField_blames plugin _ _).bind fun typeInstance _ => ?_
      refine (readField_blames plugin _ _).bind fun host _ => ?_
      rw [← List.append_nil (List.flatMap _ _)]
      exact (readMetadata_blames plugin h).bind fun metadata _ => rfl

/-! ### What is read -/

/-- As many elements count as are declared, if there are so many. -/
theorem length_declaredElements {α : Type} (count : Int) (list : Option (List α)) :
    (declaredElements count list).length = min count.toNat (list.getD []).length :=
  List.length_take

/-- A report is its source's name and bounds, and the bits as the source's type says. -/
theorem readReport_eq_ok {plugin : String} {bits : UInt64} {source : DataSource abi} {r : Report}
    (h : readReport plugin bits source = .ok r) :
    Labels source r ∧ ∃ kind : Kind, source.type = kind.code ∧ r.value = kind.read bits := by
  unfold readReport at h
  cases hkind : Kind.ofCode? source.type with
  | none =>
      rw [hkind] at h
      cases h
  | some kind =>
      rw [hkind] at h
      obtain ⟨name, hname, h⟩ := bind_eq_ok.mp h
      obtain rfl := Except.ok.inj h
      exact ⟨⟨decode_of_readField hname, rfl, rfl⟩, kind, Kind.ofCode?_eq_some_iff.mp hkind, rfl⟩

/-- A decoded list has a report for every value that is described by a source. Too few sources are
no error: values without one are left out. -/
theorem length_values {set : DataSet abi} {list : RawList abi} {l : ValueList}
    (h : Decodes set list l) :
    l.values.length = min (min list.count.toNat (list.values.getD []).length)
      (min set.count.toNat (set.sources.getD []).length) := by
  rw [← h.values.length_eq, pairs, List.length_zip, elements, length_declaredElements,
    length_declaredElements]

/-- The report of a value is made by the source at the same place. -/
theorem report_at {set : DataSet abi} {list : RawList abi} {l : ValueList}
    (h : Decodes set list l) {i : Nat} {bits : UInt64} {source : DataSource abi}
    (hbits : (declaredElements list.count list.values)[i]? = some bits)
    (hsource : (declaredElements set.count set.sources)[i]? = some source) :
    ∃ (r : Report) (kind : Kind), l.values[i]? = some r ∧ source.type = kind.code ∧
      r.value = kind.read bits ∧ Labels source r := by
  have hpair : (pairs set list)[i]? = some (bits, source) :=
    List.getElem?_zip_eq_some.mpr ⟨hbits, hsource⟩
  obtain ⟨r, hr, hread⟩ := exists_getElem?_right h.values hpair
  obtain ⟨hlabels, kind, hkind, hvalue⟩ := readReport_eq_ok hread
  exact ⟨r, kind, hr, hkind, hvalue, hlabels⟩

/-- Decoding succeeds exactly with the lists with which nothing is wrong, and then it reads the values
that have a source, each as its source says. With any other list it fails, and the error is the first
of the list's problems. -/
theorem ofRaw_names_first_problem (set : DataSet abi) (list : RawList abi)
    (filled : ∀ table, list.metadata = some table →
      ∃ calls, table = Metadata.Table.fill calls) :
    ((∃ l, ofRaw set list = .ok l) ↔ Legible set list) ∧
    (∀ l : ValueList, ofRaw set list = .ok l →
      l.values.length = min (min list.count.toNat (list.values.getD []).length)
        (min set.count.toNat (set.sources.getD []).length) ∧
      ∀ (i : Nat) (bits : UInt64) (source : DataSource abi),
        (declaredElements list.count list.values)[i]? = some bits →
        (declaredElements set.count set.sources)[i]? = some source →
        ∃ (r : Report) (kind : Kind), l.values[i]? = some r ∧ source.type = kind.code ∧
          r.value = kind.read bits ∧ Labels source r) ∧
    ∀ e, ofRaw set list = .error e ↔ (problems set list).head? = some e := by
  -- Reading goes through `problems` in order and stops at the first; the rest reads that off.
  have hblames : Blames (ofRaw set list) (problems set list) := by
    refine ofRaw_blames set fun table htable => ?_
    obtain ⟨calls, rfl⟩ := filled table htable
    exact Metadata.Table.filled_fill calls
  refine ⟨hblames.ok_iff.trans problems_eq_nil_iff, fun l hl => ?_, hblames.error_iff⟩
  have hdecodes := ofRaw_eq_ok_iff.mp hl
  exact ⟨length_values hdecodes, fun _ _ _ => report_at hdecodes⟩

/-- A source of the interface of 5.7 with a name that need not be text. -/
def sourceOf (name : List UInt8) (type : Int) : DataSource .current :=
  ⟨TextField.ofBytes _ name, type, .zero, .zero⟩

/-- Three sources for two values: the name of the second is no text, and no kind has the type of the
third. -/
def muddled : DataSet .current where
  sources := some [sourceOf (Utf8.encode "rx") 2, sourceOf [0xFF] 2, sourceOf [] 9]
  count := 3

/-- A list with a host that is no text either, and with two annotations. -/
def garbled : RawList .current where
  values := some [7, 8]
  count := 2
  time := 0
  interval := 0
  host := TextField.ofBytes _ [0xC3]
  plugin := TextField.ofBytes _ (Utf8.encode "net")
  pluginInstance := TextField.ofBytes _ []
  type := TextField.ofBytes _ (Utf8.encode "if")
  typeInstance := TextField.ofBytes _ []
  metadata := some (.fill [.signed [0x61] 1, .text [0xFE, 0x00, 0x61] [0xFF]])

/-- The second source is to blame: the third describes nothing, and the host would come later. -/
theorem ofRaw_names_first_problem_muddled :
    garbled.metadata = some (.fill [.signed [0x61] 1, .text [0xFE, 0x00, 0x61] [0xFF]]) ∧
      ofRaw muddled garbled = .error (.text "net" "data source name" ⟨0, some 1⟩) ∧
      ¬ Legible muddled garbled := by
  have filled : ∀ table, garbled.metadata = some table →
      ∃ calls, table = Metadata.Table.fill calls :=
    fun table htable => ⟨_, (Option.some.inj htable).symm⟩
  obtain ⟨hok, -, herror⟩ := ofRaw_names_first_problem muddled garbled filled
  have hfails := (herror (.text "net" "data source name" ⟨0, some 1⟩)).mpr rfl
  refine ⟨rfl, hfails, fun hlegible => ?_⟩
  obtain ⟨l, hl⟩ := hok.mpr hlegible
  rw [hfails] at hl
  cases hl

end ValueList

end PluginKit
