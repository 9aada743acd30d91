import PluginKit.Proofs.ValueList.RoundTrip

/-!
# `PluginKit.Proofs.ValueList.Relay`: handing a list on

A plugin that is given a list may report it again. Reading loses what stands behind a text, the
values that no source describes, the difference between no instance and an empty one, and the part of
a tick that no nanosecond can say. `relayed` is the list without them. Reporting what was read
dispatches exactly that (`delivers_again`), so a second relay finds nothing more to lose.

* `ValueList.again`: the report that says what a list said.
* `RawList.Proper`: what every list that the daemon hands out satisfies.
* `relayed`, `toRaw_again`, `delivers_again`, `decodes_relayed`: the list that comes out, and what it
  decodes to.
* `Relays`, `Unchanged`, `relays_then_unchanged`: what one relay and what a second one comes to.
-/

set_option autoImplicit false

namespace PluginKit

variable {abi : Abi}

/-! ### Reporting again -/

namespace ValueList

/-- The calls that report what was read. -/
def settings (l : ValueList) : List Submission.Setting :=
  [.values (l.values.map Report.value), .host l.host, .time l.time, .interval l.interval] ++
    (l.pluginInstance.map .pluginInstance).toList ++
    (l.typeInstance.map .typeInstance).toList ++
    l.metadata.map fun entry => .metadata entry.1 entry.2

/-- The report that those calls build. -/
def again (l : ValueList) : Submission := .build l.plugin l.type l.settings

/-- Calls that annotate change the annotations only. There are many of them in a row, hence the
induction. -/
theorem foldl_set_metadata (entries : List (String × MetaValue)) (s : Submission) :
    (entries.map fun entry => Submission.Setting.metadata entry.1 entry.2).foldl Submission.set s
      = { s with
          metadata := entries.foldl (fun es e => Metadata.put e.1 e.2 es) s.metadata } := by
  induction entries generalizing s with
  | nil => rfl
  | cons entry rest ih =>
      rw [List.map_cons, List.foldl_cons, List.foldl_cons, ih]
      rfl

/-- Every part of the list is in the report. The keys of a list that was read are different, so no
annotation covers another. -/
theorem again_eq {l : ValueList} (hkeys : (l.metadata.map Prod.fst).Nodup) :
    l.again = {
      plugin := l.plugin
      type := l.type
      values := l.values.map Report.value
      pluginInstance := l.pluginInstance
      typeInstance := l.typeInstance
      host := some l.host
      time := some l.time
      interval := some l.interval
      metadata := l.metadata } := by
  have hput := Metadata.foldl_put Prod.fst Prod.snd l.metadata [] hkeys
  rw [List.nil_append] at hput
  unfold again settings Submission.build
  -- all other calls come first, and no part but the annotations is set twice
  rw [List.foldl_append, foldl_set_metadata]
  cases l.pluginInstance <;> cases l.typeInstance <;>
    exact congrArg (Submission.mk _ _ _ _ _ _ _ _) (hput.trans (List.map_id _))

end ValueList

/-- Submitting succeeds, and the daemon gets one list. -/
structure Submission.Delivers (s : Submission) (order : List (String × MetaValue))
    (d : Daemon abi) (out : RawList abi) : Prop where
  answer : (s.submitInOrder order d).1 = .ok ()
  dispatched : (s.submitInOrder order d).2.dispatched = d.dispatched ++ [out]

/-! ### What is handed out -/

namespace RawList

/-- The five texts of a list. -/
def texts : List (RawList abi → TextField abi.nameLength) :=
  [plugin, pluginInstance, type, typeInstance, host]

/-- Every text ends inside its field, the number of values is one that the daemon can declare, and the
annotations are a table that was filled from nothing. -/
structure Proper (list : RawList abi) : Prop where
  terminated : ∀ text ∈ texts, 0 ∈ (text list).bytes
  count : list.count ≤ abi.maxCount
  metadata : ∀ table ∈ list.metadata, table.Keyed

/-- The annotation under a key. -/
def annotation? (list : RawList abi) (key : Metadata.Bytes) : Option MetaValue :=
  list.metadata.bind (·.find? key)

end RawList

namespace ValueList

open Submission (tableOf toTable)

/-- The values that a source describes. -/
def described (set : DataSet abi) (list : RawList abi) : List UInt64 :=
  (declaredElements list.count list.values).take (elements set).length

/-- The list without what reading loses, and with another table. -/
def relayed (set : DataSet abi) (list : RawList abi) (table : Option Metadata.Table) :
    RawList abi where
  values := some (described set list)
  count := (described set list).length
  time := Ticks.rounded list.time
  interval := Ticks.rounded list.interval
  host := list.host.cleared
  plugin := list.plugin.cleared
  pluginInstance := list.pluginInstance.cleared
  type := list.type.cleared
  typeInstance := list.typeInstance.cleared
  metadata := table

/-- The values that a source describes are still all described in the list that comes out, and it
has no others. -/
theorem described_relayed (set : DataSet abi) (list : RawList abi)
    (table : Option Metadata.Table) :
    described set (relayed set list table) = described set list := by
  have hall : declaredElements (relayed set list table).count (relayed set list table).values
      = described set list := List.take_of_length_le (by simp [relayed])
  have htake : (described set list).length ≤ (elements set).length := List.length_take_le _ _
  show List.take _ (declaredElements _ _) = _
  rw [hall, List.take_of_length_le htake]

/-- There is nothing more to lose. It is this equation that makes a second relay change nothing. -/
theorem relayed_relayed (set : DataSet abi) (list : RawList abi)
    (table other : Option Metadata.Table) :
    relayed set (relayed set list table) other = relayed set list other := by
  have hdescribed := described_relayed set list table
  unfold relayed at hdescribed ⊢
  simp only [hdescribed, TextField.cleared_cleared, Ticks.rounded_rounded]

/-! ### Annotations on the way -/

/-- What a table holds, if there is one. -/
def held (table : Option Metadata.Table) : List (Metadata.Bytes × MetaValue) :=
  (table.map Metadata.Table.entries).getD []

/-- What a proper list holds is a table that was filled from nothing, be it an empty one. -/
theorem keyed_held {table : Option Metadata.Table} (h : ∀ t ∈ table, t.Keyed) :
    (⟨held table⟩ : Metadata.Table).Keyed := by
  cases table with
  | none => exact Metadata.Table.keyed_empty
  | some t => exact h t rfl

/-- A list without a table has no annotation under any key, as if the table were empty. -/
theorem annotation?_eq_lookup (list : RawList abi) (key : Metadata.Bytes) :
    list.annotation? key = (held list.metadata).lookup key := by
  unfold RawList.annotation?
  cases list.metadata <;> rfl

/-- What was read is what the table holds, entry by entry and in order. -/
theorem held_of_readMetadata {plugin : String} {table : Option Metadata.Table}
    {metadata : List (String × MetaValue)} (hkeyed : ∀ t ∈ table, t.Keyed)
    (h : readMetadata plugin table = .ok metadata) :
    held table = metadata.map fun e => (Utf8.encode e.1, e.2) := by
  cases table with
  | none =>
      obtain rfl := Except.ok.inj h
      rfl
  | some t => exact entries_of_readMetadata (hkeyed t rfl).distinct h

/-- A table that is built from different keys holds them in the order in which they were added. -/
theorem held_tableOf {order : List (String × MetaValue)} (h : (order.map Prod.fst).Nodup) :
    held (tableOf order) = order.map fun e => (Utf8.encode e.1, e.2) := by
  cases order with
  | nil => rfl
  | cons first rest => exact entries_toTable h

/-- Adding keys without zero bytes to a table keeps it one that could have been filled from
nothing. -/
theorem keyed_toTable {order : List (String × MetaValue)}
    (hzero : ∀ entry ∈ order, '\x00' ∉ entry.1.toList) {t : Metadata.Table} (h : t.Keyed) :
    (toTable order t).Keyed := by
  induction order generalizing t with
  | nil => exact h
  | cons entry rest ih =>
      have hkey : 0 ∉ Utf8.encode entry.1 := fun hmem =>
        hzero entry List.mem_cons_self ((Utf8.zero_mem_encode _).mp hmem)
      exact ih (fun e he => hzero e (List.mem_cons_of_mem _ he)) (h.add hkey entry.2)

/-! ### One relay -/

section
variable {set : DataSet abi} {list : RawList abi} {l : ValueList}

/-- The values that are paired with a source are those that a source describes. -/
theorem map_fst_pairs (set : DataSet abi) (list : RawList abi) :
    (pairs set list).map Prod.fst = described set list := by
  unfold pairs
  rw [← zip_take_length]
  exact List.map_fst_zip (List.length_take_le _ _)

/-- The list that comes out pairs the same values with the same sources. -/
theorem pairs_relayed (set : DataSet abi) (list : RawList abi) (table : Option Metadata.Table) :
    pairs set (relayed set list table) = pairs set list := by
  have hdescribed := described_relayed set list table
  unfold described at hdescribed
  unfold pairs
  rw [← zip_take_length, hdescribed, zip_take_length]

/-- Every annotation that was read has a key of its own: keys that differ in bytes differ as
texts. -/
theorem nodup_metadata (proper : list.Proper) (h : Decodes set list l) :
    (l.metadata.map Prod.fst).Nodup := by
  have hkeys : ((held list.metadata).map Prod.fst).Nodup := (keyed_held proper.metadata).distinct
  rw [held_of_readMetadata proper.metadata h.metadata, List.map_map] at hkeys
  exact List.Nodup.of_map Utf8.encode (by rwa [List.map_map])

/-- No key that was read has a zero character, so submission takes all of them. -/
theorem keys_zeroFree (proper : list.Proper) (h : Decodes set list l) :
    ∀ entry ∈ l.metadata, '\x00' ∉ entry.1.toList := by
  intro entry hentry hzero
  have hmem : (Utf8.encode entry.1, entry.2) ∈ held list.metadata := by
    rw [held_of_readMetadata proper.metadata h.metadata]
    exact List.mem_map.mpr ⟨entry, hentry, rfl⟩
  have hkey : 0 ∉ Utf8.encode entry.1 :=
    (keyed_held proper.metadata).zeroFree _ (List.mem_map_of_mem hmem)
  exact hkey ((Utf8.zero_mem_encode _).mpr hzero)

/-- A text that ends inside its field fits that field again. -/
theorem fits_of_decode {n : Nat} {f : TextField n} {s : String} (hzero : 0 ∈ f.bytes)
    (h : f.decode = .ok s) : Fits n s := by
  have hbytes := TextField.encode_of_decode h
  refine ⟨?_, fun hmem => ?_⟩
  · rw [hbytes]
    exact TextField.length_content_lt hzero
  · rw [← Utf8.zero_mem_encode, hbytes] at hmem
    exact Terminated.zero_notMem _ hmem

/-- An instance that is one is the text of its field. -/
theorem nonEmptyText_eq_some {text s : String} (h : nonEmptyText text = some s) : text = s := by
  unfold nonEmptyText at h
  split at h
  · cases h
  · exact Option.some.inj h

/-- An empty instance is written as an empty field, which is what it was read from. -/
theorem getD_nonEmptyText (text : String) : (nonEmptyText text).getD "" = text := by
  unfold nonEmptyText
  split
  · rename_i hempty
    exact (String.isEmpty_iff.mp hempty).symm
  · rfl

/-- What was read can be dispatched. Each bound that submission checks is met because the list came
through a field, a count or a table of the same daemon. -/
theorem acceptable_again (proper : list.Proper) (h : Decodes set list l) :
    l.again.Acceptable abi := by
  obtain ⟨pluginInstance, hpluginInstance, hfirst⟩ := h.pluginInstance
  obtain ⟨typeInstance, htypeInstance, hsecond⟩ := h.typeInstance
  have hends := proper.terminated
  simp only [RawList.texts, List.forall_mem_cons] at hends
  obtain ⟨hplugin, hpluginEnd, htype, htypeEnd, hhost, -⟩ := hends
  rw [again_eq (nodup_metadata proper h)]
  constructor
  case pluginInstance =>
    intro text htext
    rw [← nonEmptyText_eq_some (hfirst.symm.trans htext)]
    exact fits_of_decode hpluginEnd hpluginInstance
  case typeInstance =>
    intro text htext
    rw [← nonEmptyText_eq_some (hsecond.symm.trans htext)]
    exact fits_of_decode htypeEnd htypeInstance
  case plugin => exact fits_of_decode hplugin h.plugin
  case type => exact fits_of_decode htype h.type
  case host =>
    intro text htext
    rw [← Option.some.inj htext]
    exact fits_of_decode hhost h.host
  case count =>
    -- every value that was read is one of the declared ones
    have hlength : l.values.length ≤ list.count.toNat := by
      rw [← h.values.length_eq, ← List.length_map Prod.fst, map_fst_pairs]
      unfold described declaredElements
      simp only [List.length_take]
      omega
    have hcount := proper.count
    rw [List.length_map]
    omega
  case keys => exact keys_zeroFree proper h
  case texts => exact texts_of_readMetadata h.metadata

/-- The values of the reports are the 64 bits that were read. -/
theorem bits_values (h : Decodes set list l) :
    (l.values.map Report.value).map Value.bits = described set list := by
  rw [← map_fst_pairs, List.map_map, ← List.forall₂_eq_eq_eq, List.forall₂_map_left_iff,
    List.forall₂_map_right_iff]
  exact h.values.flip.imp fun _ _ hread => bits_readReport hread

/-- The raw form of what was read is the list that was read, without what reading loses. -/
theorem toRaw_again (proper : list.Proper) (h : Decodes set list l)
    (table : Option Metadata.Table) : l.again.toRaw abi table = relayed set list table := by
  obtain ⟨pluginInstance, hpluginInstance, hfirst⟩ := h.pluginInstance
  obtain ⟨typeInstance, htypeInstance, hsecond⟩ := h.typeInstance
  have hlength := congrArg List.length (bits_values h)
  rw [List.length_map] at hlength
  rw [again_eq (nodup_metadata proper h)]
  -- part by part: values keep their bits, times are rounded, texts have the bytes of their fields
  unfold Submission.toRaw relayed
  dsimp only [Option.map_some, Option.getD_some]
  rw [bits_values h, hlength, h.time, h.interval, Ticks.ofInstant_toInstant,
    Ticks.ofDuration_toDuration, hfirst, hsecond, getD_nonEmptyText, getD_nonEmptyText,
    TextField.encode_of_decode h.plugin, TextField.encode_of_decode hpluginInstance,
    TextField.encode_of_decode h.type, TextField.encode_of_decode htypeInstance,
    TextField.encode_of_decode h.host]
  rfl

/-- What was read is dispatched as `relayed`. -/
theorem delivers_again (proper : list.Proper) (h : Decodes set list l) {d : Daemon abi}
    (status : d.dispatchStatus = 0) {order : List (String × MetaValue)}
    (perm : order.Perm l.again.metadata) :
    l.again.Delivers order d (relayed set list (tableOf order)) := by
  obtain ⟨store, -, heq⟩ := Submission.submitInOrder_eq order l.again d
  -- no check fails, so the daemon is called
  rw [(Submission.problems_eq_nil_iff perm).mpr (acceptable_again proper h)] at heq
  constructor
  case answer =>
    rw [heq]
    exact if_pos status
  case dispatched => rw [heq, ← toRaw_again proper h]

/-- A relayed list is proper again. -/
theorem proper_relayed (proper : list.Proper) (h : Decodes set list l)
    {order : List (String × MetaValue)} (perm : order.Perm l.metadata) :
    (relayed set list (tableOf order)).Proper := by
  constructor
  case terminated =>
    have hends := proper.terminated
    simp only [RawList.texts, List.forall_mem_cons] at hends ⊢
    obtain ⟨hplugin, hpluginInstance, htype, htypeInstance, hhost, hnone⟩ := hends
    exact ⟨TextField.zero_mem_cleared hplugin, TextField.zero_mem_cleared hpluginInstance,
      TextField.zero_mem_cleared htype, TextField.zero_mem_cleared htypeInstance,
      TextField.zero_mem_cleared hhost, fun _ hmem => absurd hmem List.not_mem_nil⟩
  -- A relay sends what it has decoded, so the bound is the one that the submission has checked.
  case count =>
    have hcount := (acceptable_again proper h).count
    have hlength := congrArg List.length (bits_values h)
    rw [again_eq (nodup_metadata proper h)] at hcount
    rw [List.length_map] at hlength
    show ((described set list).length : Int) ≤ abi.maxCount
    rw [← hlength]
    exact Int.ofNat_le.mpr hcount
  case metadata =>
    intro table htable
    have hzero : ∀ entry ∈ order, '\x00' ∉ entry.1.toList := fun entry hentry =>
      keys_zeroFree proper h entry (perm.mem_iff.mp hentry)
    cases order with
    | nil => cases htable
    | cons first rest =>
        rw [← Option.some.inj htable]
        exact keyed_toTable hzero Metadata.Table.keyed_empty

/-- A relayed list reads like the list itself. -/
theorem decodes_relayed (proper : list.Proper) (h : Decodes set list l)
    {order : List (String × MetaValue)} (perm : order.Perm l.metadata) :
    Decodes set (relayed set list (tableOf order))
      { l with metadata := order, declared := (described set list).length } where
  plugin := (TextField.decode_cleared _).trans h.plugin
  values := by
    rw [pairs_relayed]
    exact h.values
  pluginInstance := by
    obtain ⟨text, htext, hinstance⟩ := h.pluginInstance
    exact ⟨text, (TextField.decode_cleared _).trans htext, hinstance⟩
  type := (TextField.decode_cleared _).trans h.type
  typeInstance := by
    obtain ⟨text, htext, hinstance⟩ := h.typeInstance
    exact ⟨text, (TextField.decode_cleared _).trans htext, hinstance⟩
  host := (TextField.decode_cleared _).trans h.host
  metadata :=
    readMetadata_tableOf ((perm.map Prod.fst).nodup_iff.mpr (nodup_metadata proper h))
      (fun entry hentry => texts_of_readMetadata h.metadata entry (perm.mem_iff.mp hentry)) _
  -- Ticks are rounded by the first relay, but to ticks of the same nanoseconds.
  time := by
    rw [h.time]
    show Ticks.toInstant list.time = Ticks.toInstant (Ticks.rounded list.time)
    unfold Ticks.toInstant
    rw [Ticks.toNanos_rounded]
  interval := by
    rw [h.interval]
    show Ticks.toDuration list.interval = Ticks.toDuration (Ticks.rounded list.interval)
    unfold Ticks.toDuration
    rw [Ticks.toNanos_rounded]
  declared := rfl

/-- What a reader finds in the annotations of a relayed list. The order in which they were added is
not to be seen. -/
theorem annotation?_relayed (proper : list.Proper) (h : Decodes set list l)
    {order : List (String × MetaValue)} (perm : order.Perm l.metadata) (key : Metadata.Bytes) :
    (relayed set list (tableOf order)).annotation? key = list.annotation? key := by
  have hkeys := (perm.map Prod.fst).nodup_iff.mpr (nodup_metadata proper h)
  rw [annotation?_eq_lookup, annotation?_eq_lookup,
    held_of_readMetadata proper.metadata h.metadata]
  show (held (tableOf order)).lookup key = _
  rw [held_tableOf hkeys]
  apply Metadata.lookup_eq_of_perm (perm.map _)
  rw [List.map_map]
  exact nodup_encode_keys hkeys

end

/-! ### Two relays -/

/-- What a receiver of the relayed list can rely on. -/
structure Relays (set : DataSet abi) (list out : RawList abi) : Prop where
  /-- The texts up to their first zero byte, and zero bytes from there on. -/
  texts : ∀ text ∈ RawList.texts, (text out).bytes
    = (text list).content ++ List.replicate (abi.nameLength - (text list).content.length) 0
  /-- Values bit for bit, as many as are declared on both sides. -/
  values : out.values
    = some ((list.values.getD []).take (min list.count.toNat (elements set).length))
  count : out.count = (out.values.getD []).length
  /-- The lists behind the pointers may be shorter than declared. When they are not, what is declared
  counts. -/
  declared : list.count.toNat ≤ (list.values.getD []).length →
    set.count.toNat ≤ (set.sources.getD []).length →
    out.count = (min list.count.toNat set.count.toNat : Nat)
  annotations : ∀ key, out.annotation? key = list.annotation? key
  time : Ticks.Near out.time list.time
  interval : Ticks.Near out.interval list.interval

/-- The same list, with annotations that no reader can tell apart. -/
structure Unchanged (list out : RawList abi) : Prop where
  same : out = { list with metadata := out.metadata }
  annotations : ∀ key, out.annotation? key = list.annotation? key

/-- The relayed list is what a receiver can rely on, clause by clause. -/
theorem relays_relayed {set : DataSet abi} {list : RawList abi} {l : ValueList}
    (proper : list.Proper) (h : Decodes set list l) {order : List (String × MetaValue)}
    (perm : order.Perm l.metadata) : Relays set list (relayed set list (tableOf order)) := by
  constructor
  case texts =>
    intro text htext
    simp only [RawList.texts, List.mem_cons, List.not_mem_nil, or_false] at htext
    rcases htext with rfl | rfl | rfl | rfl | rfl <;> exact TextField.bytes_cleared _
  case values =>
    show some (List.take _ (List.take _ _)) = _
    rw [List.take_take, Nat.min_comm]
  case count => rfl
  case declared =>
    intro hvalues hsources
    show ((List.take _ (List.take _ _)).length : Int) = _
    unfold elements declaredElements
    simp only [List.length_take]
    omega
  case annotations => exact annotation?_relayed proper h perm
  case time => exact Ticks.rounded_near _
  case interval => exact Ticks.rounded_near _

/-- A list that was read can be handed on: with its texts, the values that have a source, its
annotations and, to a tick, its times. The list that comes out can be read and handed on in turn,
without any change. Neither the order in which annotations are looked at nor what the daemon holds
already makes a difference. -/
theorem relays_then_unchanged {set : DataSet abi} {list : RawList abi} {l : ValueList} (proper : list.Proper)
    (read : ofRaw set list = .ok l) {d : Daemon abi} (status : d.dispatchStatus = 0)
    {order : List (String × MetaValue)} (perm : order.Perm l.again.metadata) :
    ∃ out, l.again.Delivers order d out ∧ Relays set list out ∧
      ∃ l', ofRaw set out = .ok l' ∧
        ∀ (d' : Daemon abi) (order' : List (String × MetaValue)), d'.dispatchStatus = 0 →
          order'.Perm l'.again.metadata →
          ∃ out', l'.again.Delivers order' d' out' ∧ Unchanged out out' := by
  have h := ofRaw_eq_ok_iff.mp read
  have hperm : order.Perm l.metadata := by
    rw [again_eq (nodup_metadata proper h)] at perm
    exact perm
  have hproper := proper_relayed proper h hperm
  have hsecond := decodes_relayed proper h hperm
  refine ⟨_, delivers_again proper h status perm, relays_relayed proper h hperm, _,
    ofRaw_eq_ok_iff.mpr hsecond, fun d' order' status' perm' => ?_⟩
  refine ⟨_, delivers_again hproper hsecond status' perm', ?_, ?_⟩
  · -- what a first relay loses, a second one does not find
    rw [relayed_relayed]
    rfl
  · rw [again_eq (nodup_metadata hproper hsecond)] at perm'
    exact annotation?_relayed hproper hsecond perm'

/-- A list with bytes behind two texts, no instances, more values than sources, and times that no
nanosecond can say. -/
def spooled : RawList .legacy where
  values := some [7, 0x3FF8000000000000, 9]
  count := 3
  time := 1546000000000000007
  interval := 7
  host := TextField.ofBytes _ [110, 49, 0, 120, 255]
  plugin := TextField.ofBytes _ [100, 102, 0, 1]
  pluginInstance := TextField.ofBytes _ []
  type := TextField.ofBytes _ [195, 169]
  typeInstance := TextField.ofBytes _ [0, 102]
  metadata := some ⟨[([], .boolean true), ([195, 169, 32], .string "é")]⟩

/-- Sources for the first two values; a third one is not declared. -/
def spooledSet : DataSet .legacy where
  sources := some
    [⟨TextField.ofBytes _ [117], 0, Double.zero, Double.zero⟩,
      ⟨TextField.ofBytes _ [118], 1, Double.zero, Double.zero⟩,
      ⟨TextField.ofBytes _ [119], 9, Double.zero, Double.zero⟩]
  count := 2

/-- What `spooled` reads as. -/
def spooledRead : ValueList where
  values := [⟨"u", .counter 7, Double.zero, Double.zero⟩,
    ⟨"v", .gauge ⟨0x3FF8000000000000⟩, Double.zero, Double.zero⟩]
  plugin := "df"
  pluginInstance := none
  type := "é"
  typeInstance := none
  host := "n1"
  time := Ticks.toInstant 1546000000000000007
  interval := Ticks.toDuration 7
  metadata := [("", .boolean true), ("é ", .string "é")]
  declared := 3

/-- The list of the example is one that a daemon could hand out. -/
theorem proper_spooled : spooled.Proper := by
  constructor
  case terminated =>
    simp only [RawList.texts, List.forall_mem_cons]
    refine ⟨?_, ?_, ?_, ?_, ?_, fun _ hmem => absurd hmem List.not_mem_nil⟩ <;>
      exact TextField.zero_mem_ofBytes (by decide)
  case count => decide
  case metadata =>
    intro table htable
    rw [← Option.some.inj htable]
    exact ⟨by decide, by decide⟩

/-- The annotations are looked at from the end. -/
theorem relays_then_unchanged_spooled :
    ∃ out, spooledRead.again.Delivers spooledRead.metadata.reverse Daemon.initial out ∧
      Relays spooledSet spooled out ∧
      ∃ l', ofRaw spooledSet out = .ok l' ∧
        ∀ (d' : Daemon .legacy) (order' : List (String × MetaValue)), d'.dispatchStatus = 0 →
          order'.Perm l'.again.metadata →
          ∃ out', l'.again.Delivers order' d' out' ∧ Unchanged out out' :=
  relays_then_unchanged (d := Daemon.initial) proper_spooled (by rfl) rfl
    (List.reverse_perm spooledRead.metadata)

end ValueList

end PluginKit
