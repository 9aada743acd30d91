import PluginKit.Graphite.Plugin
import PluginKit.Load
import PluginKit.Proofs.Config.Gather
import PluginKit.Proofs.Config.Record

/-!
# `PluginKit.Proofs.Config.Rearranged`: only what is listed under each key counts

The same configuration can be written in many ways: keys in another order, the values of a key on one
line or on several. Decoding may meet another error first, but it succeeds on all of them or on none,
and with one result.

Two entries are the same for decoding if no schema tells them apart (`Entry.Same`). What a key lists
is compared entry by entry, so two blocks whose keys list the same are the same again
(`agree_block`), at any depth. Rearranging lines changes nothing that a key lists.

* `Agree`: the same result, or none.
* `Schema.orderFree`: schemas that do not show the order of keys.
* `Entry.Same`, `agree_listed`: what is listed under a key.
* `Alike`, `agree_block`: blocks.
* `Rearranged`, `decodeItems_rearranged`: lines.
-/

set_option autoImplicit false

namespace PluginKit

namespace Config

/-! ### Two runs -/

/-- The same result, or no result. The errors may differ: with its keys in another order a block is
read in another order, and the first thing that is wrong with it need not be the same. -/
def Agree {α : Type} (x y : Except DecodeError α) : Prop := ∀ a, x = .ok a ↔ y = .ok a

namespace Agree

variable {α β : Type} {x y z : Except DecodeError α}

/-- A run agrees with itself. Decoding that does not look at what was rearranged is closed by this. -/
theorem refl (x : Except DecodeError α) : Agree x x := fun _ => Iff.rfl

/-- Schemas that refuse a block whatever is in it give equal results, and equal results agree. -/
theorem of_eq (h : x = y) : Agree x y := h ▸ refl x

/-- Agreement goes both ways and in chains, as `Rearranged` does. -/
theorem symm (h : Agree x y) : Agree y x := fun a => (h a).symm

theorem trans (h : Agree x y) (h' : Agree y z) : Agree x z := fun a => (h a).trans (h' a)

/-- Two failures agree, whatever the errors say. This is what sets `Agree` apart from equality. -/
theorem errors (e e' : DecodeError) : Agree (.error e : Except DecodeError α) (.error e') :=
  fun _ => ⟨nofun, nofun⟩

/-- Runs in two steps that agree step by step. A record decodes one key after another and a tuple
one member after another, so their agreement is put together from this. -/
theorem bind {f g : α → Except DecodeError β} (h : Agree x y) (hnext : ∀ a, Agree (f a) (g a)) :
    Agree (x >>= f) (y >>= g) := by
  intro b
  rw [bind_eq_ok, bind_eq_ok]
  constructor
  · rintro ⟨a, hx, hf⟩
    exact ⟨a, (h a).mp hx, (hnext a b).mp hf⟩
  · rintro ⟨a, hy, hg⟩
    exact ⟨a, (h a).mpr hy, (hnext a b).mpr hg⟩

/-- The same is made of results that agree: an option, a list or a record wraps what is in it. -/
theorem map (h : Agree x y) (f : α → β) : Agree (f <$> x) (f <$> y) := by
  cases x with
  | error e =>
      cases y with
      | error e' => exact errors e e'
      | ok b => exact absurd ((h b).mpr rfl) nofun
  | ok a =>
      rw [(h a).mp rfl]
      exact refl _

/-- Walks over lists whose elements agree in pairs. A list decodes its entries in their order, and
the order of entries under one key is never rearranged. -/
theorem mapM {f : α → Except DecodeError β} {as bs : List α}
    (h : List.Forall₂ (fun a b => Agree (f a) (f b)) as bs) : Agree (as.mapM f) (bs.mapM f) := by
  induction h with
  | nil => exact refl _
  | cons hfirst _ ih =>
      rw [List.mapM_cons, List.mapM_cons]
      exact hfirst.bind fun b => ih.bind fun _ => refl _

/-- Two runs that agree end alike. The main statement is given in this form, which says openly that
the errors may differ. -/
theorem cases (h : Agree x y) :
    (∃ a, x = .ok a ∧ y = .ok a) ∨ ∃ e e', x = .error e ∧ y = .error e' := by
  cases hx : x with
  | ok a => exact .inl ⟨a, rfl, (h a).mp hx⟩
  | error e =>
      cases hy : y with
      | ok b => exact absurd (hx.symm.trans ((h b).mpr hy)) nofun
      | error e' => exact .inr ⟨e, e', rfl, rfl⟩

end Agree

/-! ### Schemas -/

mutual

/-- Whether a schema keeps the order of keys to itself. A map and a tree without a description list
the keys as they came, and are the only ones that do. -/
def Schema.orderFree : Schema → Bool
  | .any | .map _ => false
  | .option inner | .list inner | .wrapped inner => inner.orderFree
  | .tuple members | .namedTuple _ members => members.orderFree
  | .record _ _ fields => fields.orderFree
  | _ => true

/-- Whether all schemas of fields do. -/
def Fields.orderFree : Fields → Bool
  | .nil => true
  | .cons _ _ _ _ schema rest => schema.orderFree && rest.orderFree

end

/-- Entries that no schema tells apart, among those that do not show the order of keys. Quantifying
over schemas here spares a relation on blocks that would have to follow their nesting. -/
def Entry.Same (e e' : Entry) : Prop :=
  ∀ schema : Schema, schema.orderFree = true →
    Agree (schema.decode (.entry e)) (schema.decode (.entry e'))

namespace Entry.Same

/-! No schema tells an entry from itself; and what holds for one schema after the other holds for all
of them, so being the same is an equivalence because agreement is one. -/

theorem refl (e : Entry) : Same e e := fun _ _ => .refl _

theorem symm {e e' : Entry} (h : Same e e') : Same e' e := fun schema free =>
  (h schema free).symm

theorem trans {e e' e'' : Entry} (h : Same e e') (h' : Same e' e'') : Same e e'' :=
  fun schema free => (h schema free).trans (h' schema free)

end Entry.Same

/-- Entries that are the same in pairs, and as many on both sides. The order of entries under one
key is kept by every arrangement. -/
abbrev SameAll : List Entry → List Entry → Prop := List.Forall₂ Entry.Same

namespace SameAll

theorem refl (es : List Entry) : SameAll es es := List.forall₂_same.mpr fun e _ => .refl e

theorem symm {es es' : List Entry} (h : SameAll es es') : SameAll es' es :=
  h.flip.imp fun _ _ hsame => Entry.Same.symm hsame

theorem trans {es es' es'' : List Entry} (h : SameAll es es') (h' : SameAll es' es'') :
    SameAll es es'' := by
  induction h generalizing es'' with
  | nil => exact h'
  | cons hfirst _ ih =>
      cases h' with
      | cons hsecond hrest => exact .cons (Entry.Same.trans hfirst hsecond) (ih hrest)

end SameAll

/-- A schema for one entry takes what is listed under a key if it is one entry, and as that entry.
Most schemas are such, and need not be looked at one by one. -/
structure Schema.TakesOne (schema : Schema) : Prop where
  one : ∀ e, schema.decode (.listed [e]) = schema.decode (.entry e)
  none : ∃ err, schema.decode (.listed []) = .error err
  several : ∀ e e' es, ∃ err, schema.decode (.listed (e :: e' :: es)) = .error err

/-- Schemas for one entry agree on the same entry, and refuse none and several alike. -/
theorem Schema.TakesOne.agree {schema : Schema} (h : schema.TakesOne)
    (free : schema.orderFree = true) {es es' : List Entry} (same : SameAll es es') :
    Agree (schema.decode (.listed es)) (schema.decode (.listed es')) := by
  cases same with
  | nil => exact .refl _
  | cons hfirst hrest =>
      cases hrest with
      | nil =>
          rw [h.one, h.one]
          exact hfirst schema free
      | cons _ _ =>
          -- neither side is one entry, whatever stands behind the second
          obtain ⟨err, herr⟩ := h.several _ _ _
          obtain ⟨err', herr'⟩ := h.several _ _ _
          rw [herr, herr']
          exact .errors err err'

/-- Bytes are the one scalar that does not go through `Source.scalar`: a text is its own bytes, and
two entries are refused as a list. -/
theorem takesOne_bytes (expecting : String) : (Schema.bytes expecting).TakesOne := by
  refine ⟨fun e => ?_, ⟨_, rfl⟩, fun e _ _ => ?_⟩
  · cases e <;> rfl
  · cases e <;> exact ⟨_, rfl⟩

/-- A record reads the keys of one block. How the block comes to it, as an entry or as all that is
listed, makes no difference. -/
theorem takesOne_record (name : String) (strict : Bool) (fields : Fields) :
    (Schema.record name strict fields).TakesOne := by
  constructor
  case one =>
    intro e
    -- both sources offer the same keys, and nothing else of them is looked at
    rw [decode_record_eq, decode_record_eq]
    cases e <;> rfl
  case none =>
    rw [decode_record_eq]
    exact ⟨_, rfl⟩
  case several =>
    intro e e' es
    rw [decode_record_eq]
    exact ⟨_, rfl⟩

/-- Members of a tuple take one entry each, by their place. So a tuple has a say about how many
entries a key lists, and rearranging does not change that. -/
theorem agree_decodeMembers (expecting : String) : ∀ (members : Fields) (index : Nat)
    {es es' : List Entry}, members.orderFree = true → SameAll es es' →
    Agree (members.decodeMembers expecting index es) (members.decodeMembers expecting index es')
  | .nil, _, _, _, _, _ => .of_eq (by rw [Fields.decodeMembers, Fields.decodeMembers])
  | .cons .., _, _, _, _, .nil => .refl _
  | .cons _ _ _ _ schema rest, index, _, _, free, .cons hfirst hrest => by
      obtain ⟨hschema, hothers⟩ := Bool.and_eq_true_iff.mp free
      rw [Fields.decodeMembers, Fields.decodeMembers]
      refine (hfirst schema hschema).bind fun d => ?_
      exact (agree_decodeMembers expecting rest (index + 1) hothers hrest).bind fun _ => .refl _

/-- What is listed under a key may be replaced by the same. Most schemas take one entry; a list and a
tuple take all of them, and an option takes none as well. -/
theorem agree_listed {es es' : List Entry} (same : SameAll es es') :
    ∀ schema : Schema, schema.orderFree = true →
      Agree (schema.decode (.listed es)) (schema.decode (.listed es'))
  | .boolean, free | .integer _, free | .single, free | .double, free | .character, free
  | .text _, free | .level, free | .never _, free | .choice _ _, free =>
      Schema.TakesOne.agree ⟨fun _ => rfl, ⟨_, rfl⟩, fun _ _ _ => ⟨_, rfl⟩⟩ free same
  | .bytes expecting, free => (takesOne_bytes expecting).agree free same
  | .record name strict fields, free => (takesOne_record name strict fields).agree free same
  | .ignored, _ => .refl _
  | .wrapped inner, free => agree_listed same inner free
  -- These look at how many there are before they read one, so the lists are split first.
  | .option inner, free => by
      cases same with
      | nil => exact .refl _
      | cons hfirst hrest => exact (agree_listed (.cons hfirst hrest) inner free).map Datum.present
  | .list inner, free => by
      have helements := same.imp fun _ _ h => h inner free
      exact (Agree.mapM helements).bind fun _ => .refl _
  | .tuple members, free => (agree_decodeMembers _ members 0 free same).map Datum.list
  | .namedTuple name members, free => by
      cases same with
      | nil => exact .refl _
      | cons hfirst hrest =>
          cases hrest with
          | nil => exact .errors _ _
          | cons hsecond hrest =>
              have hall : SameAll _ _ := .cons hfirst (.cons hsecond hrest)
              exact (agree_decodeMembers _ members 0 free hall).map Datum.list

/-- What a key adds to a record depends on what is listed under it. The induction is on the fields,
the first of which with the key decodes it. -/
theorem agree_decodeKey (key : String) {es es' : List Entry} (same : SameAll es es') :
    ∀ fields : Fields, fields.orderFree = true →
      Agree (fields.decodeKey key (.listed es)) (fields.decodeKey key (.listed es'))
  | .nil, _ => .refl _
  | .cons _ first aliases _ schema rest, free => by
      obtain ⟨hschema, hothers⟩ := Bool.and_eq_true_iff.mp free
      rw [Fields.decodeKey, Fields.decodeKey]
      split
      · exact agree_listed same schema hschema
      · exact agree_decodeKey key same rest hothers

/-! ### Blocks -/

/-- Lines with the same keys that list the same under each. This is what is left of an arrangement
once the lines are gathered, but for the order of the keys. -/
structure Alike (items others : List Item) : Prop where
  keys : ∀ key, key ∈ items.map Item.key ↔ key ∈ others.map Item.key
  listed : ∀ key,
    SameAll (listedUnder key (Item.lines items)) (listedUnder key (Item.lines others))

namespace Alike

variable {items others more : List Item}

theorem refl (items : List Item) : Alike items items := ⟨fun _ => Iff.rfl, fun _ => .refl _⟩

theorem symm (h : Alike items others) : Alike others items :=
  ⟨fun key => (h.keys key).symm, fun key => SameAll.symm (h.listed key)⟩

theorem trans (h : Alike items others) (h' : Alike others more) : Alike items more :=
  ⟨fun key => (h.keys key).trans (h'.keys key),
    fun key => SameAll.trans (h.listed key) (h'.listed key)⟩

/-- The keys come in another order, and add the same. -/
theorem reads (h : Alike items others) {strict : Bool} {fields : Fields}
    (free : fields.orderFree = true) {read : List (String × Datum)}
    (hread : fields.Reads strict (Block.ofItems items) read) :
    ∃ read', fields.Reads strict (Block.ofItems others) read' ∧ read'.Perm read := by
  have hitems := gathers_ofItems items
  have hothers := gathers_ofItems others
  have hkeys : ((Block.ofItems others).map Prod.fst).Perm ((Block.ofItems items).map Prod.fst) := by
    rw [List.perm_ext_iff_of_nodup hothers.distinct hitems.distinct]
    intro key
    rw [hothers.keys, hitems.keys, Item.keys_lines, Item.keys_lines, h.keys]
  -- first what is listed is replaced, then the order of the keys
  have hreplaced : fields.Reads strict (((Block.ofItems items).map Prod.fst).map fun key =>
      (key, listedUnder key (Item.lines others))) read := by
    obtain ⟨⟨slots, hslots, hflat⟩, hdistinct⟩ := hread
    rw [hitems.eq_map] at hslots
    refine ⟨⟨slots, ?_, hflat⟩, hdistinct⟩
    rw [List.forall₂_map_left_iff] at hslots ⊢
    refine hslots.imp fun key slot htakes => ?_
    cases htakes with
    | skipped hunknown hlax => exact .skipped hunknown hlax
    | taken hknown hfits =>
        exact .taken hknown ((agree_decodeKey key (h.listed key) fields free _).mp hfits)
  rw [hothers.eq_map]
  exact hreplaced.of_perm (hkeys.map _)

/-- A record that is read from one arrangement is read from the other, with the same result. The
fields are completed in their own order, so the order of the keys is gone by then. -/
theorem record_ok (h : Alike items others) {name : String} {strict : Bool} {fields : Fields}
    (free : fields.orderFree = true) {source source' : Source}
    (hsource : source.keys = .ok (Block.ofItems items))
    (hsource' : source'.keys = .ok (Block.ofItems others)) {d : Datum}
    (hd : (Schema.record name strict fields).decode source = .ok d) :
    (Schema.record name strict fields).decode source' = .ok d := by
  obtain ⟨lines, read, values, hlines, hread, hvalues, rfl⟩ := decode_record_eq_ok_iff.mp hd
  obtain rfl := Except.ok.inj (hsource.symm.trans hlines)
  obtain ⟨read', hread', hperm⟩ := h.reads free hread
  have hcomplete : fields.complete read' = fields.complete read :=
    Fields.complete_perm hperm hread'.distinct
  exact decode_record_eq_ok_iff.mpr
    ⟨_, read', values, hsource', hread', hcomplete.trans hvalues, rfl⟩

/-- So a record agrees on both, because being alike goes both ways. -/
theorem agree_record (h : Alike items others) (name : String) (strict : Bool) {fields : Fields}
    (free : fields.orderFree = true) {source source' : Source}
    (hsource : source.keys = .ok (Block.ofItems items))
    (hsource' : source'.keys = .ok (Block.ofItems others)) :
    Agree ((Schema.record name strict fields).decode source)
      ((Schema.record name strict fields).decode source') := fun _ =>
  ⟨h.record_ok free hsource hsource', h.symm.record_ok free hsource' hsource⟩

/-- A block may be replaced by one that lists the same, as a whole and as an entry. Only a record
looks into it. -/
theorem agree_block (h : Alike items others) : ∀ schema : Schema, schema.orderFree = true →
    Agree (schema.decode (.block (Block.ofItems items)))
        (schema.decode (.block (Block.ofItems others))) ∧
      Agree (schema.decode (.entry (.block (Block.ofItems items))))
        (schema.decode (.entry (.block (Block.ofItems others))))
  | .boolean, _ | .integer _, _ | .single, _ | .double, _ | .character, _ | .text _, _
  | .bytes _, _ | .level, _ | .never _, _ | .choice _ _, _ | .ignored, _ | .list _, _
  | .tuple _, _ | .namedTuple _ _, _ => ⟨.of_eq rfl, .of_eq rfl⟩
  | .record name strict _, free =>
      ⟨h.agree_record name strict free rfl rfl, h.agree_record name strict free rfl rfl⟩
  | .wrapped inner, free => h.agree_block inner free
  | .option inner, free =>
      ⟨(h.agree_block inner free).1.map Datum.present,
        (h.agree_block inner free).2.map Datum.present⟩

/-- As entries such blocks are the same, which is how the property passes from the lines inside a
block to the lines around it. -/
theorem same (h : Alike items others) :
    Entry.Same (.block (Block.ofItems items)) (.block (Block.ofItems others)) :=
  fun schema free => (h.agree_block schema free).2

end Alike

/-! ### Lines -/

/-- Lines that are written in another way: lines with different keys in another order, and the values
of a line on several lines with its key, the last of which has what is inside. -/
inductive Rearranged : List Item → List Item → Prop where
  | refl (items : List Item) : Rearranged items items
  | symm {items others : List Item} : Rearranged items others → Rearranged others items
  | trans {items others more : List Item} :
      Rearranged items others → Rearranged others more → Rearranged items more
  | swap (first second : Item) (rest : List Item) (differ : first.key ≠ second.key) :
      Rearranged (first :: second :: rest) (second :: first :: rest)
  | split (key : String) (values more : List Value) (children rest : List Item) :
      Rearranged (⟨key, values ++ more, children⟩ :: rest)
        (⟨key, values, []⟩ :: ⟨key, more, children⟩ :: rest)
  | cons (item : Item) {items others : List Item} :
      Rearranged items others → Rearranged (item :: items) (item :: others)
  | inside (key : String) (values : List Value) {children others : List Item} (rest : List Item) :
      Rearranged children others →
      Rearranged (⟨key, values, children⟩ :: rest) (⟨key, values, others⟩ :: rest)

namespace Alike

variable {items others : List Item}

/-- Blocks inside that are alike are one entry that is the same, or none on both sides: lines that
are alike are either both empty or neither. -/
theorem sameAll_inner (h : Alike items others) :
    SameAll (Item.inner items) (Item.inner others) := by
  -- lines without keys are no lines, so either both sides have lines or none has
  cases items with
  | nil =>
      cases others with
      | nil => exact .nil
      | cons item rest => exact absurd ((h.keys item.key).mpr List.mem_cons_self) List.not_mem_nil
  | cons first rest =>
      cases others with
      | nil => exact absurd ((h.keys first.key).mp List.mem_cons_self) List.not_mem_nil
      | cons item more => exact .cons h.same .nil

/-- Rearranging lines changes nothing that a key lists. One case for each way of rearranging; inside
of a block the hypothesis of the induction makes the blocks the same entry. -/
theorem of_rearranged (h : Rearranged items others) : Alike items others := by
  induction h with
  | refl items => exact .refl items
  | symm _ ih => exact ih.symm
  | trans _ _ ih ih' => exact ih.trans ih'
  | swap first second rest differ =>
      constructor
      case keys =>
        intro key
        simp only [List.map_cons, List.mem_cons]
        exact or_left_comm
      case listed =>
        intro key
        -- one of the two lines lists nothing under the key
        have heq : listedUnder key (Item.lines (first :: second :: rest))
            = listedUnder key (Item.lines (second :: first :: rest)) := by
          simp only [listedUnder_lines_cons]
          by_cases hkey : first.key = key
          · have hsecond : second.key ≠ key := fun h => differ (hkey.trans h.symm)
            rw [if_neg hsecond, List.nil_append, List.nil_append]
          · rw [if_neg hkey, List.nil_append, List.nil_append]
        rw [heq]
        exact .refl _
  | split key values more children rest =>
      constructor
      case keys =>
        intro k
        simp
      case listed =>
        intro k
        have heq : listedUnder k (Item.lines (⟨key, values ++ more, children⟩ :: rest))
            = listedUnder k (Item.lines (⟨key, values, []⟩ :: ⟨key, more, children⟩ :: rest)) := by
          have hnone : Item.inner [] = [] := rfl
          simp only [listedUnder_lines_cons, Item.entries_eq, hnone, List.append_nil]
          split
          · rw [List.map_append, List.append_assoc, List.append_assoc, List.append_assoc]
          · rfl
        rw [heq]
        exact .refl _
  | cons item _ ih =>
      constructor
      case keys =>
        intro key
        rw [List.map_cons, List.map_cons, List.mem_cons, List.mem_cons, ih.keys]
      case listed =>
        intro key
        rw [listedUnder_lines_cons, listedUnder_lines_cons]
        exact List.rel_append (SameAll.refl _) (ih.listed key)
  | inside key values rest _ ih =>
      constructor
      case keys => exact fun _ => Iff.rfl
      case listed =>
        intro k
        rw [listedUnder_lines_cons, listedUnder_lines_cons, Item.entries_eq, Item.entries_eq]
        refine List.rel_append ?_ (SameAll.refl _)
        dsimp only
        split
        · exact List.rel_append (SameAll.refl _) ih.sameAll_inner
        · exact .nil

end Alike

/-- Decoding does not see how lines are arranged: it gives one result for all arrangements or fails on
all of them. -/
theorem decodeItems_rearranged {schema : Schema} (free : schema.orderFree = true)
    {items others : List Item} (rearranged : Rearranged items others) :
    (∃ d, schema.decodeItems items = .ok d ∧ schema.decodeItems others = .ok d) ∨
      ∃ e e', schema.decodeItems items = .error e ∧ schema.decodeItems others = .error e' :=
  ((Alike.of_rearranged rearranged).agree_block schema free).1.cases

/-- The settings of the plugins are such records. -/
example : Load.Settings.schema.orderFree && Graphite.Settings.schema.orderFree := by decide

/-- Hosts, a port, and sites with hosts of their own. -/
def rosterSchema : Schema :=
  .record "Roster" true
    (.required "hosts" "Host" (.list (.text "a string"))
      (.required "port" "Port" (.option (.integer ⟨false, 16⟩))
        (.defaulted "sites" "Site" (.list [])
          (.list (.record "Site" true
            (.required "name" "Name" (.text "a string")
              (.required "hosts" "Host" (.list (.text "a string")) .nil)))) .nil)))

/-- A block with two hosts on one line and in its site as well. -/
def roster : List Item :=
  [⟨"Host", [.text "a", .text "b"], []⟩, ⟨"Port", [.number ⟨0x4054000000000000⟩], []⟩,
    ⟨"Site", [], [⟨"Name", [.text "x"], []⟩, ⟨"Host", [.text "c", .text "d"], []⟩]⟩]

/-- The same with one host to a line, and hosts before the name but after the port. -/
def rosterByLine : List Item :=
  [⟨"Port", [.number ⟨0x4054000000000000⟩], []⟩, ⟨"Host", [.text "a"], []⟩,
    ⟨"Host", [.text "b"], []⟩,
    ⟨"Site", [], [⟨"Host", [.text "c"], []⟩, ⟨"Host", [.text "d"], []⟩, ⟨"Name", [.text "x"], []⟩]⟩]

theorem rearranged_roster : Rearranged roster rosterByLine := by
  have hsite : Rearranged [⟨"Name", [.text "x"], []⟩, ⟨"Host", [.text "c", .text "d"], []⟩]
      [⟨"Host", [.text "c"], []⟩, ⟨"Host", [.text "d"], []⟩, ⟨"Name", [.text "x"], []⟩] := by
    refine .trans (.swap _ _ [] (by decide)) ?_
    exact .split "Host" [.text "c"] [.text "d"] [] _
  refine .trans (.swap _ _ _ (by decide)) (.cons _ ?_)
  refine .trans (.split "Host" [.text "a"] [.text "b"] [] _) (.cons _ (.cons _ ?_))
  exact .inside "Site" [] [] hsite

theorem decodeItems_rearranged_roster :
    (∃ d, rosterSchema.decodeItems roster = .ok d ∧ rosterSchema.decodeItems rosterByLine = .ok d) ∨
      ∃ e e', rosterSchema.decodeItems roster = .error e ∧
        rosterSchema.decodeItems rosterByLine = .error e' :=
  decodeItems_rearranged (by decide) rearranged_roster

end Config

end PluginKit
