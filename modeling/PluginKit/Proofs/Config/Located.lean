import PluginKit.Graphite.Plugin
import PluginKit.Proofs.Config.Gather
import PluginKit.Proofs.Config.Refusal

/-!
# `PluginKit.Proofs.Config.Located`: an error names the place that it is about

A misfit gets a key on its way out of every block that it is met in, and nothing on its way out of a
list, an option or a wrapper. So its keys, read from the outside, lead through nested blocks to one
place of the configuration, and what is gathered there is what the schema of the field refuses.

That is an induction on the keys, along which the place and the schema that were reached so far are
kept: one key is one way in which a schema fails.

* `Schema.at?`: the schema at the end of a path.
* `Within`, `Ends`: blocks inside of lines, and what is gathered at the end of a path.
* `Misfit.Stands`, `Ends.exists_stands`: what a misfit at the end of a path says, and the way there.
* `decodeItems_error_located`: where an error of a whole configuration points to.
-/

set_option autoImplicit false

namespace PluginKit

namespace Config

/-! ### Places -/

/-- What is decoded at the end of a path: each key leads to the schema of the field that it stands
for, through lists and optional fields, which have no keys of their own. -/
def Schema.at? (schema : Schema) : List String → Option Schema
  | [] => some schema
  | key :: path => (schema.under? key).bind fun inner => inner.at? path

theorem Schema.at?_append_singleton (schema : Schema) (path : List String) (key : String) :
    schema.at? (path ++ [key]) = (schema.at? path).bind fun type => type.under? key := by
  induction path generalizing schema with
  | nil => simp [at?]
  | cons first path ih =>
      rw [List.cons_append, at?, at?]
      cases schema.under? first with
      | none => rfl
      | some inner => exact ih inner

/-- Lines inside of lines: the keys of nested blocks lead from the outer lines to the inner ones. -/
inductive Within : List Item → List String → List Item → Prop where
  | here (items : List Item) : Within items [] items
  | inside {items lines : List Item} {item : Item} {path : List String} (mem : item ∈ items)
      (filled : item.children ≠ []) (rest : Within item.children path lines) :
      Within items (item.key :: path) lines

/-- What is gathered at the end of a path: all lines as one block where the path is empty, and else
all that the lines list under its last key. -/
inductive Ends : List Item → List String → Source → Prop where
  | block (items : List Item) : Ends items [] (.block (Block.ofItems items))
  | listed {items lines : List Item} {path : List String} {key : String}
      (within : Within items path lines) (present : key ∈ lines.map Item.key) :
      Ends items (path ++ [key]) (.listed (listedUnder key (Item.lines lines)))

/-- One more block inside. -/
theorem Within.append_singleton {items lines : List Item} {path : List String}
    (h : Within items path lines) {item : Item} (mem : item ∈ lines) (filled : item.children ≠ []) :
    Within items (path ++ [item.key]) item.children := by
  induction h with
  | here items => exact .inside mem filled (.here item.children)
  | inside first firstFilled _ ih => exact .inside first firstFilled (ih mem)

/-- A block among what a line lists is the block of the lines inside it. A line lists one block at
most, so it is clear which lines those are. -/
theorem eq_ofItems_of_mem_entries {item : Item} {block : Block}
    (h : Entry.block block ∈ item.entries) :
    item.children ≠ [] ∧ block = Block.ofItems item.children := by
  obtain ⟨key, values, children⟩ := item
  rw [Item.entries_eq] at h
  rcases List.mem_append.mp h with hvalue | hinner
  · obtain ⟨v, -, hv⟩ := List.mem_map.mp hvalue
    cases v <;> cases hv
  · unfold Item.inner at hinner
    split at hinner
    · cases hinner
    · rename_i hfilled
      have hblock := Entry.block.inj (List.mem_singleton.mp hinner)
      exact ⟨by simpa using hfilled, hblock⟩

/-- A block that is shown at the end of a path is the block of lines to which the path leads. For a
listed place it is one of several, namely that of one of the lines with the last key. -/
theorem Ends.within {items : List Item} {path : List String} {source : Source}
    (h : Ends items path source) {block : Block} (shown : block ∈ source.blocks) :
    ∃ lines, Within items path lines ∧ block = Block.ofItems lines := by
  cases h with
  | block => exact ⟨items, .here items, List.mem_singleton.mp shown⟩
  | @listed lines path key within present =>
      -- the block comes from one of the lines with the key
      obtain ⟨entry, hentry, hblock⟩ := List.mem_filterMap.mp shown
      have hentry' : entry = .block block := by
        cases entry with
        | block keys => rw [Option.some.inj hblock]
        | number | boolean | text => cases hblock
      unfold listedUnder at hentry
      rw [Item.lines_eq_map] at hentry
      obtain ⟨line, hline, hmem⟩ := List.mem_flatMap.mp hentry
      obtain ⟨hline, hkey⟩ := List.mem_filter.mp hline
      obtain ⟨item, hitem, rfl⟩ := List.mem_map.mp hline
      have hkey : item.key = key := by simpa using hkey
      obtain ⟨hfilled, hchildren⟩ := eq_ofItems_of_mem_entries (hentry' ▸ hmem)
      exact ⟨item.children, hkey ▸ within.append_singleton hitem hfilled, hchildren⟩

/-- A line of a block that is shown goes one key further. This is how an error that gets a key put
around it moves one place up. -/
theorem Ends.append_singleton {items : List Item} {path : List String} {source : Source}
    (h : Ends items path source) {block : Block} (shown : block ∈ source.blocks)
    {line : String × List Entry} (listed : line ∈ block) :
    Ends items (path ++ [line.1]) (.listed line.2) := by
  obtain ⟨lines, hwithin, rfl⟩ := h.within shown
  have hgathers := gathers_ofItems lines
  have hkey : line.1 ∈ lines.map Item.key := by
    rw [← Item.keys_lines, ← hgathers.keys]
    exact List.mem_map_of_mem listed
  rw [hgathers.listed line listed]
  exact .listed hwithin hkey

/-- Blocks at the end of a path have every key once, as all of them were gathered. -/
theorem Ends.distinct {items : List Item} {path : List String} {source : Source}
    (h : Ends items path source) : ∀ block ∈ source.blocks, (block.map Prod.fst).Nodup := by
  intro block shown
  obtain ⟨lines, -, rfl⟩ := h.within shown
  exact (gathers_ofItems lines).distinct

/-- The misfit at the end of a path: what is gathered there, decoded by itself, is refused with it,
and if it is one of keys, then of those of a block that is gathered there. -/
structure Misfit.Stands (root : Misfit) (schema : Schema) (items : List Item) (path : List String)
    (source : Source) (type : Schema) : Prop where
  place : Ends items path source
  asked : schema.at? path = some type
  refused : type.decode source = .error root.here
  keys : root.ofKeys = true → ∃ lines strict fields, Within items path lines ∧
    Block.ofItems lines ∈ source.blocks ∧ type.record? = some (strict, fields) ∧
    fields.Misses strict (lines.map Item.key) root ∧
    ∀ key, root = .missingField key → fields.keys.Nodup → key ∉ lines.map Item.key

/-- From any place on, the keys of an error lead to where its misfit is. The induction is on these
keys, and each of them is one more step from the place that was reached. -/
theorem Ends.exists_stands {schema : Schema} {items : List Item} {root : Misfit}
    (rest : List String) : ∀ {path : List String} {source : Source} {type : Schema},
    Ends items path source → schema.at? path = some type → type.tupleFree = true →
    type.decode source = .error ⟨rest, root⟩ →
    ∃ source type, root.Stands schema items (path ++ rest) source type := by
  induction rest with
  | nil =>
      intro path source type hends htype free hfails
      rw [List.append_nil]
      refine ⟨source, type, hends, htype, hfails, fun hroot => ?_⟩
      -- no key was put on this error, so it is not from below one
      generalize he : (⟨[], root⟩ : DecodeError) = e at hfails
      cases fails_of_decode _ free hends.distinct hfails with
      | value _ hvalue =>
          rw [← he, hroot] at hvalue
          cases hvalue
      | @keys block strict fields m shown asked misses =>
          obtain ⟨-, rfl⟩ := DecodeError.mk.inj he
          obtain ⟨lines, hwithin, rfl⟩ := hends.within shown
          have hmisses : fields.Misses strict (lines.map Item.key) root := by
            refine misses.congr fun key => ?_
            rw [(gathers_ofItems lines).keys, Item.keys_lines]
          refine ⟨lines, strict, fields, hwithin, shown, asked, hmisses, ?_⟩
          rintro key rfl distinct
          exact hmisses.notMem distinct
      | below => cases he
  | cons key rest ih =>
      intro path source type hends htype free hfails
      generalize he : (⟨key :: rest, root⟩ : DecodeError) = e at hfails
      cases fails_of_decode _ free hends.distinct hfails with
      | value hpath _ =>
          rw [← he] at hpath
          cases hpath
      | keys => cases he
      | @below block line inner inside shown listed asked fails =>
          obtain ⟨hpath, rfl⟩ := DecodeError.mk.inj he
          obtain ⟨rfl, rfl⟩ := List.cons.inj hpath
          have hinner : schema.at? (path ++ [line.1]) = some inner := by
            rw [Schema.at?_append_singleton, htype]
            exact asked
          have hway := ih (hends.append_singleton shown listed) hinner
            (Schema.tupleFree_of_under? _ free asked) fails
          simpa using hway

/-- An error is its misfit with its keys put around it, the last one first. -/
theorem DecodeError.eq_foldr_under (path : List String) (root : Misfit) :
    (⟨path, root⟩ : DecodeError) = path.foldr DecodeError.under root.here := by
  induction path with
  | nil => rfl
  | cons key path ih => rw [List.foldr_cons, ← ih, DecodeError.under]

/-- An error of a configuration is a misfit with the keys of a path around it, the outermost first.
The path leads through nested blocks to a place; what is gathered there, decoded by itself with the
schema of the field, is refused with the misfit and no key around it. If the misfit is a missing, an
unknown or a repeated field, then of a block that is gathered there: it has no key for the field, or
has the key that no field has, or two keys for the field. -/
theorem decodeItems_error_located {schema : Schema} (free : schema.tupleFree = true)
    {items : List Item} {e : DecodeError} (h : schema.decodeItems items = .error e) :
    ∃ (path : List String) (root : Misfit), e = path.foldr DecodeError.under root.here ∧
      ∃ source type, root.Stands schema items path source type := by
  obtain ⟨path, root⟩ := e
  exact ⟨path, root, DecodeError.eq_foldr_under path root,
    Ends.exists_stands path (.block items) rfl free h⟩

/-- Two nodes, of which the second has a name and no address. -/
def unaddressed : List Item :=
  [⟨"Node", [], [⟨"Name", [.text "a"], []⟩, ⟨"Address", [.text "h:1"], []⟩]⟩,
    ⟨"Node", [], [⟨"Name", [.text "b"], []⟩]⟩]

theorem decodeItems_error_located_unaddressed :
    Graphite.Settings.schema.tupleFree = true ∧
    Graphite.Settings.schema.decodeItems unaddressed
      = .error ⟨["Node"], .missingField "Address"⟩ ∧
    ∃ (path : List String) (root : Misfit),
      (⟨["Node"], .missingField "Address"⟩ : DecodeError)
        = path.foldr DecodeError.under root.here ∧
      ∃ source type, root.Stands Graphite.Settings.schema unaddressed path source type :=
  ⟨rfl, rfl, decodeItems_error_located rfl rfl⟩

end Config

end PluginKit
