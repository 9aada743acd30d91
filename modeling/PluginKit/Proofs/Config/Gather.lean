import Mathlib.Data.List.Nodup
import PluginKit.Config.Block
import PluginKit.Proofs.Metadata

/-!
# `PluginKit.Proofs.Config.Gather`: what a block has under each key

Lines are gathered one after the other, each into what its key has already. The result has every key
of the lines once, and under it everything that the lines with that key list, in the order of the
lines. How many lines there were, and what stood between them, is gone.

* `listedUnder`: what lines list under a key.
* `Gathers`, `Gathers.extend`, `gathers_gather`: the block of the lines so far, one more line, and all
  lines.
* `Gathers.eq_map`: a block is its keys and what is listed under them.
* `Item.entries_eq`, `lookup_ofItems`: what one item lists, and what the block of some items has.
-/

set_option autoImplicit false

namespace PluginKit

namespace Config

/-- All that the lines with a key list, in the order of the lines. -/
def listedUnder (key : String) (lines : List (String × List Entry)) : List Entry :=
  (lines.filter fun line => line.1 = key).flatMap Prod.snd

section
variable (key : String) (line : String × List Entry) (lines others : List (String × List Entry))

/-- What is listed by more lines comes behind what is listed by those before. -/
theorem listedUnder_append :
    listedUnder key (lines ++ others) = listedUnder key lines ++ listedUnder key others := by
  unfold listedUnder
  rw [List.filter_append, List.flatMap_append]

theorem listedUnder_cons : listedUnder key (line :: lines)
    = (if line.1 = key then line.2 else []) ++ listedUnder key lines := by
  unfold listedUnder
  by_cases h : line.1 = key <;> simp [h]

/-- A key of no line lists nothing, which is what a block that never had the key is compared
with. -/
theorem listedUnder_of_notMem (h : key ∉ lines.map Prod.fst) : listedUnder key lines = [] := by
  unfold listedUnder
  rw [List.flatMap_eq_nil_iff]
  intro line hline
  obtain ⟨hmem, hkey⟩ := List.mem_filter.mp hline
  exact absurd (List.mem_map.mpr ⟨line, hmem, by simpa using hkey⟩) h

end

namespace Block

variable {key : String} {block : Block}

/-- A new key goes to the end. -/
theorem extend_of_notMem (h : key ∉ block.map Prod.fst) (entries : List Entry) :
    extend key entries block = block ++ [(key, entries)] := by
  induction block with
  | nil => rfl
  | cons line rest ih =>
      obtain ⟨k, es⟩ := line
      rw [List.map_cons, List.mem_cons, not_or] at h
      rw [extend, if_neg (Ne.symm h.1), ih h.2]
      rfl

/-- A key that is there keeps its place and has more listed under it. The other keys are as before,
and this needs the keys to be distinct: `extend` stops at the first line with the key. -/
theorem extend_of_mem (hdistinct : (block.map Prod.fst).Nodup) (h : key ∈ block.map Prod.fst)
    (entries : List Entry) :
    extend key entries block
      = block.map fun line => (line.1, line.2 ++ if line.1 = key then entries else []) := by
  induction block with
  | nil => exact absurd h List.not_mem_nil
  | cons line rest ih =>
      obtain ⟨k, es⟩ := line
      obtain ⟨hnew, hrest⟩ := List.nodup_cons.mp hdistinct
      by_cases hk : k = key
      · -- no other line has the key, so the rest stays
        have hothers : ∀ other ∈ rest, other.1 ≠ key := by
          intro other hother heq
          exact hnew (List.mem_map.mpr ⟨other, hother, heq.trans hk.symm⟩)
        have hsame : rest.map (fun line => (line.1, line.2 ++ if line.1 = key then entries else []))
            = rest := by
          rw [List.map_congr_left (g := id)]
          · exact List.map_id _
          · intro other hother
            simp [hothers other hother]
        rw [extend, if_pos hk, List.map_cons, hsame]
        simp [hk]
      · have hmem : key ∈ rest.map Prod.fst := (List.mem_cons.mp h).resolve_left (Ne.symm hk)
        rw [extend, if_neg hk, ih hrest hmem]
        simp [hk]

/-- What gathering some lines comes to: the keys of the lines, each once, and under each of them all
that the lines list. The order of the keys is not part of it; `Inventory` has that. -/
structure Gathers (block : Block) (lines : List (String × List Entry)) : Prop where
  distinct : (block.map Prod.fst).Nodup
  keys : ∀ key, key ∈ block.map Prod.fst ↔ key ∈ lines.map Prod.fst
  listed : ∀ line ∈ block, line.2 = listedUnder line.1 lines

namespace Gathers

variable {lines : List (String × List Entry)}

/-- One more line: the invariant of the fold by which a block is made. -/
theorem extend (h : block.Gathers lines) (key : String) (entries : List Entry) :
    Gathers (Block.extend key entries block) (lines ++ [(key, entries)]) := by
  have hlisted : ∀ k, listedUnder k (lines ++ [(key, entries)])
      = listedUnder k lines ++ if key = k then entries else [] := by
    intro k
    rw [listedUnder_append, listedUnder_cons]
    simp [listedUnder]
  -- either the key is there and only its entries grow, or it comes last with these alone
  by_cases hkey : key ∈ block.map Prod.fst
  · have hkeys : (Block.extend key entries block).map Prod.fst = block.map Prod.fst := by
      rw [extend_of_mem h.distinct hkey, List.map_map]
      rfl
    constructor
    case distinct =>
      rw [hkeys]
      exact h.distinct
    case keys =>
      intro k
      have hold := (h.keys key).mp hkey
      rw [hkeys, h.keys, List.map_append, List.mem_append]
      constructor
      · exact Or.inl
      · rintro (hmem | hlast)
        · exact hmem
        · rw [List.mem_singleton.mp hlast]
          exact hold
    case listed =>
      intro line hline
      rw [extend_of_mem h.distinct hkey] at hline
      obtain ⟨old, hold, rfl⟩ := List.mem_map.mp hline
      rw [hlisted, h.listed old hold]
      simp only [eq_comm]
  · have hnew : listedUnder key lines = [] :=
      listedUnder_of_notMem key lines fun hmem => hkey ((h.keys key).mpr hmem)
    rw [extend_of_notMem hkey]
    constructor
    case distinct =>
      rw [List.map_append, List.nodup_append]
      refine ⟨h.distinct, by simp, fun k hk new hlast heq => hkey ?_⟩
      have hlast : new = key := List.mem_singleton.mp hlast
      rw [← hlast, ← heq]
      exact hk
    case keys =>
      intro k
      rw [List.map_append, List.map_append, List.mem_append, List.mem_append, h.keys]
    case listed =>
      intro line hline
      rcases List.mem_append.mp hline with hold | hlast
      · have hne : key ≠ line.1 := fun heq => hkey (heq ▸ List.mem_map_of_mem hold)
        rw [hlisted, h.listed line hold, if_neg hne, List.append_nil]
      · rw [List.mem_singleton.mp hlast, hlisted, hnew, if_pos rfl, List.nil_append]

/-- A block is its keys and what is listed under them. So two blocks with the same keys in the same
order, gathered from lines that list the same, are equal. -/
theorem eq_map (h : block.Gathers lines) :
    block = (block.map Prod.fst).map fun key => (key, listedUnder key lines) := by
  rw [List.map_map]
  symm
  rw [List.map_congr_left (g := id)]
  · exact List.map_id _
  · intro line hline
    exact Prod.ext rfl (h.listed line hline).symm

end Gathers

/-- Gathering from any block on, by induction on the lines that are left. -/
theorem gathers_foldl (more : List (String × List Entry)) {lines : List (String × List Entry)}
    (h : block.Gathers lines) :
    Gathers (more.foldl (fun block line => block.extend line.1 line.2) block) (lines ++ more) := by
  induction more generalizing block lines with
  | nil => simpa using h
  | cons line rest ih =>
      have hstep := ih (h.extend line.1 line.2)
      rwa [List.append_assoc] at hstep

/-- A gathered block is what gathering is meant to come to: the fold starts with no lines and no
block. -/
theorem gathers_gather (lines : List (String × List Entry)) : (gather lines).Gathers lines := by
  have hnone : Gathers [] [] :=
    ⟨List.nodup_nil, fun _ => Iff.rfl, fun _ h => absurd h List.not_mem_nil⟩
  exact gathers_foldl lines hnone

end Block

/-! ### Items -/

theorem Item.lines_eq_map (items : List Item) :
    Item.lines items = items.map fun item => (item.key, item.entries) := by
  induction items with
  | nil => rfl
  | cons item rest ih => rw [Item.lines, List.map_cons, ih]

theorem Item.keys_lines (items : List Item) : (Item.lines items).map Prod.fst = items.map Item.key := by
  rw [Item.lines_eq_map, List.map_map]
  rfl

theorem listedUnder_lines_cons (key : String) (item : Item) (rest : List Item) :
    listedUnder key (Item.lines (item :: rest))
      = (if item.key = key then item.entries else []) ++ listedUnder key (Item.lines rest) := by
  rw [Item.lines, listedUnder_cons]

/-- What the lines inside a line list: one block, or nothing when there are none. -/
def Item.inner (children : List Item) : List Entry :=
  if children.isEmpty then [] else [.block (Block.ofItems children)]

theorem Item.entries_eq (key : String) (values : List Value) (children : List Item) :
    Item.entries ⟨key, values, children⟩ = values.map Entry.ofValue ++ Item.inner children := by
  rw [Item.entries]
  rfl

/-- The block of some items has the keys of the items, and under each what the items list. -/
theorem gathers_ofItems (items : List Item) : (Block.ofItems items).Gathers (Item.lines items) :=
  Block.gathers_gather _

/-- Looking up a key in the block of some items. A key that is there may list nothing, and that is
not the same as its being absent: a default steps in for an absent key only. -/
theorem lookup_ofItems (key : String) (items : List Item) :
    (Block.ofItems items).lookup key
      = if key ∈ items.map Item.key then some (listedUnder key (Item.lines items)) else none := by
  have h := gathers_ofItems items
  have hkeys := h.keys key
  rw [Item.keys_lines] at hkeys
  split
  · rename_i hkey
    obtain ⟨line, hline, rfl⟩ := List.mem_map.mp (hkeys.mpr hkey)
    rw [Metadata.lookup_eq_some_iff h.distinct, ← h.listed line hline]
    exact hline
  · rename_i hkey
    rw [Metadata.lookup_eq_none_iff, hkeys]
    exact hkey

/-- What holds of the keys of a block holds of the keys of the items, and nothing else is a key of
it. -/
theorem forall_keys_ofItems {P : String → Prop} (items : List Item) :
    (∀ line ∈ Block.ofItems items, P line.1) ↔ ∀ item ∈ items, P item.key := by
  have hkeys := (gathers_ofItems items).keys
  simp only [Item.keys_lines] at hkeys
  rw [← List.forall_mem_map (f := Prod.fst), ← List.forall_mem_map (f := Item.key)]
  simp only [hkeys]

end Config

end PluginKit
