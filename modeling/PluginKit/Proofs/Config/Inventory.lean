import Mathlib.Data.List.Induction
import PluginKit.Proofs.Config.Gather

/-!
# `PluginKit.Proofs.Config.Inventory`: gathering loses nothing and repeats nothing

Gathering moves what a configuration holds: the lines of a key come together, on every level of the
tree. An inventory writes down everything that is held, each with the keys that lead to it. The
lines and the block that is gathered from them have the same inventory but for its order, and what
stands on the way to one place is in the same order, too.

* `keys_ofItems`, `ofItems_eq`: the keys by their first appearance, and what is under each.
* `Inventory`, with `Item.inventory` and `Block.inventory`: everything that is held, and where.
* `Inventory.along`: what leads to a place, and what stands there.
* `along_inventory`: it is the same in the lines and in the block.
* `ofItems_keeps_everything_once`: what gathering keeps.
-/

set_option autoImplicit false

namespace PluginKit

namespace Config

/-! ### One level -/

namespace Block

/-- The keys stand in the order in which they first appear. A key that comes again is gathered into
the place that it has. -/
theorem keys_gather (lines : List (String × List Entry)) :
    (gather lines).map Prod.fst = (lines.map Prod.fst).eraseDups := by
  induction lines using List.reverseRecOn with
  | nil => rfl
  | append_singleton lines line ih =>
      have hgather : gather (lines ++ [line]) = (gather lines).extend line.1 line.2 :=
        List.foldl_append
      have h := gathers_gather lines
      rw [hgather, List.map_append, List.map_singleton, Metadata.eraseDups_concat, ← ih]
      by_cases hkey : line.1 ∈ (gather lines).map Prod.fst
      · -- a key that was there keeps its place
        have hold : line.1 ∈ lines.map Prod.fst := (h.keys _).mp hkey
        rw [extend_of_mem h.distinct hkey, if_pos hold]
        simp
      · have hnew : line.1 ∉ lines.map Prod.fst := fun hold => hkey ((h.keys _).mpr hold)
        rw [extend_of_notMem hkey, if_neg hnew]
        simp

/-- In a block, what is listed under a key stands in one place, as its keys are distinct. -/
theorem listedUnder_of_mem {block : Block} (hdistinct : (block.map Prod.fst).Nodup)
    {line : String × List Entry} (hline : line ∈ block) : listedUnder line.1 block = line.2 := by
  induction block with
  | nil => exact absurd hline List.not_mem_nil
  | cons first rest ih =>
      obtain ⟨hnew, hrest⟩ := List.nodup_cons.mp hdistinct
      rw [listedUnder_cons]
      rcases List.mem_cons.mp hline with rfl | hlater
      · rw [if_pos rfl, listedUnder_of_notMem _ _ hnew, List.append_nil]
      · have hne : first.1 ≠ line.1 := fun heq => hnew (heq ▸ List.mem_map_of_mem hlater)
        rw [if_neg hne, List.nil_append, ih hrest hlater]

/-- What lines list under a key is what their block lists under it, so gathering a second time would
change nothing. -/
theorem listedUnder_gather (key : String) (lines : List (String × List Entry)) :
    listedUnder key (gather lines) = listedUnder key lines := by
  have h := gathers_gather lines
  by_cases hkey : key ∈ (gather lines).map Prod.fst
  · obtain ⟨line, hline, rfl⟩ := List.mem_map.mp hkey
    rw [listedUnder_of_mem h.distinct hline, h.listed line hline]
  · have hnew : key ∉ lines.map Prod.fst := fun hold => hkey ((h.keys _).mpr hold)
    rw [listedUnder_of_notMem _ _ hkey, listedUnder_of_notMem _ _ hnew]

end Block

/-- What lines list under a key comes from the lines with that key, one after the other. Other lines
may stand between them. -/
theorem listedUnder_lines (key : String) (items : List Item) :
    listedUnder key (Item.lines items)
      = (items.filter fun item => item.key = key).flatMap Item.entries := by
  unfold listedUnder
  rw [Item.lines_eq_map, List.filter_map, List.flatMap_map]
  rfl

/-- Keys of items, by their first appearance. -/
theorem keys_ofItems (items : List Item) :
    (Block.ofItems items).map Prod.fst = (items.map Item.key).eraseDups := by
  unfold Block.ofItems
  rw [Block.keys_gather, Item.keys_lines]

/-- A block is its keys, each with what the lines with that key list. -/
theorem ofItems_eq (items : List Item) :
    Block.ofItems items = (items.map Item.key).eraseDups.map fun key =>
      (key, (items.filter fun item => item.key = key).flatMap fun item =>
        item.values.map Entry.ofValue ++
          if item.children.isEmpty then [] else [.block (Block.ofItems item.children)]) := by
  have hentries : Item.entries = fun item => item.values.map Entry.ofValue ++
      if item.children.isEmpty then [] else [.block (Block.ofItems item.children)] :=
    funext fun ⟨key, values, children⟩ => Item.entries_eq key values children
  rw [← hentries, ← keys_ofItems]
  simp only [← listedUnder_lines]
  exact (gathers_ofItems items).eq_map

/-! ### Inventories -/

/-- What stands at a place of a configuration. Keys are not contents: they are the way to them. -/
inductive Content where
  | value (v : Value)
  /-- A block with lines in it. What they hold is listed on its own. -/
  | block
  deriving DecidableEq, Repr

/-- Everything that a configuration holds, each with the keys that lead to it, outermost first. -/
abbrev Inventory := List (List String × Content)

namespace Inventory

/-- What is held inside of a key. -/
def below (key : String) (l : Inventory) : Inventory := l.map fun held => (key :: held.1, held.2)

/-- What stands at a place, and what stands at the keys on the way to it. Two things at places of
which neither is on the way to the other may change their order, and that is what gathering does. -/
def along (path : List String) (l : Inventory) : Inventory :=
  l.filter fun held => held.1 <+: path

section

variable (path : List String) (key : String) (l more : Inventory)

theorem along_append : along path (l ++ more) = along path l ++ along path more :=
  List.filter_append l more

theorem along_flatMap {α : Type} (f : α → Inventory) (as : List α) :
    along path (as.flatMap f) = as.flatMap fun a => along path (f a) :=
  List.filter_flatMap

/-- Nothing inside of a key is on the way to where it all begins. -/
theorem along_nil_below : along [] (below key l) = [] := by
  unfold along below
  rw [List.filter_eq_nil_iff, List.forall_mem_map]
  intro held _
  simp

/-- The way to a place begins at one key. What is held inside of another key is not on it. -/
theorem along_cons_below (first : String) :
    along (first :: path) (below key l) = if key = first then below key (along path l) else [] := by
  unfold along below
  rw [List.filter_map]
  by_cases h : key = first
  · subst h
    simp [Function.comp_def]
  · simp [Function.comp_def, h]

end

section

variable {α : Type} (key : α → String) (held : α → Inventory) (as : List α)

theorem along_nil_keyed : along [] (as.flatMap fun a => below (key a) (held a)) = [] := by
  rw [along_flatMap, List.flatMap_eq_nil_iff]
  exact fun a _ => along_nil_below (key a) (held a)

/-- Of all that is held under keys, what is held under one of them leads to the places inside it.
This is where the order of lines with different keys drops out. -/
theorem along_cons_keyed (first : String) (path : List String) :
    along (first :: path) (as.flatMap fun a => below (key a) (held a))
      = below first (along path ((as.filter fun a => key a = first).flatMap held)) := by
  induction as with
  | nil => rfl
  | cons a rest ih =>
      rw [List.flatMap_cons, along_append, along_cons_below, ih]
      by_cases h : key a = first
      · rw [h, if_pos rfl, List.filter_cons_of_pos (by simpa using h), List.flatMap_cons,
          along_append]
        exact List.map_append.symm
      · rw [if_neg h, List.filter_cons_of_neg (by simpa using h), List.nil_append]

end

end Inventory

mutual

/-- What one line holds: its values, and then the block inside it, if any. The block counts as one
thing of its own, so a block cannot be lost together with all that it holds. -/
def Item.held : Item → Inventory
  | ⟨_, values, children⟩ =>
    values.map (fun v => ([], .value v)) ++
      if children.isEmpty then [] else ([], .block) :: Item.inventory children

/-- What lines hold. -/
def Item.inventory : List Item → Inventory
  | [] => []
  | item :: rest => Inventory.below item.key (Item.held item) ++ Item.inventory rest

end

mutual

/-- What an entry holds. -/
def Entry.inventory : Entry → Inventory
  | .number x => [([], .value (.number x))]
  | .boolean b => [([], .value (.boolean b))]
  | .text s => [([], .value (.text s))]
  | .block keys => ([], .block) :: Block.inventory keys

/-- What entries hold. -/
def Entry.inventoryAll : List Entry → Inventory
  | [] => []
  | entry :: rest => Entry.inventory entry ++ Entry.inventoryAll rest

/-- What a block holds. -/
def Block.inventory : List (String × List Entry) → Inventory
  | [] => []
  | (key, entries) :: rest => Inventory.below key (Entry.inventoryAll entries) ++ Block.inventory rest

end

/-- The recursion over lines, as a map over them. -/
theorem Item.inventory_eq (items : List Item) :
    Item.inventory items = items.flatMap fun item => Inventory.below item.key item.held := by
  induction items with
  | nil => rfl
  | cons item rest ih => rw [Item.inventory, List.flatMap_cons, ih]

theorem Entry.inventoryAll_eq (entries : List Entry) :
    Entry.inventoryAll entries = entries.flatMap Entry.inventory := by
  induction entries with
  | nil => rfl
  | cons entry rest ih => rw [Entry.inventoryAll, List.flatMap_cons, ih]

theorem Block.inventory_eq (block : Block) :
    Block.inventory block
      = block.flatMap fun line => Inventory.below line.1 (line.2.flatMap Entry.inventory) := by
  induction block with
  | nil => rfl
  | cons line rest ih => rw [Block.inventory, List.flatMap_cons, ih, Entry.inventoryAll_eq]

theorem Entry.flatMap_inventory_ofValue (values : List Value) :
    (values.map Entry.ofValue).flatMap Entry.inventory = values.map fun v => ([], .value v) := by
  induction values with
  | nil => rfl
  | cons v rest ih =>
      rw [List.map_cons, List.flatMap_cons, ih]
      cases v <;> rfl

/-! ### Along a way -/

namespace Inventory

variable (path : List String)

/-- Gathering lines changes nothing along a way, if it changes nothing within each of them. The
lines of a key are gathered in their order, and other lines do not lie on the way. -/
theorem along_ofItems {items : List Item}
    (within : ∀ item ∈ items, ∀ path,
      along path (item.entries.flatMap Entry.inventory) = along path item.held) :
    along path (Block.inventory (Block.ofItems items)) = along path (Item.inventory items) := by
  rw [Block.inventory_eq, Item.inventory_eq]
  -- a way that goes anywhere goes into one key first, and the others do not matter
  cases path with
  | nil => rw [along_nil_keyed, along_nil_keyed]
  | cons key path =>
      rw [along_cons_keyed, along_cons_keyed, ← List.flatMap_assoc]
      -- what the block has under the key is what the lines with the key list
      have hlisted : ((Block.ofItems items).filter fun line => line.1 = key).flatMap Prod.snd
          = (items.filter fun item => item.key = key).flatMap Item.entries := by
        rw [← listedUnder_lines, ← Block.listedUnder_gather]
        rfl
      rw [hlisted, List.flatMap_assoc, along_flatMap, along_flatMap]
      refine congrArg (below key) (List.flatMap_congr fun item hitem => ?_)
      exact within item (List.mem_of_mem_filter hitem) path

/-- The block inside a line is marked, and then it is what the lines inside hold. An empty block is
not listed on either side. -/
theorem along_inner {children : List Item}
    (within : ∀ item ∈ children, ∀ path,
      along path (item.entries.flatMap Entry.inventory) = along path item.held) :
    along path ((Item.inner children).flatMap Entry.inventory)
      = along path (if children.isEmpty then [] else ([], .block) :: Item.inventory children) := by
  unfold Item.inner
  split
  · rfl
  · rw [List.flatMap_singleton, Entry.inventory, ← List.singleton_append, along_append,
      along_ofItems path within, ← along_append]
    rfl

-- The recursion is that of the tree: what holds within the lines inside gives it for the line.
mutual

/-- What one line lists is what it holds, along every way. The recursion goes into the lines
inside. -/
theorem along_entries : (item : Item) → ∀ path,
    along path (item.entries.flatMap Entry.inventory) = along path item.held
  | ⟨key, values, children⟩ => fun path => by
      rw [Item.entries_eq, Item.held, List.flatMap_append, Entry.flatMap_inventory_ofValue,
        along_append, along_append, along_inner path (along_entries_all children)]

theorem along_entries_all : (items : List Item) → ∀ item ∈ items, ∀ path,
    along path (item.entries.flatMap Entry.inventory) = along path item.held
  | [] => fun _ hitem => absurd hitem List.not_mem_nil
  | first :: rest => fun item hitem => by
      rcases List.mem_cons.mp hitem with heq | hlater
      · rw [heq]
        exact along_entries first
      · exact along_entries_all rest item hlater

end

end Inventory

/-- Gathering lines changes nothing along any way, on all levels. -/
theorem along_inventory (items : List Item) (path : List String) :
    (Block.inventory (Block.ofItems items)).along path = (Item.inventory items).along path :=
  Inventory.along_ofItems path (Inventory.along_entries_all items)

/-- Everything in the lines is in their block, and as often. What stands at one place is the same on
both sides, and a permutation is counted place by place. -/
theorem inventory_perm (items : List Item) :
    (Block.inventory (Block.ofItems items)).Perm (Item.inventory items) := by
  rw [List.perm_iff_count]
  intro held
  -- what is held is counted on the way to its own place
  have hcount (l : Inventory) : (l.along held.1).count held = l.count held :=
    List.count_filter (by simp)
  rw [← hcount (Block.inventory _), ← hcount (Item.inventory items), along_inventory]

/-- The block of some lines has each of their keys once, in the order in which the keys first
appear. Under a key stands what the lines with that key give, one after the other: the values of
the line, and then the block of the lines inside it if there are any. So everything in the lines,
however deep, is in the block exactly as often as in the lines, and what stands at a place and on
the way to it keeps its order. -/
theorem ofItems_keeps_everything_once (items : List Item) :
    ((Block.ofItems items).map Prod.fst).Nodup ∧
    Block.ofItems items = (items.map Item.key).eraseDups.map (fun key =>
      (key, (items.filter fun item => item.key = key).flatMap fun item =>
        item.values.map Entry.ofValue ++
          if item.children.isEmpty then [] else [.block (Block.ofItems item.children)])) ∧
    (Block.inventory (Block.ofItems items)).Perm (Item.inventory items) ∧
    ∀ path, (Block.inventory (Block.ofItems items)).along path = (Item.inventory items).along path :=
  ⟨(gathers_ofItems items).distinct, ofItems_eq items, inventory_perm items,
    along_inventory items⟩

example : Block.ofItems
    [⟨"b", [.boolean true], []⟩, ⟨"a", [.text "x"], [⟨"c", [.boolean false], []⟩]⟩,
      ⟨"b", [.boolean false], []⟩]
    = [("b", [.boolean true, .boolean false]),
      ("a", [.text "x", .block [("c", [.boolean false])]])] := rfl

end Config

end PluginKit
