import PluginKit.Config.Item

/-!
# `PluginKit.Config.Block`: configuration gathered by key

A key may be given on several lines. Decoding looks at what is listed under a key, not at the lines,
so a block gathers the values of all lines with one key, and the lines inside a line become a nested
block after its values.

* `Block.ofItems`: gathers lines; keys stay in the order in which they first appear.
-/

set_option autoImplicit false

namespace PluginKit

namespace Config

/-- What a key can list: a value, or a block of further keys. -/
inductive Entry where
  | number (x : Double)
  | boolean (b : Bool)
  | text (s : String)
  | block (keys : List (String × List Entry))
  deriving Repr

/-- Keys, each with all that is listed under it. -/
abbrev Block := List (String × List Entry)

def Entry.ofValue : Value → Entry
  | .number x => .number x
  | .boolean b => .boolean b
  | .text s => .text s

namespace Block

/-- Lists more under a key; a new key goes to the end. -/
def extend (key : String) (entries : List Entry) : Block → Block
  | [] => [(key, entries)]
  | (k, es) :: rest =>
    if k = key then (k, es ++ entries) :: rest else (k, es) :: extend key entries rest

/-- Gathers lists of entries by key. -/
def gather (lines : List (String × List Entry)) : Block :=
  lines.foldl (fun block line => block.extend line.1 line.2) []

end Block

mutual

/-- What one line lists under its key: its values, and after them the block inside it, if any. -/
def Item.entries : Item → List Entry
  | ⟨_, values, children⟩ =>
    values.map Entry.ofValue ++
      (if children.isEmpty then [] else [.block (Block.gather (Item.lines children))])

/-- Every line with what it lists. -/
def Item.lines : List Item → List (String × List Entry)
  | [] => []
  | item :: rest => (item.key, item.entries) :: Item.lines rest

end

/-- The lines of a block, gathered by key. -/
def Block.ofItems (items : List Item) : Block := Block.gather (Item.lines items)

end Config

end PluginKit
