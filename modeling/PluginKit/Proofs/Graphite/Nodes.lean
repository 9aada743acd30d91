import PluginKit.Proofs.Config.FieldByField
import PluginKit.Proofs.Config.Gather
import PluginKit.Proofs.Graphite.Delivery

/-!
# `PluginKit.Proofs.Graphite.Nodes`: which nodes a configuration opens

A block of the plugin is accepted when it has nothing but `Node` blocks without values, and every
one of them that has something inside describes a node. Each such block becomes a plugin with the
block's name, in the order of the file. A block with nothing inside lists nothing, so it is neither
refused nor opened: it leaves no trace.

* `Tells`, `Describes`, `Accepts`: what a block and a file of blocks have to say.
* `decode_node_eq_ok_iff`, `decode_eq_ok_iff`: when they decode, and to what.
* `plugins_accepted_or_refused`: the plugins of a configuration.
* `plugins_empty_node`: a block that leaves no trace.
-/

set_option autoImplicit false

namespace PluginKit

open Config (Schema Fields Entry Item Datum Block listedUnder)

namespace Graphite

/-! ### A node -/

/-- The items inside a block tell what a node is: its name and its address once each, a prefix at
most once, and at most once whether rates are kept. They may stand in any order and on any number of
lines. -/
structure Tells (children : List Item) (s : NodeSettings) : Prop where
  name : listedUnder "Name" (Item.lines children) = [.text s.name]
  address : listedUnder "Address" (Item.lines children) = [.text s.address]
  path : listedUnder "Prefix" (Item.lines children) = (s.path.map Entry.text).toList
  storeRates : "StoreRates" ∈ children.map Item.key →
    listedUnder "StoreRates" (Item.lines children) = [.boolean s.storeRates]
  storeRates_default : "StoreRates" ∉ children.map Item.key → s.storeRates = true

/-- They tell what a node is and nothing else, since a misspelled key is an error and is not
ignored. -/
structure Describes (children : List Item) (s : NodeSettings) : Prop extends Tells children s where
  known : ∀ item ∈ children, item.key ∈ ["Name", "Address", "Prefix", "StoreRates"]

/-- The record that a node's block becomes, field by field. -/
def NodeSettings.datum (s : NodeSettings) : Datum :=
  .record [("name", .text s.name), ("address", .text s.address),
    ("path", s.path.elim .absent fun p => .present (.text p)),
    ("store_rates", .boolean s.storeRates)]

/-- The record is read as the settings it was made from. -/
theorem ofNode_datum (s : NodeSettings) : Settings.ofNode s.datum = s := by
  obtain ⟨name, address, path, storeRates⟩ := s
  cases path <;> rfl

/-- The fields of a node. -/
def nodeFields : Fields := Settings.nodeSchema.fields

/-- The four fields have names and keys of their own, which is decided by looking at them. -/
theorem plain_nodeFields : nodeFields.Plain :=
  .cons (by decide) (by decide) (.cons (by decide) (by decide)
    (.cons (by decide) (by decide) (.cons (by decide) (by decide) .nil)))

/-- The fields of a node can be read from a block exactly when the block tells what they are. Each
field is read by itself here, so the proof takes them one at a time. -/
theorem each_nodeFields_eq_ok_iff {children : List Item} {values : List (String × Datum)} :
    nodeFields.each (Block.ofItems children) = .ok values ↔
      ∃ s, Tells children s ∧ Datum.record values = s.datum := by
  constructor
  · intro h
    -- The four fields one after another, and nothing below them.
    obtain ⟨_, _, hfirst, hrest, rfl⟩ := Config.each_cons_eq_ok_iff.mp h
    obtain ⟨_, _, hsecond, hrest', rfl⟩ := Config.each_cons_eq_ok_iff.mp hrest
    obtain ⟨_, _, hthird, hlast, rfl⟩ := Config.each_cons_eq_ok_iff.mp hrest'
    obtain ⟨_, _, hfourth, hnone, rfl⟩ := Config.each_cons_eq_ok_iff.mp hlast
    obtain rfl := Except.ok.inj hnone
    obtain ⟨name, hname, rfl⟩ := Config.alone_text_eq_ok_iff.mp hfirst
    obtain ⟨address, haddress, rfl⟩ := Config.alone_text_eq_ok_iff.mp hsecond
    obtain ⟨path, hpath, rfl⟩ := Config.alone_option_text_eq_ok_iff.mp hthird
    obtain ⟨storeRates, hgiven, hdefault, rfl⟩ := Config.alone_boolean_eq_ok_iff.mp hfourth
    exact ⟨⟨name, address, path, storeRates⟩, ⟨hname, haddress, hpath, hgiven, hdefault⟩, rfl⟩
  · rintro ⟨s, h, hvalues⟩
    obtain rfl := Datum.record.inj hvalues
    refine Config.each_cons_eq_ok_iff.mpr ⟨_, _, ?name, ?_, rfl⟩
    case name => exact Config.alone_text_eq_ok_iff.mpr ⟨s.name, h.name, rfl⟩
    refine Config.each_cons_eq_ok_iff.mpr ⟨_, _, ?address, ?_, rfl⟩
    case address => exact Config.alone_text_eq_ok_iff.mpr ⟨s.address, h.address, rfl⟩
    refine Config.each_cons_eq_ok_iff.mpr ⟨_, _, ?path, ?_, rfl⟩
    case path => exact Config.alone_option_text_eq_ok_iff.mpr ⟨s.path, h.path, rfl⟩
    refine Config.each_cons_eq_ok_iff.mpr ⟨_, _, ?storeRates, rfl, rfl⟩
    exact Config.alone_boolean_eq_ok_iff.mpr
      ⟨s.storeRates, h.storeRates, h.storeRates_default, rfl⟩

/-- A block is a node exactly when it describes one. The keys that the block has besides are what
the fields do not see. -/
theorem decode_node_eq_ok_iff {children : List Item} {d : Datum} :
    Settings.nodeSchema.decode (.entry (.block (Block.ofItems children))) = .ok d ↔
      ∃ s, Describes children s ∧ d = s.datum := by
  have hdistinct := (Config.gathers_ofItems children).distinct
  have hknown : (∀ line ∈ Block.ofItems children, line.1 ∈ nodeFields.keys) ↔
      ∀ item ∈ children, item.key ∈ ["Name", "Address", "Prefix", "StoreRates"] :=
    Config.forall_keys_ofItems children
  show (Schema.record "NodeConfig" true nodeFields).decode _ = _ ↔ _
  rw [Config.decode_strict_eq_ok_iff plain_nodeFields rfl hdistinct, hknown]
  constructor
  · rintro ⟨hkeys, values, hvalues, rfl⟩
    obtain ⟨s, htells, heq⟩ := each_nodeFields_eq_ok_iff.mp hvalues
    exact ⟨s, ⟨htells, hkeys⟩, heq⟩
  · rintro ⟨s, h, rfl⟩
    exact ⟨h.known, _, each_nodeFields_eq_ok_iff.mpr ⟨s, h.toTells, rfl⟩, rfl⟩

/-- A value is no node, whatever it is: a record is read from a block. -/
theorem decode_node_ofValue (v : Config.Value) (d : Datum) :
    Settings.nodeSchema.decode (.entry (.ofValue v)) ≠ .ok d := by
  intro h
  obtain ⟨_, _, _, hkeys, -⟩ := Config.decode_record_eq_ok_iff.mp h
  cases v <;> cases hkeys

/-! ### All nodes -/

/-- The blocks with something inside, in their order. The others list nothing and are not seen by
the decoder. -/
def filled (items : List Item) : List Item := items.filter fun item => !item.children.isEmpty

/-- Nothing but blocks without values, of which those with something inside describe nodes. Of
blocks with nothing inside nothing is asked but their key. -/
structure Accepts (items : List Item) (nodes : List NodeSettings) : Prop where
  keys : ∀ item ∈ items, item.key = "Node"
  bare : ∀ item ∈ items, item.values = []
  blocks : List.Forall₂ (fun item s => Describes item.children s) (filled items) nodes

/-- What blocks without values list: one block for each that has something inside. -/
theorem listedUnder_bare {key : String} {items : List Item} (hkeys : ∀ item ∈ items, item.key = key)
    (hbare : ∀ item ∈ items, item.values = []) :
    listedUnder key (Item.lines items)
      = (filled items).map fun item => .block (Block.ofItems item.children) := by
  induction items with
  | nil => rfl
  | cons item rest ih =>
      obtain ⟨k, values, children⟩ := item
      have hkey : k = key := hkeys _ List.mem_cons_self
      have hvalues : values = [] := hbare _ List.mem_cons_self
      have hrest := ih (fun i h => hkeys i (List.mem_cons_of_mem _ h))
        (fun i h => hbare i (List.mem_cons_of_mem _ h))
      rw [Config.listedUnder_lines_cons, Config.Item.entries_eq, hrest, hvalues]
      cases children with
      | nil => simp [filled, Item.inner]
      | cons first more => simp [filled, Item.inner, hkey]

/-- A value beside the blocks is listed with them, and is then refused as a node. -/
theorem ofValue_mem_listedUnder {key : String} {items : List Item} {item : Item}
    (hitem : item ∈ items) (hkey : item.key = key) {v : Config.Value} (hv : v ∈ item.values) :
    Entry.ofValue v ∈ listedUnder key (Item.lines items) := by
  obtain ⟨k, values, children⟩ := item
  unfold listedUnder
  rw [Config.Item.lines_eq_map, List.mem_flatMap]
  refine ⟨(k, Item.entries ⟨k, values, children⟩), ?_, ?_⟩
  · rw [List.mem_filter]
    exact ⟨List.mem_map.mpr ⟨_, hitem, rfl⟩, decide_eq_true hkey⟩
  · rw [Config.Item.entries_eq]
    exact List.mem_append_left _ (List.mem_map_of_mem hv)

theorem map_ofNode_datum (nodes : List NodeSettings) :
    (nodes.map NodeSettings.datum).map Settings.ofNode = nodes := by
  rw [List.map_map]
  exact (List.map_congr_left fun s _ => ofNode_datum s).trans (List.map_id nodes)

/-- A list of nodes is made from all that is listed. Without any block the list is empty, and that
is not an error. -/
theorem decode_schema_eq_ok_iff {items : List Item} {d : Datum} :
    Settings.schema.decodeItems items = .ok d ↔
      (∀ item ∈ items, item.key = "Node") ∧
        ∃ ds, List.Forall₂ (fun e d => Settings.nodeSchema.decode (.entry e) = .ok d)
          (listedUnder "Node" (Item.lines items)) ds ∧ d = .record [("node", .list ds)] := by
  have hplain : Settings.schema.fields.Plain := .cons (by decide) (by decide) .nil
  have hkeys : (∀ line ∈ Block.ofItems items, line.1 ∈ ["Node"]) ↔
      ∀ item ∈ items, item.key = "Node" := by
    rw [Config.forall_keys_ofItems (P := fun key => key ∈ ["Node"])]
    simp only [List.mem_singleton]
  -- there is one field, so reading it is reading what its key lists
  show (Schema.record _ true Settings.schema.fields).decode _ = _ ↔ _
  rw [Config.decode_strict_eq_ok_iff hplain rfl (Config.gathers_ofItems items).distinct]
  refine and_congr hkeys ?_
  constructor
  · rintro ⟨_, hvalues, rfl⟩
    obtain ⟨_, _, hlist, hnone, rfl⟩ := Config.each_cons_eq_ok_iff.mp hvalues
    obtain ⟨ds, hds, rfl⟩ := Config.alone_list_eq_ok_iff.mp hlist
    obtain rfl := Except.ok.inj hnone
    exact ⟨ds, hds, rfl⟩
  · rintro ⟨ds, hds, rfl⟩
    have hlist := Config.alone_list_eq_ok_iff.mpr ⟨ds, hds, rfl⟩
    exact ⟨_, Config.each_cons_eq_ok_iff.mpr ⟨_, _, hlist, rfl, rfl⟩, rfl⟩

/-- The blocks decode exactly when they are accepted, and to the nodes they describe. One direction
has to see to values beside the blocks, which the decoder meets as entries. -/
theorem decode_eq_ok_iff {items : List Item} {settings : Settings} :
    Settings.decode items = .ok settings ↔ Accepts items settings.nodes := by
  constructor
  · intro h
    obtain ⟨d, hd, hsettings⟩ := bind_eq_ok.mp h
    obtain ⟨hnode, ds, hds, rfl⟩ := decode_schema_eq_ok_iff.mp hd
    have hbare : ∀ item ∈ items, item.values = [] := by
      intro item hitem
      rw [List.eq_nil_iff_forall_not_mem]
      intro v hv
      -- a value would be listed with the blocks, and it is no node
      obtain ⟨d', -, hd'⟩ :=
        exists_of_mem_right hds.flip (ofValue_mem_listedUnder hitem (hnode item hitem) hv)
      exact decode_node_ofValue v d' hd'
    rw [listedUnder_bare hnode hbare, List.forall₂_map_left_iff] at hds
    obtain rfl := Except.ok.inj hsettings
    refine ⟨hnode, hbare, ?_⟩
    show List.Forall₂ _ _ (ds.map Settings.ofNode)
    rw [List.forall₂_map_right_iff]
    refine hds.imp fun item d' hd' => ?_
    obtain ⟨s, hs, rfl⟩ := decode_node_eq_ok_iff.mp hd'
    rw [ofNode_datum]
    exact hs
  · intro h
    have hds : List.Forall₂ (fun e d => Settings.nodeSchema.decode (.entry e) = .ok d)
        (listedUnder "Node" (Item.lines items)) (settings.nodes.map NodeSettings.datum) := by
      rw [listedUnder_bare h.keys h.bare, List.forall₂_map_left_iff, List.forall₂_map_right_iff]
      exact h.blocks.imp fun item s hs => decode_node_eq_ok_iff.mpr ⟨s, hs, rfl⟩
    refine bind_eq_ok.mpr ⟨_, decode_schema_eq_ok_iff.mpr ⟨h.keys, _, hds, rfl⟩, ?_⟩
    show Except.ok (⟨(settings.nodes.map NodeSettings.datum).map Settings.ofNode⟩ : Settings) = _
    rw [map_ofNode_datum]

/-! ### The plugins -/

variable {abi : Abi}

/-- The plugins of some nodes, when a number of nodes is open already. Each has its place among all
nodes, by which it finds its connection. -/
def nodePlugins (before : Nat) (nodes : List NodeSettings) : List (String × Plugin abi Nodes) :=
  nodes.mapIdx fun i s =>
    (s.name, nodePlugin (before + i) (pathRoot (s.path.getD "")) s.storeRates)

theorem nodePlugins_cons (before : Nat) (s : NodeSettings) (rest : List NodeSettings) :
    (nodePlugins before (s :: rest) : List (String × Plugin abi Nodes))
      = (s.name, nodePlugin before (pathRoot (s.path.getD "")) s.storeRates)
        :: nodePlugins (before + 1) rest := by
  unfold nodePlugins
  rw [List.mapIdx_cons]
  simp only [Nat.add_zero, Nat.add_assoc, Nat.add_comm 1]

/-- Plugins are named as their nodes, and repeated names are not told apart here. -/
theorem map_fst_nodePlugins (before : Nat) (nodes : List NodeSettings) :
    (nodePlugins before nodes : List (String × Plugin abi Nodes)).map Prod.fst
      = nodes.map NodeSettings.name := by
  induction nodes generalizing before with
  | nil => rfl
  | cons s rest ih => rw [nodePlugins_cons, List.map_cons, List.map_cons, ih]

/-- Every plugin has the name that its block gives. -/
theorem Accepts.named {items : List Item} {nodes : List NodeSettings} (h : Accepts items nodes)
    (before : Nat) :
    List.Forall₂ (fun item p => listedUnder "Name" (Item.lines item.children) = [.text p.1])
      (filled items) (nodePlugins before nodes : List (String × Plugin abi Nodes)) := by
  have hnames : List.Forall₂
      (fun item name => listedUnder "Name" (Item.lines item.children) = [.text name])
      (filled items) (nodes.map NodeSettings.name) := by
    rw [List.forall₂_map_right_iff]
    exact h.blocks.imp fun _ _ hs => hs.name
  have hfst : (nodePlugins before nodes : List (String × Plugin abi Nodes)).map Prod.fst
      = nodes.map NodeSettings.name := map_fst_nodePlugins before nodes
  rw [← hfst, List.forall₂_map_right_iff] at hnames
  exact hnames

/-- Opening nodes never fails, and gives each its place behind those before it. A connection is made
by the first payload and not here. -/
theorem mapM_openNode (nodes : List NodeSettings) (w : World abi Nodes) :
    ∃ after : World abi Nodes, (nodes.mapM openNode).run.run w
        = (.ok (nodePlugins w.own.length nodes), after) ∧
      after.own = w.own ++ nodes.map NodeSettings.start := by
  induction nodes generalizing w with
  | nil => exact ⟨w, rfl, (List.append_nil _).symm⟩
  | cons s rest ih =>
      -- the message before it leaves the nodes alone, so the place is the number of open ones
      let logged := w.emit (Log.Event.ofText .info target ("writing " ++ s.name ++ " to " ++ s.address))
      let opened : World abi Nodes := { logged with own := logged.own ++ [s.start] }
      have hlogged : logged.own = w.own := own_emit w _
      have hopened : opened.own = w.own ++ [s.start] := congrArg (· ++ [s.start]) hlogged
      have hfirst : (openNode s).run.run w
          = (.ok (s.name, nodePlugin logged.own.length (pathRoot (s.path.getD "")) s.storeRates),
            opened) := rfl
      obtain ⟨after, hrest, hafter⟩ := ih opened
      refine ⟨after, ?_, ?_⟩
      · rw [List.mapM_cons, run_bind_of_ok hfirst, run_bind_of_ok hrest, nodePlugins_cons, hlogged,
          hopened, List.length_append]
        rfl
      · rw [hafter, hopened, List.append_assoc]
        rfl

/-- What is left to do when the blocks have been read: a warning if there are no nodes, and the
nodes. -/
theorem plugins_run_of_decode {items : List Item} {settings : Settings}
    (h : Settings.decode items = .ok settings) (w : World abi Nodes) :
    ∃ warned : World abi Nodes, warned.own = w.own ∧
      ((manager : Manager abi Nodes).plugins (some items)).run.run w
        = (settings.nodes.mapM openNode >>= fun ps => pure (.multiple ps)).run.run warned := by
  have hread : (Code.ofDecoded (Settings.decode items) : Code abi Nodes Settings).run.run w
      = (.ok settings, w) := by
    rw [h]
    rfl
  -- the warning adds to the log at most
  cases hnone : settings.nodes.isEmpty with
  | true =>
      refine ⟨_, own_emit w (Log.Event.ofText .warn target
        "no <Node> configured, nothing will be written"), ?_⟩
      refine (run_bind_of_ok hread _).trans ?_
      dsimp only
      rw [hnone]
      rfl
  | false =>
      refine ⟨w, rfl, (run_bind_of_ok hread _).trans ?_⟩
      dsimp only
      rw [hnone]
      rfl

/-- A configuration either fails to decode, and then nothing has happened, or opens one plugin for
every block with something inside: in the order of the file, each with the name its block gives, and
each for a node of its own behind those that are open already. -/
theorem plugins_accepted_or_refused (items : List Item) (w : World abi Nodes) :
    (∃ nodes after, Accepts items nodes ∧
      ((manager : Manager abi Nodes).plugins (some items)).run.run w
        = (.ok (.multiple (nodePlugins w.own.length nodes)), after) ∧
      after.own = w.own ++ nodes.map NodeSettings.start ∧
      List.Forall₂ (fun item p => listedUnder "Name" (Item.lines item.children) = [.text p.1])
        (filled items) (nodePlugins w.own.length nodes : List (String × Plugin abi Nodes))) ∨
    ((∀ nodes, ¬ Accepts items nodes) ∧
      ∃ e, ((manager : Manager abi Nodes).plugins (some items)).run.run w
        = (.error (.failed (Failure.ofDecode e)), w)) := by
  -- Decoding decides: connecting is left to the first payload, so opening a node cannot fail.
  cases hdecode : Settings.decode items with
  | error e =>
      refine .inr ⟨fun nodes haccepts => ?_, e, ?_⟩
      · have hok : Settings.decode items = .ok ⟨nodes⟩ := decode_eq_ok_iff.mpr haccepts
        rw [hdecode] at hok
        cases hok
      · show (Code.ofDecoded (Settings.decode items) >>= _).run.run w = _
        rw [hdecode]
        rfl
  | ok settings =>
      obtain ⟨warned, hwarned, hplugins⟩ := plugins_run_of_decode hdecode w
      obtain ⟨after, hnodes, hafter⟩ := mapM_openNode settings.nodes warned
      have haccepts := decode_eq_ok_iff.mp hdecode
      refine .inl ⟨settings.nodes, after, haccepts, ?_, ?_, haccepts.named _⟩
      · rw [hplugins, run_bind_of_ok hnodes, hwarned]
        rfl
      · rw [hafter, hwarned]

/-- A block with nothing inside is accepted beside a node, and gets no plugin: two blocks, one
plugin. -/
theorem plugins_empty_node :
    ∃ p after, ((manager : Manager .current Nodes).plugins (some
        [⟨"Node", [], [⟨"Name", [.text "a"], []⟩, ⟨"Address", [.text "h:1"], []⟩]⟩,
          ⟨"Node", [], []⟩])).run.run ⟨.initial, .initial, []⟩
      = (.ok (.multiple [("a", p)]), after) :=
  ⟨_, _, rfl⟩

end Graphite

end PluginKit
