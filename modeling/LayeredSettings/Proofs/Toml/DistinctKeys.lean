import LayeredSettings.Store.Document
import LayeredSettings.Proofs.Error
import Mathlib.Data.List.Nodup

/-!
# Keys of a document are distinct

A table under construction takes a key only once: a key that is there is replaced in its place or
refused. So the keys of a table are distinct, those of a document as well as those of all tables
within it, however they came about.
-/

namespace LayeredSettings.Toml

/-- No table within a value has a key twice. -/
inductive Value.Distinct : Value → Prop
  | string {s : String} : Distinct (.string s)
  | integer {i : Int64} : Distinct (.integer i)
  | float {x : Binary64} : Distinct (.float x)
  | boolean {b : Bool} : Distinct (.boolean b)
  | datetime : Distinct .datetime
  | array {items : List Value} (hitems : ∀ item ∈ items, Distinct item) : Distinct (.array items)
  | table {members : Table} (hkeys : (members.map (·.1)).Nodup)
      (hvalues : ∀ member ∈ members, Distinct member.2) : Distinct (.table members)

/-- The keys of a table are distinct, and so are those of all tables within it. -/
structure Table.Distinct (t : Table) : Prop where
  /-- No key stands for two members. -/
  keys : (t.map (·.1)).Nodup
  /-- No table within a member has a key twice. -/
  values : ∀ member ∈ t, member.2.Distinct

/-- A table is such a value exactly if its members are. -/
theorem Value.distinct_table_iff {members : Table} :
    (Value.table members).Distinct ↔ Table.Distinct members := by
  constructor
  · intro h
    cases h with
    | table hkeys hvalues => exact ⟨hkeys, hvalues⟩
  · intro h
    exact .table h.keys h.values

/-- No table within a node has a key twice. -/
inductive Node.Distinct : Node → Prop
  | leaf {value : Value} (hvalue : value.Distinct) : Distinct (.leaf value)
  | table {implicit dotted : Bool} {members : List (String × Node)}
      (hkeys : (members.map (·.1)).Nodup) (hnodes : ∀ member ∈ members, Distinct member.2) :
      Distinct (.table implicit dotted members)
  | tables {items : List (List (String × Node))}
      (hkeys : ∀ members ∈ items, (members.map (·.1)).Nodup)
      (hnodes : ∀ members ∈ items, ∀ member ∈ members, Distinct member.2) : Distinct (.tables items)

/-- The keys of a table under construction are distinct, and so are those of all tables within it.
-/
structure Draft.Distinct (t : Draft) : Prop where
  /-- No key stands for two members. -/
  keys : (t.members.map (·.1)).Nodup
  /-- No table within a member has a key twice. -/
  nodes : ∀ member ∈ t.members, member.2.Distinct

/-- The members of a table come from its nodes. -/
theorem Node.membersOf_eq (members : List (String × Node)) :
    Node.membersOf members = members.map fun (key, node) => (key, node.toValue) := by
  induction members with
  | nil => rfl
  | cons member rest ih => rw [Node.membersOf, ih, List.map_cons]

/-- The tables of a list come from their nodes. -/
theorem Node.itemsOf_eq (items : List (List (String × Node))) :
    Node.itemsOf items = items.map fun members => .table (Node.membersOf members) := by
  induction items with
  | nil => rfl
  | cons members rest ih => rw [Node.itemsOf, ih, List.map_cons]

/-- Nodes without a repeated key stand for members without one. -/
private theorem Node.distinct_membersOf {members : List (String × Node)}
    (hkeys : (members.map (·.1)).Nodup) (hvalues : ∀ member ∈ members, member.2.toValue.Distinct) :
    Table.Distinct (Node.membersOf members) := by
  rw [Node.membersOf_eq]
  constructor
  · rwa [List.map_map]
  · intro member hmember
    obtain ⟨⟨key, node⟩, hnode, rfl⟩ := List.mem_map.mp hmember
    exact hvalues _ hnode

/-- A node without a repeated key stands for a value without one. -/
theorem Node.Distinct.toValue {node : Node} (h : node.Distinct) : node.toValue.Distinct := by
  induction h with
  | leaf hvalue => exact hvalue
  | table hkeys _ ih => exact Value.distinct_table_iff.mpr (Node.distinct_membersOf hkeys ih)
  | tables hkeys _ ih =>
    refine .array fun item hitem => ?_
    rw [Node.itemsOf_eq] at hitem
    obtain ⟨members, hmembers, rfl⟩ := List.mem_map.mp hitem
    exact Value.distinct_table_iff.mpr
      (Node.distinct_membersOf (hkeys members hmembers) (ih members hmembers))

namespace Draft

variable {t : Draft} {key : String} {node : Node}

/-- A table without a repeated key is a node without one. -/
theorem Distinct.toNode (h : t.Distinct) : t.toNode.Distinct := .table h.keys h.nodes

/-- A table that has no members yet has no key twice. -/
theorem distinct_new : new.Distinct := ⟨List.nodup_nil, by simp [new]⟩

/-- A member that is found under a key has no key twice. -/
theorem Distinct.of_lookup (h : t.Distinct) (hfound : t.members.lookup key = some node) :
    node.Distinct := by
  obtain ⟨before, after, hsplit, -⟩ := List.lookup_eq_some_iff.mp hfound
  exact h.nodes (key, node) (by rw [hsplit]; simp)

/-- A key that is not found is new. -/
private theorem notMem_of_lookup (hnone : t.members.lookup key = none) :
    key ∉ t.members.map (·.1) := by
  rintro hmem
  obtain ⟨member, hmember, rfl⟩ := List.mem_map.mp hmem
  simpa using List.lookup_eq_none_iff.mp hnone member hmember

/-- A member under a new key keeps the keys distinct. -/
theorem Distinct.append (h : t.Distinct) (hnew : key ∉ t.members.map (·.1))
    (hnode : node.Distinct) : (t.append key node).Distinct := by
  constructor
  · have hconcat := List.Nodup.concat hnew h.keys
    rw [List.concat_eq_append] at hconcat
    simpa [Draft.append] using hconcat
  · intro member hmember
    rcases List.mem_append.mp hmember with hold | hlast
    · exact h.nodes member hold
    · obtain rfl := List.mem_singleton.mp hlast
      exact hnode

/-- A member in place of others of its key leaves the keys as they are. -/
theorem Distinct.replace (h : t.Distinct) (hnode : node.Distinct) :
    (t.replace key node).Distinct := by
  constructor
  · have hkeys : (t.replace key node).members.map (·.1) = t.members.map (·.1) := by
      unfold Draft.replace
      rw [List.map_map]
      refine List.map_congr_left fun member _ => ?_
      dsimp only [Function.comp]
      split <;> rfl
    rw [hkeys]
    exact h.keys
  · intro member hmember
    obtain ⟨⟨k, n⟩, hold, rfl⟩ := List.mem_map.mp hmember
    dsimp only
    split
    · exact hnode
    · exact h.nodes _ hold

/-- A change of a table that never makes a key stand twice. -/
def KeepsDistinct (change : Draft → Option Draft) : Prop :=
  ∀ t changed, t.Distinct → change t = some changed → changed.Distinct

/-- Changes one after another make no key stand twice if none of them does. -/
theorem keepsDistinct_foldlM {α : Type} {change : Draft → α → Option Draft} {l : List α}
    (h : ∀ a ∈ l, KeepsDistinct (change · a)) : KeepsDistinct (l.foldlM change) := by
  induction l with
  | nil =>
    rintro t _ ht ⟨⟩
    exact ht
  | cons a rest ih =>
    intro t changed ht hchanged
    dsimp only at hchanged
    rw [List.foldlM_cons] at hchanged
    obtain ⟨next, hnext, hrest⟩ := Option.bind_eq_some_iff.mp hchanged
    exact ih (fun b hb => h b (List.mem_cons_of_mem a hb)) next changed
      (h a List.mem_cons_self t next ht hnext) hrest

/-- A change at the end of a path makes no key stand twice if it makes none there. -/
theorem KeepsDistinct.modifyAt {change : Draft → Option Draft} (h : KeepsDistinct change)
    (dotted : Bool) (path : List String) :
    KeepsDistinct fun t => t.modifyAt dotted change path := by
  induction path with
  | nil => exact h
  | cons key path ih =>
    intro t changed ht hchanged
    dsimp only at hchanged
    rw [Draft.modifyAt] at hchanged
    cases hfound : t.members.lookup key with
    | none =>
      rw [hfound] at hchanged
      obtain ⟨child, hchild, rfl⟩ := Option.map_eq_some_iff.mp hchanged
      have hempty : Draft.Distinct ⟨true, dotted, []⟩ := ⟨List.nodup_nil, by simp⟩
      exact ht.append (notMem_of_lookup hfound) (ih _ child hempty hchild).toNode
    | some node =>
      have hnode := ht.of_lookup hfound
      rw [hfound] at hchanged
      cases hnode with
      | leaf _ => simp at hchanged
      | table hkeys hnodes =>
        dsimp only at hchanged
        split at hchanged
        · cases hchanged
        · obtain ⟨child, hchild, rfl⟩ := Option.map_eq_some_iff.mp hchanged
          exact ht.replace (ih _ child ⟨hkeys, hnodes⟩ hchild).toNode
      | @tables items hkeys hnodes =>
        dsimp only at hchanged
        cases hlast : items.getLast? with
        | none => simp [hlast] at hchanged
        | some last =>
          rw [hlast] at hchanged
          obtain ⟨child, hchild, rfl⟩ := Option.map_eq_some_iff.mp hchanged
          have hmem := List.mem_of_getLast? hlast
          have hdistinct := ih _ child ⟨hkeys last hmem, hnodes last hmem⟩ hchild
          refine ht.replace (.tables ?_ ?_)
          · exact List.forall_mem_append.mpr ⟨fun members hearlier =>
              hkeys members (List.dropLast_subset _ hearlier),
              List.forall_mem_singleton.mpr hdistinct.keys⟩
          · exact List.forall_mem_append.mpr ⟨fun members hearlier =>
              hnodes members (List.dropLast_subset _ hearlier),
              List.forall_mem_singleton.mpr hdistinct.nodes⟩

/-- A value under a key goes where the key is new. -/
theorem keepsDistinct_give {value : Value} (hvalue : value.Distinct) (plain : Bool)
    (key : String) : KeepsDistinct (give plain key value) := by
  intro t changed ht hchanged
  unfold give at hchanged
  split at hchanged
  · cases hchanged
  · next hfree =>
    cases hchanged
    have hnone : t.members.lookup key = none := by
      cases hfound : t.members.lookup key with
      | none => rfl
      | some node => simp [hfound] at hfree
    exact ht.append (notMem_of_lookup hnone) (.leaf hvalue)

/-- Key lines make no key stand twice. -/
theorem keepsDistinct_putLines {lines : List (List String × Value)}
    (hlines : ∀ line ∈ lines, line.2.Distinct) : KeepsDistinct (putLines · lines) := by
  refine keepsDistinct_foldlM fun line hline t changed ht hchanged => ?_
  obtain ⟨path, value⟩ := line
  dsimp only at hchanged
  unfold putLine at hchanged
  cases hlast : path.getLast? with
  | none => simp [hlast] at hchanged
  | some key =>
    rw [hlast] at hchanged
    exact (keepsDistinct_give (hlines _ hline) _ key).modifyAt true path.dropLast t changed ht
      hchanged

section Sections

variable {lines : List (List String × Value)} (hlines : ∀ line ∈ lines, line.2.Distinct)
include hlines

/-- The header of a table opens a key that is new, or moves the table that stood on the way. -/
theorem keepsDistinct_openTable (key : String) : KeepsDistinct (openTable key lines) := by
  intro t changed ht hchanged
  unfold openTable at hchanged
  cases hfound : t.members.lookup key with
  | none =>
    rw [hfound] at hchanged
    obtain ⟨child, hchild, rfl⟩ := Option.map_eq_some_iff.mp hchanged
    exact ht.append (notMem_of_lookup hfound)
      (keepsDistinct_putLines hlines new child distinct_new hchild).toNode
  | some node =>
    rw [hfound] at hchanged
    have hnode := ht.of_lookup hfound
    split at hchanged
    · next hnone => cases hnone
    · next members hsome =>
      cases hsome
      obtain ⟨child, hchild, rfl⟩ := Option.map_eq_some_iff.mp hchanged
      have hmembers : Draft.Distinct ⟨false, false, members⟩ := by
        cases hnode with
        | table hkeys hnodes => exact ⟨hkeys, hnodes⟩
      have hrest : Draft.Distinct { t with members := t.members.filter (·.1 ≠ key) } :=
        ⟨ht.keys.sublist (List.filter_sublist.map _),
          fun member hmember => ht.nodes member (List.mem_of_mem_filter hmember)⟩
      have hmoved : key ∉ (t.members.filter (·.1 ≠ key)).map (·.1) := by
        simp
      exact hrest.append hmoved (keepsDistinct_putLines hlines _ child hmembers hchild).toNode
    · cases hchanged

/-- The header of a list of tables opens a key that is new, or adds a table to the list. -/
theorem keepsDistinct_openItem (key : String) : KeepsDistinct (openItem key lines) := by
  intro t changed ht hchanged
  unfold openItem at hchanged
  obtain ⟨child, hchild, hchanged⟩ := Option.bind_eq_some_iff.mp hchanged
  have hdistinct := keepsDistinct_putLines hlines new child distinct_new hchild
  cases hfound : t.members.lookup key with
  | none =>
    rw [hfound] at hchanged
    cases hchanged
    exact ht.append (notMem_of_lookup hfound)
      (.tables (List.forall_mem_singleton.mpr hdistinct.keys)
        (List.forall_mem_singleton.mpr hdistinct.nodes))
  | some node =>
    rw [hfound] at hchanged
    have hnode := ht.of_lookup hfound
    cases hnode with
    | leaf _ => cases hchanged
    | table _ _ => cases hchanged
    | tables hkeys hnodes =>
      cases hchanged
      exact ht.replace (.tables
        (List.forall_mem_append.mpr ⟨hkeys, List.forall_mem_singleton.mpr hdistinct.keys⟩)
        (List.forall_mem_append.mpr ⟨hnodes, List.forall_mem_singleton.mpr hdistinct.nodes⟩))

end Sections

/-- A section makes no key stand twice. -/
theorem keepsDistinct_putSection {s : Section} (hlines : ∀ line ∈ s.lines, line.2.Distinct) :
    KeepsDistinct (putSection · s) := by
  intro t changed ht hchanged
  dsimp only at hchanged
  unfold putSection at hchanged
  cases hlast : s.path.getLast? with
  | none => simp [hlast] at hchanged
  | some key =>
    cases hkind : s.kind with
    | table =>
      rw [hlast, hkind] at hchanged
      exact (keepsDistinct_openTable hlines key).modifyAt false _ t changed ht hchanged
    | item =>
      rw [hlast, hkind] at hchanged
      exact (keepsDistinct_openItem hlines key).modifyAt false _ t changed ht hchanged

end Draft

end LayeredSettings.Toml
