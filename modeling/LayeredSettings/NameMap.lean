/-!
# Values under names

A finite map from names to values whose entries stand in the order of their names, by code point.
The order is part of the type, so two maps with the same bindings are the same map.
-/

namespace LayeredSettings

/-- Bindings in strictly increasing order of their names. -/
structure NameMap (α : Type) where
  entries : List (String × α)
  sorted : entries.Pairwise (fun a b => a.1 < b.1) := by simp
  deriving DecidableEq

namespace NameMap

variable {α : Type}

/-- The map that binds nothing. -/
def empty : NameMap α := ⟨[], by simp⟩

instance : Inhabited (NameMap α) := ⟨empty⟩

/-- The names, in order. -/
def keys (m : NameMap α) : List String := m.entries.map (·.1)

/-- The value bound to a name. -/
def get? (m : NameMap α) (key : String) : Option α := m.entries.lookup key

/-- The name is bound. -/
def contains (m : NameMap α) (key : String) : Bool := (m.get? key).isSome

/-- The number of bindings. -/
def size (m : NameMap α) : Nat := m.entries.length

/-- A sorted list of bindings with one binding put in its place, replacing one of the same name. -/
def insertEntry (key : String) (value : α) : List (String × α) → List (String × α)
  | [] => [(key, value)]
  | (k, v) :: rest =>
    if key < k then (key, value) :: (k, v) :: rest
    else if k < key then (k, v) :: insertEntry key value rest
    else (key, value) :: rest

/-- What stands in the list after a binding is put in is that binding or stood there before. -/
theorem mem_insertEntry {key : String} {value : α} {l : List (String × α)} {e : String × α}
    (h : e ∈ insertEntry key value l) : e = (key, value) ∨ e ∈ l := by
  induction l with
  | nil => simpa [insertEntry] using h
  | cons head rest ih =>
    obtain ⟨k, v⟩ := head
    rw [insertEntry] at h
    split at h
    · simpa using h
    · split at h
      · rcases List.mem_cons.1 h with h | h
        · exact .inr (by simp [h])
        · exact (ih h).imp_right (List.mem_cons_of_mem _)
      · rcases List.mem_cons.1 h with h | h
        · exact .inl h
        · exact .inr (List.mem_cons_of_mem _ h)

/-- A binding put in its place keeps the order of the names. -/
theorem sorted_insertEntry (key : String) (value : α) {l : List (String × α)}
    (h : l.Pairwise (fun a b => a.1 < b.1)) :
    (insertEntry key value l).Pairwise (fun a b => a.1 < b.1) := by
  induction l with
  | nil => simp [insertEntry]
  | cons head rest ih =>
    obtain ⟨k, v⟩ := head
    obtain ⟨hhead, hrest⟩ := List.pairwise_cons.1 h
    rw [insertEntry]
    split
    · next hlt =>
      refine List.pairwise_cons.2 ⟨fun e he => ?_, h⟩
      rcases List.mem_cons.1 he with rfl | he
      · exact hlt
      · exact String.lt_trans hlt (hhead e he)
    · next hnot =>
      split
      · next hlt =>
        refine List.pairwise_cons.2 ⟨fun e he => ?_, ih hrest⟩
        rcases mem_insertEntry he with rfl | he
        · exact hlt
        · exact hhead e he
      · next hge =>
        have hkey : key = k := String.le_antisymm (String.not_lt.1 hge) (String.not_lt.1 hnot)
        exact List.pairwise_cons.2 ⟨fun e he => hkey ▸ hhead e he, hrest⟩

/-- The map with a name bound to a value, whatever it was bound to before. -/
def insert (m : NameMap α) (key : String) (value : α) : NameMap α :=
  ⟨insertEntry key value m.entries, sorted_insertEntry key value m.sorted⟩

/-- The map restricted to the names that pass a test. -/
def filter (m : NameMap α) (keep : String → Bool) : NameMap α :=
  ⟨m.entries.filter (keep ·.1), m.sorted.filter _⟩

/-- The map without a name. -/
def erase (m : NameMap α) (key : String) : NameMap α := m.filter (· != key)

/-- The map of a list of bindings; of two bindings of one name the later wins. -/
def ofList (bindings : List (String × α)) : NameMap α :=
  bindings.foldl (fun m (key, value) => m.insert key value) empty

/-- All bindings of both maps, those of the second winning. -/
def union (m other : NameMap α) : NameMap α :=
  other.entries.foldl (fun m (key, value) => m.insert key value) m

end NameMap

end LayeredSettings
