import LayeredSettings.NameMap
import LayeredSettings.Proofs.Lists
import Mathlib.Data.List.Nodup
import Mathlib.Data.String.Basic

/-!
# Looking up names

What a map binds a name to after each operation, and that a map and the list of its bindings say the
same.
-/

namespace LayeredSettings.NameMap

variable {α : Type}

/-- A binding that was put in is found under its name, and the others as before. -/
private theorem lookup_insertEntry (key other : String) (value : α) (l : List (String × α)) :
    (insertEntry key value l).lookup other =
      if other = key then some value else l.lookup other := by
  induction l with
  | nil => rw [insertEntry, lookup_cons_ite]
  | cons head rest ih =>
    obtain ⟨k, v⟩ := head
    rw [insertEntry]
    split
    · rw [lookup_cons_ite]
    · next hnot =>
      split
      · next hlt =>
        rw [lookup_cons_ite, lookup_cons_ite, ih]
        by_cases hk : other = k
        · rw [if_pos hk, if_pos hk, if_neg (by rw [hk]; exact ne_of_lt hlt)]
        · rw [if_neg hk, if_neg hk]
      · next hge =>
        have hkey : key = k := le_antisymm (not_lt.mp hge) (not_lt.mp hnot)
        rw [lookup_cons_ite, lookup_cons_ite, hkey]
        by_cases hk : other = k
        · rw [if_pos hk, if_pos hk]
        · rw [if_neg hk, if_neg hk, if_neg hk]

/-- An inserted name is bound to its value, and every other name to what it was bound to. -/
theorem get?_insert (m : NameMap α) (key other : String) (value : α) :
    (m.insert key value).get? other = if other = key then some value else m.get? other :=
  lookup_insertEntry key other value m.entries

/-- The empty map binds nothing. -/
@[simp] theorem get?_empty (key : String) : (empty : NameMap α).get? key = none := rfl

/-- No name is bound twice. -/
theorem nodup_keys (m : NameMap α) : m.keys.Nodup :=
  List.pairwise_map.mpr (m.sorted.imp fun h => ne_of_lt h)

/-- A name is bound to a value exactly if the binding is in the list. -/
theorem get?_eq_some_iff (m : NameMap α) {key : String} {value : α} :
    m.get? key = some value ↔ (key, value) ∈ m.entries := by
  unfold get?
  constructor
  · intro h
    obtain ⟨before, after, hsplit, -⟩ := List.lookup_eq_some_iff.mp h
    rw [hsplit]
    simp
  · intro hmem
    cases h : m.entries.lookup key with
    | none => simpa using List.lookup_eq_none_iff.mp h (key, value) hmem
    | some other =>
      obtain ⟨before, after, hsplit, -⟩ := List.lookup_eq_some_iff.mp h
      have hother : (key, other) ∈ m.entries := by rw [hsplit]; simp
      have heq := List.inj_on_of_nodup_map m.nodup_keys hother hmem rfl
      exact congrArg some (Prod.mk.inj heq).2

/-- A name is unbound exactly if it is none of the names. -/
theorem get?_eq_none_iff (m : NameMap α) {key : String} : m.get? key = none ↔ key ∉ m.keys := by
  unfold get? keys
  rw [List.lookup_eq_none_iff, List.mem_map]
  constructor
  · rintro h ⟨entry, hentry, rfl⟩
    simpa using h entry hentry
  · intro h entry hentry
    have hne : key ≠ entry.1 := fun heq => h ⟨entry, hentry, heq.symm⟩
    simpa using hne

/-- A name is bound exactly if it is one of the names. -/
theorem contains_iff_mem_keys (m : NameMap α) {key : String} :
    m.contains key = true ↔ key ∈ m.keys := by
  unfold contains
  rw [Option.isSome_iff_ne_none, ne_eq, get?_eq_none_iff, not_not]

/-- A filtered map binds the names that pass the test, to what they were bound to. -/
theorem get?_filter (m : NameMap α) (keep : String → Bool) (key : String) :
    (m.filter keep).get? key = if keep key then m.get? key else none := by
  refine Option.ext fun value => ?_
  rw [get?_eq_some_iff]
  unfold filter
  rw [List.mem_filter, ← get?_eq_some_iff]
  by_cases hkeep : keep key <;> simp [hkeep]

/-- Without a name the map still binds every other one. -/
theorem get?_erase_of_ne (m : NameMap α) {key other : String} (hne : other ≠ key) :
    (m.erase key).get? other = m.get? other := by
  unfold erase
  rw [get?_filter, if_pos (by simpa using hne)]

/-- Nothing stands under a name that was taken out. -/
theorem get?_erase_self (m : NameMap α) (key : String) : (m.erase key).get? key = none := by
  unfold erase
  rw [get?_filter, if_neg (by simp)]

/-- A filtered map has the names that pass the test, in their order. -/
theorem keys_filter (m : NameMap α) (keep : String → Bool) :
    (m.filter keep).keys = m.keys.filter keep := by
  unfold filter keys
  rw [List.filter_map]
  rfl

/-- Of several bindings of one name that are put into a map the last counts. -/
theorem get?_foldl_insert (l : List (String × α)) (m : NameMap α) (key : String) :
    (l.foldl (fun m (k, v) => m.insert k v) m).get? key =
      (l.reverse.lookup key).or (m.get? key) := by
  induction l generalizing m with
  | nil => rfl
  | cons head rest ih =>
    obtain ⟨k, v⟩ := head
    rw [List.foldl_cons, ih, get?_insert, List.reverse_cons, List.lookup_append, Option.or_assoc]
    rw [lookup_cons_ite]
    by_cases h : key = k
    · rw [if_pos h, if_pos h]
      rfl
    · rw [if_neg h, if_neg h]
      rfl

/-- In the map of a list of bindings the last binding of a name counts. -/
theorem get?_ofList (l : List (String × α)) (key : String) :
    (ofList l).get? key = l.reverse.lookup key := by
  unfold ofList
  rw [get?_foldl_insert, get?_empty, Option.or_none]

/-- Maps with the same list of bindings are one. -/
theorem eq_of_entries_eq {m n : NameMap α} (h : m.entries = n.entries) : m = n := by
  cases m
  cases n
  cases h
  rfl

/-- Maps that bind every name alike are one. -/
theorem eq_of_get?_eq {m n : NameMap α} (hsame : ∀ key, m.get? key = n.get? key) : m = n := by
  have hmem (entry : String × α) : entry ∈ m.entries ↔ entry ∈ n.entries := by
    obtain ⟨key, value⟩ := entry
    rw [← m.get?_eq_some_iff, ← n.get?_eq_some_iff, hsame key]
  have hnodup (k : NameMap α) : k.entries.Nodup := List.Nodup.of_map _ k.nodup_keys
  have hperm := (List.perm_ext_iff_of_nodup (hnodup m) (hnodup n)).mpr hmem
  refine eq_of_entries_eq (hperm.eq_of_pairwise (fun a b _ _ hab hba => ?_) m.sorted n.sorted)
  exact absurd hab (lt_asymm hba)

/-- A binding whose name comes after all others is put at the end. -/
private theorem insertEntry_of_lt {key : String} {value : α} {l : List (String × α)}
    (hbefore : ∀ e ∈ l, e.1 < key) : insertEntry key value l = l ++ [(key, value)] := by
  induction l with
  | nil => rfl
  | cons head rest ih =>
    obtain ⟨k, v⟩ := head
    have hlt : k < key := hbefore (k, v) List.mem_cons_self
    rw [insertEntry, if_neg (not_lt.mpr hlt.le), if_pos hlt,
      ih fun e he => hbefore e (List.mem_cons_of_mem _ he)]
    rfl

/-- Bindings that go on in order are put at the end one by one. -/
private theorem entries_foldl_insert {l : List (String × α)} {m : NameMap α}
    (hsorted : (m.entries ++ l).Pairwise (fun a b => a.1 < b.1)) :
    (l.foldl (fun m (k, v) => m.insert k v) m).entries = m.entries ++ l := by
  induction l generalizing m with
  | nil => simp
  | cons head rest ih =>
    obtain ⟨k, v⟩ := head
    have hlast : (m.insert k v).entries = m.entries ++ [(k, v)] :=
      insertEntry_of_lt fun e he =>
        (List.pairwise_append.mp hsorted).2.2 e he (k, v) List.mem_cons_self
    rw [List.foldl_cons, ih (by rw [hlast]; simpa using hsorted), hlast]
    simp

/-- A map is the map of its bindings. -/
theorem ofList_entries (m : NameMap α) : ofList m.entries = m := by
  have hentries : (ofList m.entries).entries = m.entries :=
    entries_foldl_insert (m := empty) m.sorted
  exact eq_of_entries_eq hentries

/-- In a union the binding of the second map counts, if there is one. -/
theorem get?_union (m other : NameMap α) (key : String) :
    (m.union other).get? key = (other.get? key).or (m.get? key) := by
  have hlast : other.entries.reverse.lookup key = other.get? key := by
    rw [← get?_ofList, ofList_entries]
  unfold union
  rw [get?_foldl_insert, hlast]

/-- A name of a union is a name of one of the maps. -/
theorem mem_keys_union (m other : NameMap α) {key : String} :
    key ∈ (m.union other).keys ↔ key ∈ other.keys ∨ key ∈ m.keys := by
  simp only [← contains_iff_mem_keys, contains, get?_union, Option.isSome_or, Bool.or_eq_true]

end LayeredSettings.NameMap
