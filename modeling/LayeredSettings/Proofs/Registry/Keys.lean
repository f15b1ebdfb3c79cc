import LayeredSettings.Registry.Basic
import Mathlib.Data.List.Lattice
import Mathlib.Data.List.Nodup
import Mathlib.Data.List.Pairwise

/-!
# Keys of a built registry

Building refuses a catalog in which two settings answer to one key. So in a registry that was built
each key belongs to one definition at most, and every reference of a template names a definition.
-/

namespace LayeredSettings

/-- A list holds no text twice, and none of those seen already, if none is met again. -/
theorem firstRepeated?_eq_none_iff {seen l : List String} :
    firstRepeated? seen l = none ↔ l.Nodup ∧ ∀ key ∈ l, key ∉ seen := by
  induction l generalizing seen with
  | nil => simp [firstRepeated?]
  | cons key rest ih =>
    rw [firstRepeated?]
    by_cases hkey : key ∈ seen
    · simp [hkey]
    · rw [if_neg hkey, ih, List.nodup_cons]
      constructor
      · rintro ⟨hnodup, hseen⟩
        refine ⟨⟨fun hmem => hseen key hmem List.mem_cons_self, hnodup⟩, fun other hother => ?_⟩
        rcases List.mem_cons.mp hother with rfl | hother
        · exact hkey
        · exact fun hmem => hseen other hother (List.mem_cons_of_mem key hmem)
      · rintro ⟨⟨hnot, hnodup⟩, hseen⟩
        refine ⟨hnodup, fun other hother hmem => ?_⟩
        rcases List.mem_cons.mp hmem with rfl | hmem
        · exact hnot hother
        · exact hseen other (List.mem_cons_of_mem key hother) hmem

namespace Registry

/-- A registry without a fault: keys belong to one definition each, and references are to other
definitions. -/
structure Consistent (r : Registry) : Prop where
  /-- No key is used twice. -/
  nodup_keys : (r.definitions.flatMap Definition.keys).Nodup
  /-- A template refers to settings that are known and not its own. -/
  references_known : ∀ d ∈ r.definitions, ∀ reference ∈ d.references,
    ∃ target, r.find? reference = some target ∧ target.name ≠ d.name

/-- A registry that was built is the given catalog and has no fault. -/
theorem consistent_of_build {envPrefix : String} {home : Home} {definitions : List Definition}
    {r : Registry} (hbuild : build envPrefix home definitions = .ok r) :
    r = ⟨envPrefix, home, definitions⟩ ∧ r.Consistent := by
  unfold build at hbuild
  cases hfault : (Registry.mk envPrefix home definitions).fault? with
  | some fault => simp [hfault] at hbuild
  | none =>
    have hr : Registry.mk envPrefix home definitions = r := by simpa [hfault] using hbuild
    subst hr
    unfold fault? at hfault
    split at hfault
    · simp at hfault
    · next hrepeated =>
      refine ⟨rfl, (firstRepeated?_eq_none_iff.mp hrepeated).1, fun d hd reference href => ?_⟩
      have hbad := List.findSome?_eq_none_iff.mp hfault d hd
      simp only [badReference?, Option.map_eq_none_iff, List.find?_eq_none] at hbad
      have hknown := hbad reference href
      simp only [Bool.not_eq_true', Bool.not_eq_false] at hknown
      cases hfind : (Registry.mk envPrefix home definitions).find? reference with
      | none => simp [hfind] at hknown
      | some target => exact ⟨target, rfl, by simpa [hfind] using hknown⟩

/-- A catalog without a fault is built. -/
theorem Consistent.build_eq_ok {r : Registry} (h : r.Consistent) :
    build r.envPrefix r.home r.definitions = .ok r := by
  have hrepeated : firstRepeated? [] (r.definitions.flatMap Definition.keys) = none :=
    firstRepeated?_eq_none_iff.mpr ⟨h.nodup_keys, by simp⟩
  have hbad : r.definitions.findSome? r.badReference? = none := by
    refine List.findSome?_eq_none_iff.mpr fun d hd => ?_
    unfold badReference?
    rw [Option.map_eq_none_iff, List.find?_eq_none]
    intro reference href
    obtain ⟨target, hfind, hname⟩ := h.references_known d hd reference href
    simp [hfind, hname]
  have hsound : r.fault? = none := by
    unfold fault?
    rw [hrepeated]
    exact hbad
  simp only [build, hsound, Option.elim_none]

variable {r : Registry} {d e : Definition} {key : String}

/-- The definition that is looked up is the one found. -/
theorem lookup_eq_ok_iff : r.lookup key = .ok d ↔ r.find? key = some d := by
  unfold lookup
  cases r.find? key <;> simp

section Distinct

variable (hnodup : (r.definitions.flatMap Definition.keys).Nodup)
include hnodup

/-- Where no key is given twice, two definitions that share a key are one. -/
theorem eq_of_shared_key_of_nodup (hd : d ∈ r.definitions) (he : e ∈ r.definitions)
    (hkd : key ∈ d.keys) (hke : key ∈ e.keys) : d = e := by
  have hdisjoint := (List.nodup_flatMap.mp hnodup).2
  have hsymm : Std.Symm (Function.onFun List.Disjoint Definition.keys) :=
    ⟨fun _ _ hapart => List.Disjoint.symm hapart⟩
  by_contra hne
  exact hdisjoint.forall hd he hne hkd hke

/-- Where no key is given twice, the definition that is found for a key is the one that the key
belongs to. -/
theorem find?_eq_some_iff_of_nodup :
    r.find? key = some d ↔ d ∈ r.definitions ∧ key ∈ d.keys := by
  unfold find?
  constructor
  · intro hfind
    exact ⟨List.mem_of_find?_eq_some hfind, by simpa using List.find?_some hfind⟩
  · rintro ⟨hd, hkey⟩
    cases hfind : r.definitions.find? (key ∈ ·.keys) with
    | none => exact absurd hkey (by simpa using List.find?_eq_none.mp hfind d hd)
    | some e =>
      have hkeye : key ∈ e.keys := by simpa using List.find?_some hfind
      rw [eq_of_shared_key_of_nodup hnodup (List.mem_of_find?_eq_some hfind) hd hkeye hkey]

end Distinct

/-- Two definitions that share a key are one. -/
theorem Consistent.eq_of_shared_key (h : r.Consistent) (hd : d ∈ r.definitions)
    (he : e ∈ r.definitions) (hkd : key ∈ d.keys) (hke : key ∈ e.keys) : d = e :=
  eq_of_shared_key_of_nodup h.nodup_keys hd he hkd hke

/-- A key belongs to a definition exactly if it is one of the definition's keys. -/
theorem Consistent.find?_eq_some_iff (h : r.Consistent) :
    r.find? key = some d ↔ d ∈ r.definitions ∧ key ∈ d.keys :=
  find?_eq_some_iff_of_nodup h.nodup_keys

/-- Definitions of one name are one. -/
theorem Consistent.eq_of_name_eq (h : r.Consistent) (hd : d ∈ r.definitions)
    (he : e ∈ r.definitions) (hname : d.name = e.name) : d = e :=
  h.eq_of_shared_key hd he List.mem_cons_self (hname ▸ List.mem_cons_self)

/-- No two definitions have the same name. -/
theorem Consistent.nodup_names (h : r.Consistent) : r.names.Nodup := by
  refine List.pairwise_map.mpr ((List.nodup_flatMap.mp h.nodup_keys).2.imp ?_)
  intro d e hapart hname
  exact hapart (a := d.name) List.mem_cons_self (hname ▸ List.mem_cons_self)

end Registry

end LayeredSettings
