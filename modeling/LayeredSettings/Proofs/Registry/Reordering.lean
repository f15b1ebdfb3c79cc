import LayeredSettings.Proofs.Registry.Keys
import Mathlib.Data.List.Find
import Mathlib.Data.List.Perm.Basic

/-!
# Definitions in another order

A key belongs to one definition at most, so it is found whatever the order in which the definitions
stand. A catalog that can be built can therefore be built in every order.
-/

namespace LayeredSettings.Registry

/-- A registry of the same definitions, in whatever order. -/
structure Reorders (r r' : Registry) : Prop where
  /-- The prefix of the environment variables is the same. -/
  envPrefix_eq : r'.envPrefix = r.envPrefix
  /-- The home directory is the same. -/
  home_eq : r'.home = r.home
  /-- The definitions are the same up to their order. -/
  perm : r.definitions.Perm r'.definitions

namespace Reorders

variable {r r' : Registry} (hr : r.Reorders r')
include hr

/-- Keys belong to the same definitions in every order. -/
theorem find?_eq (h : r.Consistent) : r'.find? = r.find? := by
  funext key
  refine (List.find?_eq_find?_of_perm hr.perm ?_).symm
  rintro d ⟨hd, hkd⟩ e ⟨he, hke⟩
  exact h.eq_of_shared_key hd he (by simpa using hkd) (by simpa using hke)

/-- A catalog without a fault has none in any order. -/
theorem consistent (h : r.Consistent) : r'.Consistent where
  nodup_keys := (hr.perm.flatMap fun _ _ => .refl _).nodup_iff.mp h.nodup_keys
  references_known d hd reference href := by
    rw [hr.find?_eq h]
    exact h.references_known d (hr.perm.mem_iff.mpr hd) reference href

/-- Settings are bound to the same environment variables in every order. -/
theorem variableNames_eq : r'.variableNames = r.variableNames := by
  unfold variableNames boundVariable
  rw [hr.envPrefix_eq]

end Reorders

/-- A catalog can be built in every order of its definitions or in none. -/
theorem exists_build_of_perm {envPrefix : String} {home : Home}
    {definitions reordered : List Definition} (hperm : definitions.Perm reordered)
    (hbuild : ∃ r, build envPrefix home definitions = .ok r) :
    ∃ r, build envPrefix home reordered = .ok r := by
  obtain ⟨r, hbuild⟩ := hbuild
  obtain ⟨rfl, h⟩ := consistent_of_build hbuild
  have hr : Reorders ⟨envPrefix, home, definitions⟩ ⟨envPrefix, home, reordered⟩ :=
    ⟨rfl, rfl, hperm⟩
  exact ⟨_, (hr.consistent h).build_eq_ok⟩

end LayeredSettings.Registry
