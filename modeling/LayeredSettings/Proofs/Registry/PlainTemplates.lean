import LayeredSettings.Registry.Catalog
import LayeredSettings.Proofs.Lists
import LayeredSettings.Proofs.Registry.Keys

/-!
# Templates that never stand in the way

A template default gives a value whatever it is filled with if its setting takes any text, and
templates that do not refer to one another in a circle can be put in an order in which each comes
after those that it refers to. The built-in templates are all of this sort.
-/

namespace LayeredSettings

namespace Registry

variable {r : Registry} {d : Definition}

/-- A definition has a template that refers to a setting. -/
def Refers (r : Registry) (d target : Definition) : Prop :=
  d ∈ r.definitions ∧ ∃ reference ∈ d.references, r.find? reference = some target

/-- Template defaults are of settings that take any text, and there is no way from a template along
references back to itself. -/
structure PlainTemplates (r : Registry) : Prop where
  /-- A setting with a template is a string, a path or a secret. -/
  kind : ∀ d ∈ r.definitions, d.template?.isSome →
    d.kind = .string ∨ d.kind = .path ∨ d.kind = .secret
  /-- A setting with a template has no check of its own. -/
  unchecked : ∀ d ∈ r.definitions, d.template?.isSome → d.validator = Validator.none
  /-- References lead to no circle. -/
  acyclic : ∀ d, ¬ Relation.TransGen r.Refers d d

open Classical in
/-- References without a circle can be ranked, each template above those that it refers to. -/
theorem exists_rank (hacyclic : ∀ d, ¬ Relation.TransGen r.Refers d d) :
    ∃ rank : Definition → ℕ, ∀ d ∈ r.definitions, ∀ reference ∈ d.references,
      ∀ target ∈ r.definitions, r.find? reference = some target → rank target < rank d := by
  -- The rank of a definition counts the definitions that references lead to from it.
  refine ⟨fun d => (r.definitions.filter fun e => Relation.TransGen r.Refers d e).length, ?_⟩
  intro d hd reference href target htarget hfind
  exact length_reached_lt htarget ⟨hd, reference, href, hfind⟩ (hacyclic target)

/-- A setting that takes any text casts every raw value. -/
theorem PlainTemplates.exists_cast (hr : r.PlainTemplates) (hd : d ∈ r.definitions)
    (htemplate : d.template?.isSome) (raw : Raw) : ∃ value, d.cast r.home raw = .ok value := by
  have hcast (value : Value) (hkind : d.kind.cast r.home raw = .ok value)
      (haccepts : d.kind.accepts value) : d.cast r.home raw = .ok value := by
    unfold Definition.cast Definition.validate
    rw [hkind, hr.unchecked d hd htemplate]
    simp only [bind, Except.bind, haccepts]
    rfl
  rcases hr.kind d hd htemplate with hkind | hkind | hkind
  · exact ⟨_, hcast (.string raw.toText) (by rw [hkind]; rfl) (by rw [hkind]; rfl)⟩
  · exact ⟨_, hcast (.path (r.home.expand raw.toText)) (by rw [hkind]; rfl) (by rw [hkind]; rfl)⟩
  · exact ⟨_, hcast (.secret raw.toText) (by rw [hkind]; rfl) (by rw [hkind]; rfl)⟩

/-- The built-in catalog can be built for any home directory. -/
theorem build_builtin (home : Home) :
    build builtinPrefix home builtinDefinitions = .ok (builtin home) := by
  -- Whether a catalog has a fault does not depend on the home directory.
  have hhome : (mk builtinPrefix home builtinDefinitions).fault? = (builtin none).fault? := rfl
  have hsound : (builtin none).fault? = none := by decide +kernel
  simp only [build, hhome, hsound, Option.elim_none]
  rfl

/-- The built-in templates are of settings that take any text, and they refer to settings only whose
templates refer to none. -/
theorem plainTemplates_builtin (home : Home) : (builtin home).PlainTemplates where
  kind := by
    change ∀ d ∈ builtinDefinitions, _
    decide +kernel
  unchecked d hd htemplate := by
    have hvalidators : (builtinDefinitions.filter (·.template?.isSome)).map (·.validator) =
        List.replicate 4 Validator.none := rfl
    have hmem : d.validator ∈ List.replicate 4 Validator.none :=
      hvalidators ▸ List.mem_map_of_mem (List.mem_filter.mpr ⟨hd, htemplate⟩)
    exact List.eq_of_mem_replicate hmem
  acyclic d hcircle := by
    have hends : ∀ d ∈ builtinDefinitions, ∀ reference ∈ d.references,
        ((builtin none).find? reference).all (·.references = []) := by decide +kernel
    obtain ⟨last, -, hlast, before, hbefore, hfind⟩ := Relation.TransGen.tail'_iff.mp hcircle
    obtain ⟨-, ⟨-, reference, href, -⟩, -⟩ := Relation.TransGen.head'_iff.mp hcircle
    have hnone := hends last hlast before hbefore
    change (builtin none).find? before = some d at hfind
    rw [hfind] at hnone
    have hempty : d.references = [] := by simpa using hnone
    simp [hempty] at href

end Registry

end LayeredSettings
