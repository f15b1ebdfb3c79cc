import LayeredSettings.Environment
import LayeredSettings.Proofs.NameMap
import LayeredSettings.Proofs.Registry.Keys

/-!
# Variables of settings

A setting's own variable is its name in upper case, behind the prefix unless the name carries that
already; the variable of a deprecated name is that name in upper case. Building looks at keys as
they are written, so keys of two settings may still come to one variable: if they differ in nothing
but case, or if one is the other with the prefix in front. Nothing else makes settings share a
variable.
-/

namespace LayeredSettings

namespace Text

/-- A text starts with another exactly if something put behind that one gives it. -/
theorem startsWith_iff {start s : String} :
    startsWith start s = true ↔ ∃ rest, s = start ++ rest := by
  unfold startsWith
  rw [List.isPrefixOf_iff_prefix]
  constructor
  · rintro ⟨rest, hrest⟩
    exact ⟨String.ofList rest, String.toList_inj.mp (by simp [← hrest])⟩
  · rintro ⟨rest, rfl⟩
    exact ⟨rest.toList, by simp⟩

end Text

namespace Registry

variable {r : Registry} {d e : Definition} {v : String}

/-- A name carries the prefix of the registry, in whatever case. -/
def Carries (r : Registry) (name : String) : Prop :=
  Text.startsWith (Text.upper r.envPrefix) (Text.upper name) = true

/-- The variable of a name that carries the prefix is the name in upper case. -/
theorem boundVariable_of_carries (hcarries : r.Carries d.name) :
    r.boundVariable d = Text.upper d.name :=
  if_pos (Or.inr hcarries)

/-- The variable of a name that does not carry the prefix is the name behind the prefix, both in
upper case. -/
theorem boundVariable_of_not_carries (hplain : ¬ r.Carries d.name) :
    r.boundVariable d = Text.upper r.envPrefix ++ Text.upper d.name := by
  refine if_neg ?_
  rintro (hempty | hcarries)
  · -- Every name carries the empty prefix.
    refine hplain (Text.startsWith_iff.mpr ⟨Text.upper d.name, ?_⟩)
    rw [hempty]
    rfl
  · exact hplain hcarries

/-- The variable of a name starts with the prefix in upper case. -/
theorem startsWith_boundVariable (r : Registry) (d : Definition) :
    Text.startsWith (Text.upper r.envPrefix) (r.boundVariable d) = true := by
  by_cases hcarries : r.Carries d.name
  · rw [boundVariable_of_carries hcarries]
    exact hcarries
  · rw [boundVariable_of_not_carries hcarries]
    exact Text.startsWith_iff.mpr ⟨_, rfl⟩

/-- A variable of a setting is that of its name or a deprecated name in upper case. -/
theorem mem_variableNames_iff : v ∈ r.variableNames d ↔
    v = r.boundVariable d ∨ ∃ old ∈ d.aliases, Text.upper old = v := by
  unfold variableNames
  rw [List.mem_cons, List.mem_map]

/-- A key of a setting and one of another come to the same variable. -/
inductive Meets (r : Registry) (d e : Definition) : Prop
  /-- The names are the same but for case. -/
  | names (hupper : Text.upper d.name = Text.upper e.name) : Meets r d e
  /-- A deprecated name of each is the same but for case. -/
  | aliases {old other : String} (hold : old ∈ d.aliases) (hother : other ∈ e.aliases)
      (hupper : Text.upper old = Text.upper other) : Meets r d e
  /-- A name that carries the prefix is a deprecated name of the other but for case. -/
  | carried {old : String} (hcarries : r.Carries d.name) (hold : old ∈ e.aliases)
      (hupper : Text.upper old = Text.upper d.name) : Meets r d e
  /-- A name that does not carry the prefix is a key of the other, but for case, once the prefix is
  put in front. -/
  | prefixed {key : String} (hplain : ¬ r.Carries d.name) (hkey : key ∈ e.keys)
      (hupper : Text.upper key = Text.upper r.envPrefix ++ Text.upper d.name) : Meets r d e

/-- Settings of which keys come to the same variable share one. -/
theorem Meets.exists_shared (h : r.Meets d e) :
    ∃ v, v ∈ r.variableNames d ∧ v ∈ r.variableNames e := by
  cases h with
  | names hupper =>
    refine ⟨r.boundVariable d, List.mem_cons_self, mem_variableNames_iff.mpr (Or.inl ?_)⟩
    unfold boundVariable variableName
    rw [hupper]
  | @aliases old other hold hother hupper =>
    exact ⟨Text.upper old, mem_variableNames_iff.mpr (Or.inr ⟨old, hold, rfl⟩),
      mem_variableNames_iff.mpr (Or.inr ⟨other, hother, hupper.symm⟩)⟩
  | @carried old hcarries hold hupper =>
    exact ⟨r.boundVariable d, List.mem_cons_self, mem_variableNames_iff.mpr
      (Or.inr ⟨old, hold, hupper.trans (boundVariable_of_carries hcarries).symm⟩)⟩
  | @prefixed key hplain hkey hupper =>
    refine ⟨r.boundVariable d, List.mem_cons_self, mem_variableNames_iff.mpr ?_⟩
    rw [boundVariable_of_not_carries hplain]
    rcases List.mem_cons.mp hkey with rfl | halias
    · have hcarries : r.Carries e.name := Text.startsWith_iff.mpr ⟨_, hupper⟩
      exact Or.inl ((boundVariable_of_carries hcarries).trans hupper).symm
    · exact Or.inr ⟨key, halias, hupper⟩

/-- Settings whose names have the same variable meet. -/
private theorem meets_of_boundVariable_eq (hsame : r.boundVariable d = r.boundVariable e) :
    r.Meets d e ∨ r.Meets e d := by
  by_cases hd : r.Carries d.name
  · rw [boundVariable_of_carries hd] at hsame
    by_cases he : r.Carries e.name
    · rw [boundVariable_of_carries he] at hsame
      exact Or.inl (.names hsame)
    · rw [boundVariable_of_not_carries he] at hsame
      exact Or.inr (.prefixed he List.mem_cons_self hsame)
  · rw [boundVariable_of_not_carries hd] at hsame
    by_cases he : r.Carries e.name
    · rw [boundVariable_of_carries he] at hsame
      exact Or.inl (.prefixed hd List.mem_cons_self hsame.symm)
    · rw [boundVariable_of_not_carries he] at hsame
      refine Or.inl (.names (String.toList_inj.mp ?_))
      simpa using congrArg String.toList hsame

/-- A setting meets one that has a deprecated name with the variable of its name. -/
private theorem meets_of_alias {old : String} (hold : old ∈ e.aliases)
    (hsame : Text.upper old = r.boundVariable d) : r.Meets d e := by
  by_cases hcarries : r.Carries d.name
  · exact .carried hcarries hold (hsame.trans (boundVariable_of_carries hcarries))
  · exact .prefixed hcarries (List.mem_cons_of_mem _ hold)
      (hsame.trans (boundVariable_of_not_carries hcarries))

/-- Settings share a variable exactly if keys of them come to the same one. -/
theorem exists_shared_iff : (∃ v, v ∈ r.variableNames d ∧ v ∈ r.variableNames e) ↔
    r.Meets d e ∨ r.Meets e d := by
  constructor
  · rintro ⟨v, hd, he⟩
    rcases mem_variableNames_iff.mp hd with hd | ⟨old, hold, hd⟩
    · rcases mem_variableNames_iff.mp he with he | ⟨other, hother, he⟩
      · exact meets_of_boundVariable_eq (hd.symm.trans he)
      · exact Or.inl (meets_of_alias hother (he.trans hd))
    · rcases mem_variableNames_iff.mp he with he | ⟨other, hother, he⟩
      · exact Or.inr (meets_of_alias hold (hd.trans he))
      · exact Or.inl (.aliases hold hother (hd.trans he.symm))
  · rintro (h | h)
    · exact h.exists_shared
    · obtain ⟨v, he, hd⟩ := h.exists_shared
      exact ⟨v, hd, he⟩

end Registry

namespace Environment

variable {r : Registry} {d : Definition} {env other : Environment} {v text : String}

/-- The text bound to a setting depends on the variables of the setting only. -/
theorem lookup?_congr (hsame : ∀ name ∈ r.variableNames d, env.get? name = other.get? name) :
    env.lookup? r d = other.lookup? r d :=
  findSome?_congr hsame

/-- A variable that is none of a setting's makes no difference to the setting. -/
theorem lookup?_insert_of_notMem (hv : v ∉ r.variableNames d) :
    Environment.lookup? (env.insert v text) r d = env.lookup? r d := by
  refine lookup?_congr fun name hname => ?_
  have hne : name ≠ v := fun heq => hv (heq ▸ hname)
  rw [NameMap.get?_insert, if_neg hne]

end Environment

namespace Registry

variable {r : Registry}

/-- In a registry that was built the keys of two settings differ as they are written. The settings
share a variable exactly if keys of them come to the same one all the same; and if none do, then to
set a variable, whatever the environment, makes a difference to one of the two at most. -/
theorem variables_disjoint_iff {envPrefix : String} {home : Home} {definitions : List Definition}
    (hbuild : build envPrefix home definitions = .ok r) {d e : Definition}
    (hd : d ∈ r.definitions) (he : e ∈ r.definitions) (hne : d.name ≠ e.name) :
    List.Disjoint d.keys e.keys ∧
    (List.Disjoint (r.variableNames d) (r.variableNames e) ↔ ¬ (r.Meets d e ∨ r.Meets e d)) ∧
    (¬ (r.Meets d e ∨ r.Meets e d) → ∀ (env : Environment) (v text : String),
      Environment.lookup? (env.insert v text) r d = env.lookup? r d ∨
        Environment.lookup? (env.insert v text) r e = env.lookup? r e) := by
  obtain ⟨-, h⟩ := consistent_of_build hbuild
  have hdisjoint : List.Disjoint (r.variableNames d) (r.variableNames e) ↔
      ¬ (r.Meets d e ∨ r.Meets e d) := by
    rw [← exists_shared_iff, List.disjoint_left]
    simp
  refine ⟨fun key hkd hke => ?_, hdisjoint, fun hapart env v text => ?_⟩
  · exact hne (congrArg Definition.name (h.eq_of_shared_key hd he hkd hke))
  · by_cases hv : v ∈ r.variableNames d
    · exact Or.inr (Environment.lookup?_insert_of_notMem (hdisjoint.mpr hapart hv))
    · exact Or.inl (Environment.lookup?_insert_of_notMem hv)

end Registry

/-- Limits of which one has the other's name with the prefix in front, and a host. -/
def limitsCatalog : List Definition :=
  [{ name := "limit", kind := .integer },
   { name := "APP_LIMIT", kind := .integer },
   { name := "host", kind := .string, aliases := ["limit_host"] }]

/-- The limits can be built for any prefix. -/
theorem build_limitsCatalog (envPrefix : String) :
    Registry.build envPrefix none limitsCatalog = .ok ⟨envPrefix, none, limitsCatalog⟩ := by
  -- Whether a catalog has a fault does not depend on the prefix.
  have hprefix : (Registry.mk envPrefix none limitsCatalog).fault? =
      (Registry.mk "" none limitsCatalog).fault? := rfl
  have hsound : (Registry.mk "" none limitsCatalog).fault? = none := by decide +kernel
  simp only [Registry.build, hprefix, hsound, Option.elim_none]

/-- The two limits share a variable, since the prefix is missing from one, and the host shares none
with either. -/
theorem Registry.variables_disjoint_iff_of_limits :
    ∃ r, Registry.build "APP_" none limitsCatalog = .ok r ∧ ∃ limit ∈ r.definitions,
      ∃ other ∈ r.definitions, ∃ host ∈ r.definitions, limit.name ≠ other.name ∧
        limit.name ≠ host.name ∧ List.Disjoint limit.keys other.keys ∧ r.Meets limit other ∧
        ¬ List.Disjoint (r.variableNames limit) (r.variableNames other) ∧
        List.Disjoint (r.variableNames limit) (r.variableNames host) ∧
        ¬ (r.Meets limit host ∨ r.Meets host limit) := by
  let r : Registry := ⟨"APP_", none, limitsCatalog⟩
  let limit := limitsCatalog[0]
  let other := limitsCatalog[1]
  let host := limitsCatalog[2]
  have hlimit : limit ∈ r.definitions := List.getElem_mem _
  have hother : other ∈ r.definitions := List.getElem_mem _
  have hhost : host ∈ r.definitions := List.getElem_mem _
  have hplain : ¬ r.Carries limit.name := by
    unfold Registry.Carries
    decide +kernel
  have hmeets : r.Meets limit other := .prefixed hplain List.mem_cons_self (by decide +kernel)
  have hapart : List.Disjoint (r.variableNames limit) (r.variableNames host) := by
    have hnone : ∀ v ∈ r.variableNames limit, v ∉ r.variableNames host := by decide +kernel
    exact fun v hv hw => hnone v hv hw
  obtain ⟨hkeys, hshared, -⟩ :=
    Registry.variables_disjoint_iff (build_limitsCatalog _) hlimit hother (by decide)
  obtain ⟨-, hdisjoint, -⟩ :=
    Registry.variables_disjoint_iff (build_limitsCatalog _) hlimit hhost (by decide)
  exact ⟨r, build_limitsCatalog _, limit, hlimit, other, hother, host, hhost, by decide, by decide,
    hkeys, hmeets, fun hnot => hshared.mp hnot (Or.inl hmeets), hapart, hdisjoint.mp hapart⟩

/-- One variable sets two settings of a registry that was built. -/
theorem one_variable_sets_two :
    ∃ r, Registry.build "APP_" none limitsCatalog = .ok r ∧ ∃ limit ∈ r.definitions,
      ∃ other ∈ r.definitions, limit.name ≠ other.name ∧
        "APP_LIMIT" ∈ r.variableNames limit ∧ "APP_LIMIT" ∈ r.variableNames other ∧
        Environment.lookup? (.ofList [("APP_LIMIT", "5")]) r limit = some "5" ∧
        Environment.lookup? (.ofList [("APP_LIMIT", "5")]) r other = some "5" :=
  ⟨_, build_limitsCatalog _, limitsCatalog[0], List.getElem_mem _, limitsCatalog[1],
    List.getElem_mem _, by decide, by decide +kernel, by decide +kernel, by decide +kernel,
    by decide +kernel⟩

end LayeredSettings
