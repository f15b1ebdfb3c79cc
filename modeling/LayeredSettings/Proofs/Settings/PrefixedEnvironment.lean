import LayeredSettings.Proofs.Registry.PlainTemplates
import LayeredSettings.Proofs.Registry.Variables
import LayeredSettings.Proofs.Settings.Independence

/-!
# Environments cut down to a prefix

An environment may be captured with only those variables whose names start with the prefix of the
registry. Resolution then sees of each setting those variables that start with the prefix as it is
written. Nothing is lost if the prefix is in upper case and every deprecated name carries it, and
otherwise as long as no variable is set that a setting is bound to without the prefix.
-/

namespace LayeredSettings

variable {r : Registry} {d : Definition}

/-- The variables with a prefix are those of the environment that start with it. -/
theorem Environment.get?_withPrefix (env : Environment) (start name : String) :
    NameMap.get? (env.withPrefix start) name =
      if Text.startsWith start name then env.get? name else none :=
  NameMap.get?_filter env _ name

/-- In an environment cut down to a prefix a setting is looked up under those of its variables that
start with the prefix. -/
theorem Environment.lookup?_withPrefix (env : Environment) (start : String) (r : Registry)
    (d : Definition) : (env.withPrefix start).lookup? r d =
      ((r.variableNames d).filter (Text.startsWith start)).findSome? env.get? := by
  unfold Environment.lookup?
  induction r.variableNames d with
  | nil => rfl
  | cons name rest ih =>
    rw [List.findSome?_cons, get?_withPrefix, List.filter_cons, ih]
    by_cases hstart : Text.startsWith start name
    · rw [if_pos hstart, if_pos hstart, List.findSome?_cons]
    · rw [if_neg hstart, if_neg hstart]

/-- The prefix of a registry is in upper case, and every deprecated name carries it. -/
structure Registry.Prefixed (r : Registry) : Prop where
  /-- The prefix is the same in upper case. -/
  upper : Text.upper r.envPrefix = r.envPrefix
  /-- Deprecated names carry the prefix. -/
  aliases : ∀ d ∈ r.definitions, ∀ old ∈ d.aliases, r.Carries old

/-- All variables of settings start with a prefix in upper case that every deprecated name carries.
-/
theorem Registry.Prefixed.startsWith (h : r.Prefixed) (hd : d ∈ r.definitions) {name : String}
    (hname : name ∈ r.variableNames d) : Text.startsWith r.envPrefix name = true := by
  rw [← h.upper]
  rcases Registry.mem_variableNames_iff.mp hname with rfl | ⟨old, hold, rfl⟩
  · exact r.startsWith_boundVariable d
  · exact h.aliases d hd old hold

/-- Nothing is lost by cutting an environment down to a prefix that every variable of a setting
starts with which is set. -/
theorem resolve_withPrefix_of_startsWith (h : r.Consistent) {env : Environment} {start : String}
    (hstarts : ∀ d ∈ r.definitions, ∀ name ∈ r.variableNames d, env.contains name →
      Text.startsWith start name = true)
    (c : Collection) (profile : Option String) (overrides : Overrides) :
    resolve r (env.withPrefix start) c profile overrides = resolve r env c profile overrides := by
  have hsame : Inputs.SameButUnknown r ⟨env.withPrefix start, c, profile, overrides⟩
      ⟨env, c, profile, overrides⟩ := by
    refine ⟨fun d hd name hname => ?_, rfl, fun _ _ => Iff.rfl, fun _ _ _ _ => rfl, rfl⟩
    rw [Environment.get?_withPrefix]
    split
    · rfl
    · next hnot =>
      -- A variable that is left out is not set.
      cases hvalue : env.get? name with
      | none => rfl
      | some text =>
        have hset : env.contains name = true := by simp [NameMap.contains, hvalue]
        exact absurd (hstarts d hd name hname hset) hnot
  exact hsame.resolve_eq h

/-- An environment cut down to the prefix of a registry that was built gives a setting the text of
the first variable set among those that start with the prefix. If the prefix is in upper case and
every deprecated name carries it, then these are all variables of settings, and resolving comes to
the same end as in the whole environment; and so it does if no variable of a setting is set that
does not start with the prefix. -/
theorem resolve_withPrefix {envPrefix : String} {home : Home} {definitions : List Definition}
    (hbuild : Registry.build envPrefix home definitions = .ok r) :
    (∀ env : Environment, ∀ d ∈ r.definitions, (env.withPrefix r.envPrefix).lookup? r d =
      ((r.variableNames d).filter (Text.startsWith r.envPrefix)).findSome? env.get?) ∧
    (r.Prefixed →
      (∀ d ∈ r.definitions, ∀ name ∈ r.variableNames d,
        Text.startsWith r.envPrefix name = true) ∧
      ∀ env c profile overrides, resolve r (env.withPrefix r.envPrefix) c profile overrides =
        resolve r env c profile overrides) ∧
    ∀ env : Environment, (∀ d ∈ r.definitions, ∀ name ∈ r.variableNames d, env.contains name →
        Text.startsWith r.envPrefix name = true) →
      ∀ c profile overrides, resolve r (env.withPrefix r.envPrefix) c profile overrides =
        resolve r env c profile overrides := by
  obtain ⟨-, h⟩ := Registry.consistent_of_build hbuild
  refine ⟨fun env d _ => env.lookup?_withPrefix _ r d, fun hprefixed => ⟨?_, ?_⟩, ?_⟩
  · exact fun d hd name hname => hprefixed.startsWith hd hname
  · exact fun env => resolve_withPrefix_of_startsWith h fun d hd name hname _ =>
      hprefixed.startsWith hd hname
  · exact fun env hstarts => resolve_withPrefix_of_startsWith h hstarts

/-- The prefix of the built-in catalog is in upper case, and every deprecated name carries it. -/
theorem Registry.prefixed_builtin (home : Home) : (builtin home).Prefixed where
  upper := by
    change Text.upper builtinPrefix = builtinPrefix
    decide +kernel
  aliases := by
    change ∀ d ∈ builtinDefinitions, ∀ old ∈ d.aliases,
      Text.startsWith (Text.upper builtinPrefix) (Text.upper old) = true
    decide +kernel

/-- Of the variables of a process that the built-in settings do not know, nothing matters. -/
theorem resolve_withPrefix_of_builtin :
    let env : Environment :=
      .ofList [("HOME", "/root"), ("PREFECT_CLOUD_URL", "http://box"), ("prefect_home", "/tmp")]
    ∃ r, Registry.build builtinPrefix none builtinDefinitions = .ok r ∧ r.Prefixed ∧
      (env.withPrefix r.envPrefix).keys = ["PREFECT_CLOUD_URL"] ∧
      resolve r (env.withPrefix r.envPrefix) .empty none .empty =
        resolve r env .empty none .empty := by
  intro env
  obtain ⟨-, hcomplete, -⟩ := resolve_withPrefix (Registry.build_builtin none)
  obtain ⟨-, hsame⟩ := hcomplete (Registry.prefixed_builtin none)
  exact ⟨_, Registry.build_builtin none, Registry.prefixed_builtin none, by decide +kernel,
    hsame env .empty none .empty⟩

/-- A prefix in lower case loses the variables of all settings, though these are bound to it in
upper case, and a prefix in upper case loses the variable of a deprecated name that does not carry
it. -/
theorem prefix_loses_variables :
    (∃ r, Registry.build "app_" none limitsCatalog = .ok r ∧
      ∃ env : Environment, env = .ofList [("APP_LIMIT", "5")] ∧
        (resolve r env .empty none .empty).map (·.value? "limit") = .ok (some (.integer 5)) ∧
        (resolve r (env.withPrefix r.envPrefix) .empty none .empty).map (·.value? "limit") =
          .ok none) ∧
    ∃ r, Registry.build "APP_" none limitsCatalog = .ok r ∧
      ∃ env : Environment, env = .ofList [("LIMIT_HOST", "box")] ∧
        (resolve r env .empty none .empty).map (·.value? "host") = .ok (some (.string "box")) ∧
        (resolve r (env.withPrefix r.envPrefix) .empty none .empty).map (·.value? "host") =
          .ok none :=
  ⟨⟨_, build_limitsCatalog "app_", _, rfl, by decide +kernel, by decide +kernel⟩,
    ⟨_, build_limitsCatalog "APP_", _, rfl, by decide +kernel, by decide +kernel⟩⟩

end LayeredSettings
