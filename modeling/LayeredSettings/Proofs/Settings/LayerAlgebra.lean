import LayeredSettings.Proofs.Context.PrivateStacks
import LayeredSettings.Proofs.Settings.Layering
import LayeredSettings.Proofs.Settings.Refusals

/-!
# Laws of layering

Overrides on overrides are their union, in which the second win. A profile and overrides can be put
on in either order, and a profile put on twice is as good as once. All of this holds entry by entry:
what a layer supplies for an entry depends on the entry's name and, for a profile, on whether the
entry comes from a higher layer, and an entry that takes a value forgets the one that it had.
-/

namespace LayeredSettings

variable {r : Registry} {s t u : Settings} {e f : Entry}

namespace Settings

/-- Nothing is taken where nothing is supplied. -/
@[simp] theorem Layered.of_none (e : Entry) : Layered.of e none = ⟨e, []⟩ := rfl

/-- Where a supplied value fits, the entry has it. -/
theorem Layered.entry_of_fits {d : Definition} {supply : Supply}
    (hfits : (Layered.of e (some (d, supply))).failures = []) :
    ∃ value, supply.outcome = .ok value ∧
      (Layered.of e (some (d, supply))).entry = ⟨e.name, some value, supply.source⟩ := by
  obtain ⟨value, hvalue⟩ := supplyFailures_eq_nil_iff.mp hfits supply List.mem_cons_self
  refine ⟨value, hvalue, ?_⟩
  simp only [Layered.of, Entry.accept, hvalue]

/-- What is wrong with a supplied value does not depend on the entry it is supplied for. -/
theorem Layered.failures_congr (supplied : Option (Definition × Supply)) :
    (Layered.of e supplied).failures = (Layered.of f supplied).failures := by
  cases supplied <;> rfl

/-- An entry that has taken one value or kept its own takes the next all the same. -/
theorem Layered.of_of {first second : Option (Definition × Supply)}
    (hsecond : (Layered.of e second).failures = []) (hsome : second ≠ none) :
    (Layered.of (Layered.of e first).entry second).entry = (Layered.of e second).entry := by
  obtain ⟨⟨d, supply⟩, rfl⟩ := Option.ne_none_iff_exists'.mp hsome
  obtain ⟨value, hvalue, hentry⟩ := Layered.entry_of_fits hsecond
  rw [Layered.failures_congr (f := (Layered.of e first).entry)] at hsecond
  obtain ⟨other, hother, hentry'⟩ := Layered.entry_of_fits hsecond
  cases hvalue.symm.trans hother
  rw [hentry, hentry', Layered.name_entry_of]

/-- What overrides supply for an entry depends on its name only. -/
theorem overrideSupply_congr (named : NameMap Value) (hname : e.name = f.name) :
    overrideSupply r named e = overrideSupply r named f := by
  unfold overrideSupply
  rw [hname]

/-- Overrides are supplied as such. -/
theorem source_of_overrideSupply {named : NameMap Value} {d : Definition} {supply : Supply}
    (hsupply : overrideSupply r named e = some (d, supply)) : supply.source = .override := by
  unfold overrideSupply at hsupply
  obtain ⟨_, -, hsupply⟩ := Option.bind_eq_some_iff.mp hsupply
  obtain ⟨_, -, hsupply⟩ := Option.bind_eq_some_iff.mp hsupply
  cases hsupply
  rfl

/-- A union supplies for an entry what its second part does, or else what its first part does. -/
theorem overrideSupply_union (first second : NameMap Value) (e : Entry) :
    overrideSupply r (first.union second) e =
      (overrideSupply r second e).or (overrideSupply r first e) := by
  unfold overrideSupply
  cases hfind : r.find? e.name with
  | none => rfl
  | some d =>
    simp only [Option.bind_eq_bind, Option.bind_some, NameMap.get?_union]
    cases hsecond : second.get? d.name <;> simp

/-- Stored values are supplied as such, for entries that come from no higher layer. -/
theorem source_of_profileSupply {stored : NameMap Raw} {d : Definition} {supply : Supply}
    (hsupply : profileSupply r stored e = some (d, supply)) :
    supply.source = .profile ∧ (e.source = .default ∨ e.source = .profile) := by
  unfold profileSupply at hsupply
  obtain ⟨_, hguard, hsupply⟩ := Option.bind_eq_some_iff.mp hsupply
  obtain ⟨_, -, hsupply⟩ := Option.bind_eq_some_iff.mp hsupply
  obtain ⟨_, -, hsupply⟩ := Option.bind_eq_some_iff.mp hsupply
  cases hsupply
  refine ⟨rfl, ?_⟩
  by_contra hnot
  simp [guard, hnot] at hguard

/-- What stored values supply for an entry depends on its name, and on whether the entry comes from
a higher layer. -/
theorem profileSupply_congr (stored : NameMap Raw) (hname : e.name = f.name)
    (hsource : (e.source = .default ∨ e.source = .profile) ↔
      (f.source = .default ∨ f.source = .profile)) :
    profileSupply r stored e = profileSupply r stored f := by
  unfold profileSupply
  simp only [hname, hsource]

/-- Nothing that is stored is supplied for an entry from a higher layer. -/
theorem profileSupply_eq_none (stored : NameMap Raw)
    (hsource : ¬ (e.source = .default ∨ e.source = .profile)) :
    profileSupply r stored e = none := by
  unfold profileSupply
  simp [guard, hsource]

/-- Two layerings, the first of entries that were changed one by one, are the same if the same is
wrong with what they supply and, where nothing is, the entries are the same. -/
theorem layerWith_map_eq {change : Entry → Entry}
    {supply supply' : Entry → Option (Definition × Supply)}
    (hsame : ∀ e ∈ s.entries,
      (Layered.of (change e) (supply' (change e))).failures = (Layered.of e (supply e)).failures ∧
      ((Layered.of e (supply e)).failures = [] →
        (Layered.of (change e) (supply' (change e))).entry = (Layered.of e (supply e)).entry)) :
    (Settings.mk (s.entries.map change)).layerWith supply' = s.layerWith supply := by
  rw [layerWith_eq, layerWith_eq, List.flatMap_map, List.map_map,
    List.flatMap_congr fun e he => (hsame e he).1]
  cases hwrong : SettingsError.ofFailures
      (s.entries.flatMap fun e => (Layered.of e (supply e)).failures) with
  | error e => rfl
  | ok u =>
    have hnone := List.flatMap_eq_nil_iff.mp (SettingsError.ofFailures_eq_ok_iff.mp hwrong)
    have hentries : s.entries.map ((fun e => (Layered.of e (supply' e)).entry) ∘ change) =
        s.entries.map fun e => (Layered.of e (supply e)).entry :=
      List.map_congr_left fun e he => (hsame e he).2 (hnone e he)
    rw [hentries]

/-- Overrides put on what other overrides have given are the union of both put on at once. -/
theorem layerWith_union {first second : NameMap Value}
    (hfirst : s.layerWith (overrideSupply r first) = .ok t) :
    t.layerWith (overrideSupply r second) =
      s.layerWith (overrideSupply r (first.union second)) := by
  obtain ⟨hnone, rfl⟩ := layerWith_eq_ok_iff.mp hfirst
  refine layerWith_map_eq fun e he => ?_
  rw [overrideSupply_congr second (Layered.name_entry_of e _), overrideSupply_union]
  cases hsecond : overrideSupply r second e with
  | none =>
    rw [Option.none_or]
    exact ⟨(hnone e he).symm, fun _ => rfl⟩
  | some given =>
    rw [Option.some_or]
    exact ⟨Layered.failures_congr _, fun hfits => Layered.of_of hfits (by simp)⟩

/-- A profile below overrides can be put on after them. -/
theorem layerWith_swap {stored : NameMap Raw} {named : NameMap Value}
    (hprofile : s.layerWith (profileSupply r stored) = .ok t)
    (hoverrides : t.layerWith (overrideSupply r named) = .ok u) :
    ∃ other, s.layerWith (overrideSupply r named) = .ok other ∧
      other.layerWith (profileSupply r stored) = .ok u := by
  obtain ⟨hstored, rfl⟩ := layerWith_eq_ok_iff.mp hprofile
  obtain ⟨hgiven, rfl⟩ := layerWith_eq_ok_iff.mp hoverrides
  have hgiven : ∀ e ∈ s.entries, (Layered.of e (overrideSupply r named e)).failures = [] := by
    intro e he
    have hnone := hgiven _ (List.mem_map_of_mem he)
    rwa [overrideSupply_congr named (Layered.name_entry_of e _),
      Layered.failures_congr (f := e)] at hnone
  refine ⟨_, layerWith_eq_ok_iff.mpr ⟨hgiven, rfl⟩, ?_⟩
  -- An entry that is overridden is closed to the profile, so the value that the profile gave it
  -- first is lost either way. Any other entry takes from the profile only.
  have hswapped : ∀ e ∈ s.entries,
      let above := (Layered.of e (overrideSupply r named e)).entry
      let below := (Layered.of e (profileSupply r stored e)).entry
      (Layered.of above (profileSupply r stored above)).failures = [] ∧
        (Layered.of below (overrideSupply r named below)).entry =
          (Layered.of above (profileSupply r stored above)).entry := by
    intro e he
    dsimp only
    rw [overrideSupply_congr named (Layered.name_entry_of e (profileSupply r stored e))]
    cases hsupply : overrideSupply r named e with
    | none => exact ⟨hstored e he, rfl⟩
    | some given =>
      obtain ⟨d, supply⟩ := given
      have hfits := hgiven e he
      rw [hsupply] at hfits
      obtain ⟨value, -, hentry⟩ := Layered.entry_of_fits hfits
      have habove : profileSupply r stored (Layered.of e (some (d, supply))).entry = none := by
        refine profileSupply_eq_none stored ?_
        rw [hentry, source_of_overrideSupply hsupply]
        simp
      rw [habove]
      exact ⟨rfl, Layered.of_of hfits (by simp)⟩
  refine layerWith_eq_ok_iff.mpr ⟨fun above hmem => ?_, ?_⟩
  · obtain ⟨e, he, rfl⟩ := List.mem_map.mp hmem
    exact (hswapped e he).1
  · rw [List.map_map, List.map_map]
    exact congrArg Settings.mk (List.map_congr_left fun e he => (hswapped e he).2)

/-- A profile that was put on can be put on again and changes nothing. -/
theorem layerWith_profile_again {stored : NameMap Raw}
    (hok : s.layerWith (profileSupply r stored) = .ok t) :
    t.layerWith (profileSupply r stored) = .ok t := by
  have hagain := hok
  obtain ⟨hnone, rfl⟩ := layerWith_eq_ok_iff.mp hok
  refine (layerWith_map_eq fun e he => ?_).trans hagain
  cases hsupply : profileSupply r stored e with
  | none =>
    rw [Layered.of_none, hsupply]
    exact ⟨rfl, fun _ => rfl⟩
  | some given =>
    obtain ⟨d, supply⟩ := given
    have hfits := hnone e he
    rw [hsupply] at hfits
    obtain ⟨value, -, hentry⟩ := Layered.entry_of_fits hfits
    obtain ⟨hprofile, hbelow⟩ := source_of_profileSupply hsupply
    -- An entry with a value from the profile is as open to the profile as one without a value.
    have hsame : profileSupply r stored (Layered.of e (some (d, supply))).entry =
        some (d, supply) := by
      rw [← hsupply]
      refine profileSupply_congr stored (Layered.name_entry_of e _) ⟨fun _ => hbelow, fun _ => ?_⟩
      rw [hsupply, hentry]
      exact Or.inr hprofile
    rw [hsame]
    exact ⟨Layered.failures_congr _, fun _ => Layered.of_of hfits (by simp)⟩

end Settings

/-- No key of the overrides is a deprecated name. -/
def Overrides.UnderNames (r : Registry) (overrides : Overrides) : Prop :=
  ∀ key ∈ overrides.keys, ∀ d, r.find? key = some d → d.name = key

section Names

variable {overrides first second : Overrides}

/-- Keys that are names of settings are no deprecated names. -/
theorem Overrides.underNames_of_names (h : r.Consistent)
    (hnames : ∀ key ∈ overrides.keys, key ∈ r.names) : overrides.UnderNames r := by
  intro key hkey d hfind
  obtain ⟨e, he, rfl⟩ := List.mem_map.mp (hnames key hkey)
  obtain ⟨hd, hmem⟩ := h.find?_eq_some_iff.mp hfind
  rw [h.eq_of_shared_key hd he hmem List.mem_cons_self]

/-- Overrides without deprecated names stay as they are, if their settings are known. -/
theorem canonicalOverrides_of_underNames (hnames : overrides.UnderNames r)
    (hknown : ∀ key ∈ overrides.keys, r.contains key) :
    canonicalOverrides r overrides = .ok overrides := by
  unfold canonicalOverrides
  rw [mapM_eq_ok (g := id) ?_, List.map_id]
  · exact congrArg Except.ok overrides.ofList_entries
  · rintro ⟨key, value⟩ hentry
    have hkey : key ∈ overrides.keys := List.mem_map_of_mem hentry
    obtain ⟨d, hfind⟩ := Option.isSome_iff_exists.mp (hknown key hkey)
    have hlookup : r.lookup key = .ok d := Registry.lookup_eq_ok_iff.mpr hfind
    simp only [hlookup, bind, Except.bind, pure, Except.pure, hnames key hkey d hfind, id_eq]

/-- Overrides that are put on are of known settings. -/
theorem Settings.known_of_layer (hok : s.layer r overrides = .ok t) :
    ∀ key ∈ overrides.keys, r.contains key := by
  cases hunknown : overrides.keys.find? (!r.contains ·) with
  | none => simpa using List.find?_eq_none.mp hunknown
  | some key =>
    unfold layer at hok
    rw [canonicalOverrides_of_unknown hunknown] at hok
    cases hok

/-- Where the settings of the first overrides are known, the first override of an unknown setting in
a union is that of the second overrides. -/
theorem find?_unknown_union (hknown : ∀ key ∈ first.keys, r.contains key) :
    (first.union second).keys.find? (!r.contains ·) = second.keys.find? (!r.contains ·) := by
  have hsame : (first.union second).filter (!r.contains ·) = second.filter (!r.contains ·) := by
    refine NameMap.eq_of_get?_eq fun key => ?_
    rw [NameMap.get?_filter, NameMap.get?_filter, NameMap.get?_union]
    by_cases hcontains : r.contains key = true
    · simp [hcontains]
    · have hnone : first.get? key = none :=
        first.get?_eq_none_iff.mpr fun hmem => hcontains (hknown key hmem)
      rw [hnone, Option.or_none]
  rw [← List.head?_filter, ← List.head?_filter, ← NameMap.keys_filter, ← NameMap.keys_filter,
    hsame]

/-- Overrides under names, put on what other overrides under names have given, are the union of both
put on at once, also if it fails. -/
theorem Settings.layer_union (hfirst : first.UnderNames r) (hsecond : second.UnderNames r)
    (hok : s.layer r first = .ok t) : t.layer r second = s.layer r (first.union second) := by
  have hknown := known_of_layer hok
  cases hunknown : second.keys.find? (!r.contains ·) with
  | some key =>
    unfold layer
    rw [canonicalOverrides_of_unknown hunknown,
      canonicalOverrides_of_unknown ((find?_unknown_union hknown).trans hunknown)]
    rfl
  | none =>
    have hknown' : ∀ key ∈ second.keys, r.contains key := by
      simpa using List.find?_eq_none.mp hunknown
    have hunion : Overrides.UnderNames r (first.union second) := fun key hkey =>
      ((first.mem_keys_union second).mp hkey).elim (hsecond key) (hfirst key)
    have hall : ∀ key ∈ (first.union second).keys, r.contains key := fun key hkey =>
      ((first.mem_keys_union second).mp hkey).elim (hknown' key) (hknown key)
    unfold layer at hok ⊢
    rw [canonicalOverrides_of_underNames hfirst hknown] at hok
    rw [canonicalOverrides_of_underNames hsecond hknown',
      canonicalOverrides_of_underNames hunion hall]
    exact layerWith_union hok

/-- Temporary settings on temporary settings are those with the union of both overrides. -/
theorem Sources.temporary_union {sources : Sources}
    {parent : Except SettingsError SettingsContext} {context : SettingsContext}
    (hfirst : first.UnderNames sources.registry) (hsecond : second.UnderNames sources.registry)
    (hok : sources.temporary parent first = .ok context) :
    sources.temporary (.ok context) second = sources.temporary parent (first.union second) := by
  obtain ⟨seen, hseen, hok⟩ := bind_eq_ok hok
  obtain ⟨l, hl, hok⟩ := bind_eq_ok hok
  cases hok
  simp only [temporary, hseen, bind, Except.bind, Settings.layer_union hfirst hsecond hl]

end Names

/-- A context that is entered on an ordered stack is seen, also beside open scopes. -/
theorem ContextStack.Ordered.current_enter {stack : ContextStack} (h : stack.Ordered)
    (owner : Owner) (context : SettingsContext) :
    (stack.enter owner context).current owner = .ok context := by
  have htop : (stack.enter owner context).top? owner = some (stack.newFrame owner context) := by
    simp [top?, ContextStack.enter, newFrame]
  unfold current
  rw [htop]
  cases hscope : (stack.enter owner context).innermost? owner with
  | none => rfl
  | some scope =>
    have hlt : scope.sequence < stack.next :=
      h.scopes_lt_next scope (List.mem_of_find?_eq_some hscope)
    have hnot : ¬ (stack.newFrame owner context).sequence ≤ scope.sequence := Nat.not_le.mpr hlt
    simp only [younger, if_neg hnot]
    rfl

namespace Thread

variable {t entered : Thread} {sources : Sources} {owner : Owner} {overrides : Overrides}

/-- Temporary settings enter the context that is made for them. -/
theorem map_context_temporary (t : Thread) (sources : Sources) (owner : Owner)
    (overrides : Overrides) : (t.temporary sources owner overrides).1.map (·.context) =
      sources.temporary (t.current owner) overrides := by
  rw [temporary_fst]
  unfold attemptGuard
  cases sources.temporary (t.current owner) overrides <;> rfl

/-- What an owner has entered as temporary settings it sees. -/
theorem current_of_temporary (h : t.stack.Ordered) {guard : Guard}
    (hok : t.temporary sources owner overrides = (.ok guard, entered)) :
    sources.temporary (t.current owner) overrides = .ok guard.context ∧
      entered.current owner = .ok guard.context ∧ entered.stack.Ordered := by
  have hcontext := t.map_context_temporary sources owner overrides
  have hstack := t.temporary_snd_stack sources owner overrides
  rw [hok] at hcontext hstack
  rw [← hcontext] at hstack
  change entered.stack = t.stack.enter owner guard.context at hstack
  refine ⟨hcontext.symm, ?_, ?_⟩
  · unfold current
    rw [hstack]
    exact h.current_enter owner guard.context
  · rw [hstack]
    exact h.enter owner guard.context

/-- Temporary settings that can be made are entered. -/
theorem exists_guard_of_temporary {context : SettingsContext}
    (hok : sources.temporary (t.current owner) overrides = .ok context) :
    ∃ guard entered, t.temporary sources owner overrides = (.ok guard, entered) ∧
      guard.context = context := by
  have hcontext := t.map_context_temporary sources owner overrides
  rw [hok] at hcontext
  cases hresult : t.temporary sources owner overrides with
  | mk outcome entered =>
    rw [hresult] at hcontext
    cases outcome with
    | error e => cases hcontext
    | ok guard => exact ⟨guard, entered, rfl, Except.ok.inj hcontext⟩

end Thread

/-- Overrides under names on overrides are their union put on at once, errors included. A profile
that overrides were put on after can be put on after them, and once put on it makes no difference to
put it on again. So whatever has happened on a thread, temporary settings inside temporary settings
give the context, or the error, that the union of both overrides gives. -/
theorem layering_laws (r : Registry) (s : Settings) :
    (∀ (first second : Overrides) (t : Settings), first.UnderNames r → second.UnderNames r →
      s.layer r first = .ok t → t.layer r second = s.layer r (first.union second)) ∧
    (∀ (p : Profile) (overrides : Overrides) (t u : Settings), s.layerProfile r p = .ok t →
      t.layer r overrides = .ok u →
      ∃ other, s.layer r overrides = .ok other ∧ other.layerProfile r p = .ok u) ∧
    (∀ p : Profile, (do (← s.layerProfile r p).layerProfile r p) = s.layerProfile r p) ∧
    ∀ (filter : LevelFilter) (moves : List Move) (env : Environment) (profiles : Collection)
      (owner : Owner) (first second : Overrides) (guard : Guard) (inner : Thread),
      first.UnderNames r → second.UnderNames r →
      let outer := ((GuardedThread.start filter).run moves).thread
      let sources : Sources := ⟨r, env, profiles⟩
      outer.temporary sources owner first = (.ok guard, inner) →
      (inner.temporary sources owner second).1.map (·.context) =
        (outer.temporary sources owner (first.union second)).1.map (·.context) ∧
      ∀ guard' innermost, inner.temporary sources owner second = (.ok guard', innermost) →
        (outer.temporary sources owner (first.union second)).2.current owner =
          innermost.current owner := by
  refine ⟨fun first second t hfirst hsecond hok => Settings.layer_union hfirst hsecond hok,
    ?_, ?_, ?_⟩
  · intro p overrides t u hprofile hoverrides
    obtain ⟨named, hnamed, hoverrides⟩ := bind_eq_ok hoverrides
    obtain ⟨other, hother, hswapped⟩ := Settings.layerWith_swap hprofile hoverrides
    refine ⟨other, ?_, hswapped⟩
    unfold Settings.layer
    rw [hnamed]
    exact hother
  · intro p
    cases hok : s.layerProfile r p with
    | error e => rfl
    | ok t => exact Settings.layerWith_profile_again hok
  · intro filter moves env profiles owner first second guard inner hfirst hsecond outer sources hok
    have hordered : outer.stack.Ordered := ((GuardedThread.Sound.start filter).run moves).ordered
    obtain ⟨hcontext, hseen, hinner⟩ := Thread.current_of_temporary hordered hok
    have hunion : sources.temporary (inner.current owner) second =
        sources.temporary (outer.current owner) (first.union second) :=
      hseen ▸ Sources.temporary_union hfirst hsecond hcontext
    refine ⟨?_, fun guard' innermost hok' => ?_⟩
    · rw [Thread.map_context_temporary, Thread.map_context_temporary, hunion]
    · obtain ⟨hcontext', hseen', -⟩ := Thread.current_of_temporary hinner hok'
      obtain ⟨both, entered, hboth, hsame⟩ :=
        Thread.exists_guard_of_temporary (hunion ▸ hcontext')
      obtain ⟨-, hseen, -⟩ := Thread.current_of_temporary hordered hboth
      rw [hboth, hseen', hseen, hsame]

/-- A new port. -/
def newPort : Overrides := .ofList [("PORT", .integer 81)]

/-- Another new port, and a new host. -/
def newServer : Overrides := .ofList [("HOST", .string "box"), ("PORT", .integer 82)]

/-- A profile with a host, a port and an address, the host under its old name. -/
def addressProfile : Profile :=
  ⟨Collection.defaultName,
    .ofList [("ADDRESS", .text "db:1"), ("PORT", .integer 90), ("SERVER", .text "db")]⟩

/-- A new port on the address settings and then another one with a host are as good as the latter
two at once. The profile gives the address, whether it comes before or after them, but neither the
host, which is overridden, nor the port. -/
theorem layering_laws_of_address :
    ∃ r t u v outer guard inner, Registry.build "" none addressCatalog = .ok r ∧
      newPort.UnderNames r ∧ newServer.UnderNames r ∧
      addressSettings.layer r newPort = .ok t ∧
      t.layer r newServer = addressSettings.layer r (newPort.union newServer) ∧
      addressSettings.layerProfile r addressProfile = .ok u ∧ u.layer r newServer = .ok v ∧
      v.entries.map (·.source) = [.default, .profile, .override, .override] ∧
      (∃ other, addressSettings.layer r newServer = .ok other ∧
        other.layerProfile r addressProfile = .ok v) ∧
      u.layerProfile r addressProfile = .ok u ∧
      (GuardedThread.start none).run [.enter none ⟨addressSettings, none⟩] = outer ∧
      outer.thread.temporary ⟨r, .empty, .empty⟩ none newPort = (.ok guard, inner) ∧
      (inner.temporary ⟨r, .empty, .empty⟩ none newServer).1.map (·.context) =
        (outer.thread.temporary ⟨r, .empty, .empty⟩ none (newPort.union newServer)).1.map
          (·.context) := by
  let r : Registry := ⟨"", none, addressCatalog⟩
  obtain ⟨-, h⟩ := Registry.consistent_of_build build_addressCatalog
  have hport : newPort.UnderNames r := Overrides.underNames_of_names h (by decide +kernel)
  have hserver : newServer.UnderNames r := Overrides.underNames_of_names h (by decide +kernel)
  have ht : addressSettings.layer r newPort = .ok
      ⟨[⟨"URL", some (.string "http://localhost:8080/"), .default⟩,
        ⟨"ADDRESS", some (.string "localhost:8080"), .default⟩,
        ⟨"HOST", some (.string "localhost"), .default⟩,
        ⟨"PORT", some (.integer 81), .override⟩]⟩ := by decide +kernel
  let u : Settings := ⟨[⟨"URL", some (.string "http://localhost:8080/"), .default⟩,
    ⟨"ADDRESS", some (.string "db:1"), .profile⟩, ⟨"HOST", some (.string "db"), .profile⟩,
    ⟨"PORT", some (.integer 8080), .environment⟩]⟩
  let v : Settings := ⟨[⟨"URL", some (.string "http://localhost:8080/"), .default⟩,
    ⟨"ADDRESS", some (.string "db:1"), .profile⟩, ⟨"HOST", some (.string "box"), .override⟩,
    ⟨"PORT", some (.integer 82), .override⟩]⟩
  have hu : addressSettings.layerProfile r addressProfile = .ok u := by decide +kernel
  have hv : u.layer r newServer = .ok v := by decide +kernel
  obtain ⟨hunion, hswap, hagain, hnested⟩ := layering_laws r addressSettings
  have htemporary : Sources.temporary ⟨r, .empty, .empty⟩ (Thread.current
      ((GuardedThread.start none).run [.enter none ⟨addressSettings, none⟩]).thread none) newPort =
      .ok ⟨_, none⟩ := congrArg (Except.map fun s => (⟨s, none⟩ : SettingsContext)) ht
  obtain ⟨guard, inner, hinner, -⟩ := Thread.exists_guard_of_temporary htemporary
  have htwice := hagain addressProfile
  rw [hu] at htwice
  exact ⟨r, _, u, v, _, guard, inner, build_addressCatalog, hport, hserver, ht,
    hunion _ _ _ hport hserver ht, hu, hv, rfl, hswap _ _ _ _ hu hv, htwice, rfl, hinner,
    (hnested none _ .empty .empty none _ _ guard inner hport hserver hinner).1⟩

end LayeredSettings
