import LayeredSettings.Proofs.CommandLine.Outcome
import LayeredSettings.Proofs.Context.ThreadStack
import LayeredSettings.Proofs.Settings.Secrecy

/-!
# Masked output

What is seen of a command that shows something comes down to what it shows. The settings in effect
and the stored values of a profile are shown alike, as long as secrets are masked, where they differ
in nothing but secrets: the texts, the layers and the level of the log give away no more.
-/

namespace LayeredSettings

/-- What is shown of each setting with secrets masked: its name, its layer and its text. -/
def Settings.masked (s : Settings) : List (String × Source × String) :=
  s.entries.map fun e => (e.name, e.source, e.display false)

section Resembling

variable {s t : Settings} {e f : Entry}

/-- Entries that resemble one another have one name. -/
theorem Entry.Resembles.name_eq (hef : e.Resembles f) : e.name = f.name := by
  cases hef <;> rfl

/-- Snapshots that resemble one another are shown alike, secrets masked. -/
theorem Settings.Resembles.masked_eq (hst : s.Resembles t) : s.masked = t.masked := by
  refine map_eq_of_forall₂ hst fun e f hef => ?_
  cases hef <;> rfl

/-- What is found under a name in snapshots that resemble one another does too. -/
theorem Settings.Resembles.get? (hst : s.Resembles t) (name : String) :
    Option.Rel Entry.Resembles (s.get? name) (t.get? name) := by
  obtain ⟨entries⟩ := s
  obtain ⟨others⟩ := t
  change List.Forall₂ _ entries others at hst
  change Option.Rel _ (entries.find? (·.name = name)) (others.find? (·.name = name))
  induction hst with
  | nil => exact .none
  | @cons e f rest rest' hef _ ih =>
    rw [List.find?_cons, List.find?_cons, hef.name_eq]
    split
    · exact .some hef
    · exact ih

/-- The level of the log follows no secret. -/
theorem Settings.Resembles.levelName_eq (hst : s.Resembles t) (profile : Option String)
    (base : String) :
    SettingsContext.levelName ⟨s, profile⟩ base = SettingsContext.levelName ⟨t, profile⟩ base := by
  have hget := hst.get? levelSetting
  unfold SettingsContext.levelName
  generalize s.get? levelSetting = found, t.get? levelSetting = found' at hget ⊢
  cases hget with
  | none => rfl
  | some hef =>
    cases hef with
    | same e => rfl
    | secrets name text other source => cases source <;> rfl

/-- Contexts whose settings resemble one another are listed alike, secrets masked. -/
theorem CommandLine.contextLines_eq_of_resembles (hst : s.Resembles t) (profile : Option String)
    {options : ViewOptions} (hmasked : options.showSecrets = false) :
    contextLines options ⟨s, profile⟩ = contextLines options ⟨t, profile⟩ := by
  -- A line tells what is shown of the setting with secrets masked, and no more.
  have hlines (u : Settings) : contextLines options ⟨u, profile⟩ =
      ("PREFECT_PROFILE='" ++ profile.getD "" ++ "'") ::
        (u.masked.filter fun shown => options.showDefaults || shown.2.1 ≠ .default).map
          fun shown =>
            let line := shown.1 ++ "='" ++ shown.2.2 ++ "'"
            if options.hideSources then line else line ++ " " ++ shown.2.1.remark := by
    unfold contextLines Settings.masked entryLine
    rw [List.filter_map, List.map_map, hmasked]
    rfl
  rw [hlines, hlines, hst.masked_eq]

end Resembling

namespace CommandLine

namespace Work

variable {α β : Type} {desk desk' : Desk}

/-- What is seen of work: how it ends, the lines printed, and the error that the user is told. -/
def seen (work : Work α) (desk : Desk) :
    Except SettingsError α × List String × Option SettingsError :=
  ((work desk).1, (work desk).2.lines, (work desk).2.rejection)

/-- Work of which the same is seen prints the same. -/
theorem printed_eq_of_seen_eq {work work' : Work α} (hseen : work.seen desk = work'.seen desk') :
    (work desk).2.printed = (work' desk').2.printed := by
  obtain ⟨-, hrest⟩ := Prod.mk.inj hseen
  obtain ⟨hlines, hrejection⟩ := Prod.mk.inj hrest
  unfold Desk.printed
  rw [hlines, hrejection]

/-- After a step that succeeds, what is seen is what is seen of the rest. -/
theorem seen_bind {work : Work α} {rest : α → Work β} {a : α} {left : Desk}
    (hran : work desk = (.ok a, left)) : (work >>= rest).seen desk = (rest a).seen left := by
  unfold seen
  rw [run_bind_of_ok hran]

/-- Errors are told alike after work of which the same is seen. -/
theorem seen_rejecting_congr {work work' : Work ℕ} (hseen : work.seen desk = work'.seen desk') :
    (rejecting work).seen desk = (rejecting work').seen desk' := by
  unfold seen rejecting at *
  cases hran : work desk with
  | mk result left =>
    cases hran' : work' desk' with
    | mk result' left' =>
      rw [hran, hran'] at hseen
      obtain ⟨rfl, hrest⟩ := Prod.mk.inj hseen
      obtain ⟨hlines, hrejection⟩ := Prod.mk.inj hrest
      cases result with
      | ok code => exact hseen
      | error e =>
        dsimp only at hlines hrejection ⊢
        split
        · exact congrArg (Except.ok rejectedCode, ·, some e) hlines
        · exact hseen

/-- Telling errors twice is telling them once. -/
theorem rejecting_rejecting (work : Work ℕ) : rejecting (rejecting work) = rejecting work := by
  funext desk
  unfold rejecting
  cases hran : work desk with
  | mk result left =>
    cases result with
    | ok code => rfl
    | error e =>
      dsimp only
      by_cases he : e.userMessage?.isSome
      · rw [if_pos he]
        rfl
      · rw [if_neg he]
        simp only [if_neg he]

/-- Work that prints lines about what is found, unless it is not. -/
def present (found : Except SettingsError α) (lines : α → List String) : Work ℕ := do
  print (lines (← ofExcept found))
  return doneCode

/-- What is found is seen only by its lines. -/
theorem seen_present_congr {found : Except SettingsError α} {found' : Except SettingsError β}
    {lines : α → List String} {lines' : β → List String}
    (hlines : desk.lines = desk'.lines) (hrejection : desk.rejection = desk'.rejection)
    (hfound : found.map lines = found'.map lines') :
    (present found lines).seen desk = (present found' lines').seen desk' := by
  cases found with
  | error e =>
    cases found' with
    | error e' =>
      cases hfound
      exact congrArg₂ (Except.error e, ·, ·) hlines hrejection
    | ok b => cases hfound
  | ok a =>
    cases found' with
    | error e' => cases hfound
    | ok b =>
      have hshown : lines a = lines' b := Except.ok.inj hfound
      change (Except.ok doneCode, desk.lines ++ lines a, desk.rejection) =
        (Except.ok doneCode, desk'.lines ++ lines' b, desk'.rejection)
      rw [hlines, hshown, hrejection]

/-- The context that a session enters with a hook. -/
def entered (session : Session) (hook : Option Hook) (c : Collection) :
    Except SettingsError SettingsContext :=
  Sources.admitted ⟨session.registry, session.env, c⟩ (.error .noActiveContext)
    { profile := session.profile } hook

/-- Nothing is seen of what led from a desk to another, and the files are as they were. -/
structure Unseen (desk left : Desk) : Prop where
  /-- No lines were printed. -/
  lines_eq : left.lines = desk.lines
  /-- The user was told of no error. -/
  rejection_eq : left.rejection = desk.rejection
  /-- No file has changed. -/
  files_eq : left.files = desk.files

/-- Nothing is seen of steps of which nothing is seen. -/
theorem Unseen.trans {desk'' : Desk} (h : Unseen desk desk') (h' : Unseen desk' desk'') :
    Unseen desk desk'' :=
  ⟨h'.lines_eq.trans h.lines_eq, h'.rejection_eq.trans h.rejection_eq,
    h'.files_eq.trans h.files_eq⟩

/-- Loading the profiles gives what the profiles file holds, and nothing is seen of it. -/
theorem profiles_unseen (session : Session) (desk : Desk) : ∃ left,
    profiles session desk = (Store.loadFrom desk.files session.path, left) ∧ Unseen desk left ∧
      left.thread.stack = desk.thread.stack :=
  ⟨_, rfl, ⟨rfl, rfl, rfl⟩, rfl⟩

/-- Entering a context gives a guard or the error that calls it off, and nothing is seen of it. -/
theorem enter_unseen (session : Session) (c : Collection) (hook : Option Hook) (desk : Desk) :
    ∃ left, enter session c hook desk =
        (.ok (desk.thread.attemptGuard none hook (entered session hook c)), left) ∧
      Unseen desk left ∧
      left.thread.stack = desk.thread.stack.attempt none (entered session hook c) := by
  let sources : Sources := ⟨session.registry, session.env, c⟩
  let request : Request := { profile := session.profile }
  have hguard : (desk.thread.use sources none request hook).1 =
      desk.thread.attemptGuard none hook (entered session hook c) :=
    Thread.use_fst desk.thread sources none request hook
  refine ⟨{ desk with thread := (desk.thread.use sources none request hook).2 }, ?_,
    ⟨rfl, rfl, rfl⟩, Thread.use_snd_stack desk.thread sources none request hook⟩
  rw [← hguard]
  rfl

end Work

/-- The lines that show what a profile stores. -/
def inspectedLines (session : Session) (reveal : Bool) (format : OutputFormat) (name : String)
    (p : Profile) : List String :=
  match format with
  | .json => [storedObject session reveal p]
  | .text => storedLines session reveal name p

section Run

variable {session : Session} {hook : Option Hook} {desk : Desk} {c : Collection}

/-- Of a command run in the context of a session what is seen is what is seen of the command, at a
desk where nothing was seen yet. If no context is entered, a command that reads the settings is not
done. -/
theorem seen_run (hook : Option Hook) (command : Command)
    (hload : Store.loadFrom desk.files session.path = .ok c) : ∃ left, Work.Unseen desk left ∧
      left.thread.stack = desk.thread.stack.attempt none (Work.entered session hook c) ∧
      (run session hook command).seen desk = (Work.rejecting
        (match Work.entered session hook c with
          | .ok _ => command.perform session
          | .error e => do
            if command.readsSettings then throw e
            Work.report [.settingsUnresolved e]
            command.perform session)).seen left := by
  obtain ⟨loaded, hloaded, hunseen, hbefore⟩ := Work.profiles_unseen session desk
  obtain ⟨left, hleft, hunseen', hafter⟩ := Work.enter_unseen session c hook loaded
  rw [hload] at hloaded
  refine ⟨left, hunseen.trans hunseen', hbefore ▸ hafter, ?_⟩
  unfold run
  cases hcontext : Work.entered session hook c with
  | error e =>
    refine Work.seen_rejecting_congr ?_
    rw [Work.seen_bind hloaded, Work.seen_bind hleft, hcontext]
    rfl
  | ok context =>
    refine .trans ?_ (congrArg (Work.seen · left) (Work.rejecting_rejecting _))
    refine Work.seen_rejecting_congr ?_
    rw [Work.seen_bind hloaded, Work.seen_bind hleft, hcontext]
    rfl

/-- Viewing the settings shows the context that is entered, or tells why there is none. -/
theorem seen_run_view {options : ViewOptions}
    (hload : Store.loadFrom desk.files session.path = .ok c)
    (hstack : desk.thread.stack = .empty) :
    (run session hook (.view options)).seen desk =
      (Work.rejecting
        (Work.present (Work.entered session hook c) (contextLines options))).seen desk := by
  obtain ⟨left, hnothing, hentered, hseen⟩ := seen_run hook (.view options) hload
  rw [hseen]
  refine Work.seen_rejecting_congr ?_
  cases hcontext : Work.entered session hook c with
  | error e =>
    change (Except.error e, left.lines, left.rejection) = (.error e, desk.lines, desk.rejection)
    rw [hnothing.lines_eq, hnothing.rejection_eq]
  | ok context =>
    have hcurrent : Work.context left = (.ok context, left) := by
      change (left.thread.stack.current none, left) = _
      rw [hentered, hstack, hcontext]
      rfl
    change (viewSettings options).seen left = _
    unfold viewSettings
    rw [Work.seen_bind hcurrent]
    change (Work.present (.ok context) (contextLines options)).seen left = _
    exact Work.seen_present_congr hnothing.lines_eq hnothing.rejection_eq rfl

/-- Showing a profile presents what the profile of the name stores. -/
theorem seen_inspectProfile {name : Option String} {format : OutputFormat} {reveal : Bool}
    {left : Desk} (hload : Store.loadFrom desk.files session.path = .ok c)
    (hnothing : Work.Unseen desk left) :
    (inspectProfile session name format reveal).seen left =
      (Work.present (c.require (name.getD (session.targetProfile c)))
        (inspectedLines session reveal format (name.getD (session.targetProfile c)))).seen
          desk := by
  obtain ⟨loaded, hloaded, hunseen, -⟩ := Work.profiles_unseen session left
  rw [hnothing.files_eq, hload] at hloaded
  have hnothing := hnothing.trans hunseen
  unfold inspectProfile
  rw [Work.seen_bind hloaded]
  exact Work.seen_present_congr hnothing.lines_eq hnothing.rejection_eq rfl

/-- Inspecting a profile shows what it stores, or tells that there is none. -/
theorem seen_run_inspect {name : Option String} {format : OutputFormat} {reveal : Bool}
    (hload : Store.loadFrom desk.files session.path = .ok c) :
    (run session hook (.inspect name format reveal)).seen desk =
      (Work.rejecting (Work.present (c.require (name.getD (session.targetProfile c)))
        (inspectedLines session reveal format (name.getD (session.targetProfile c))))).seen
          desk := by
  obtain ⟨left, hnothing, -, hseen⟩ := seen_run hook (.inspect name format reveal) hload
  rw [hseen]
  refine Work.seen_rejecting_congr ?_
  cases hcontext : Work.entered session hook c with
  | error e =>
    have hreported : Work.Unseen desk
        { left with thread := left.thread.report [.settingsUnresolved e] } :=
      ⟨hnothing.lines_eq, hnothing.rejection_eq, hnothing.files_eq⟩
    exact seen_inspectProfile hload hreported
  | ok context => exact seen_inspectProfile hload hnothing

end Run

/-- Profiles that differ only in secrets are shown alike, secrets masked. -/
theorem inspectedLines_eq_of_sameBut {session session' : Session} {p q : Profile}
    (hregistry : session.registry = session'.registry)
    (hpq : p.settings.SameBut session.registry.SecretKey q.settings) (format : OutputFormat)
    (name : String) :
    inspectedLines session false format name p = inspectedLines session' false format name q := by
  have hmasks : masks session' false = masks session false := by
    funext key
    rw [masks, masks, hregistry]
  have hmasked {key : String} (hsecret : session.registry.SecretKey key) :
      masks session false key = true := by
    obtain ⟨d, hfind, hkind⟩ := hsecret
    simp [masks, hfind, hkind]
  have hempty : p.settings.entries.isEmpty = q.settings.entries.isEmpty := by
    have hkeys := congrArg List.isEmpty hpq.keys_eq
    simpa [NameMap.keys] using hkeys
  unfold inspectedLines
  cases format with
  | json =>
    dsimp only
    unfold storedObject
    rw [hmasks, hpq.map_entries_eq (f := fun key raw =>
      (key, if masks session false key then Json.Scalar.string Value.mask else raw.toJson))]
    intro key v w hsecret
    rw [if_pos (hmasked hsecret), if_pos (hmasked hsecret)]
  | text =>
    dsimp only
    unfold storedLines
    rw [hempty, hmasks, hpq.map_entries_eq (f := fun key raw =>
      key ++ "='" ++ (if masks session false key then Value.mask else raw.toText) ++ "'")]
    intro key v w hsecret
    rw [if_pos (hmasked hsecret), if_pos (hmasked hsecret)]

end CommandLine

/-- What the settings in effect for a session are resolved from, with a collection of profiles. -/
def Session.inputs (session : Session) (c : Collection) : Inputs :=
  ⟨session.env, c, session.profile, .empty⟩

/-- A session of a registry finds a collection in its profiles file, at a desk where no command has
been run. -/
structure Session.Opens (session : Session) (r : Registry) (desk : CommandLine.Desk)
    (c : Collection) : Prop where
  /-- The session is of the registry. -/
  registry_eq : session.registry = r
  /-- The profiles file holds the collection. -/
  load_eq : Store.loadFrom desk.files session.path = .ok c
  /-- No context is entered. -/
  stack_eq : desk.thread.stack = .empty
  /-- No line is printed. -/
  lines_eq : desk.lines = []
  /-- The user was told of no error. -/
  rejection_eq : desk.rejection = none

namespace CommandLine

variable {r : Registry} {session session' : Session} {desk desk' : Desk} {c c' : Collection}

/-- A session whose settings resolve enters them as its context, unless the hook calls it off. -/
theorem entered_eq (hregistry : session.registry = r) {s : Settings}
    (hs : (session.inputs c).resolve r = .ok s) (hook : Option Hook) :
    Work.entered session hook c =
      (hook.elim (.ok none) (·.onEnter ⟨s, (session.inputs c).profileName?⟩)).map
        fun _ => ⟨s, (session.inputs c).profileName?⟩ := by
  subst hregistry
  have hbuild : Sources.build ⟨session.registry, session.env, c⟩ (.error .noActiveContext)
      { profile := session.profile } = .ok ⟨s, (session.inputs c).profileName?⟩ := by
    change resolve session.registry session.env c session.profile .empty = .ok s at hs
    unfold Sources.build
    simp only [hs]
    rfl
  unfold Work.entered Sources.admitted
  rw [hbuild]
  cases hook with
  | none => rfl
  | some hook =>
    cases hanswer : hook.onEnter ⟨s, (session.inputs c).profileName?⟩ with
    | error e =>
      simp only [bind, Except.bind, Option.elim_some, hanswer]
      rfl
    | ok level =>
      simp only [bind, Except.bind, Option.elim_some, hanswer]
      rfl

/-- Viewing settings that resemble one another shows the same, secrets masked. -/
theorem seen_run_view_eq (hopens : session.Opens r desk c) (hopens' : session'.Opens r desk' c')
    (hname : (session.inputs c).profileName? = (session'.inputs c').profileName?)
    {s t : Settings} (hs : (session.inputs c).resolve r = .ok s)
    (ht : (session'.inputs c').resolve r = .ok t) (hst : s.Resembles t) (i : Invocation)
    (level : Option String) {options : ViewOptions} (hmasked : options.showSecrets = false) :
    (run session (i.hook level) (.view options)).seen desk =
      (run session' (i.hook level) (.view options)).seen desk' := by
  rw [seen_run_view hopens.load_eq hopens.stack_eq, seen_run_view hopens'.load_eq hopens'.stack_eq]
  refine Work.seen_rejecting_congr (Work.seen_present_congr
    (hopens.lines_eq.trans hopens'.lines_eq.symm)
    (hopens.rejection_eq.trans hopens'.rejection_eq.symm) ?_)
  rw [entered_eq hopens.registry_eq hs, entered_eq hopens'.registry_eq ht, ← hname]
  have hlines := contextLines_eq_of_resembles hst (session.inputs c).profileName? hmasked
  unfold Invocation.hook
  split
  · -- The hook asks for the level that the settings name, which is no secret.
    dsimp only [Option.elim_some, Hook.logging]
    rw [hst.levelName_eq]
    cases Level.parse _ with
    | error e => rfl
    | ok level => exact congrArg Except.ok hlines
  · exact congrArg Except.ok hlines

/-- Inspecting profiles that differ only in secrets shows the same, secrets masked. -/
theorem seen_run_inspect_eq (hopens : session.Opens r desk c) (hopens' : session'.Opens r desk' c')
    {name : Option String} {shown : String} (hname : name.getD (session.targetProfile c) = shown)
    (hname' : name.getD (session'.targetProfile c') = shown) {p q : Profile}
    (hp : c.get? shown = some p) (hq : c'.get? shown = some q)
    (hpq : p.settings.SameBut r.SecretKey q.settings) (hook hook' : Option Hook)
    (format : OutputFormat) :
    (run session hook (.inspect name format false)).seen desk =
      (run session' hook' (.inspect name format false)).seen desk' := by
  rw [seen_run_inspect hopens.load_eq, seen_run_inspect hopens'.load_eq, hname, hname',
    Collection.require_eq_ok_iff.mpr hp, Collection.require_eq_ok_iff.mpr hq]
  refine Work.seen_rejecting_congr (Work.seen_present_congr
    (hopens.lines_eq.trans hopens'.lines_eq.symm)
    (hopens.rejection_eq.trans hopens'.rejection_eq.symm) (congrArg Except.ok ?_))
  have hregistry := hopens.registry_eq.trans hopens'.registry_eq.symm
  exact inspectedLines_eq_of_sameBut hregistry (hopens.registry_eq ▸ hpq) format shown

/-- Two pieces of work end alike and print the same. -/
def ShowSame (work : Work ℕ) (desk : Desk) (work' : Work ℕ) (desk' : Desk) : Prop :=
  (work desk).1 = (work' desk').1 ∧ (work desk).2.printed = (work' desk').2.printed

/-- Work of which the same is seen ends alike and prints the same. -/
private theorem showSame_of_seen_eq {work work' : Work ℕ}
    (hseen : work.seen desk = work'.seen desk') : ShowSame work desk work' desk' :=
  ⟨(Prod.mk.inj hseen).1, Work.printed_eq_of_seen_eq hseen⟩

/-- Where no template carries a secret into a setting that is none, inputs that differ only in
secrets are shown alike with secrets masked: setting by setting where both resolve, so that viewing
the settings prints the same, with the hook of any command line; and inspecting profiles of one name
that differ only in secrets prints the same, as text and as JSON. -/
theorem masked_output_hides_secrets {envPrefix : String} {home : Home}
    {definitions : List Definition} {r : Registry}
    (hbuild : Registry.build envPrefix home definitions = .ok r) (hguarded : r.Guarded) :
    (∀ {i j : Inputs} {s t : Settings}, i.SameButSecrets r j → i.resolve r = .ok s →
      j.resolve r = .ok t → s.masked = t.masked) ∧
    ∀ {session session' : Session} {desk desk' : Desk} {c c' : Collection},
      session.Opens r desk c → session'.Opens r desk' c' →
      (∀ {s t : Settings}, (session.inputs c).SameButSecrets r (session'.inputs c') →
        (session.inputs c).resolve r = .ok s → (session'.inputs c').resolve r = .ok t →
        ∀ (i : Invocation) (level : Option String) (options : ViewOptions),
          options.showSecrets = false →
          ShowSame (run session (i.hook level) (.view options)) desk
            (run session' (i.hook level) (.view options)) desk') ∧
      ∀ {name : Option String} {shown : String} {p q : Profile},
        name.getD (session.targetProfile c) = shown →
        name.getD (session'.targetProfile c') = shown →
        c.get? shown = some p → c'.get? shown = some q →
        p.settings.SameBut r.SecretKey q.settings →
        ∀ (hook hook' : Option Hook) (format : OutputFormat),
          ShowSame (run session hook (.inspect name format false)) desk
            (run session' hook' (.inspect name format false)) desk' := by
  obtain ⟨-, h⟩ := Registry.consistent_of_build hbuild
  refine ⟨fun hij hs ht => (hij.resembles h hguarded hs ht).masked_eq, ?_⟩
  intro session session' desk desk' c c' hopens hopens'
  constructor
  · intro s t hsame hs ht i level options hmasked
    have hst := hsame.resembles h hguarded hs ht
    exact showSame_of_seen_eq
      (seen_run_view_eq hopens hopens' hsame.profileName hs ht hst i level hmasked)
  · intro name shown p q hname hname' hp hq hpq hook hook' format
    exact showSame_of_seen_eq
      (seen_run_inspect_eq hopens hopens' hname hname' hp hq hpq hook hook' format)

/-- A token, a text that carries it and is secret too, and a setting that is none. -/
def vaultCatalog : List Definition :=
  [{ name := "TOKEN", kind := .secret, aliases := ["KEY"] },
   { name := "VAULT", kind := .secret, defaultValue := .template "vault://${TOKEN}@${HOST}" },
   { name := "HOST", kind := .string, defaultValue := .fixed (.string "localhost") }]

/-- Files with a profile that stores a token under its old name. -/
def vaultFiles (token : String) : Files :=
  ⟨[], [(["profiles.toml"], .file (.text ("[profiles.default]\nKEY = \"" ++ token ++ "\"\n")))]⟩

/-- The profile in the files. -/
def vaultProfile (token : String) : Profile :=
  ⟨Collection.defaultName, .ofList [("KEY", .text token)]⟩

/-- A session with another token in the environment. -/
def vaultSession (token : String) : Session :=
  ⟨⟨"", none, vaultCatalog⟩, .ofList [("TOKEN", token)], ⟨"profiles.toml"⟩, some "default"⟩

/-- The settings in effect for the session. -/
def vaultSettings (token : String) : Settings :=
  ⟨[⟨"TOKEN", some (.secret token), .environment⟩,
    ⟨"VAULT", some (.secret ("vault://" ++ token ++ "@localhost")), .default⟩,
    ⟨"HOST", some (.string "localhost"), .default⟩]⟩

/-- Two sessions with different tokens, and profiles with different tokens, are shown alike. -/
theorem masked_output_hides_secrets_of_token :
    let r : Registry := ⟨"", none, vaultCatalog⟩
    let desk (token : String) : Desk := { files := vaultFiles token, thread := .start none }
    let view : Command := .view ⟨true, false, false⟩
    let inspect : Command := .inspect none .json false
    Registry.build "" none vaultCatalog = .ok r ∧ r.Guarded ∧
      (vaultSession "one").Opens r (desk "a") ⟨[vaultProfile "a"], none⟩ ∧
      (vaultSession "two").Opens r (desk "b") ⟨[vaultProfile "b"], none⟩ ∧
      ((vaultSession "one").inputs ⟨[vaultProfile "a"], none⟩).SameButSecrets r
        ((vaultSession "two").inputs ⟨[vaultProfile "b"], none⟩) ∧
      vaultSettings "one" ≠ vaultSettings "two" ∧
      (vaultSettings "one").masked = (vaultSettings "two").masked ∧
      ShowSame (run (vaultSession "one") (some (.logging "warn")) view) (desk "a")
        (run (vaultSession "two") (some (.logging "warn")) view) (desk "b") ∧
      ShowSame (run (vaultSession "one") none inspect) (desk "a")
        (run (vaultSession "two") none inspect) (desk "b") := by
  intro r desk view inspect
  have hbuild : Registry.build "" none vaultCatalog = .ok r := by
    have hsound : (Registry.mk "" none vaultCatalog).fault? = none := by decide +kernel
    simp only [Registry.build, hsound, Option.elim_none, r]
  have hguarded : r.Guarded := by
    intro d hd hpublic reference href
    simp only [r, vaultCatalog, List.mem_cons, List.not_mem_nil, or_false] at hd
    rcases hd with rfl | rfl | rfl
    · exact absurd rfl hpublic
    · exact absurd rfl hpublic
    · cases href
  have hvariable : r.SecretVariable "TOKEN" := by
    unfold Registry.SecretVariable
    decide +kernel
  have hkey : r.SecretKey "KEY" := ⟨_, rfl, rfl⟩
  have hpq : (vaultProfile "a").settings.SameBut r.SecretKey (vaultProfile "b").settings :=
    (NameMap.SameBut.refl .empty).insert fun hnot => absurd hkey hnot
  have hopens : (vaultSession "one").Opens r (desk "a") ⟨[vaultProfile "a"], none⟩ :=
    ⟨rfl, by decide +kernel, rfl, rfl, rfl⟩
  have hopens' : (vaultSession "two").Opens r (desk "b") ⟨[vaultProfile "b"], none⟩ :=
    ⟨rfl, by decide +kernel, rfl, rfl, rfl⟩
  have hsame : ((vaultSession "one").inputs ⟨[vaultProfile "a"], none⟩).SameButSecrets r
      ((vaultSession "two").inputs ⟨[vaultProfile "b"], none⟩) :=
    ⟨(NameMap.SameBut.refl .empty).insert fun hnot => absurd hvariable hnot, rfl, hpq, .refl _⟩
  have hs : ((vaultSession "one").inputs ⟨[vaultProfile "a"], none⟩).resolve r =
      .ok (vaultSettings "one") := by decide +kernel
  have ht : ((vaultSession "two").inputs ⟨[vaultProfile "b"], none⟩).resolve r =
      .ok (vaultSettings "two") := by decide +kernel
  obtain ⟨hmasked, hshown⟩ := masked_output_hides_secrets hbuild hguarded
  obtain ⟨hview, hinspect⟩ := hshown hopens hopens'
  exact ⟨hbuild, hguarded, hopens, hopens', hsame, by decide, hmasked hsame hs ht,
    hview hsame hs ht ⟨none, none, false, view⟩ none _ rfl,
    hinspect rfl rfl rfl rfl hpq none none .json⟩

end CommandLine

end LayeredSettings
