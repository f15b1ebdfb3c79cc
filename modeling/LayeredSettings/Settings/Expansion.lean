import LayeredSettings.Registry.Basic
import LayeredSettings.Settings.Basic

/-!
# Template defaults

Once the layers have been merged, the settings that are still at a template default get their values
from the settings they refer to. This happens in rounds: a template is filled as soon as none of the
settings it refers to is still waiting. If all that wait refer to one another, the catalog is
cyclic.
-/

namespace LayeredSettings

/-- The text that a setting key stands for in a template: the rendered value, or nothing. -/
def renderedValue (r : Registry) (entries : List Entry) (key : String) : String :=
  (((r.find? key).bind fun d => (Settings.mk entries).value? d.name).map Value.render).getD ""

/-- The value that a template default takes among some entries. -/
def filledDefault (r : Registry) (entries : List Entry) (d : Definition) : Except Reason Value :=
  d.cast r.home (.text (Template.fill (renderedValue r entries) (d.template?.getD "")))

namespace Expansion

/-- The definition is at its default, and the default is a template. -/
def isOpen (entries : List Entry) (d : Definition) : Bool :=
  d.template?.isSome && entries.any fun e => e.name = d.name && e.source = .default

/-- None of the settings that a template refers to is waiting. -/
def isReady (r : Registry) (waiting : List Definition) (d : Definition) : Bool :=
  d.references.all fun reference =>
    (r.find? reference).any fun target => waiting.all (·.name ≠ target.name)

/-- The entries with the values of the ready templates, all filled from the entries as they stood.
-/
def fillReady (r : Registry) (ready : List Definition) (entries : List Entry) : List Entry :=
  entries.map fun e =>
    match ready.find? (·.name = e.name) with
    | none => e
    | some d =>
      match filledDefault r entries d with
      | .ok value => { e with value := some value }
      | .error _ => e

/-- What is wrong with the values of the ready templates. -/
def readyFailures (r : Registry) (ready : List Definition) (entries : List Entry) : List Failure :=
  ready.filterMap fun d =>
    match filledDefault r entries d with
    | .ok _ => none
    | .error reason => some ⟨d.name, reason⟩

/-- Where some templates are ready fewer go on waiting. -/
theorem length_filter_not_lt {waiting : List Definition} {ready : Definition → Bool}
    (h : waiting.filter ready ≠ []) :
    (waiting.filter (!ready ·)).length < waiting.length := by
  obtain ⟨d, hd⟩ := List.exists_mem_of_ne_nil _ h
  obtain ⟨hmem, hready⟩ := List.mem_filter.1 hd
  exact List.length_filter_lt_length_iff_exists.2 ⟨d, hmem, by simp [hready]⟩

/-- Fills the waiting templates in rounds. The failures of all rounds are reported together; a cycle
is reported as soon as a round has nothing to fill. -/
def rounds (r : Registry) (waiting : List Definition) (entries : List Entry)
    (failures : List Failure) : Except SettingsError (List Entry) :=
  match waiting with
  | [] => do
    SettingsError.ofFailures failures
    return entries
  | d :: rest =>
    if _h : (d :: rest).filter (isReady r (d :: rest)) = [] then
      .error (RegistryFault.cyclicTemplates ((d :: rest).map (·.name))).toError
    else
      let ready := (d :: rest).filter (isReady r (d :: rest))
      rounds r ((d :: rest).filter (!isReady r (d :: rest) ·)) (fillReady r ready entries)
        (failures ++ readyFailures r ready entries)
termination_by waiting.length
decreasing_by exact length_filter_not_lt (by assumption)

end Expansion

/-- The entries with every template default filled that no layer has replaced. -/
def expandTemplates (r : Registry) (entries : List Entry) : Except SettingsError (List Entry) :=
  Expansion.rounds r (r.definitions.filter (Expansion.isOpen entries)) entries []

end LayeredSettings
