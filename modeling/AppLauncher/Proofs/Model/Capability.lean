import AppLauncher.Model.Basic
import AppLauncher.Proofs.Json.Record

/-!
Setting capabilities. After a sequence of settings a capability is what its last setting says, and one that was never
set holds what it held, of whatever type. Nothing else of the model changes: a level that was missing is made empty, and
one that was there keeps its unknown fields. So of two sequences only the last settings count.
-/
namespace AppLauncher.Model

/-! ### What a model holds -/

/-- What the registry says about a model, if both levels are there. -/
def about? (model : Model) : Option Meta := model.info.bind (·.about)

/-- The value of a capability, which need not be a truth value. -/
def capability? (model : Model) (key : String) : Option Json := model.capabilities?.bind (·.get? key)

/-- A level of a model that keeps unknown fields. -/
inductive Level where
  | outer
  | info
  | about

/-- The unknown fields of a level. A level that is missing keeps nothing. -/
def keptAt (model : Model) : Level → KeyMap Json
  | .outer => model.kept
  | .info => (model.info.map (·.kept)).getD default
  | .about => (model.about?.map (·.kept)).getD default

/-- Models that have all their levels are the same if they hold the same. -/
theorem ext_of_levels {a b : Model} (levels : a.about?.isSome) (others : b.about?.isSome) (id : a.id = b.id)
    (name : a.name = b.name) (kept : ∀ level, a.keptAt level = b.keptAt level)
    (capability : ∀ key, a.capability? key = b.capability? key) : a = b := by
  obtain ⟨_, _, _ | ⟨_ | m, infoKept⟩, outerKept⟩ := a
  · cases levels
  · cases levels
  obtain ⟨_, _, _ | ⟨_ | n, _⟩, _⟩ := b
  · cases others
  · cases others
  have outer : outerKept = _ := kept .outer
  have info : infoKept = _ := kept .info
  have about : m.kept = n.kept := kept .about
  have capabilities : m.capabilities = n.capabilities := KeyMap.ext_get? capability
  obtain ⟨_, _⟩ := m
  obtain ⟨_, _⟩ := n
  subst id name outer info about capabilities
  rfl

/-! ### One setting -/

section Setting

variable (model : Model) (key : String) (enabled : Bool)

theorem capability?_withCapability (name : String) : (model.withCapability key enabled).capability? name =
    if name = key then some (.bool enabled) else model.capability? name := by
  obtain ⟨_, _, _ | ⟨_ | m, _⟩, _⟩ := model
  · exact KeyMap.get?_insert {} key _ name
  · exact KeyMap.get?_insert {} key _ name
  · exact KeyMap.get?_insert m.capabilities key _ name

theorem keptAt_withCapability (level : Level) :
    (model.withCapability key enabled).keptAt level = model.keptAt level := by
  obtain ⟨_, _, _ | ⟨_ | _, _⟩, _⟩ := model <;> cases level <;> rfl

theorem about?_withCapability : (model.withCapability key enabled).about?.isSome := rfl

end Setting

/-! ### Many settings -/

/-- The model after a sequence of settings. -/
def withCapabilities (model : Model) (settings : List (String × Bool)) : Model :=
  settings.foldl (fun model setting => model.withCapability setting.1 setting.2) model

/-- What the last setting of a capability says, if there is one. -/
def lastSet? (settings : List (String × Bool)) (key : String) : Option Bool := settings.reverse.lookup key

theorem lastSet?_of_not_mem {settings : List (String × Bool)} {key : String} (unnamed : key ∉ settings.map Prod.fst) :
    lastSet? settings key = none := by
  apply lookup_of_not_mem
  rwa [List.map_reverse, List.mem_reverse]

/-- Whether a model comes of another one by settings of which only the last ones are known. -/
structure Sets (last : String → Option Bool) (before after : Model) : Prop where
  capability (key : String) : after.capability? key = ((last key).map Json.bool).or (before.capability? key)
  id : after.id = before.id
  name : after.name = before.name
  kept (level : Level) : after.keptAt level = before.keptAt level
  idle : (∀ key, last key = none) → after = before
  made (key : String) : (last key).isSome → after.about?.isSome

theorem Sets.step {settings : List (String × Bool)} {before after : Model}
    (sets : Sets (lastSet? settings) before after) (key : String) (enabled : Bool) :
    Sets (lastSet? (settings ++ [(key, enabled)])) before (after.withCapability key enabled) where
  capability name := by
    rw [capability?_withCapability, lastSet?, lookup_reverse_append, sets.capability]
    split <;> rfl
  id := sets.id
  name := sets.name
  kept level := (keptAt_withCapability after key enabled level).trans (sets.kept level)
  idle unset := by
    have said := unset key
    rw [lastSet?, lookup_reverse_append, if_pos rfl] at said
    cases said
  made _ _ := about?_withCapability after key enabled

theorem sets_withCapabilities (model : Model) (settings : List (String × Bool)) :
    Sets (lastSet? settings) model (model.withCapabilities settings) := by
  -- From the right, since what was set before counts only where the last setting is silent.
  induction settings using List.reverseRecOn with
  | nil => exact ⟨fun _ => rfl, rfl, rfl, fun _ => rfl, fun _ => rfl, nofun⟩
  | append_singleton settings setting ih =>
    rw [withCapabilities, List.foldl_append]
    exact ih.step setting.1 setting.2

/-- The last settings leave no choice what a model becomes. -/
theorem Sets.unique {last : String → Option Bool} {before after other : Model} (sets : Sets last before after)
    (others : Sets last before other) : after = other := by
  -- Empty levels hold no more than missing ones. What tells them apart is whether anything was set at all.
  by_cases idle : ∀ key, last key = none
  · exact (sets.idle idle).trans (others.idle idle).symm
  · obtain ⟨key, set⟩ := not_forall.mp idle
    have isSet : (last key).isSome := Option.isSome_iff_ne_none.mpr set
    apply ext_of_levels (sets.made key isSet) (others.made key isSet)
    · exact sets.id.trans others.id.symm
    · exact sets.name.trans others.name.symm
    · exact fun level => (sets.kept level).trans (others.kept level).symm
    · exact fun key => (sets.capability key).trans (others.capability key).symm

/-- A setting of a capability grants it or takes it away, whatever was there. -/
theorem Sets.hasCapability {last : String → Option Bool} {before after : Model} (sets : Sets last before after)
    (key : String) : after.hasCapability key = (last key).getD (before.hasCapability key) := by
  have held (model : Model) : model.hasCapability key = ((model.capability? key).bind Json.bool?).getD false := rfl
  rw [held, held, sets.capability]
  cases last key <;> rfl

/-- Where nothing was known of a capability before, the model tells what its last setting was. -/
theorem Sets.last_eq {last : String → Option Bool} {before after : Model} (sets : Sets last before after)
    {key : String} (unknown : before.capability? key = none) : last key = (after.capability? key).bind Json.bool? := by
  rw [sets.capability, unknown]
  cases last key <;> rfl

/-- After any sequence of settings a model has a capability if the last setting of that says so, or, where it was never
set, if it had the capability before. The id, the name, the unknown fields of each level and every capability that the
sequence does not name are as they were. Two sequences make the same of every model if and only if they set the same
capabilities, each to the same value at last. -/
theorem withCapabilities_by_last (model : Model) (settings : List (String × Bool)) :
    (∀ key, (model.withCapabilities settings).hasCapability key =
      (lastSet? settings key).getD (model.hasCapability key)) ∧
    (∀ key, key ∉ settings.map Prod.fst →
      (model.withCapabilities settings).capability? key = model.capability? key) ∧
    Sets (lastSet? settings) model (model.withCapabilities settings) ∧
    ∀ others, (∀ key, lastSet? others key = lastSet? settings key) ↔
      ∀ model : Model, model.withCapabilities others = model.withCapabilities settings := by
  have sets := sets_withCapabilities model settings
  refine ⟨sets.hasCapability, fun key unnamed => ?_, sets, fun others => ⟨fun same model => ?_, fun same key => ?_⟩⟩
  · rw [sets.capability, lastSet?_of_not_mem unnamed]
    rfl
  · have agree : lastSet? others = lastSet? settings := funext same
    have others := sets_withCapabilities model others
    rw [agree] at others
    exact others.unique (sets_withCapabilities model settings)
  · let blank : Model := { id := "" }
    rw [(sets_withCapabilities blank others).last_eq rfl, (sets_withCapabilities blank settings).last_eq rfl,
      same blank]

/-- One capability is set twice and one that was null once; a text that nobody set stays, and so does a note beside
them. The first setting might as well have been left out. -/
theorem repeated_setting_by_last :
    let about : Meta :=
      { capabilities := .ofList [("vision", .null), ("web", .string "true")], kept := .ofList [("note", .null)] }
    let info : Info := { about := some about, kept := .ofList [] }
    let model : Model := { id := "m", info := some info, kept := .ofList [] }
    let settings := [("chat", true), ("vision", true), ("chat", false)]
    let after := model.withCapabilities settings
    "web" ∉ settings.map Prod.fst ∧ after.capability? "web" = some (.string "true") ∧
      ["chat", "vision", "web"].map after.hasCapability = [false, true, false] ∧ after.keptAt .about = about.kept ∧
      model.withCapabilities [("vision", true), ("chat", false)] = after := by
  intro about info model settings after
  obtain ⟨has, unset, sets, same⟩ := withCapabilities_by_last model settings
  have unnamed : "web" ∉ settings.map Prod.fst := by decide
  refine ⟨unnamed, (unset "web" unnamed).trans rfl, ?_, sets.kept .about, (same _).mp (fun key => ?_) model⟩
  · simp only [List.map_cons, List.map_nil, after, has]
    rfl
  · simp only [settings, lastSet?, List.reverse_cons, List.reverse_nil, List.nil_append, List.cons_append]
    by_cases chat : key = "chat"
    · subst chat
      rfl
    · rw [lookup_cons_of_ne chat, lookup_cons_of_ne chat]
      by_cases vision : key = "vision"
      · subst vision
        rfl
      · rw [lookup_cons_of_ne vision, lookup_cons_of_ne vision, lookup_cons_of_ne chat]

end AppLauncher.Model
