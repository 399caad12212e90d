import AppLauncher.Proofs.Config.Loading
import AppLauncher.Proofs.Toml.Sections

/-!
Where a setting comes from: from the environment, else from the document, else from the defaults, each setting by
itself. What the document says over the defaults has to be usable too, so that the environment does not make up for a
document that cannot be used.
-/
namespace AppLauncher

namespace Config

/-! ### Documents -/

/-- What a document says about a setting, whatever else it says. -/
def said (document : Toml) (part name : String) : Option Toml := (document.field? part).bind (Toml.field? name)

/-- The text that a document gives a setting. -/
def told (document : Toml) (part name : String) : Option String := (said document part name).bind text?

/-- How a value may name a policy: as a text, or as the only field of a table, with nothing in it. -/
inductive Names : Toml → EmptyMatch → Prop where
  | text (policy : EmptyMatch) : Names (.string policy.name) policy
  | table (policy : EmptyMatch) : Names (.table [(policy.name, .table [])]) policy
  | array (policy : EmptyMatch) : Names (.table [(policy.name, .array [])]) policy

/-- A document whose sections are tables and whose settings are of their types, where they are there. Nothing is asked
of what else it says. -/
structure IsTyped (document : Toml) : Prop where
  tables : ∀ part ∈ ["general", "api", "models", "branding"], ∀ value, document.field? part = some value →
    ∃ fields, value = .table fields
  texts : ∀ place ∈ [("general", "log_level"), ("api", "base_url"), ("api", "token_path"), ("branding", "app_name")],
    ∀ value, said document place.1 place.2 = some value → ∃ text, value = .string text
  policy : ∀ value, said document "models" "empty_match_policy" = some value → ∃ policy, Names value policy

/-- The configuration of a document in an environment. -/
structure Combines (document : Toml) (environment : String → Option String) (config : Config) : Prop where
  logLevel : config.logLevel = (told document "general" "log_level").getD "info"
  baseUrl : config.baseUrl =
    ((environment "GOVCHAT_API_BASE_URL").or (told document "api" "base_url")).getD "http://localhost:8080"
  tokenPath : config.tokenPath = (environment "GOVCHAT_TOKEN_PATH").or (told document "api" "token_path")
  emptyMatch : match said document "models" "empty_match_policy" with
    | some value => Names value config.emptyMatch
    | none => config.emptyMatch = .failClosed
  appName : config.appName =
    ((environment "GOVCHAT_APP_NAME").or (told document "branding" "app_name")).getD "GovChat-NL"

/-- No variable is set. -/
def noVariables : String → Option String := fun _ => none

theorem policy?_eq_some_iff {value : Toml} {policy : EmptyMatch} :
    policy? value = some policy ↔ Names value policy := by
  constructor
  · intro read
    unfold policy? at read
    split at read
    next name =>
      obtain rfl := EmptyMatch.ofName?_eq_some_iff.mp read
      exact .text policy
    next name inner =>
      split at read
      next empty =>
        obtain rfl := EmptyMatch.ofName?_eq_some_iff.mp read
        unfold isEmpty at empty
        split at empty
        next => exact .table policy
        next => exact .array policy
        next => cases empty
      next => cases read
    next => cases read
  · rintro (_ | _ | _)
    · exact EmptyMatch.ofName?_eq_some_iff.mpr rfl
    · exact EmptyMatch.ofName?_eq_some_iff.mpr rfl
    · exact EmptyMatch.ofName?_eq_some_iff.mpr rfl

/-! ### Sections -/

section Sections

variable {document : Toml} {part : String} {names : List String} {read : Settings → Config → Option Config}
  {config : Config}

/-- A table is read by what it says; to read nothing changes nothing. -/
theorem readSection?_of_table (table : ∀ value, document.field? part = some value → ∃ fields, value = .table fields)
    (idle : read (fun _ => none) config = some config) :
    readSection? names read config (document.field? part) = read (said document part) config := by
  have settings : said document part = fun name => (document.field? part).bind (Toml.field? name) := rfl
  rw [settings]
  cases found : document.field? part with
  | none => exact idle.symm
  | some value =>
    obtain ⟨fields, rfl⟩ := table value found
    rfl

theorem apiSection?_of_table (table : ∀ value, document.field? part = some value → ∃ fields, value = .table fields) :
    apiSection? config (document.field? part) =
      readSection? ["base_url", "token_path"] api? config (document.field? part) := by
  cases found : document.field? part with
  | none => rfl
  | some value =>
    obtain ⟨fields, rfl⟩ := table value found
    rfl

theorem setting_text {held : Option Toml} (typed : ∀ value, held = some value → ∃ text, value = .string text)
    (default : String) : setting default text? held = some ((held.bind text?).getD default) := by
  cases held with
  | none => rfl
  | some value =>
    obtain ⟨text, rfl⟩ := typed value rfl
    rfl

theorem setting_some_text {held : Option Toml} (typed : ∀ value, held = some value → ∃ text, value = .string text) :
    setting none (fun value => (text? value).map some) held = some (held.bind text?) := by
  cases held with
  | none => rfl
  | some value =>
    obtain ⟨text, rfl⟩ := typed value rfl
    rfl

/-- A typed document is read, each of its settings over its default. -/
theorem ofToml?_of_isTyped (typed : IsTyped document) :
    ∃ config, ofToml? document = some config ∧ Combines document noVariables config := by
  obtain ⟨policy, read, named⟩ : ∃ policy,
      setting EmptyMatch.failClosed policy? (said document "models" "empty_match_policy") = some policy ∧
      match said document "models" "empty_match_policy" with
        | some value => Names value policy
        | none => policy = .failClosed := by
    cases held : said document "models" "empty_match_policy" with
    | none => exact ⟨.failClosed, rfl, rfl⟩
    | some value =>
      obtain ⟨policy, names⟩ := typed.policy value held
      exact ⟨policy, policy?_eq_some_iff.mpr names, names⟩
  have general (config : Config) : readSection? ["log_level"] general? config (document.field? "general") =
      some { config with logLevel := (told document "general" "log_level").getD config.logLevel } := by
    rw [readSection?_of_table (typed.tables "general" (by decide)) rfl, general?,
      setting_text (typed.texts ("general", "log_level") (by decide))]
    rfl
  have api (config : Config) (unset : config.tokenPath = none) : apiSection? config (document.field? "api") =
      some { config with
        baseUrl := (told document "api" "base_url").getD config.baseUrl
        tokenPath := told document "api" "token_path" } := by
    have idle : api? (fun _ => none) config = some config := by
      obtain ⟨logLevel, baseUrl, tokenPath, emptyMatch, appName⟩ := config
      cases unset
      rfl
    have table := typed.tables "api" (by decide)
    rw [apiSection?_of_table table, readSection?_of_table table idle, api?,
      setting_text (typed.texts ("api", "base_url") (by decide)),
      setting_some_text (typed.texts ("api", "token_path") (by decide))]
    rfl
  have models (config : Config) (unset : config.emptyMatch = .failClosed) :
      readSection? ["empty_match_policy"] models? config (document.field? "models") =
        some { config with emptyMatch := policy } := by
    rw [readSection?_of_table (typed.tables "models" (by decide)) rfl, models?, unset, read]
    rfl
  have branding (config : Config) : readSection? ["app_name"] branding? config (document.field? "branding") =
      some { config with appName := (told document "branding" "app_name").getD config.appName } := by
    rw [readSection?_of_table (typed.tables "branding" (by decide)) rfl, branding?,
      setting_text (typed.texts ("branding", "app_name") (by decide))]
    rfl
  let config : Config :=
    { logLevel := (told document "general" "log_level").getD "info"
      baseUrl := (told document "api" "base_url").getD "http://localhost:8080"
      tokenPath := told document "api" "token_path"
      emptyMatch := policy
      appName := (told document "branding" "app_name").getD "GovChat-NL" }
  refine ⟨config, ?_, rfl, rfl, rfl, named, rfl⟩
  rw [ofToml?, general, Option.bind_eq_bind, Option.bind_some, api _ rfl, Option.bind_some, models _ rfl,
    Option.bind_some, branding]

end Sections

/-! ### The environment -/

/-- What the variables of an environment say. -/
def overridesOf (environment : String → Option String) : Overrides where
  baseUrl := environment "GOVCHAT_API_BASE_URL"
  tokenPath := environment "GOVCHAT_TOKEN_PATH"
  appName := environment "GOVCHAT_APP_NAME"

variable {document : Toml} {config : Config} {environment : String → Option String}

theorem Combines.overridden (combines : Combines document noVariables config) (environment : String → Option String) :
    Combines document environment (config.overridden (overridesOf environment)) where
  logLevel := combines.logLevel
  baseUrl := by
    change (environment "GOVCHAT_API_BASE_URL").getD config.baseUrl = _
    rw [combines.baseUrl]
    cases environment "GOVCHAT_API_BASE_URL" <;> rfl
  tokenPath := by
    change ((environment "GOVCHAT_TOKEN_PATH").orElse fun _ => config.tokenPath) = _
    rw [combines.tokenPath]
    cases environment "GOVCHAT_TOKEN_PATH" <;> rfl
  emptyMatch := combines.emptyMatch
  appName := by
    change (environment "GOVCHAT_APP_NAME").getD config.appName = _
    rw [combines.appName]
    cases environment "GOVCHAT_APP_NAME" <;> rfl

/-- A document and an environment make one configuration only. -/
theorem Combines.unique {other : Config} (combines : Combines document environment config)
    (combines' : Combines document environment other) : config = other := by
  have policy : config.emptyMatch = other.emptyMatch := by
    have one := combines.emptyMatch
    have two := combines'.emptyMatch
    cases held : said document "models" "empty_match_policy" with
    | none =>
      rw [held] at one two
      exact one.trans two.symm
    | some value =>
      rw [held] at one two
      exact Option.some_inj.mp ((policy?_eq_some_iff.mpr one).symm.trans (policy?_eq_some_iff.mpr two))
  obtain ⟨logLevel, baseUrl, tokenPath, emptyMatch, appName⟩ := config
  rw [Config.mk.injEq]
  exact ⟨combines.logLevel.trans combines'.logLevel.symm, combines.baseUrl.trans combines'.baseUrl.symm,
    combines.tokenPath.trans combines'.tokenPath.symm, policy, combines.appName.trans combines'.appName.symm⟩

/-- The environment says nothing new the second time. -/
theorem overridden_overridden (overrides : Overrides) (config : Config) :
    (config.overridden overrides).overridden overrides = config.overridden overrides := by
  obtain ⟨baseUrl, tokenPath, appName⟩ := overrides
  cases baseUrl <;> cases tokenPath <;> cases appName <;> rfl

theorem withOverrides_overridden (overrides : Overrides) (config : Config) :
    (config.overridden overrides).withOverrides overrides = config.withOverrides overrides :=
  congrArg checked (overridden_overridden overrides config)

end Config

namespace Cli.Settings

open Config (IsTyped IsUsable Combines isHttp_iff isBlank_eq_false_iff noVariables overridesOf)

/-- The file that a session takes its configuration from. -/
def place (scene : Scene) (named : Option String) : String :=
  named.getD (Host.ownDirectory scene.configHome ++ "/config.toml")

variable {scene : Scene} {named : Option String} {text : String}

theorem run_load (held : scene.disk.read scene.working (place scene named) = .ok text.toUTF8) :
    (load Scene.host named).run scene =
      (match Config.read text with
        | .ok config => config.withOverrides (overridesOf (scene.environment.lookup ·))
        | .error failure => .error failure, scene) := by
  have onwards {session : Session (StateM Scene) Config} (found : session.run scene = (Config.read text, scene)) :
      (session >>= fun config => do
        let overrides ← (overrides Scene.host : StateM Scene Config.Overrides)
        Session.ofExcept (config.withOverrides overrides)).run scene =
      (match Config.read text with
        | .ok config => config.withOverrides (overridesOf (scene.environment.lookup ·))
        | .error failure => .error failure, scene) := by
    rw [Session.run_bind, found]
    cases Config.read text with
    | error failure => rfl
    | ok config =>
      have lifted : ExceptT.run (liftM (overrides Scene.host) : Session (StateM Scene) Config.Overrides) scene =
          (.ok (overridesOf (scene.environment.lookup ·)), scene) := rfl
      dsimp only
      rw [Session.run_bind, lifted]
      dsimp only
      cases config.withOverrides (overridesOf (scene.environment.lookup ·)) <;> rfl
  cases named with
  | some path => exact onwards (run_loadFile held)
  | none =>
    have default : ExceptT.run (liftM Scene.host.configPath : Session (StateM Scene) String) scene =
        (.ok (place scene none), scene) := rfl
    have found : (loadDefault Scene.host).run scene = (Config.read text, scene) := by
      rw [loadDefault, Session.run_bind, default]
      dsimp only
      rw [Session.run_bind, run_isThere held]
      exact run_loadFile held
    exact onwards found

/-- A configuration is made of the environment, of what the file says and of the defaults, in this order and each
setting by itself, if what the file says by itself can be used and so can the whole; failing that, the configuration is
refused. The environment says nothing new the second time. -/
theorem load_combines (scene : Scene) (named : Option String) {text : String} {document : Toml}
    (held : scene.disk.read scene.working (place scene named) = .ok text.toUTF8)
    (parsed : Toml.read? text = some document) (typed : IsTyped document) :
    ∃ file whole, Combines document noVariables file ∧ Combines document (scene.environment.lookup ·) whole ∧
      (file.IsUsable ∧ whole.IsUsable → (load Scene.host named).run scene = (.ok whole, scene) ∧
        whole.withOverrides (overridesOf (scene.environment.lookup ·)) = .ok whole) ∧
      (¬(file.IsUsable ∧ whole.IsUsable) →
        ∃ fault, (load Scene.host named).run scene = (.error (.invalidConfig fault), scene)) := by
  obtain ⟨file, read, combines⟩ := Config.ofToml?_of_isTyped typed
  have checks : Config.read text = file.checked := by rw [Config.read, parsed, Option.bind_some, read]
  refine ⟨file, file.overridden (overridesOf (scene.environment.lookup ·)), combines, combines.overridden _, ?_, ?_⟩
  · rintro ⟨usable, whole⟩
    rw [Config.withOverrides_overridden, run_load held, checks, Config.checked_of_isUsable usable]
    dsimp only
    rw [Config.withOverrides, Config.checked_of_isUsable whole]
    exact ⟨rfl, rfl⟩
  · intro unusable
    rw [run_load held, checks]
    by_cases usable : file.IsUsable
    · obtain ⟨fault, refused⟩ := Config.checked_of_not_isUsable (not_and.mp unusable usable)
      rw [Config.checked_of_isUsable usable]
      dsimp only
      rw [Config.withOverrides, refused]
      exact ⟨fault, rfl⟩
    · obtain ⟨fault, refused⟩ := Config.checked_of_not_isUsable usable
      rw [refused]
      exact ⟨fault, rfl⟩

set_option maxRecDepth 4096 in
/-- A variable decides on the address only, the file on the level, and what else the file says is no matter. -/
theorem load_combines_partial :
    let text := "[general]\nlog_level = \"debug\"\n\n[api]\nport = \"1\"\nbase_url = \" http://file\"\n"
    let document : Toml := .table [("general", .table [("log_level", .string "debug")]),
      ("api", .table [("port", .string "1"), ("base_url", .string " http://file")])]
    let scene : Scene :=
      { disk := { entries := [(["l.toml"], .file text.toUTF8)] }
        environment := [("GOVCHAT_API_BASE_URL", "https://set")]
        configHome := "/c", dataHome := "/d", now := "", freshId := "", network := fun _ _ => .lost }
    let config : Config := { logLevel := "debug", baseUrl := "https://set" }
    scene.disk.read scene.working (place scene (some "/l.toml")) = .ok text.toUTF8 ∧
      Toml.read? text = some document ∧ IsTyped document ∧
      (load Scene.host (some "/l.toml")).run scene = (.ok config, scene) ∧
      config.withOverrides (overridesOf (scene.environment.lookup ·)) = .ok config := by
  intro text document scene config
  have only (bytes : ByteArray) : Disk.read { entries := [(["l.toml"], .file bytes)] } [] "/l.toml" = .ok bytes := rfl
  have held : scene.disk.read scene.working (place scene (some "/l.toml")) = .ok text.toUTF8 := only text.toUTF8
  have parsed : Toml.read? text = some document := by
    let sections : List Toml.Section :=
      [⟨"general", [("log_level", "debug")]⟩, ⟨"api", [("port", "1"), ("base_url", " http://file")]⟩]
    have bare : ∀ name ∈ ["general", "log_level", "api", "port", "base_url"], Toml.Reader.IsBareName name := by
      have each : ∀ name ∈ ["general", "log_level", "api", "port", "base_url"],
          name.toList ≠ [] ∧ name.toList.all Toml.Reader.isBare := by decide
      exact fun name known => ⟨(each name known).1, List.all_eq_true.mp (each name known).2⟩
    have plain : ∀ part ∈ sections, part.IsPlain := by
      simp only [sections, List.forall_mem_cons, List.not_mem_nil, false_implies, implies_true, and_true]
      exact ⟨⟨bare _ (by decide), by simp [bare], by decide⟩, ⟨bare _ (by decide), by simp [bare], by decide⟩⟩
    have written : String.ofList (Toml.Section.document sections) = text := by decide
    rw [← written]
    exact Toml.Section.read?_document (by decide) plain
  have typed : IsTyped document := by
    refine ⟨?_, ?_, ?_⟩
    · simp [document, Toml.field?, List.lookup_cons]
    · simp [document, Config.said, Toml.field?, List.lookup_cons]
    · rintro _ ⟨⟩
  obtain ⟨file, whole, combines, combines', loads, -⟩ := load_combines scene (some "/l.toml") held parsed typed
  have filed : file = { config with baseUrl := " http://file" } := combines.unique ⟨rfl, rfl, rfl, rfl, rfl⟩
  have made : whole = config := combines'.unique ⟨rfl, rfl, rfl, rfl, rfl⟩
  subst filed made
  have fileUsable : IsUsable { config with baseUrl := " http://file" } :=
    ⟨(isHttp_iff _).mp (by decide), (isBlank_eq_false_iff _).mp (by decide)⟩
  have usable : IsUsable config := ⟨(isHttp_iff _).mp (by decide), (isBlank_eq_false_iff _).mp (by decide)⟩
  exact ⟨held, parsed, typed, loads ⟨fileUsable, usable⟩⟩

end Cli.Settings

end AppLauncher
