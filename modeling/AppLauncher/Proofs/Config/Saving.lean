import AppLauncher.Proofs.Config.Loading
import AppLauncher.Proofs.Disk.Writing
import AppLauncher.Proofs.Toml.Sections

/-!
Saving a configuration. What is written of a configuration is read as the same one, whatever characters its settings
hold, and a setting that is not there is not there afterwards.
-/
namespace AppLauncher

namespace Config

open Toml (Section)
open Toml.Reader (IsBareName)

variable (config : Config)

/-- A section of each group of settings. -/
def sections : List Section := [
  ⟨"general", [("log_level", config.logLevel)]⟩,
  ⟨"api", ("base_url", config.baseUrl) :: (config.tokenPath.map fun path => ("token_path", path)).toList⟩,
  ⟨"models", [("empty_match_policy", config.emptyMatch.name)]⟩,
  ⟨"branding", [("app_name", config.appName)]⟩]

theorem render_eq : config.render = String.ofList (Section.document config.sections) := by
  unfold render
  congr 1
  cases path : config.tokenPath with
  | none => simp [chars, path, Section.document, sections, Section.lines]
  | some file => simp [chars, path, Section.document, sections, Section.lines]

/-- The names that a written configuration uses. -/
def names : List String := [
  "general", "log_level", "api", "base_url", "token_path", "models", "empty_match_policy", "branding", "app_name"]

theorem isBareName_of_mem {name : String} (known : name ∈ names) : IsBareName name := by
  have each : ∀ name ∈ names, name.toList ≠ [] ∧ name.toList.all Toml.Reader.isBare := by decide
  exact ⟨(each name known).1, List.all_eq_true.mp (each name known).2⟩

theorem isPlain_sections : ∀ part ∈ config.sections, part.IsPlain := by
  have known : ∀ part ∈ config.sections, part.name ∈ names ∧ part.settings.map Prod.fst ⊆ names ∧
      (part.settings.map Prod.fst).Nodup := by
    cases path : config.tokenPath <;> simp [sections, names, path]
  intro part member
  obtain ⟨name, settings, distinct⟩ := known part member
  exact ⟨isBareName_of_mem name,
    fun setting held => isBareName_of_mem (settings (List.mem_map_of_mem held)), distinct⟩

/-- A written configuration says what the configuration said. -/
theorem ofToml?_sections : ofToml? (.table (config.sections.map Section.table)) = some config := by
  obtain ⟨logLevel, baseUrl, tokenPath, emptyMatch, appName⟩ := config
  cases tokenPath <;> cases emptyMatch <;> rfl

theorem read_render : read config.render = config.checked := by
  have document : Toml.read? config.render = some (.table (config.sections.map Section.table)) := by
    rw [render_eq]
    exact Section.read?_document (by simp [sections]) (isPlain_sections config)
  rw [read, document, Option.bind_some, ofToml?_sections]

end Config

namespace Cli.Settings

variable {scene : Scene} {path : String}

theorem run_saveFile {config : Config} {disk : Disk}
    (written : scene.disk.write scene.working path config.render.toUTF8 = .ok disk) :
    (saveFile Scene.host config path).run scene = (.ok (), { scene with disk }) := by
  have saved : (Scene.host.writeFile path config.render : StateM Scene _) scene = (.ok (), { scene with disk }) := by
    change Scene.onDisk (fun disk => disk.write scene.working path config.render.toUTF8) scene = _
    rw [Scene.onDisk, written]
  have lifted : ExceptT.run (liftM (Scene.host.writeFile path config.render) : Session (StateM Scene) _) scene =
      (.ok (.ok ()), { scene with disk }) :=
    congrArg (fun made : Except FileFault Unit × Scene => ((.ok made.1 : Except Failure _), made.2)) saved
  rw [saveFile, Session.ofFile, Session.run_bind, lifted]
  rfl

/-- A configuration that passes the check is saved wherever there is room for a file, and it is what is loaded from
there afterwards. -/
theorem load_saved (config : Config) (accepted : config.checked = .ok config) (scene : Scene) (path : String)
    (room : scene.disk.HasRoom scene.working path) :
    ∃ disk, (saveFile Scene.host config path).run scene = (.ok (), { scene with disk }) ∧
      (loadFile Scene.host path).run { scene with disk } = (.ok config, { scene with disk }) := by
  obtain ⟨disk, written⟩ := Disk.write_of_room room config.render.toUTF8
  refine ⟨disk, run_saveFile written, ?_⟩
  rw [run_loadFile (Disk.read_written written), Config.read_render, accepted]

/-- Quotes of both kinds, backslashes, line breaks, controls and letters of any alphabet make no difference, in a
directory that is still to be made. -/
theorem load_saved_awkward :
    let config : Config :=
      { logLevel := "\"\"\" \\ \r\n\t", baseUrl := " https://räum.example/\u200b", tokenPath := some "it's \"mine\"\n",
        appName := "'''\"\n\u0000" }
    let scene : Scene :=
      { configHome := "/c", dataHome := "/d", now := "", freshId := "", network := fun _ _ => .lost }
    config.checked = .ok config ∧ scene.disk.HasRoom scene.working "/new/launcher.toml" ∧
      ∃ disk, (saveFile Scene.host config "/new/launcher.toml").run scene = (.ok (), { scene with disk }) ∧
        (loadFile Scene.host "/new/launcher.toml").run { scene with disk } = (.ok config, { scene with disk }) := by
  intro config scene
  have accepted : config.checked = .ok config := by decide
  have written : ∃ later, scene.disk.write scene.working "/new/launcher.toml" ByteArray.empty = .ok later := ⟨_, rfl⟩
  have room : scene.disk.HasRoom scene.working "/new/launcher.toml" := Disk.hasRoom_iff.mpr written
  exact ⟨accepted, room, load_saved config accepted scene _ room⟩

end Cli.Settings

end AppLauncher
