import AppLauncher.Cli.Settings
import AppLauncher.Proofs.Cli.Work
import AppLauncher.Proofs.Text.Trimming
import AppLauncher.Proofs.Url.Percent

/-!
Loading a configuration. A file that is there and is text is read as a document and checked, and that is all: a scene is
as it was. What is checked is said here in terms of the texts themselves.
-/
namespace AppLauncher

/-- Policies are found under their names. -/
theorem EmptyMatch.ofName?_eq_some_iff {name : String} {policy : EmptyMatch} :
    ofName? name = some policy ↔ name = policy.name := by
  constructor
  · intro found
    unfold ofName? at found
    have same := List.find?_some found
    exact (beq_iff_eq.mp same).symm
  · rintro rfl
    cases policy <;> rfl

namespace Config

/-- An address that names a web server, whatever blanks stand before it. -/
def NamesServer (url : String) : Prop :=
  ∃ scheme ∈ ["http://", "https://"], ∃ before rest, (∀ c ∈ before, Text.isBlankChar c) ∧
    url.toList = before ++ scheme.toList ++ rest

/-- A configuration whose address names a web server, and whose name is not blank. -/
structure IsUsable (config : Config) : Prop where
  server : NamesServer config.baseUrl
  named : ∃ c ∈ config.appName.toList, ¬Text.isBlankChar c

variable {config : Config}

theorem isHttp_iff (url : String) : isHttp url ↔ NamesServer url := by
  have starts (scheme : String) (filled : scheme.toList ≠ []) (trim : Text.IsTrimmed scheme.toList) :
      Text.startsWith scheme (Text.trim url) ↔ ∃ before rest, (∀ c ∈ before, Text.isBlankChar c) ∧
        url.toList = before ++ scheme.toList ++ rest := by
    rw [Text.startsWith, List.isPrefixOf_iff_prefix, Text.trim, String.toList_ofList]
    exact Text.isPrefix_trimmed_iff filled trim
  have http : Text.IsTrimmed "http://".toList := by
    constructor <;>
    · rintro _ ⟨⟩
      decide
  have https : Text.IsTrimmed "https://".toList := by
    constructor <;>
    · rintro _ ⟨⟩
      decide
  rw [isHttp, Bool.or_eq_true, starts "http://" (by decide) http, starts "https://" (by decide) https]
  simp only [NamesServer, List.exists_mem_cons_iff, List.not_mem_nil, false_and, exists_false, or_false]

theorem isBlank_eq_false_iff (text : String) :
    Text.isBlank text = false ↔ ∃ c ∈ text.toList, ¬Text.isBlankChar c := by
  rw [Text.isBlank, List.all_eq_false]

theorem checked_of_isUsable (usable : config.IsUsable) : config.checked = .ok config := by
  have http := (isHttp_iff config.baseUrl).mpr usable.server
  have named := (isBlank_eq_false_iff config.appName).mpr usable.named
  rw [checked, http, named]
  rfl

/-- A configuration that cannot be used is refused as such. -/
theorem checked_of_not_isUsable (unusable : ¬config.IsUsable) :
    ∃ fault, config.checked = .error (.invalidConfig fault) := by
  unfold checked
  split
  next => exact ⟨_, rfl⟩
  next http =>
    split
    next => exact ⟨_, rfl⟩
    next named =>
      rw [Bool.not_eq_true, Bool.not_eq_false'] at http
      refine absurd ⟨(isHttp_iff _).mp http, (isBlank_eq_false_iff _).mp ?_⟩ unusable
      rwa [Bool.not_eq_true] at named

end Config

namespace Cli.Settings

variable {scene : Scene} {path text : String}

theorem run_isThere {bytes : ByteArray} (held : scene.disk.read scene.working path = .ok bytes) :
    ExceptT.run (liftM (Scene.host.isThere path) : Session (StateM Scene) Bool) scene = (.ok true, scene) := by
  have there : (scene.disk.find scene.working path).isOk = true := by
    cases found : scene.disk.find scene.working path with
    | error fault =>
      rw [Disk.read, found] at held
      cases held
    | ok entry => rfl
  exact congrArg (fun isThere => (Except.ok isThere, scene)) there

/-- A file of the scene that is text is read as a configuration, and nothing changes. -/
theorem run_loadFile (held : scene.disk.read scene.working path = .ok text.toUTF8) :
    (loadFile Scene.host path).run scene = (Config.read text, scene) := by
  have read : (Session.readText Scene.host path).run scene = (.ok text, scene) :=
    Session.run_readText (congrArg (·, scene) held) (Text.ofUtf8?_toUTF8 text)
  rw [loadFile, Session.run_bind, run_isThere held]
  dsimp only
  rw [if_pos rfl, Session.run_bind, read]
  dsimp only
  cases Config.read text <;> rfl

end Cli.Settings

end AppLauncher
