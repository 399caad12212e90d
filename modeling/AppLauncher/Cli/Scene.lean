import AppLauncher.Cli.Run
import AppLauncher.Disk

/-!
Scenes. A scene is everything around a session, as a value: a disk, an environment, a clock that
stands still, and a network whose replies are a function of what was sent.
-/
namespace AppLauncher.Cli

structure Scene where
  disk : Disk := {}
  /-- The directory from which relative paths are taken. -/
  working : Disk.Path := []
  environment : List (String × String) := []
  configHome : String
  dataHome : String
  now : String
  freshId : String
  /-- The reply to a request, after the requests before it. -/
  network : List Http.Request → Http.Request → Http.Reply
  requests : List Http.Request := []
  output : String := ""
  warnings : String := ""

namespace Scene

/-- The scene with a change made to its disk. -/
def onDisk (change : Disk → Except FileFault Disk) : StateM Scene (Except FileFault Unit) :=
  fun scene =>
    match change scene.disk with
    | .ok disk => (.ok (), { scene with disk })
    | .error fault => (.error fault, scene)

/-- A scene as the surroundings of a session. -/
def host : Host (StateM Scene) where
  readFile path := fun scene => (scene.disk.read scene.working path, scene)
  isThere path := fun scene => ((scene.disk.find scene.working path).isOk, scene)
  writeFile path text := do
    let working := (← get).working
    onDisk fun disk => disk.write working path text.toUTF8
  makeDirectory path := do
    let working := (← get).working
    onDisk fun disk => disk.makeDirectory working path
  setting? name := fun scene => (scene.environment.lookup name, scene)
  configHome := fun scene => (scene.configHome, scene)
  dataHome := fun scene => (scene.dataHome, scene)
  now := fun scene => (scene.now, scene)
  freshId := fun scene => (scene.freshId, scene)
  send request := fun scene =>
    (scene.network scene.requests request, { scene with requests := scene.requests ++ [request] })
  print text := fun scene => ((), { scene with output := scene.output ++ text })
  warn text := fun scene => ((), { scene with warnings := scene.warnings ++ text })

/-- What an invocation comes to, and the scene that it leaves. -/
def play (invocation : Invocation) (scene : Scene) : Except Failure Unit × Scene :=
  (invocation.run host).run scene

end Scene

end AppLauncher.Cli
