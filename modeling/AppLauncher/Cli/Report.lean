import AppLauncher.App.Registry
import AppLauncher.App.Route
import AppLauncher.Config.Basic
import AppLauncher.Help.Html
import AppLauncher.Help.Manual
import AppLauncher.Model.Basic
import AppLauncher.Subsidy.Assessment
import AppLauncher.Subsidy.Criteria
import AppLauncher.Text.Column

/-!
What the commands print, as lists of lines. A line may hold line breaks of its own.
-/
namespace AppLauncher.Cli.Report

open Text (padLeft padRight)

abbrev Lines := List String

/-! ### Apps -/

/-- A row of the table of apps. -/
def appRow (mark name route context capability : String) : String :=
  padRight 4 mark ++ " " ++ padRight 14 name ++ " " ++ padRight 30 route ++ " " ++
    padRight 14 context ++ " " ++ padRight 26 capability

def appLine (mark : String) (app : App) : String :=
  appRow mark app.name app.route app.context.name (app.capability.getD "-")

def appHeader : Lines := [appRow "" "App" "Route" "Context" "Capability", Text.rule 90]

/-- The apps that a user may open. -/
def permittedApps (user : User) : Lines :=
  appHeader ++ (App.permitted user).map fun app => appLine app.icon app

/-- Every app, with a mark that says whether the user may open it. -/
def allApps (user : User) : Lines :=
  appHeader ++ App.all.map fun app => appLine (if app.allows user then "✔" else "✘") app

/-! ### The manual -/

def entryLine (appName : String) (entry : Help.Entry) : String :=
  entry.emoji ++ " " ++ Help.brand appName entry.title ++ " [" ++ entry.id ++ "]"

/-- A section and, indented, its items. -/
def sectionLines (appName : String) (part : Help.Section) : Lines :=
  entryLine appName part.entry :: part.items.map fun item => "    " ++ entryLine appName item

def contents (appName : String) : Lines :=
  Help.manual.flatMap (sectionLines appName) ++
    ["\nShow a section with: govchat-launcher manual <id>"]

/-- A part of the manual, as text or as the HTML that it is. -/
def helpEntry (appName : String) (raw : Bool) (entry : Help.Entry) : Lines :=
  let content := Help.brand appName entry.content
  [ "\n" ++ entry.emoji ++ " " ++ Help.brand appName entry.title ++ "\n",
    if raw then content else Help.Html.render content ]

/-! ### Models -/

def modelLines (models : List Model) : Lines :=
  if models.isEmpty then ["  (no models)"]
  else models.map fun model => "  " ++ padRight 36 model.id ++ " " ++ Text.truncate 40 model.name

def contextText (context : Context) : String := context.name ++ " (" ++ context.capability ++ ")"

/-- What a context offers. -/
def contextModels (context : Context) (models : List Model) : Lines :=
  ("\n" ++ contextText context) :: modelLines models

/-- What is offered after a route was followed; the app at the route is named. -/
def routeModels (route : String) (context : Context) (models : List Model) : Lines :=
  let app := match App.atRoute? route with
    | none => ""
    | some app => " [" ++ app.name ++ "]"
  ("\n" ++ route ++ app ++ " → " ++ contextText context) :: modelLines models

/-! ### Subsidy criteria -/

def setRow (id name criteria saved : String) : String :=
  padRight 36 id ++ " " ++ padRight 32 name ++ " " ++ padRight 9 criteria ++ " " ++
    padRight 20 saved

def setLine (set : CriteriaSet) : String :=
  setRow (set.savedId.getD "-") (Text.truncate 30 (set.name.getD "-"))
    (toString set.criteria.length) ((set.timestamp.map (Text.truncate 19)).getD "")

def sets (sets : List CriteriaSet) : Lines :=
  setRow "ID" "Name" "Criteria" "Saved" :: Text.rule 100 :: sets.map setLine

def criterionLine (criterion : Criterion) : String :=
  padLeft 3 (toString criterion.id) ++ ". " ++ criterion.text

/-- A text that stands between lines, if there is any. -/
def paragraph (before after : String) (text : String) : Lines :=
  if text.isEmpty then [] else [before ++ text ++ after]

def set (set : CriteriaSet) : Lines :=
  ("\n# " ++ set.label ++ "\n") :: paragraph "" "\n" (set.summary.getD "") ++
    set.criteria.map criterionLine

/-! ### Assessments -/

def judgementLines (item : String × Judgement) : Lines :=
  let (key, judgement) := item
  (padLeft 4 key ++ "  " ++ padRight 6 judgement.score.shown ++ " " ++ judgement.criterion) ::
    paragraph (padLeft 12 "") "" judgement.explanation

def assessment (assessment : Assessment) : Lines :=
  ("\n" ++ padLeft 4 "#" ++ "  " ++ padRight 6 "Score" ++ " Criterium") :: Text.rule 70 ::
    assessment.items.flatMap judgementLines

def application (summary : ApplicationSummary) : Lines :=
  [ "\n# Aanvraag\n", "Aanvrager:       " ++ summary.applicant,
    "Datum aanvraag:  " ++ summary.applicationDate, "Datum evenement: " ++ summary.eventDate,
    "Bedrag:          " ++ summary.amount ] ++ paragraph "\n" "" summary.summary

def verdict (report : AssessmentReport) : Lines :=
  ["\n# Eindoordeel: " ++ report.verdict ++ "\n", "Bedrag: " ++ report.amount] ++
    paragraph "\n" "" report.summary

def completeAssessment (complete : CompleteAssessment) : Lines :=
  application complete.application ++ assessment complete.scores ++ verdict complete.report

def assessedBy (set : CriteriaSet) : String :=
  "Assessing against " ++ set.label ++ " (" ++ toString set.criteria.length ++ " criteria)"

/-! ### Configuration -/

def initialized (path tokenFile : String) (config : Config) : Lines :=
  [ "Configuration initialized at: " ++ path, "\nSettings:", "  Backend: " ++ config.baseUrl,
    "  Token file: " ++ tokenFile, "  App name: " ++ config.appName ]

end AppLauncher.Cli.Report
