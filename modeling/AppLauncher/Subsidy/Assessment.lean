import AppLauncher.Json.Reader
import AppLauncher.Json.Record

/-!
Assessments of an application: a score with an explanation for each criterion, and, if asked for, a
summary of the application and a report. The names on the wire are those of the assessors.
-/
namespace AppLauncher

open Json (Outline)

/-- A score is a number or a text. -/
inductive Score where
  | number (value : Int)
  | text (value : String)
deriving DecidableEq, Repr

/-- What is said about one criterion. -/
structure Judgement where
  criterion : String
  score : Score
  explanation : String
deriving DecidableEq, Repr

/-- The judgements, by the number of their criterion. -/
structure Assessment where
  judgements : KeyMap Judgement := {}
deriving DecidableEq

structure ApplicationSummary where
  applicant : String := ""
  applicationDate : String := ""
  eventDate : String := ""
  amount : String := ""
  summary : String := ""
deriving DecidableEq, Repr

structure AssessmentReport where
  summary : String := ""
  verdict : String := ""
  amount : String := ""
deriving DecidableEq, Repr

structure CompleteAssessment where
  judgements : KeyMap Judgement := {}
  application : ApplicationSummary
  report : AssessmentReport
deriving DecidableEq

namespace Score

def shown : Score → String
  | number value => String.ofList (Json.Number.ofInt value)
  | text value => value

def toJson : Score → Json
  | number value => .int value
  | text value => .string value

def ofOutline? (outline : Outline) : Option Score :=
  outline.int?.map number <|> outline.text?.map text

end Score

namespace Judgement

def toJson (judgement : Judgement) : Json :=
  .record
    [ ("Criterium", some (.string judgement.criterion)), ("Score", some judgement.score.toJson),
      ("Toelichting", some (.string judgement.explanation)) ]

def ofOutline? (outline : Outline) : Option Judgement := do
  let given ← outline.record? ["Criterium", "Score", "Toelichting"]
  let criterion ← Outline.required Outline.text? (given "Criterium")
  let score ← Outline.required Score.ofOutline? (given "Score")
  let explanation ← Outline.required Outline.text? (given "Toelichting")
  return { criterion, score, explanation }

def mapToJson (judgements : KeyMap Judgement) : Json :=
  .object (judgements.entries.map fun (key, judgement) => (key, judgement.toJson))

def mapOfOutline? : Outline → Option (KeyMap Judgement) := Outline.map? ofOutline?

end Judgement

namespace Assessment

/-- The rank of the keys that are no number, and of those too large to tell apart. -/
def lastRank : Nat := 0xFFFFFFFFFFFFFFFF

/-- The digits of a key after an optional plus sign. -/
def keyDigits : List Char → List Char
  | '+' :: rest => rest
  | cs => cs

/-- The place of a key among the others: that of its number, and the last one if it has none. -/
def rank (key : String) : Nat :=
  let digits := keyDigits key.toList
  if !digits.isEmpty && digits.all Char.isDigit then
    min (Nat.ofDigitChars 10 digits 0) lastRank
  else lastRank

/-- Whether an entry may stand before another one: keys go by rank, and keys of one rank in their
own order. -/
def precedes (a b : String × Judgement) : Bool :=
  rank a.1 < rank b.1 || (rank a.1 == rank b.1 && !(b.1 < a.1))

/-- The judgements in the order of their criteria. -/
def items (assessment : Assessment) : List (String × Judgement) :=
  assessment.judgements.entries.mergeSort precedes

def toJson (assessment : Assessment) : Json :=
  .record [("assessment", some (Judgement.mapToJson assessment.judgements))]

def ofOutline? (outline : Outline) : Option Assessment := do
  let given ← outline.record? ["assessment"]
  let judgements ← Outline.orElse {} Judgement.mapOfOutline? (given "assessment")
  return { judgements }

end Assessment

namespace ApplicationSummary

def toJson (summary : ApplicationSummary) : Json :=
  .record
    [ ("Aanvrager", some (.string summary.applicant)),
      ("Datum_aanvraag", some (.string summary.applicationDate)),
      ("Datum_evenement", some (.string summary.eventDate)),
      ("Bedrag", some (.string summary.amount)),
      ("Samenvatting", some (.string summary.summary)) ]

def ofOutline? (outline : Outline) : Option ApplicationSummary := do
  let given ← outline.record?
    ["Aanvrager", "Datum_aanvraag", "Datum_evenement", "Bedrag", "Samenvatting"]
  let applicant ← Outline.orElse "" Outline.text? (given "Aanvrager")
  let applicationDate ← Outline.orElse "" Outline.text? (given "Datum_aanvraag")
  let eventDate ← Outline.orElse "" Outline.text? (given "Datum_evenement")
  let amount ← Outline.orElse "" Outline.text? (given "Bedrag")
  let summary ← Outline.orElse "" Outline.text? (given "Samenvatting")
  return { applicant, applicationDate, eventDate, amount, summary }

end ApplicationSummary

namespace AssessmentReport

def toJson (report : AssessmentReport) : Json :=
  .record
    [ ("Samenvatting", some (.string report.summary)),
      ("Eindoordeel", some (.string report.verdict)),
      ("Bedrag", some (.string report.amount)) ]

def ofOutline? (outline : Outline) : Option AssessmentReport := do
  let given ← outline.record? ["Samenvatting", "Eindoordeel", "Bedrag"]
  let summary ← Outline.orElse "" Outline.text? (given "Samenvatting")
  let verdict ← Outline.orElse "" Outline.text? (given "Eindoordeel")
  let amount ← Outline.orElse "" Outline.text? (given "Bedrag")
  return { summary, verdict, amount }

end AssessmentReport

namespace CompleteAssessment

def scores (complete : CompleteAssessment) : Assessment := { judgements := complete.judgements }

def toJson (complete : CompleteAssessment) : Json :=
  .record
    [ ("assessment", some (Judgement.mapToJson complete.judgements)),
      ("summary", some complete.application.toJson), ("report", some complete.report.toJson) ]

def ofOutline? (outline : Outline) : Option CompleteAssessment := do
  let given ← outline.record? ["assessment", "summary", "report"]
  let judgements ← Outline.orElse {} Judgement.mapOfOutline? (given "assessment")
  let application ← Outline.required ApplicationSummary.ofOutline? (given "summary")
  let report ← Outline.required AssessmentReport.ofOutline? (given "report")
  return { judgements, application, report }

end CompleteAssessment

end AppLauncher
