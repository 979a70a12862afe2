import QueryAdvisor.Json

/-!
# Analyses

What the service says about a query: a verdict, the main risk, a fix, how sure it is, and the next
step. `toJson` is the form in which an analysis goes over the wire, and in which a model is asked to
write one.
-/

namespace QueryAdvisor

inductive Verdict where
  | safeForNow
  | risky
  | critical
  | optimal
  deriving DecidableEq, Repr

inductive ConfidenceLevel where
  | high
  | medium
  | low
  deriving DecidableEq, Repr

/-- The word for a verdict. -/
def Verdict.name : Verdict → Text
  | .safeForNow => "SAFE_FOR_NOW"
  | .risky => "RISKY"
  | .critical => "CRITICAL"
  | .optimal => "OPTIMAL"

def Verdict.all : List Verdict := [.safeForNow, .risky, .critical, .optimal]

/-- The word for a level. -/
def ConfidenceLevel.name : ConfidenceLevel → Text
  | .high => "HIGH"
  | .medium => "MEDIUM"
  | .low => "LOW"

def ConfidenceLevel.all : List ConfidenceLevel := [.high, .medium, .low]

structure PrimaryRisk where
  issue : Text
  whyItMatters : Text
  estimatedRiskAt : Text
  deriving DecidableEq, Repr

structure RecommendedFix where
  action : Text
  impact : Text
  deriving DecidableEq, Repr

structure Confidence where
  level : ConfidenceLevel
  reason : Text
  deriving DecidableEq, Repr

/-- What is said about one query. -/
structure Analysis where
  verdict : Verdict
  headline : Text
  primaryRisk : PrimaryRisk
  recommendedFix : RecommendedFix
  confidence : Confidence
  nextStep : Text
  deriving DecidableEq, Repr

namespace Analysis

def riskToJson (r : PrimaryRisk) : Json :=
  .object [("issue", .str r.issue), ("whyItMatters", .str r.whyItMatters),
    ("estimatedRiskAt", .str r.estimatedRiskAt)]

def fixToJson (f : RecommendedFix) : Json :=
  .object [("action", .str f.action), ("impact", .str f.impact)]

def confidenceToJson (c : Confidence) : Json :=
  .object [("level", .str c.level.name), ("reason", .str c.reason)]

/-- The analysis as an object. -/
def toJson (a : Analysis) : Json :=
  .object [("verdict", .str a.verdict.name), ("headline", .str a.headline),
    ("primaryRisk", riskToJson a.primaryRisk), ("recommendedFix", fixToJson a.recommendedFix),
    ("confidence", confidenceToJson a.confidence), ("nextStep", .str a.nextStep)]

/-- The eight fields that hold free text. -/
def texts (a : Analysis) : List Text :=
  [a.headline, a.primaryRisk.issue, a.primaryRisk.whyItMatters, a.primaryRisk.estimatedRiskAt,
    a.recommendedFix.action, a.recommendedFix.impact, a.confidence.reason, a.nextStep]

end Analysis

end QueryAdvisor
