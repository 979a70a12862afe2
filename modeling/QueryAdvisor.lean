import QueryAdvisor.Audit.Sink
import QueryAdvisor.Service
import QueryAdvisor.Settings.Environment
import QueryAdvisor.Text.PrintableTable
import QueryAdvisor.Audit.Template.Layout
import QueryAdvisor.Audit.Template
import QueryAdvisor.Proofs.Text.Words
import QueryAdvisor.Proofs.Text.Trim
import QueryAdvisor.Proofs.Text.Capitals
import QueryAdvisor.Proofs.Policy.Rules
import QueryAdvisor.Proofs.Sandbox.Terminator
import QueryAdvisor.Proofs.Sandbox.Quotes
import QueryAdvisor.Proofs.Sandbox.Execution
import QueryAdvisor.Proofs.Sandbox.SingleStatement
import QueryAdvisor.Proofs.Sandbox.Compliance
import QueryAdvisor.Proofs.History.RecentList
import QueryAdvisor.Proofs.History.LimitedReads
import QueryAdvisor.Proofs.Json.Wire
import QueryAdvisor.Proofs.Service.Serving
import QueryAdvisor.Proofs.Service.Outward
import QueryAdvisor.Proofs.Service.RecentQueries
import QueryAdvisor.Proofs.Service.Verdicts
import QueryAdvisor.Proofs.Advice.Strategies
import QueryAdvisor.Proofs.Analysis.Fields
import QueryAdvisor.Proofs.Advice.Wording
import QueryAdvisor.Proofs.Analysis.Written
import QueryAdvisor.Proofs.Sandbox.Fallback
import QueryAdvisor.Proofs.Service.AnalysisAnswers
import QueryAdvisor.Proofs.Plan.Shape
import QueryAdvisor.Proofs.Plan.FirstFault
import QueryAdvisor.Proofs.Plan.Total
import QueryAdvisor.Proofs.Plan.Frontier
import QueryAdvisor.Proofs.Plan.WireForms
import QueryAdvisor.Proofs.Plan.Contract
import QueryAdvisor.Proofs.Analysis.WireForm
import QueryAdvisor.Proofs.Service.Closing
import QueryAdvisor.Proofs.Service.Isolation
import QueryAdvisor.Proofs.Json.Nesting
import QueryAdvisor.Proofs.Json.Parts
import QueryAdvisor.Proofs.Service.PlanAnswers
import QueryAdvisor.Proofs.Sandbox.Kept
import QueryAdvisor.Proofs.Sandbox.Literals
import QueryAdvisor.Proofs.Text.Layout
import QueryAdvisor.Proofs.Analysis.Findings
import QueryAdvisor.Proofs.Policy.Rewriting
import QueryAdvisor.Proofs.Analysis.Rewriting
import QueryAdvisor.Proofs.Text.Lines
import QueryAdvisor.Proofs.Analysis.FieldByField
import QueryAdvisor.Proofs.Analysis.Fence
import QueryAdvisor.Proofs.Advice.AuditTrail
import QueryAdvisor.Proofs.Advice.ModelCalls
