import CallPolicy.Text.Utf8
import CallPolicy.Rule.Forms
import CallPolicy.Json.Reader
import CallPolicy.Json.Writer
import CallPolicy.Policy
import CallPolicy.Walk
import CallPolicy.Tree.Dump
import CallPolicy.Reference
import CallPolicy.Files
import CallPolicy.Xml.Source
import CallPolicy.Xml.Markup
import CallPolicy.Xml.CodePages
import CallPolicy.Xml.Declaration
import CallPolicy.Xml.Entity
import CallPolicy.Xml.Doctype.Token
import CallPolicy.Xml.Doctype.Reader
import CallPolicy.Xml.Document
import CallPolicy.Config
import CallPolicy.Yaml.Token
import CallPolicy.Yaml.Scalar
import CallPolicy.Yaml.Tokens
import CallPolicy.Yaml.Tag
import CallPolicy.Yaml.Graph
import CallPolicy.Yaml
import CallPolicy.Report.Result
import CallPolicy.ParserLibrary
import CallPolicy.Session
import CallPolicy.Main
import CallPolicy.Proofs.Reporting
import CallPolicy.Proofs.Places
import CallPolicy.Proofs.Pruning
import CallPolicy.Proofs.Layout
import CallPolicy.Proofs.Reading
import CallPolicy.Proofs.Walking
import CallPolicy.Proofs.Ownership
import CallPolicy.Proofs.Inspecting
import CallPolicy.Proofs.Loading
import CallPolicy.Proofs.Extending
import CallPolicy.Proofs.RuleDefects
import CallPolicy.Proofs.Defects
import CallPolicy.Proofs.Brackets
import CallPolicy.Proofs.Creations
import CallPolicy.Proofs.DependentCalls
import CallPolicy.Proofs.Temporaries
import CallPolicy.Proofs.Wrappers
import CallPolicy.Proofs.Outcomes
import CallPolicy.Proofs.Arguments
import CallPolicy.Proofs.PlainPatterns
import CallPolicy.Proofs.RuleForms
import CallPolicy.Proofs.RulesFiles
import CallPolicy.Proofs.Acceptance
import CallPolicy.Proofs.OptionalFiles
import CallPolicy.Proofs.LiteralRules
import CallPolicy.Proofs.Agenda
import CallPolicy.Proofs.FileUris
import CallPolicy.Proofs.Merging
import CallPolicy.Proofs.Validation
import CallPolicy.Proofs.Counterparts
import CallPolicy.Proofs.Descriptions
import CallPolicy.Proofs.Initializers
import CallPolicy.Proofs.CvQualifiers
import CallPolicy.Proofs.Wording
import CallPolicy.Proofs.Sessions
