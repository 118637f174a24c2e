import GeoAccess.Address.Ip
import GeoAccess.Address.Range
import GeoAccess.Admin.Rule
import GeoAccess.Authorization.Cache
import GeoAccess.Authorization.Engine
import GeoAccess.Authorization.Service
import GeoAccess.Data.Datum
import GeoAccess.Data.Decode
import GeoAccess.Data.Json
import GeoAccess.Data.OrdSet
import GeoAccess.Decision.Info
import GeoAccess.Decision.Merge
import GeoAccess.Error
import GeoAccess.Event
import GeoAccess.Geometry
import GeoAccess.Host.App
import GeoAccess.Host.Cli
import GeoAccess.Host.Config
import GeoAccess.Host.Files
import GeoAccess.Host.Report
import GeoAccess.Host.Seed
import GeoAccess.Main
import GeoAccess.Match
import GeoAccess.Proofs.AddressText
import GeoAccess.Proofs.Announcements
import GeoAccess.Proofs.Cache
import GeoAccess.Proofs.Decision
import GeoAccess.Proofs.Frame
import GeoAccess.Proofs.Identity
import GeoAccess.Proofs.Invariants
import GeoAccess.Proofs.Listing
import GeoAccess.Proofs.Matching
import GeoAccess.Proofs.Ordered
import GeoAccess.Proofs.Precedence
import GeoAccess.Proofs.Refusals
import GeoAccess.Proofs.Signature
import GeoAccess.Proofs.Table
import GeoAccess.Proofs.Writes
import GeoAccess.Request
import GeoAccess.Rule.Basic
import GeoAccess.Rule.Grant
import GeoAccess.Rule.Json
import GeoAccess.Store.AdminRules
import GeoAccess.Store.Rules
import GeoAccess.Store.Table
import GeoAccess.Text.Ascii
import GeoAccess.Text.Blank
import GeoAccess.Text.Numeral
import GeoAccess.Text.Printable
import GeoAccess.Text.Quote
import GeoAccess.Yaml.Cursor
import GeoAccess.Yaml.Document
import GeoAccess.Yaml.Number
import GeoAccess.Yaml.Parser
import GeoAccess.Yaml.Read
import GeoAccess.Yaml.Scanner
import GeoAccess.Yaml.Token
import GeoAccess.Proofs.MemberOrder
import GeoAccess.Proofs.PayloadsReadBack
import GeoAccess.Proofs.RulesReadBack
import GeoAccess.Proofs.Combine
import GeoAccess.Proofs.Merge
import GeoAccess.Proofs.Areas
import GeoAccess.Proofs.CacheSteps
import GeoAccess.Proofs.Containment
import GeoAccess.Proofs.AdminDecision
import GeoAccess.Proofs.Shifting
import GeoAccess.Proofs.Permissive
import GeoAccess.Proofs.RangeNormalForm
