import Harvest.Main
import Harvest.Mapping.Session
import Harvest.Node.Selection
import Harvest.Proofs.CommandLine.Tables
import Harvest.Proofs.Files.Layout
import Harvest.Proofs.Json.RoundTrip
import Harvest.Proofs.Mapping.Batch
import Harvest.Proofs.Mapping.Nested
import Harvest.Proofs.Mapping.Order
import Harvest.Proofs.Mapping.Session
import Harvest.Proofs.Mapping.Spelling
import Harvest.Proofs.Mapping.Totality
import Harvest.Proofs.Node.Agreement
import Harvest.Proofs.Node.Order
import Harvest.Proofs.Node.Wildcard
import Harvest.Proofs.Path.Composition
import Harvest.Proofs.Mapping.Calls
import Harvest.Proofs.Mapping.Independence
import Harvest.Proofs.Xml.Attributes
import Harvest.Proofs.Node.Attributes
import Harvest.Proofs.Mapping.Unmatched
import Harvest.Proofs.Mapping.Values
import Harvest.Proofs.Xml.Value
import Harvest.Proofs.CommandLine.Unsupported
import Harvest.Proofs.Data.Equality
import Harvest.Proofs.Mapping.Distribution
import Harvest.Proofs.Path.Index
import Harvest.Proofs.Files.LineRecords
