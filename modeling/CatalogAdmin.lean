import CatalogAdmin.Text.Basic
import CatalogAdmin.Text.Blank
import CatalogAdmin.Text.Quoted
import CatalogAdmin.Uuid
import CatalogAdmin.Catalog.Record
import CatalogAdmin.Catalog.Engine
import CatalogAdmin.Catalog.Parser
import CatalogAdmin.Catalog.Replacement
import CatalogAdmin.Path
import CatalogAdmin.Layout
import CatalogAdmin.FileTree.Operations
import CatalogAdmin.Duration
import CatalogAdmin.Json.Printer
import CatalogAdmin.Server.Query
import CatalogAdmin.Server.Version
import CatalogAdmin.Purge
import CatalogAdmin.UuidChange
import CatalogAdmin.Disk.Program
import CatalogAdmin.Rehearsal
import CatalogAdmin.Settings.Value
import CatalogAdmin.Text.Digits
import CatalogAdmin.Text.Reader
import CatalogAdmin.Toml.Document
import CatalogAdmin.Settings.Environment
import CatalogAdmin.Settings.Loading
import CatalogAdmin.Domain.Table
import CatalogAdmin.Domain.Mapping
import CatalogAdmin.Domain.Marks
import CatalogAdmin.Domain.Composition
import CatalogAdmin.Domain.Direction
import CatalogAdmin.Domain.Joining
import CatalogAdmin.Domain.Punycode
import CatalogAdmin.Domain.Name
import CatalogAdmin.Settings.Validation
import CatalogAdmin.Settings.Display
import CatalogAdmin.Server.Http
import CatalogAdmin.Command.Run
import CatalogAdmin.Main
import CatalogAdmin.Proofs.Catalog.Declaration
import CatalogAdmin.Proofs.UuidChange.Failure
import CatalogAdmin.Proofs.Purge.Failure
import CatalogAdmin.Proofs.Text.Lines
import CatalogAdmin.Proofs.Catalog.Format
import CatalogAdmin.Proofs.Catalog.NewUuid
import CatalogAdmin.Proofs.Coordination.Expansion
import CatalogAdmin.Proofs.UuidChange.Occupied
import CatalogAdmin.Proofs.UuidChange.OpenLiteral
import CatalogAdmin.Proofs.Refusal
import CatalogAdmin.Proofs.Purge.Effect
import CatalogAdmin.Proofs.UuidChange.Effect
import CatalogAdmin.Proofs.Purge.DatabaseFile
import CatalogAdmin.Proofs.Purge.Retry
import CatalogAdmin.Proofs.Command.Catalogs
import CatalogAdmin.Proofs.UuidChange.Undo
import CatalogAdmin.Proofs.UuidChange.Independence
import CatalogAdmin.Proofs.Catalog.UuidRewrite
import CatalogAdmin.Proofs.Catalog.EngineRewrite
import CatalogAdmin.Proofs.Catalog.LineFeeds
import CatalogAdmin.Proofs.Command.SetEngine
import CatalogAdmin.Proofs.UuidChange.DataLink
import CatalogAdmin.Proofs.Coordination.Substitution
import CatalogAdmin.Proofs.Layout.Separation
import CatalogAdmin.Proofs.Server.Statements
import CatalogAdmin.Proofs.Disk.Classification
import CatalogAdmin.Proofs.Catalog.Arguments
import CatalogAdmin.Proofs.Command.Failures
