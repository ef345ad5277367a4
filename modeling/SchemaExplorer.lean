import SchemaExplorer.Main
import SchemaExplorer.Proofs.Query.Generated
import SchemaExplorer.Proofs.Sdl.Growth
import SchemaExplorer.Proofs.Sdl.Invariant
import SchemaExplorer.Proofs.Sdl.RoundTrip
import SchemaExplorer.Proofs.Sdl.Segment
import SchemaExplorer.Proofs.Sdl.Found
import SchemaExplorer.Proofs.Catalog.Lookup
import SchemaExplorer.Proofs.Sdl.Registers
import SchemaExplorer.Proofs.Sdl.Shown
import SchemaExplorer.Proofs.Query.Provided
import SchemaExplorer.Proofs.Json.RoundTrip
import SchemaExplorer.Proofs.Schema.Encoding
import SchemaExplorer.Proofs.Catalog.RoundTrip
import SchemaExplorer.Proofs.Sdl.Layout
import SchemaExplorer.Proofs.Files.Loading
import SchemaExplorer.Proofs.Sdl.Description
import SchemaExplorer.Proofs.Sdl.TypeName
import SchemaExplorer.Proofs.CommandLine.GivenValues
import SchemaExplorer.Proofs.Catalog.Index
import SchemaExplorer.Proofs.Catalog.FieldPath
import SchemaExplorer.Proofs.Sdl.Written
import SchemaExplorer.Proofs.Query.Quoting
import SchemaExplorer.Proofs.Schema.Signature
import SchemaExplorer.Proofs.Query.Wrapping
import SchemaExplorer.Proofs.Files.Finding
import SchemaExplorer.Proofs.Query.Layers
import SchemaExplorer.Proofs.Sdl.Relayout
import SchemaExplorer.Proofs.CommandLine.Listing
import SchemaExplorer.Proofs.Sdl.Grammar
import SchemaExplorer.Proofs.Sdl.Backtracking
