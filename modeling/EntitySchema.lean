import EntitySchema.Main
import EntitySchema.Snapshot.Apply
import EntitySchema.Proofs.Placement
import EntitySchema.Proofs.Implied.Steps
import EntitySchema.Proofs.Tracking.Agreement
import EntitySchema.Proofs.Inverse
import EntitySchema.Proofs.Implied.Outline
import EntitySchema.Proofs.Tracking.Relations
import EntitySchema.Proofs.Tracking.Queries
import EntitySchema.Proofs.Tracking.Nesting
import EntitySchema.Proofs.Tracking.Changes
import EntitySchema.Proofs.Implied.Growth
import EntitySchema.Proofs.Implied.Kinds
import EntitySchema.Proofs.Implied.Idempotence
import EntitySchema.Proofs.Implied.ForeignKeys
import EntitySchema.Proofs.Migration.TableStates
import EntitySchema.Proofs.Migration.Checks
import EntitySchema.Proofs.Migration.Tables
import EntitySchema.Proofs.Migration.Apply
import EntitySchema.Proofs.Migration.Entities
import EntitySchema.Proofs.Migration.Comparison
import EntitySchema.Proofs.Migration.Convergence
import EntitySchema.Proofs.Migration.Satisfaction
import EntitySchema.Proofs.Migration.Frame
import EntitySchema.Proofs.Migration.PivotTables
import EntitySchema.Proofs.Migration.TableNames
import EntitySchema.Proofs.Migration.Locality
import EntitySchema.Proofs.Migration.Conflicts
import EntitySchema.Proofs.Migration.Indexes
import EntitySchema.Proofs.Relation.Opposite
import EntitySchema.Proofs.Relation.ManyToMany
import EntitySchema.Proofs.Relation.HasSides
import EntitySchema.Proofs.Relation.Rejoined
import EntitySchema.Proofs.Migration.PivotCoverage
import EntitySchema.Proofs.Relation.SpelledOut
import EntitySchema.Proofs.Lines.Physical
import EntitySchema.Proofs.Lines.Groups
import EntitySchema.Proofs.Lines.Layout
import EntitySchema.Proofs.Json.Strings
import EntitySchema.Proofs.Json.Values
import EntitySchema.Proofs.Json.Snapshots
import EntitySchema.Proofs.Naming.Plurals
import EntitySchema.Proofs.Naming.Declarations
import EntitySchema.Proofs.Relation.Conventions
import EntitySchema.Proofs.Declaration.Tags
import EntitySchema.Proofs.Declaration.Fields
import EntitySchema.Proofs.Declaration.Methods
import EntitySchema.Proofs.Ownership
import EntitySchema.Proofs.Implied.Declared
import EntitySchema.Proofs.Implied.Justified
import EntitySchema.Proofs.Migration.Reordering
import EntitySchema.Proofs.Join.Grammar
import EntitySchema.Proofs.Join.PivotTable
import EntitySchema.Proofs.Migration.Renames
import EntitySchema.Proofs.Migration.RenameTargets
import EntitySchema.Proofs.Relation.Failures
import EntitySchema.Proofs.Relation.OwnJoin
import EntitySchema.Proofs.Lines.Extension
import EntitySchema.Proofs.Naming.Namespaces
import EntitySchema.Proofs.Naming.Identity
import EntitySchema.Proofs.Naming.Snake
import EntitySchema.Proofs.Declaration.Quoted
import EntitySchema.Proofs.Declaration.Commands
import EntitySchema.Proofs.Policies
