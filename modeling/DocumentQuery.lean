import DocumentQuery.Json.Reader
import DocumentQuery.Places.Borough
import DocumentQuery.Places.Neighborhood
import DocumentQuery.Places.Restaurant
import DocumentQuery.Proofs.DistinctValues
import DocumentQuery.Proofs.Equality
import DocumentQuery.Proofs.FoldedAnchors
import DocumentQuery.Proofs.HiddenFields
import DocumentQuery.Proofs.Identifiers
import DocumentQuery.Proofs.Pages
import DocumentQuery.Proofs.ResourceCalls
import DocumentQuery.Resource.Update
import DocumentQuery.Proofs.MalformedMutations
import DocumentQuery.Proofs.OwnField
import DocumentQuery.Proofs.ReadBack
import DocumentQuery.Proofs.SeparatePaths
import DocumentQuery.Proofs.Upserts
import DocumentQuery.Proofs.BuilderCalls
import DocumentQuery.Proofs.FirstAnswer
import DocumentQuery.Proofs.Nearest
import DocumentQuery.Proofs.WrittenDescriptors
import DocumentQuery.Proofs.ModelDocuments
import DocumentQuery.Proofs.OlderNames
import DocumentQuery.Proofs.Centroids
import DocumentQuery.Proofs.PipelineParts
import DocumentQuery.Proofs.ValidFilters
import DocumentQuery.Proofs.ReportedChanges
import DocumentQuery.Proofs.SeparateSettings
import DocumentQuery.Proofs.MovedValues
import DocumentQuery.Proofs.ValueKinds
import DocumentQuery.Proofs.RangeFilters
import DocumentQuery.Proofs.SortedDocuments
import DocumentQuery.Proofs.LocatedDocuments
import DocumentQuery.Proofs.GroupedDocuments
import DocumentQuery.Proofs.ProjectedDocuments
import DocumentQuery.Proofs.ContainedText
import DocumentQuery.Proofs.CoveredPoints
import DocumentQuery.Proofs.RingCentroids
import DocumentQuery.Proofs.JoinedPaths
import DocumentQuery.Proofs.BlockedWrites
