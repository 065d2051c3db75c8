import MetricArchive.Main
import MetricArchive.Proofs.Buffer.History
import MetricArchive.Proofs.Exposition.Breakdown
import MetricArchive.Proofs.Exposition.RoundTrip
import MetricArchive.Proofs.Store.Accounting
import MetricArchive.Proofs.Store.Forgetting
import MetricArchive.Proofs.Store.Identity
import MetricArchive.Status.Page
import MetricArchive.Store.Drain
import MetricArchive.Store.Schema
import MetricArchive.Problem.Given
import MetricArchive.Proofs.Buffer.WakeUp
import MetricArchive.Proofs.Store.NormalForm
import MetricArchive.Proofs.Pipeline.Turns
import MetricArchive.Proofs.Pipeline.Balance
import MetricArchive.Proofs.Exposition.LabelOrder
import MetricArchive.Proofs.Exposition.LineBreaks
import MetricArchive.Proofs.Exposition.Placement
import MetricArchive.Proofs.Pipeline.SourceFailure
import MetricArchive.Proofs.Text.Utf8
import MetricArchive.Proofs.Exposition.ConstantLabels
import MetricArchive.Proofs.Store.FirstSight
import MetricArchive.Proofs.Exposition.Prefixes
import MetricArchive.Proofs.Exposition.DescriptionGrammar
import MetricArchive.Proofs.Exposition.Descriptions
import MetricArchive.Proofs.Exposition.Remarks
import MetricArchive.Proofs.Source.Isolation
import MetricArchive.Proofs.Store.Timestamps
import MetricArchive.Proofs.Store.Location
import MetricArchive.Proofs.Store.OnDisk
import MetricArchive.Proofs.Source.Target
import MetricArchive.Proofs.Store.SeriesNames
import MetricArchive.Proofs.Store.SeriesLookup
import MetricArchive.Proofs.Exposition.QuotedValues
