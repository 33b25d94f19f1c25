import QuicksortStudy.Chart.Draw
import QuicksortStudy.Main
import QuicksortStudy.Proofs.Binary64.LowerBounds
import QuicksortStudy.Proofs.Chart.Checks
import QuicksortStudy.Proofs.Chart.Curves
import QuicksortStudy.Proofs.Chart.Extent
import QuicksortStudy.Proofs.Chart.Pictures
import QuicksortStudy.Proofs.Chart.Quads
import QuicksortStudy.Proofs.Chart.Shades
import QuicksortStudy.Proofs.CommandLine.Plotting
import QuicksortStudy.Proofs.Decimal.Grammar
import QuicksortStudy.Proofs.Experiment.Draws
import QuicksortStudy.Proofs.Experiment.Ending
import QuicksortStudy.Proofs.Experiment.OrderStatistics
import QuicksortStudy.Proofs.Experiment.Outliers
import QuicksortStudy.Proofs.Experiment.Plottable
import QuicksortStudy.Proofs.Experiment.Reproducible
import QuicksortStudy.Proofs.Experiment.SelfCheck
import QuicksortStudy.Proofs.Folder.Siblings
import QuicksortStudy.Proofs.Metric.Extremes
import QuicksortStudy.Proofs.Metric.Invariance
import QuicksortStudy.Proofs.Metric.Ranks
import QuicksortStudy.Proofs.Metric.StableRanks
import QuicksortStudy.Proofs.Results.Accepted
import QuicksortStudy.Proofs.Results.Blame
import QuicksortStudy.Proofs.Results.Complaints
import QuicksortStudy.Proofs.Results.LineNumbers
import QuicksortStudy.Proofs.Results.Passages
import QuicksortStudy.Proofs.Results.Reading
import QuicksortStudy.Proofs.Results.Unquoted
import QuicksortStudy.Proofs.Samples.BlockEnds
import QuicksortStudy.Proofs.Samples.Operations
import QuicksortStudy.Proofs.Sorting.EditDistance
import QuicksortStudy.Proofs.Sorting.InPlace
import QuicksortStudy.Proofs.Sorting.Positions
import QuicksortStudy.Proofs.Text.Words
