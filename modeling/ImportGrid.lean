import ImportGrid.Main
import ImportGrid.Session
import ImportGrid.Proofs.Settling
import ImportGrid.Proofs.BlockLayout
import ImportGrid.Proofs.GridColumns
import ImportGrid.Proofs.LayoutContent
import ImportGrid.Proofs.DiskView
import ImportGrid.Proofs.OrderLaws
import ImportGrid.Proofs.SeparateFiles
import ImportGrid.Proofs.RunResults
import ImportGrid.Proofs.DigitRuns
import ImportGrid.Proofs.InPlaceEdits
import ImportGrid.Proofs.FixChoice
import ImportGrid.Proofs.InnerComments
import ImportGrid.Proofs.LineEndings
import ImportGrid.Proofs.Spacing
import ImportGrid.Proofs.MatcherMap
import ImportGrid.Proofs.GroupOrder
import ImportGrid.Proofs.TextWeights
import ImportGrid.Proofs.FoundFiles
import ImportGrid.Proofs.Positions
import ImportGrid.Proofs.LineReading
import ImportGrid.Proofs.CleanTexts
