import KineticScroll.Container.Operation
import KineticScroll.Proofs.Drift
import KineticScroll.Text.Description
import KineticScroll.Proofs.Change
import KineticScroll.Proofs.Answer
import KineticScroll.Proofs.Course
import KineticScroll.Proofs.EventProtocol
import KineticScroll.Proofs.LawfulPhysics
import KineticScroll.Proofs.Polls
import KineticScroll.Proofs.Steps
import KineticScroll.Proofs.ContentEnd
import KineticScroll.Proofs.QuietPeriod
import KineticScroll.Proofs.Agreement
import KineticScroll.Proofs.DueSteps
import KineticScroll.Proofs.RestingEnd
import KineticScroll.Proofs.Unhindered
import KineticScroll.Proofs.Fitting
import KineticScroll.Proofs.Takeover
import KineticScroll.Proofs.RestingPlace
import KineticScroll.Proofs.DragPairs
import KineticScroll.Proofs.DisabledScrolling
import KineticScroll.Proofs.Metering
import KineticScroll.Proofs.Echoes
import KineticScroll.Proofs.VisibleRect
import KineticScroll.Proofs.StockPhysics
import KineticScroll.Proofs.Quiescence
import KineticScroll.Proofs.InRange
import KineticScroll.Proofs.ClockMotion
import KineticScroll.Proofs.ClockPane
import KineticScroll.Proofs.ClockRun
import KineticScroll.Proofs.Pages
import KineticScroll.Proofs.LastPage
import KineticScroll.Proofs.SettleLife
import KineticScroll.Proofs.Detached
import KineticScroll.Proofs.Ringing
import KineticScroll.Proofs.Undisturbed
import KineticScroll.Proofs.Rounding
import KineticScroll.Proofs.Unpacked
import KineticScroll.Proofs.Arithmetic
import KineticScroll.Proofs.Coasting
import KineticScroll.Proofs.AnnouncedRest
import KineticScroll.Proofs.VisiblePoints
import KineticScroll.Proofs.Repeats
import KineticScroll.Proofs.Curves
import KineticScroll.Proofs.Segment
