import Workcell.Bench
import Workcell.Flow.Dump
import Workcell.Main
import Workcell.Recipe.Plan
import Workcell.Value.Wire
import Workcell.Proofs.Upkeep.Turn
import Workcell.Proofs.Action.Basis
import Workcell.Proofs.Action.Blame
import Workcell.Proofs.Action.Later
import Workcell.Proofs.Cancellation.Finality
import Workcell.Proofs.Guarding.Guarded
import Workcell.Proofs.Guarding.Handlers
import Workcell.Proofs.Guarding.Rest
import Workcell.Proofs.Schedule.Law
import Workcell.Proofs.Session.Accounts
import Workcell.Proofs.Session.Operating
import Workcell.Proofs.Session.Lifecycle
import Workcell.Proofs.Session.Overlapping
import Workcell.Proofs.Settling
import Workcell.Proofs.Joining.Rounds
import Workcell.Proofs.Joining.Promptly
import Workcell.Proofs.Telemetry.Unmarked
import Workcell.Proofs.Fractions
import Workcell.Proofs.Travel
import Workcell.Proofs.Stock.Accounted
import Workcell.Proofs.Stock.Unique
import Workcell.Proofs.Twin.Law
import Workcell.Proofs.Twin.Blind
import Workcell.Proofs.Sequencing.Alike
import Workcell.Proofs.Sequencing.Binding
import Workcell.Proofs.Sequencing.Laws
import Workcell.Proofs.Sequencing.Chain
import Workcell.Proofs.Superseding.Devices
import Workcell.Proofs.Completion.Scenario
import Workcell.Proofs.Arriving.Strokes
import Workcell.Proofs.Arriving.Timely
import Workcell.Proofs.Retrying.Counting
import Workcell.Proofs.Retrying.Following
import Workcell.Proofs.Wire.Frames
import Workcell.Proofs.Sturdy.Valid
import Workcell.Proofs.Session.Afresh
import Workcell.Proofs.Kin.Turn
import Workcell.Proofs.Action.Intact
import Workcell.Proofs.Awaiting.Bounded
import Workcell.Proofs.Awaiting.Pressing
import Workcell.Proofs.Fit.Ranges
import Workcell.Proofs.Homing.All
import Workcell.Proofs.Stock.Moving
import Workcell.Proofs.Supply.Runs
import Workcell.Proofs.Wire.Values
