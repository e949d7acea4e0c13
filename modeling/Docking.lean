import Docking.Session.Payload
import Docking.Session.Delivery
import Docking.Snapshot.Bands
import Docking.Event.Queue
import Docking.Event.Native
import Docking.Log.Logger
import Docking.Proofs.Flight.Observation
import Docking.Proofs.Flight.Leave
import Docking.Proofs.Window.Ledger
import Docking.Proofs.Flight.Insertion
import Docking.Proofs.Flight.Nesting
import Docking.Proofs.Flight.Passage
import Docking.Proofs.Flight.Release
import Docking.Proofs.Session.Deed
import Docking.Proofs.Session.Cursor
import Docking.Proofs.Session.Picture
import Docking.Proofs.Window.Recovery
import Docking.Proofs.Window.Fallback
import Docking.Proofs.Window.Gear
import Docking.Proofs.Window.SystemDrag
import Docking.Proofs.Twins.Veil
import Docking.Proofs.Twins.Scene
import Docking.Proofs.Twins.Session
import Docking.Proofs.Twins.Rest
import Docking.Proofs.Twins.Landing
import Docking.Proofs.Twins.Step
import Docking.Proofs.Twins.Takeoff
import Docking.Proofs.Twins.Run
import Docking.Proofs.Event.Queue
import Docking.Proofs.Tree.Walk
import Docking.Proofs.Session.Command
import Docking.Proofs.Window.Rollback
import Docking.Proofs.Flight.Reference
import Docking.Proofs.Session.Reference
import Docking.Proofs.Session.Upkeep
import Docking.Proofs.Session.CatchUp
import Docking.Proofs.Tree.Vacancy
import Docking.Proofs.Window.StrongDrag
import Docking.Proofs.Window.Bystander
import Docking.Proofs.Window.Ownership
import Docking.Proofs.Window.Abandonment
import Docking.Proofs.Window.RoundTrip
import Docking.Proofs.Flight.Candidate
import Docking.Proofs.Session.Career
import Docking.Proofs.Session.Press
import Docking.Proofs.Window.Pursuit
import Docking.Proofs.Flight.Posting
import Docking.Proofs.Session.Disregard
import Docking.Proofs.Event.Intake
import Docking.Proofs.Tree.Refusal
import Docking.Proofs.Snapshot.Layers
import Docking.Proofs.Tree.Subtree
import Docking.Proofs.Session.Style
