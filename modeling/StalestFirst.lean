import StalestFirst.Main
import StalestFirst.Pool.Draw
import StalestFirst.Proofs.Queue.Agreement
import StalestFirst.Proofs.Queue.Healing
import StalestFirst.Proofs.Queue.Linear
import StalestFirst.Proofs.Queue.Spacing
import StalestFirst.Service.Desk
import StalestFirst.Settings.File
import StalestFirst.Simulation
import StalestFirst.Wire.Settings
import StalestFirst.Proofs.Queue.Repeats
import StalestFirst.Proofs.Queue.Delivery
import StalestFirst.Proofs.Queue.Grounded
import StalestFirst.Proofs.Queue.Schedule
import StalestFirst.Proofs.Service.Creation
import StalestFirst.Proofs.Service.Remote
import StalestFirst.Proofs.Queue.Endings
import StalestFirst.Proofs.Queue.Gate
import StalestFirst.Proofs.Moment.Calendar
import StalestFirst.Proofs.Moment.Written
import StalestFirst.Proofs.Queue.Unmade
import StalestFirst.Proofs.Service.Readiness
import StalestFirst.Proofs.Store.Records
import StalestFirst.Proofs.Queue.Choice
import StalestFirst.Proofs.Queue.Install
import StalestFirst.Proofs.Service.Tallies
import StalestFirst.Proofs.Service.Replies
import StalestFirst.Proofs.Service.Refusals
import StalestFirst.Proofs.Settings.Documents
