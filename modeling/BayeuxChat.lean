import BayeuxChat.Bayeux.Error
import BayeuxChat.Bayeux.Journal
import BayeuxChat.Main
import BayeuxChat.Settings.Folder
import BayeuxChat.Proofs.Envelope.Format
import BayeuxChat.Proofs.Log.Authorship
import BayeuxChat.Proofs.Loopback.Deliveries
import BayeuxChat.Proofs.Loopback.Tidings
import BayeuxChat.Proofs.Room.CallGrammar
import BayeuxChat.Proofs.Room.Delivery
import BayeuxChat.Proofs.Terminal.Simulation
import BayeuxChat.Proofs.Room.Failure
import BayeuxChat.Proofs.Room.EndedSession
import BayeuxChat.Proofs.Room.Standing
import BayeuxChat.Proofs.Room.Addressee
import BayeuxChat.Proofs.Room.Steering
import BayeuxChat.Proofs.Room.Rejoin
import BayeuxChat.Proofs.Room.Isolation
import BayeuxChat.Proofs.Settings.RoomName
import BayeuxChat.Proofs.Terminal.Serving
import BayeuxChat.Proofs.Settings.Precedence
import BayeuxChat.Proofs.Settings.Endpoint
import BayeuxChat.Proofs.Room.Reports
import BayeuxChat.Proofs.Terminal.Connection
import BayeuxChat.Proofs.Bayeux.ErrorText
import BayeuxChat.Proofs.Bayeux.Rereading
import BayeuxChat.Proofs.Terminal.Grammar
import BayeuxChat.Proofs.Terminal.OutputLines
