import Subscriber.Slot
import Subscriber.Link.Clients
import Subscriber.Loopback
import Subscriber.Settings
import Subscriber.Proofs.ByteStreams
import Subscriber.Proofs.ConformingServer
import Subscriber.Proofs.LinkFailure
import Subscriber.Proofs.ServerAgreement
import Subscriber.Proofs.Pipelining
import Subscriber.Proofs.OwnAnswers
import Subscriber.Proofs.FanOut
import Subscriber.Proofs.Merging
import Subscriber.Proofs.Observing
import Subscriber.Proofs.Pumping
import Subscriber.Proofs.Delivering
import Subscriber.Proofs.ArrivalOrder
import Subscriber.Proofs.Piecewise
import Subscriber.Proofs.RoundTrip
import Subscriber.Proofs.Grammar
import Subscriber.Proofs.StreamLives
import Subscriber.Proofs.FailedConnections
import Subscriber.Proofs.WrittenCommands
import Subscriber.Proofs.Moves
import Subscriber.Proofs.Turns
import Subscriber.Proofs.Deeds
import Subscriber.Proofs.Closing
import Subscriber.Proofs.Endings
import Subscriber.Proofs.Cancellation
import Subscriber.Proofs.TransportAgreement
import Subscriber.Proofs.ListenerLog
import Subscriber.Proofs.Teardown
import Subscriber.Proofs.Leftovers
import Subscriber.Proofs.OnePass
import Subscriber.Proofs.FrameSizes
import Subscriber.Proofs.StalePumps
import Subscriber.Proofs.FirstInFirstOut
import Subscriber.Proofs.FailedCalls
import Subscriber.Proofs.SharedTags
import Subscriber.Proofs.CanonicalForm
import Subscriber.Proofs.Handshakes
import Subscriber.Proofs.UnfinishedWrites
import Subscriber.Proofs.UnseenQueues
