import ControlEndpoint.Clocked.ValueChange
import ControlEndpoint.Endpoint
import ControlEndpoint.HandshakeSet.Text
import ControlEndpoint.Responder.Stock
import ControlEndpoint.ResponderBank.Monitored
import ControlEndpoint.SetupPacket.Condition
import ControlEndpoint.Proofs.Drive.Groups
import ControlEndpoint.Proofs.Drive.Alike
import ControlEndpoint.Proofs.Drive.Order
import ControlEndpoint.Proofs.GapTimer
import ControlEndpoint.Proofs.GapTimer.Signals
import ControlEndpoint.Proofs.GapTimer.Bounds
import ControlEndpoint.Proofs.FrontEnd.Timing
import ControlEndpoint.Proofs.FrontEnd.Progress
import ControlEndpoint.Proofs.SetupReceiver.Grammar
import ControlEndpoint.Proofs.SetupReceiver.Agreement
import ControlEndpoint.Proofs.SetupReceiver.Conservation
import ControlEndpoint.Proofs.SetupReceiver.HighSpeed
import ControlEndpoint.Proofs.ResponderBank
import ControlEndpoint.Proofs.ResponderBank.Slots
import ControlEndpoint.Proofs.ResponderBank.Stall
import ControlEndpoint.Proofs.Drive.Wires
import ControlEndpoint.Proofs.FrontEnd.Register
import ControlEndpoint.Proofs.Endpoint
import ControlEndpoint.Proofs.Endpoint.Delivery
import ControlEndpoint.Proofs.Responder.Address
import ControlEndpoint.Proofs.Endpoint.SetAddress
import ControlEndpoint.Proofs.FrontEnd.Stream
import ControlEndpoint.Proofs.ResponderBank.Undriven
import ControlEndpoint.Proofs.FrontEnd.Unread
import ControlEndpoint.Proofs.SetupPacket
import ControlEndpoint.Proofs.SetupPacket.Request
