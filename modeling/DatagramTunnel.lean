import DatagramTunnel.Config.Document
import DatagramTunnel.Datagram
import DatagramTunnel.Location.Document
import DatagramTunnel.Relay
import DatagramTunnel.Proofs.Call
import DatagramTunnel.Proofs.Reader.Decoder
import DatagramTunnel.Proofs.Sides
import DatagramTunnel.Proofs.Reader.Refinement
import DatagramTunnel.Proofs.Transport.Push
import DatagramTunnel.Proofs.Writer.Flush
import DatagramTunnel.Proofs.Writer.Journal
import DatagramTunnel.Proofs.Writer.Wire
import DatagramTunnel.Proofs.Location.Demand
import DatagramTunnel.Proofs.Location.Receiving
import DatagramTunnel.Proofs.Handshake
import DatagramTunnel.Proofs.Reader.Deliveries
import DatagramTunnel.Proofs.EndToEnd
import DatagramTunnel.Proofs.Writer.Free
import DatagramTunnel.Proofs.Relay
import DatagramTunnel.Proofs.Directions
import DatagramTunnel.Proofs.Writer.Shutdown
import DatagramTunnel.Proofs.Closing
import DatagramTunnel.Proofs.Agreement
import DatagramTunnel.Proofs.Location.Outcome
import DatagramTunnel.Proofs.Datagram
import DatagramTunnel.Proofs.Ip.V4
import DatagramTunnel.Proofs.Text.Utf8
import DatagramTunnel.Proofs.Ip.V6
import DatagramTunnel.Proofs.Address
import DatagramTunnel.Proofs.Location.Text
import DatagramTunnel.Proofs.Yaml.Quoted
import DatagramTunnel.Proofs.Yaml.Document
import DatagramTunnel.Proofs.Location.Document
import DatagramTunnel.Proofs.Location.Grammar
import DatagramTunnel.Proofs.Location.Encodable
import DatagramTunnel.Proofs.Reader.Buffer
import DatagramTunnel.Proofs.Reader.Room
import DatagramTunnel.Proofs.Transport.Exchange
import DatagramTunnel.Proofs.Writer.Finishing
import DatagramTunnel.Proofs.Writer.Failure
import DatagramTunnel.Proofs.Writer.Refusal
