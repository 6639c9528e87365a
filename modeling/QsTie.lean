import QsTie.Lib.Program
import QsTie.Common.FrameCodec
import QsTie.Common.FrameGrammar
import QsTie.Lib.Transition
import QsTie.Common.Envelope
import QsTie.Common.EnvelopeWire
import QsTie.Common.JsonText
import QsTie.GatewayB.InboundPep
import QsTie.GatewayB.TrustStore
import QsTie.GatewayB.Protocol
import QsTie.GatewayB.Admission
import QsTie.GatewayB.Outcome
import QsTie.GatewayB.Segmentation
import QsTie.GatewayB.Response
import QsTie.GatewayB.Terminal
import QsTie.GatewayB.Ingestor
import QsTie.GatewayA.Models
import QsTie.GatewayA.OutboundPep
import QsTie.GatewayA.StixExtractor
import QsTie.Trust.Revocation
import QsTie.Common.Path
import QsTie.GatewayB.Verifier
import QsTie.Trust.Bundle
import QsTie.Common.Integer
import QsTie.Lib.Rounding
import QsTie.GatewayA.Transmission
import QsTie.GatewayA.Framing
import QsTie.GatewayA.Pipeline
import QsTie.GatewayA.Conservation
import QsTie.GatewayA.Shutdown
import QsTie.GatewayA.Retry
import QsTie.GatewayA.Nack
import QsTie.Lib.Trace
import QsTie.Lib.Handoff
import QsTie.GatewayA.Lifecycle
import QsTie.Exchange.Link
import QsTie.Exchange.Agreement
import QsTie.Exchange.Attempts
import QsTie.Common.JsonRead
import QsTie.Common.Sha256
import QsTie.GatewayB.Determinacy
import QsTie.GatewayB.Concurrency
import QsTie.GatewayA.DeadLetter
import QsTie.GatewayB.Marking
import QsTie.GatewayB.ReadLoop
import QsTie.Benchmark.Telemetry
import QsTie.GatewayA.MispListener
import QsTie.Benchmark.Analysis
import QsTie.Benchmark.Latency
import QsTie.Benchmark.Archive
import QsTie.GatewayA.Backlog
import QsTie.GatewayB.Service
import QsTie.Lib.Disk
import QsTie.Trust.Authority
import QsTie.GatewayA.Signer
import QsTie.GatewayB.Served
import QsTie.Exchange.Reply
import QsTie.Exchange.Deployment
import QsTie.GatewayA.Settled
import QsTie.Exchange.Relay
import QsTie.Exchange.Rest
import QsTie.Exchange.Integrity
import QsTie.Exchange.Measured
