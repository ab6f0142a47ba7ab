import UniverEscrow.Consensus.QuorumThreshold
import UniverEscrow.Enclave.EnclaveBridgeService

/-!
# Peer discovery

Peers enter through their attestation; the local node counts itself on top of them.
-/

namespace UniverEscrow.Consensus

open UniverEscrow.Js UniverEscrow.Enclave

structure ClusterPeer where
  nodeId : NodeId
  endpoint : String
  isAttested : Bool

structure EnclaveClusterService where
  peers : OrderedMap NodeId ClusterPeer

namespace EnclaveClusterService

/-- Verifying the peer's document moves the readiness flag of the local bridge. -/
def registerPeer (rsa : RsaVerify) (nodeId : NodeId) (endpoint : String) (attestation : JsValue)
    (cluster : EnclaveClusterService) (bridge : EnclaveBridge) :
    Bool × EnclaveClusterService × EnclaveBridge :=
  let (ok, bridge) := bridge.verifyEnclaveAttestation rsa attestation
  if !ok then (false, cluster, bridge)
  else (true, ⟨cluster.peers.set nodeId ⟨nodeId, endpoint, true⟩⟩, bridge)

def clearClusterTopology : EnclaveClusterService := ⟨.empty⟩

def getClusterSize (cluster : EnclaveClusterService) : ℕ := cluster.peers.size + 1

def getAttestedPeers (cluster : EnclaveClusterService) : List ClusterPeer := cluster.peers.values

theorem bridge_registerPeer (rsa : RsaVerify) (nodeId : NodeId) (endpoint : String)
    (attestation : JsValue) (cluster : EnclaveClusterService) (bridge : EnclaveBridge) :
    (registerPeer rsa nodeId endpoint attestation cluster bridge).2.2 =
      (bridge.verifyEnclaveAttestation rsa attestation).2 := by
  unfold registerPeer
  dsimp only
  split_ifs <;> rfl

end EnclaveClusterService

end UniverEscrow.Consensus
