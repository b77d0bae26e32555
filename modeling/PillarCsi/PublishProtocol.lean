import PillarCsi.DesiredExport

/-!
Publish, unpublish and resync of one volume lifecycle by any number of
controller calls, against the agent that owns the volume
(`internal/csi/controller.go`, `internal/csi/export_resync.go`).

A call is a thread that stops at every compare-and-swap of the record and at
every agent call.  A sent request stays in the network for good: it may be
delivered at any time, any number of times, in any order or never.  A call that
waits for an answer goes on once its request was applied, and may give up at
any time before or after that.
-/

namespace PillarCsi.PublishProtocol

open FencingAdmission VolumeRecord DesiredExport

inductive Request where
  | allowInitiator (pub : VolumePublication) (fence : FencingToken)
  | denyInitiator (pub : VolumePublication) (fence : FencingToken)
  | setLocalAttach (enter filesystem : Bool) (fence : FencingToken)
  | reconcileState (source : VolumeState) (desired : VolumeDesiredState)
  deriving DecidableEq, Repr

def Request.fence : Request → FencingToken
  | .allowInitiator _ fence | .denyInitiator _ fence | .setLocalAttach _ _ fence => fence
  | .reconcileState _ desired => desired.fence

def Request.op : Request → FenceOp
  | .denyInitiator _ _ | .setLocalAttach false true _ => .revoke
  | _ => .grant

/-- The initiators a full-state push sets the ACL to, when it manages one. -/
def managedInitiators (desired : VolumeDesiredState) : Option (List String) :=
  (desired.exports.find? fun state =>
    state.aclEnabled || desired.filesystemAdoption.isSome).map (·.allowedInitiators)

def Request.applyACL (acl : List String) : Request → List String
  | .allowInitiator pub _ => if pub.initiatorID ∈ acl then acl else pub.initiatorID :: acl
  | .denyInitiator pub _ => acl.filter fun initiator => initiator ≠ pub.initiatorID
  | .setLocalAttach _ _ _ => acl
  | .reconcileState _ desired => (managedInitiators desired).getD acl

/-- The initiators a request may leave in the ACL when it fails half way. -/
def Request.granted : Request → List String
  | .allowInitiator pub _ => [pub.initiatorID]
  | .reconcileState _ desired => (managedInitiators desired).getD []
  | _ => []

/-- Whether the request fences (`true`) or opens (`false`) the network export.
An adopted filesystem keeps serving remote clients. -/
def Request.attachTarget : Request → Option Bool
  | .setLocalAttach enter filesystem _ => if filesystem then none else some enter
  | .reconcileState _ desired =>
    if desired.filesystemAdoption.isSome then none
    else desired.exports.head?.map (·.localAttach)
  | _ => none

/-- A publish with the record it read when it resolved its target. -/
structure PublishCall where
  pvs : VolumeState
  pub : VolumePublication
  deriving DecidableEq, Repr

structure UnpublishCall where
  pvs : VolumeState
  nodeID : String
  deriving DecidableEq, Repr

/-- Where a call stands.  `id` is the number of the request it waits for. -/
inductive Thread where
  | idle
  | reserving (call : PublishCall)
  | attaching (call : PublishCall) (id : Nat)
  | returning (call : PublishCall) (added : Bool) (id : Nat)
  | clearing (call : PublishCall) (added : Bool)
  | opening (call : PublishCall) (added : Bool) (fence : FencingToken) (id : Nat)
  | allowing (call : PublishCall) (added : Bool) (fence : FencingToken) (id : Nat)
  | compensating (call : PublishCall)
  | undoing (call : PublishCall) (fence : FencingToken) (id : Nat)
  | withdrawing (call : PublishCall) (fence : FencingToken)
  | fencing (call : UnpublishCall)
  | denying (call : UnpublishCall) (fence : FencingToken)
      (revoke rest : List VolumePublication) (done : List String)
      (pub : VolumePublication) (id : Nat)
  | detaching (call : UnpublishCall) (fence : FencingToken) (done : List String)
  | detached (call : UnpublishCall) (fence : FencingToken) (done : List String) (id : Nat)
  | releasing (call : UnpublishCall) (fence : Option FencingToken) (done : List String)
  deriving DecidableEq, Repr

structure System where
  record : VolumeState
  mark : Option FencingMark
  acl : List String
  localAttached : Bool
  sent : List Request
  acked : List Nat
  threads : Nat → Thread
  /-- Every record committed so far, newest first. -/
  history : List VolumeState
  /-- Nodes whose unpublish succeeded and that were not reserved since. -/
  unpublished : String → Bool
  /-- Generations of the successful publishes through the storage protocol. -/
  opened : List Nat
  /-- Generations of the reservations of local block publications. -/
  localReservations : List Nat

def System.init (record : VolumeState) (mark : Option FencingMark) (localAttached : Bool) :
    System :=
  { record := record, mark := mark, acl := [], localAttached := localAttached
    sent := [], acked := [], threads := fun _ => .idle, history := [record]
    unpublished := fun _ => false, opened := [], localReservations := [] }

variable (s : System) (tid : Nat)

def System.goto (thread : Thread) : System :=
  { s with threads := Function.update s.threads tid thread }

def System.send (request : Request) : System :=
  { s with sent := s.sent ++ [request] }

def System.call (request : Request) (wait : Nat → Thread) : System :=
  (s.send request).goto tid (wait s.sent.length)

variable (pvs : VolumeState)

def System.store : System :=
  { s with record := pvs, history := pvs :: s.history }

def isLocalAttachPublish (agentNode : Option String) (nodeID : String) (mode : AccessMode) : Bool :=
  if pvs.spec.filesystemAdoption.isNone ∧ pvs.spec.resolved.any (·.localAttach) = false then
    false
  else if agentNode ≠ some nodeID then
    false
  else if pvs.spec.filesystemAdoption.isSome then
    true
  else
    mode.singleNode

def filesystemMultiNodeMode : AccessMode → Bool
  | .multiNodeReaderOnly | .multiNodeSingleWriter | .multiNodeMultiWriter => true
  | _ => false

structure PublishRequest where
  nodeID : String
  /-- What the node reports as its initiator. -/
  initiatorID : String
  mode : AccessMode
  readonly : Bool := false
  /-- The node of the volume's agent, unless the agent is external. -/
  agentNode : Option String
  deriving DecidableEq, Repr

def resolvePublishTarget (request : PublishRequest) : Option VolumePublication :=
  let isLocal := isLocalAttachPublish pvs request.agentNode request.nodeID request.mode
  if request.nodeID = "" then
    none
  else if importNeverAdopted pvs ∨ recoveryPending pvs then
    none
  else if pvs.spec.filesystemAdoption.isSome ∧ isLocal = false ∧
      (localOnlyFilesystem pvs ∨ filesystemMultiNodeMode request.mode = false) then
    none
  else
    some
      { nodeID := request.nodeID
        initiatorID := if isLocal then request.nodeID else request.initiatorID
        accessMode := request.mode, readonly := request.readonly, isLocal := isLocal }

/-- Whether publish and unpublish change the agent's ACL. -/
def managesACL : Bool :=
  exportACLEnabled pvs || pvs.spec.filesystemAdoption.isSome

def System.publishSucceeded (fence : FencingToken) : System :=
  { s.goto tid .idle with opened := fence.generation :: s.opened }

variable (call : PublishCall) (added : Bool)

def System.grantPublishedExport (fence : FencingToken) : System :=
  if managesACL call.pvs then
    s.call tid (.allowInitiator call.pub fence) (.allowing call added fence)
  else
    s.publishSucceeded tid fence

def System.restorePublishedExport (fence : FencingToken) : System :=
  if call.pvs.localAttachNode ≠ "" then
    s.call tid (.setLocalAttach false call.pvs.spec.filesystemAdoption.isSome fence)
      (.returning call added)
  else if call.pvs.spec.filesystemAdoption.isNone ∧
      call.pvs.spec.resolved.any (·.localAttach) then
    s.call tid (.setLocalAttach false false fence) (.opening call added fence)
  else
    s.grantPublishedExport tid call added fence

def System.finishPublish (fence : FencingToken) : System :=
  if call.pub.isLocal then
    s.call tid (.setLocalAttach true call.pvs.spec.filesystemAdoption.isSome fence)
      (.attaching call)
  else
    s.restorePublishedExport tid call added fence

def System.reserve (pub : VolumePublication) : System :=
  { s.store pvs with
    unpublished := Function.update s.unpublished pub.nodeID false
    localReservations :=
      if pub.isLocal ∧ pvs.spec.filesystemAdoption.isNone then
        pvs.publicationGeneration :: s.localReservations
      else
        s.localReservations }

/-- The revoke loop up to its next agent call. -/
def System.revokePublications (s : System) (tid : Nat) (call : UnpublishCall)
    (fence : FencingToken) (revoke : List VolumePublication) :
    List VolumePublication → List String → System
  | [], done =>
    if call.pvs.spec.filesystemAdoption.isSome ∧ revoke.any (·.isLocal) then
      s.goto tid (.detaching call fence done)
    else
      s.goto tid (.releasing call (some fence) done)
  | pub :: rest, done =>
    if pub.isLocal ∨ managesACL call.pvs = false then
      s.revokePublications tid call fence revoke rest (done ++ [pub.nodeID])
    else
      s.call tid (.denyInitiator pub fence) (.denying call fence revoke rest done pub)

/-- A node reserved again in the meantime is published again. -/
def System.unpublishSucceeded (nodeID : String) : System :=
  { s.goto tid .idle with
    unpublished := fun node =>
      s.unpublished node ||
        ((nodeID = "" || node = nodeID) &&
          !s.record.publishedNodes.any fun pub => pub.nodeID = node) }

inductive Delivery where
  | applied
  | failed (acl : List String) (localAttached : Bool)
  deriving DecidableEq, Repr

inductive Action where
  | startPublish (tid : Nat) (request : PublishRequest)
  | startUnpublish (tid : Nat) (nodeID : String)
  /-- The thread's compare-and-swap (or its re-read before detaching). -/
  | update (tid : Nat) (driver : CSIDriver)
  | answer (tid : Nat)
  /-- The call fails, gives up waiting or dies with its controller. -/
  | abort (tid : Nat)
  /-- Resync or restore from the `k`th newest record. -/
  | resync (k : Nat)
  | deliver (id : Nat) (delivery : Delivery)
  /-- The storage node loses its target configuration. -/
  | reboot
  deriving DecidableEq, Repr

def System.updateRecord (driver : CSIDriver) (uid : String) (mutation : Mutation) : UpdateResult :=
  updateVolumeState driver s.record.name uid mutation (some s.record)

def System.updateThread (driver : CSIDriver) : Option System :=
  match s.threads tid with
  | .reserving call =>
    match s.updateRecord driver call.pvs.uid
        (.reservePublicationState call.pvs.spec.volumeID call.pub) with
    | .committed pvs =>
      let added :=
        scanPublications call.pvs.spec.volumeID call.pub s.record.publishedNodes = .ok true
      some ((s.reserve pvs call.pub).finishPublish tid call added (tokenOf pvs))
    | _ => some (s.goto tid .idle)
  | .clearing call added =>
    match s.updateRecord driver call.pvs.uid
        (.clearLocalAttachNode call.pvs.localAttachNode) with
    | .committed pvs =>
      some ((s.store pvs).call tid
        (.setLocalAttach false call.pvs.spec.filesystemAdoption.isSome (tokenOf pvs))
        (.opening call added (tokenOf pvs)))
    | .unchanged pvs =>
      some (s.call tid
        (.setLocalAttach false call.pvs.spec.filesystemAdoption.isSome (tokenOf pvs))
        (.opening call added (tokenOf pvs)))
    | _ => some (s.goto tid .idle)
  | .compensating call =>
    match s.updateRecord driver call.pvs.uid (.fencePublication call.pub) with
    | .committed pvs =>
      if call.pub ∈ s.record.publishedNodes then
        some ((s.store pvs).call tid (.denyInitiator call.pub (tokenOf pvs))
          (.undoing call (tokenOf pvs)))
      else
        some ((s.store pvs).goto tid .idle)
    | _ => some (s.goto tid .idle)
  | .withdrawing call fence =>
    match s.updateRecord driver call.pvs.uid
        (.releasePublication [call.pub.nodeID] (some fence)) with
    | .committed pvs => some ((s.store pvs).goto tid .idle)
    | _ => some (s.goto tid .idle)
  | .fencing call =>
    match s.updateRecord driver call.pvs.uid (.fencePublications call.nodeID) with
    | .committed pvs =>
      let revoke := revokedRecords call.nodeID s.record.publishedNodes
      some ((s.store pvs).revokePublications tid call (tokenOf pvs) revoke revoke [])
    | .unchanged _ => some (s.goto tid (.releasing call none []))
    | _ => some (s.goto tid .idle)
  | .detaching call fence done =>
    if s.record.publicationGeneration ≠ fence.generation then
      some (s.goto tid .idle)
    else if s.record.publishedNodes.any fun pub => pub.isLocal && !pub.revoking then
      some (s.goto tid (.releasing call (some fence) done))
    else
      some (s.call tid (.setLocalAttach false true fence) (.detached call fence done))
  | .releasing call fence done =>
    match s.updateRecord driver call.pvs.uid (.releasePublication done fence) with
    | .committed pvs => some ((s.store pvs).unpublishSucceeded tid call.nodeID)
    | .unchanged _ => some (s.unpublishSucceeded tid call.nodeID)
    | _ => some (s.goto tid .idle)
  | _ => none

def Thread.waitsFor : Thread → Option Nat
  | .attaching _ id | .returning _ _ id | .opening _ _ _ id | .allowing _ _ _ id
  | .undoing _ _ id | .denying _ _ _ _ _ _ id | .detached _ _ _ id => some id
  | _ => none

/-- What a thread does once its request was applied. -/
def System.resume : Thread → System
  | .returning call added _ => s.goto tid (.clearing call added)
  | .opening call added fence _ => s.grantPublishedExport tid call added fence
  | .allowing _ _ fence _ => s.publishSucceeded tid fence
  | .undoing call fence _ => s.goto tid (.withdrawing call fence)
  | .denying call fence revoke rest done pub _ =>
    s.revokePublications tid call fence revoke rest (done ++ [pub.nodeID])
  | .detached call fence done _ => s.goto tid (.releasing call (some fence) done)
  | _ => s.goto tid .idle

/-- A failed grant compensates a publication it added to an adopted filesystem. -/
def Thread.afterAbort : Thread → Thread
  | .allowing call added _ _ =>
    if added ∧ call.pvs.spec.filesystemAdoption.isSome then .compensating call else .idle
  | _ => .idle

def System.deliver (id : Nat) (delivery : Delivery) : Option System :=
  match s.sent[id]? with
  | none => none
  | some request =>
    match admitFencingToken s.record.spec.agentVolumeID request.fence request.op s.mark with
    | .error _ => some s
    | .ok admission =>
      match delivery with
      | .applied =>
        some { s with
          mark := some admission.next
          acl := request.applyACL s.acl
          localAttached := request.attachTarget.getD s.localAttached
          acked := id :: s.acked }
      | .failed acl localAttached =>
        if acl ⊆ s.acl ++ request.granted ∧
            (localAttached = s.localAttached ∨
              request.attachTarget = some localAttached) then
          some { s with
            mark := some admission.next, acl := acl, localAttached := localAttached }
        else
          none

def step : Action → Option System
  | .startPublish tid request =>
    match s.threads tid, resolvePublishTarget s.record request with
    | .idle, some pub => some (s.goto tid (.reserving { pvs := s.record, pub := pub }))
    | _, _ => none
  | .startUnpublish tid nodeID =>
    match s.threads tid with
    | .idle =>
      if hasPublicationFor s.record.publishedNodes nodeID then
        some (s.goto tid (.fencing { pvs := s.record, nodeID := nodeID }))
      else
        some (s.unpublishSucceeded tid nodeID)
    | _ => none
  | .update tid driver => s.updateThread tid driver
  | .answer tid =>
    match (s.threads tid).waitsFor with
    | some id => if id ∈ s.acked then some (s.resume tid (s.threads tid)) else none
    | none => none
  | .abort tid => some (s.goto tid (s.threads tid).afterAbort)
  | .resync k =>
    match s.history[k]? with
    | none => none
    | some pvs =>
      match reconcileVolumeExport pvs with
      | none => none
      | some desired => some (s.send (.reconcileState pvs desired))
  | .deliver id delivery => s.deliver id delivery
  | .reboot => some { s with acl := [] }

def attachableVolume : VolumeState :=
  { name := "pvc-1", uid := "u1", successRecorded := true
    spec :=
      { volumeID := "a/nvmeof-tcp/lvm-lv/vg/pvc-1", agentVolumeID := "vg/pvc-1"
        agentRef := "a", backendType := "lvm-lv", protocolType := "nvmeof-tcp"
        resolved := some { protocolACL := some true, localAttach := true } }
    phase := .ready
    exportInfo := some
      { targetID := "t", address := "10.0.0.1", port := 4420, volumeRef := "1" }
    exportSpec := some { bindAddress := "10.0.0.1", port := 4420, aclEnabled := true }
    publicationGeneration := 2 }

def attachableSystem : System :=
  System.init attachableVolume (some { volumeUID := "u1", generation := 2 }) false

def publishOnStorage : PublishRequest :=
  { nodeID := "storage", initiatorID := "nqn-storage", mode := .singleNodeWriter
    agentNode := some "storage" }

def publishOnNode : PublishRequest :=
  { nodeID := "n1", initiatorID := "nqn-1", mode := .singleNodeWriter
    agentNode := some "storage" }

end PillarCsi.PublishProtocol
