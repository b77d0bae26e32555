import PillarCsi.HexDigits
import PillarCsi.OwnershipOperations
import PillarCsi.VolumeRecord

/-!
What a controller checks before it lets an agent hand a volume to a recovery
record (`internal/csi/recovery.go`): the grant an operator signed, the snapshot
an agent signed, and the mark the agent reports now.
-/

namespace PillarCsi.RecoveryGrant

open HexDigits FencingAdmission FencedOperations OwnershipOperations VolumeRecord

def digestSize : Nat := 32

def digestHex (digest : List UInt8) : String := String.ofList (encode digest)

/-- A digest of either case, of exactly `digestSize` bytes. -/
def parseDigestHex (s : String) : Option (List UInt8) :=
  match decode s.toList with
  | none => none
  | some bytes => if bytes.length = digestSize then some bytes else none

def validDigestField (s : String) : Bool :=
  s.toList.length = 2 * digestSize && s.toList.all (lowerDigits.contains ·)

theorem digestHex_of_parseDigestHex {s : String} {digest : List UInt8}
    (hfield : validDigestField s = true) (h : parseDigestHex s = some digest) :
    digestHex digest = s := by
  unfold validDigestField at hfield
  simp only [Bool.and_eq_true, List.all_eq_true, List.contains_iff_mem] at hfield
  unfold parseDigestHex at h
  split at h
  · cases h
  rename_i bytes hdecode
  split at h
  · cases h
    rw [digestHex, encode_of_decode hfield.2 hdecode, String.ofList_toList]
  · cases h

inductive Timestamp where
  | absent
  | invalid
  | at (nanoseconds : Int)
  deriving DecidableEq, Repr

/-- A decoded authorization with its digest, as the agent will write it. -/
structure Grant where
  auth : RecoveryAuthorization
  volumeID : String
  backendType : Option BackendType
  preserveOriginal : Option Bool
  (issuedAt expiresAt : Timestamp)
  (snapshotDigest digest : List UInt8)
  digest_eq : auth.digest = digestHex digest
  preserve_eq : auth.preserveOriginal = preserveOriginal.getD false

structure ExportObservation where
  (namespaceEnabled aclEnabled : Bool)
  allowedHosts : List String
  deriving DecidableEq, Repr

structure Snapshot where
  snap : RecoverySnapshot
  volumeID : String
  backendType : Option BackendType
  lvmSource : Option MarkLVMSource
  consumers : List String
  exports : List ExportObservation
  exclusiveClaim : String
  digest : List UInt8
  deriving DecidableEq, Repr

structure FenceObservation where
  exists_ : Bool := false
  volumeUID : String := ""
  generation : Nat := 0
  ended : Bool := false
  endedUIDs : List String := []
  preserveOriginal : Bool := false
  lvmSource : Option MarkLVMSource := none
  transferAuthorizationDigest : String := ""
  transferFromUID : String := ""
  transferFromGeneration : Nat := 0
  transferToUID : String := ""
  transferToGeneration : Nat := 0
  deriving DecidableEq, Repr

def fenceObservation : Option FencingMark → FenceObservation
  | none => {}
  | some m =>
    let observation : FenceObservation :=
      { exists_ := true, volumeUID := m.volumeUID, generation := m.generation
        ended := m.ended, endedUIDs := m.endedUIDs
        preserveOriginal := m.preserveOriginal, lvmSource := m.lvmSource }
    match m.transfer with
    | none => observation
    | some tr =>
      { observation with
        transferAuthorizationDigest := tr.authorizationDigest
        transferFromUID := tr.fromUID, transferFromGeneration := tr.fromGeneration
        transferToUID := tr.toUID, transferToGeneration := tr.toGeneration }

structure InspectVolumeResponse where
  fence : FenceObservation
  /-- The LV's device path and size. -/
  lvm : Option (String × Int) := none
  consumers : List String := []
  exports : List ExportObservation := []
  deriving DecidableEq, Repr

/-- The fields of `spec.recovery` that never change once set.  The API server
admits nothing but lower-case digits in the digest. -/
structure Declaration where
  oldVolumeUID : String
  oldGeneration : Nat
  source : LVMSourceRef
  newGeneration : Nat
  authorizationDigest : String := ""
  digest_field : authorizationDigest = "" ∨ validDigestField authorizationDigest = true

/-- What the record carries besides: it may be supplied again at any time. -/
structure Offer where
  /-- `some none`: bytes that do not decode. -/
  authorization : Option (Option Grant) := none
  snapshot : Option (Option Snapshot) := none
  now : Int := 0

def refuseRecovery {α : Type} (pvName : String) (code : StatusCode) (reason : String) :
    Except StatusError α :=
  .error { code := code, message := s!"recovery record {pvName.quote}{reason}" }

def lvmSourceLocator (src : LVMSourceRef) : String := s!"{src.volumeGroup}/{src.logicalVolume}"

def lvmSourcePolicy (src : LVMSourceRef) : String :=
  if src.preserveOriginal then "PreserveOriginal" else "Managed"

def lvmSourceMatches (ident : Option MarkLVMSource) (src : LVMSourceRef) : Bool :=
  match ident with
  | none => false
  | some ident =>
    ident.volumeGroup = src.volumeGroup && ident.logicalVolume = src.logicalVolume &&
      ident.volumeGroupUUID = src.volumeGroupUUID &&
      ident.logicalVolumeUUID = src.logicalVolumeUUID

/-- In nanoseconds. -/
def clockSkew : Int := 2 * 60 * 10 ^ 9

def maxAuthorizationLifetime : Int := 24 * 60 * 60 * 10 ^ 9

/-- The texts give times in nanoseconds. -/
def recoveryValidityWindow (pvName : String) (grant : Grant) (now : Int) :
    Except StatusError Unit :=
  match grant.issuedAt, grant.expiresAt with
  | .at issued, .at expires =>
    if expires ≤ issued ∨ maxAuthorizationLifetime + clockSkew < expires - issued then
      refuseRecovery pvName .failedPrecondition
        (s!": authorization validity window {expires - issued} is malformed or exceeds the " ++
          s!"maximum {maxAuthorizationLifetime}")
    else if now + clockSkew < issued then
      refuseRecovery pvName .unavailable
        s!": authorization is not valid until {issued} (clock skew {clockSkew})"
    else if expires ≤ now - clockSkew then
      refuseRecovery pvName .failedPrecondition
        (s!": authorization expired at {expires}; re-issue the recovery record with a fresh grant")
    else .ok ()
  | .absent, _ | _, .absent =>
    refuseRecovery pvName .failedPrecondition ": authorization lacks issued_at/expires_at"
  | .invalid, _ => refuseRecovery pvName .failedPrecondition ": authorization issued_at is invalid"
  | _, .invalid => refuseRecovery pvName .failedPrecondition ": authorization expires_at is invalid"

/-- Every identity field of the grant is the declared one. -/
def recoveryMatchesIntent (pvName uid agentVolID : String) (decl : Declaration) (grant : Grant)
    (now : Int) : Except StatusError Unit :=
  let refuse (reason : String) : Except StatusError Unit :=
    refuseRecovery pvName .failedPrecondition s!": authorization {reason}"
  let mismatch (field got want : String) : Except StatusError Unit :=
    refuse s!"{field} is {got} but the intent declares {want}"
  if grant.auth.oldVolumeUID ≠ decl.oldVolumeUID then
    mismatch "old_volume_uid" grant.auth.oldVolumeUID.quote decl.oldVolumeUID.quote
  else if grant.auth.oldGeneration ≠ decl.oldGeneration then
    mismatch "old_generation" grant.auth.oldGeneration.repr decl.oldGeneration.repr
  else if grant.auth.newVolumeUID ≠ uid then
    mismatch "new_volume_uid" grant.auth.newVolumeUID.quote s!"this record's uid {uid.quote}"
  else if grant.auth.newGeneration ≠ decl.newGeneration then
    mismatch "new_generation" grant.auth.newGeneration.repr decl.newGeneration.repr
  else if grant.volumeID ≠ agentVolID then
    mismatch "volume_id" grant.volumeID.quote agentVolID.quote
  else if grant.backendType ≠ some .lvm then
    refuse s!"backend_type is {repr grant.backendType}; only LVM volumes can be recovered"
  else if lvmSourceMatches grant.auth.lvmSource decl.source = false then
    refuse (s!"lvm_source {lvName grant.auth.lvmSource} ({lvUUIDs grant.auth.lvmSource}) does not " ++
      s!"equal the declared source {(lvmSourceLocator decl.source).quote} (vg_uuid " ++
      s!"{decl.source.volumeGroupUUID}, lv_uuid {decl.source.logicalVolumeUUID})")
  else if grant.preserveOriginal = none then
    refuse "does not set preserve_original; an explicit policy is required"
  else if grant.auth.preserveOriginal ≠ decl.source.preserveOriginal then
    refuse (s!"preserve_original is {grant.auth.preserveOriginal} but the declared source policy " ++
      s!"is {lvmSourcePolicy decl.source}")
  else recoveryValidityWindow pvName grant now

/-- The grant the record pins. -/
def recoveryAuthorization (pvName uid agentVolID : String) (decl : Declaration)
    (offer : Offer) : Except StatusError Grant :=
  match offer.authorization with
  | none =>
    refuseRecovery pvName .unavailable
      (if decl.authorizationDigest = "" then
        " awaits the operator's authorization: spec.recovery.authorization and " ++
          "authorizationDigest are not populated yet"
      else s!" pins authorization digest {decl.authorizationDigest} but carries no " ++
        "spec.recovery.authorization bytes; populate the authorization the digest names")
  | some decoded =>
    if decl.authorizationDigest = "" then
      refuseRecovery pvName .failedPrecondition
        " carries an authorization but no authorizationDigest to pin it"
    else
      match decoded with
      | none =>
        refuseRecovery pvName .failedPrecondition
          ": spec.recovery.authorization is not a serialized RecoveryAuthorization"
      | some grant =>
        match parseDigestHex decl.authorizationDigest with
        | none =>
          refuseRecovery pvName .failedPrecondition
            s!": spec.recovery.authorizationDigest {decl.authorizationDigest.quote} is malformed"
        | some pinned =>
          if grant.digest ≠ pinned then
            refuseRecovery pvName .failedPrecondition
              (s!": the declared authorization digests to {digestHex grant.digest} but " ++
                s!"spec.recovery.authorizationDigest pins {decl.authorizationDigest}; the record " ++
                "can only consume the grant it pins")
          else
            match recoveryMatchesIntent pvName uid agentVolID decl grant offer.now with
            | .error err => .error err
            | .ok () => .ok grant

/-- The mark already records the transfer to this lifecycle.  A later
generation is normal: every export attempt advances it. -/
def markTransferredTo (fence : FenceObservation) (decl : Declaration) (uid : String) : Bool :=
  fence.exists_ && fence.volumeUID = uid && decl.newGeneration ≤ fence.generation &&
    !fence.ended && fence.endedUIDs.contains decl.oldVolumeUID &&
    lvmSourceMatches fence.lvmSource decl.source &&
    fence.preserveOriginal = decl.source.preserveOriginal &&
    fence.transferAuthorizationDigest = decl.authorizationDigest &&
    fence.transferFromUID = decl.oldVolumeUID &&
    fence.transferFromGeneration = decl.oldGeneration &&
    fence.transferToUID = uid && fence.transferToGeneration = decl.newGeneration

def annotationRecoverySnapshot : String := "pillar-csi.bhyoo.com/recovery-snapshot"

def recoverySnapshot (pvName : String) (offer : Offer) : Except StatusError Snapshot :=
  match offer.snapshot with
  | none =>
    refuseRecovery pvName .unavailable
      (" awaits the agent-signed snapshot the authorization names: set annotation " ++
        annotationRecoverySnapshot ++ " to the standard base64 of the deterministic protobuf " ++
        "RecoverySnapshot from InspectVolume")
  | some none =>
    refuseRecovery pvName .failedPrecondition
      s!": annotation {annotationRecoverySnapshot} does not decode as a RecoverySnapshot"
  | some (some snap) => .ok snap

/-- Exports that still admit a remote initiator. -/
def recoveryAdmittingExportCount (exports : List ExportObservation) : Nat :=
  (exports.filter fun e => e.namespaceEnabled && (!e.aclEnabled || !e.allowedHosts.isEmpty)).length

def verifyLiveRecoveryMark (pvName agentVolID : String) (decl : Declaration)
    (response : InspectVolumeResponse) : Except StatusError Unit :=
  let fence := response.fence
  let admittingExports := recoveryAdmittingExportCount response.exports
  let refuse (reason : String) : Except StatusError Unit :=
    refuseRecovery pvName .failedPrecondition s!": {reason}"
  if fence.exists_ = false then
    refuse (s!"agent reports no fence mark on {agentVolID.quote}; the retired lifecycle " ++
      s!"{decl.oldVolumeUID.quote} cannot be proven — refusing to recover an unmanaged LV")
  else if fence.volumeUID ≠ decl.oldVolumeUID then
    refuse (s!"the live fence mark on {agentVolID.quote} belongs to lifecycle " ++
      s!"{fence.volumeUID.quote}, not the retired lifecycle {decl.oldVolumeUID.quote} the " ++
      "intent declares")
  else if fence.generation ≠ decl.oldGeneration then
    refuse (s!"the live fence mark on {agentVolID.quote} records generation " ++
      s!"{fence.generation}, not the exact generation {decl.oldGeneration} the intent declares; " ++
      "the old lifecycle changed since the intent was written — re-issue the recovery record")
  else if lvmSourceMatches fence.lvmSource decl.source = false then
    refuse (s!"the fence mark on {agentVolID.quote} pins source {lvName fence.lvmSource} " ++
      s!"({lvUUIDs fence.lvmSource}), not the declared source " ++
      s!"{(lvmSourceLocator decl.source).quote}; the intent names a different LV")
  else if response.consumers ≠ [] ∨ 0 < admittingExports then
    refuse (s!"the live report lists {response.consumers.length} consumer(s) and " ++
      s!"{admittingExports} admitting export(s) on {agentVolID.quote}; a volume in use cannot " ++
      "be recovered")
  else .ok ()

inductive SnapshotMismatch where
  | digest
  | identity
  deriving DecidableEq, Repr

def checkAuthorizationMatchesSnapshot (grant : Grant) (snap : Snapshot) :
    Except SnapshotMismatch Unit :=
  if snap.digest ≠ grant.snapshotDigest then .error .digest
  else if grant.volumeID = snap.volumeID ∧ grant.backendType = snap.backendType ∧
      grant.auth.oldVolumeUID = snap.snap.oldVolumeUID ∧
      grant.auth.oldGeneration = snap.snap.oldGeneration ∧ grant.auth.lvmSource = snap.lvmSource then
    .ok ()
  else .error .identity

def verifyRecoverySnapshot (pvName agentVolID : String) (decl : Declaration) (snap : Snapshot)
    (grant : Grant) : Except StatusError Unit :=
  let admittingExports := recoveryAdmittingExportCount snap.exports
  let refuse (reason : String) : Except StatusError Unit :=
    refuseRecovery pvName .failedPrecondition s!": {reason}"
  if snap.volumeID ≠ agentVolID ∨ snap.snap.oldVolumeUID ≠ decl.oldVolumeUID ∨
      snap.snap.oldGeneration ≠ decl.oldGeneration ∨ snap.backendType ≠ some .lvm ∨
      lvmSourceMatches snap.lvmSource decl.source = false then
    refuse ("the agent-signed snapshot does not describe the declared recovery (volume " ++
      s!"{agentVolID.quote}, retired lifecycle {decl.oldVolumeUID.quote} generation " ++
      s!"{decl.oldGeneration}, source {(lvmSourceLocator decl.source).quote})")
  else if snap.consumers ≠ [] ∨ 0 < admittingExports then
    refuse (s!"the signed snapshot reports {snap.consumers.length} consumer(s) and " ++
      s!"{admittingExports} admitting export(s) on {agentVolID.quote}; the grant cannot transfer " ++
      "a volume in use")
  else if snap.exclusiveClaim ≠ "free" then
    refuse (s!"the signed snapshot reports exclusive claim {snap.exclusiveClaim.quote} on " ++
      s!"{agentVolID.quote}, not \"free\"; the device may be in use")
  else if snap.snap.preserveOriginal ≠ decl.source.preserveOriginal then
    refuse (s!"the signed snapshot reports preserve policy {snap.snap.preserveOriginal} but the " ++
      s!"intent declares {lvmSourcePolicy decl.source}")
  else
    match checkAuthorizationMatchesSnapshot grant snap with
    | .error .digest =>
      refuse ("the authorization was signed for a different snapshot (digest mismatch); the " ++
        "snapshot this record persisted is not the one the grant names — re-issue the " ++
        "recovery record")
    | .error .identity =>
      refuse ("authorization does not match the snapshot: recoveryauth: malformed input: " ++
        "authorization identity fields do not match snapshot")
    | .ok () => .ok ()

/-- The request a transfer sends: a grant and the snapshot it names. -/
def transferRequest (pvName uid agentVolID : String) (decl : Declaration) (offer : Offer)
    (response : InspectVolumeResponse) : Except StatusError (Snapshot × Grant) :=
  match recoveryAuthorization pvName uid agentVolID decl offer with
  | .error err => .error err
  | .ok grant =>
    match recoverySnapshot pvName offer with
    | .error err => .error err
    | .ok snap =>
      match verifyLiveRecoveryMark pvName agentVolID decl response with
      | .error err => .error err
      | .ok () =>
        match verifyRecoverySnapshot pvName agentVolID decl snap grant with
        | .error err => .error err
        | .ok () => .ok (snap, grant)

/-- How far `recoverVolume` gets: the device, its size, and the request it has
to send first when the mark does not record the transfer yet. -/
structure RecoveryPlan where
  devicePath : String
  capacity : Int
  request : Option (Snapshot × Grant)

/-- The LV's own size, or the capacity the record declares. -/
def providedCapacity (lvm : Option (String × Int)) (capacityBytes : Int) : Int :=
  match lvm with
  | some (_, size) => if 0 < size then size else capacityBytes
  | none => capacityBytes

def recoverVolume (pvs : VolumeState) (decl : Declaration) (offer : Offer)
    (response : InspectVolumeResponse) (capacityBytes requiredBytes : Int) :
    Except StatusError RecoveryPlan :=
  let devicePath := response.lvm.elim "" (·.1)
  let capacity := providedCapacity response.lvm capacityBytes
  if capacity < requiredBytes then
    .error
      { code := .failedPrecondition
        message := s!"cannot recover volume {pvs.name.quote}: the claim requests " ++
          s!"{requiredBytes} bytes but the LV provides {capacity} bytes; " ++
          "a recovered LV cannot grow" }
  else if markTransferredTo response.fence decl pvs.uid then
    .ok ⟨devicePath, capacity, none⟩
  else
    match transferRequest pvs.name pvs.uid pvs.spec.agentVolumeID decl offer response with
    | .error err => .error err
    | .ok request => .ok ⟨devicePath, capacity, some request⟩

section Checks

variable {pvName uid agentVolID : String} {decl : Declaration} {offer : Offer} {grant : Grant}
  {response : InspectVolumeResponse}

/-- The authorization names the declared lifecycles, source and policy, and
the agent will record the declared digest. -/
structure Pinned (decl : Declaration) (uid : String) (auth : RecoveryAuthorization) : Prop where
  oldVolumeUID : auth.oldVolumeUID = decl.oldVolumeUID
  oldGeneration : auth.oldGeneration = decl.oldGeneration
  newVolumeUID : auth.newVolumeUID = uid
  newGeneration : auth.newGeneration = decl.newGeneration
  lvmSource : lvmSourceMatches auth.lvmSource decl.source = true
  preserveOriginal : auth.preserveOriginal = decl.source.preserveOriginal
  digest : auth.digest = decl.authorizationDigest

theorem recoveryAuthorization_pinned
    (h : recoveryAuthorization pvName uid agentVolID decl offer = .ok grant) :
    Pinned decl uid grant.auth := by
  unfold recoveryAuthorization refuseRecovery at h
  split at h
  · cases h
  rename_i decoded hdecoded
  obtain ⟨hdigest, h⟩ := ok_of_ite_error h
  obtain ⟨offered, rfl⟩ : ∃ offered, decoded = some offered := by
    cases decoded with
    | none => cases h
    | some offered => exact ⟨offered, rfl⟩
  dsimp only at h
  split at h
  · cases h
  rename_i pinned hpinned
  obtain ⟨hsame, h⟩ := ok_of_ite_error h
  split at h
  · cases h
  rename_i hmatches
  obtain rfl := Except.ok.inj h
  have hspelled : offered.auth.digest = decl.authorizationDigest := by
    have hfield := decl.digest_field.resolve_left hdigest
    rw [offered.digest_eq, not_not.mp hsame]
    exact digestHex_of_parseDigestHex hfield hpinned
  unfold recoveryMatchesIntent refuseRecovery at hmatches
  obtain ⟨hold, holdGeneration, hmatches⟩ := ok_of_ite_errors hmatches
  obtain ⟨hnew, hnewGeneration, hmatches⟩ := ok_of_ite_errors hmatches
  obtain ⟨-, -, hmatches⟩ := ok_of_ite_errors hmatches
  obtain ⟨hsource, -, hmatches⟩ := ok_of_ite_errors hmatches
  obtain ⟨hpreserve, -⟩ := ok_of_ite_error hmatches
  exact
    { oldVolumeUID := not_not.mp hold
      oldGeneration := not_not.mp holdGeneration
      newVolumeUID := not_not.mp hnew
      newGeneration := not_not.mp hnewGeneration
      lvmSource := by simpa using hsource
      preserveOriginal := not_not.mp hpreserve
      digest := hspelled }

theorem transferRequest_pinned {snap : Snapshot}
    (h : transferRequest pvName uid agentVolID decl offer response = .ok (snap, grant)) :
    Pinned decl uid grant.auth := by
  unfold transferRequest at h
  split at h
  · cases h
  rename_i pinned hpinned
  split at h
  · cases h
  split at h
  · cases h
  split at h
  · cases h
  obtain ⟨-, rfl⟩ := Prod.mk.inj (Except.ok.inj h)
  exact recoveryAuthorization_pinned hpinned

theorem recoverVolume_of_transferred {pvs : VolumeState}
    {capacityBytes requiredBytes : Int} (offer : Offer)
    (hmark : markTransferredTo response.fence decl pvs.uid = true)
    (hfits : requiredBytes ≤ providedCapacity response.lvm capacityBytes) :
    recoverVolume pvs decl offer response capacityBytes requiredBytes =
      .ok ⟨response.lvm.elim "" (·.1), providedCapacity response.lvm capacityBytes, none⟩ := by
  simp only [recoverVolume, hmark, if_true, if_neg (Int.not_lt.mpr hfits)]

end Checks

end PillarCsi.RecoveryGrant
