import PillarCsi.RecordHistory

/-!
The export state that resync and restore push to the agent, as computed from
one read of the record (`internal/csi/export_resync.go`), and why the fencing
generation of that read determines the access it grants.
-/

namespace PillarCsi.DesiredExport

open TransitionSystem OptimisticStore FencingAdmission VolumeRecord RecordMutations RecordHistory

structure ExportDesiredState where
  exportParams : VolumeExportSpec
  allowedInitiators : List String
  (aclEnabled localAttach : Bool)
  deriving DecidableEq, Repr

structure VolumeDesiredState where
  volumeID : String
  filesystemAdoption : Option FilesystemAdoption
  fence : FencingToken
  exports : List ExportDesiredState
  deriving DecidableEq, Repr

/-- The initiators to grant: neither revoking nor attached directly. -/
def allowedInitiators (pubs : List VolumePublication) : List String :=
  (pubs.filter fun pub => !(pub.revoking || pub.isLocal)).map (·.initiatorID)

def desiredVolumeState (pvs : VolumeState) : Except StatusError VolumeDesiredState :=
  match fenceToken pvs with
  | .error err => .error err
  | .ok fence =>
    .ok
      { volumeID := pvs.spec.agentVolumeID
        filesystemAdoption := pvs.spec.filesystemAdoption
        fence := fence
        exports :=
          if localOnlyFilesystem pvs then
            []
          else
            -- A record without an export spec never gets here.
            pvs.exportSpec.toList.map fun spec =>
              { exportParams := spec
                allowedInitiators := allowedInitiators pvs.publishedNodes
                aclEnabled := spec.aclEnabled
                localAttach := pvs.spec.filesystemAdoption.isNone && pvs.localAttachNode != "" } }

/-- What resync and restore push for a record, if anything. -/
def reconcileVolumeExport (pvs : VolumeState) : Option VolumeDesiredState :=
  if localOnlyFilesystem pvs ∧ (pvs.phase = .provisioning ∨ pvs.phase = .createPartial) then
    none
  else if pvs.deleting then
    none
  else if pvs.exportSpec.isNone ∧ localOnlyFilesystem pvs = false then
    none
  else
    (desiredVolumeState pvs).toOption

/-- Which initiators an export admits, and whether it is fenced for a direct
attach. -/
def ExportDesiredState.access (state : ExportDesiredState) : List String × Bool :=
  (state.allowedInitiators, state.localAttach)

variable {pvs : VolumeState} {next later : VolumeState}

theorem reconcileVolumeExport_some {desired : VolumeDesiredState}
    (h : reconcileVolumeExport pvs = some desired) :
    pvs.deleting = false ∧ (localOnlyFilesystem pvs = false → ∃ spec, pvs.exportSpec = some spec) ∧
      desired.filesystemAdoption = pvs.spec.filesystemAdoption ∧
      desired.fence = { volumeUID := pvs.uid, generation := pvs.publicationGeneration } ∧
      desired.exports =
        if localOnlyFilesystem pvs then []
        else pvs.exportSpec.toList.map fun spec =>
          { exportParams := spec
            allowedInitiators := allowedInitiators pvs.publishedNodes
            aclEnabled := spec.aclEnabled
            localAttach := pvs.spec.filesystemAdoption.isNone && pvs.localAttachNode != "" } := by
  unfold reconcileVolumeExport at h
  split at h
  · cases h
  split at h
  · cases h
  rename_i hdeleting
  split at h
  · cases h
  rename_i hspec
  unfold desiredVolumeState fenceToken at h
  split at h
  · cases h
  · rename_i fence hfence
    cases h
    refine ⟨by simpa using hdeleting, fun hlocal => ?_, rfl, ?_, rfl⟩
    · cases hexport : pvs.exportSpec with
      | none => exact absurd ⟨by simp [hexport], hlocal⟩ hspec
      | some spec => exact ⟨spec, rfl⟩
    · exact (Except.ok.inj (ok_of_ite_error hfence).2).symm

/-- A commit never lowers the generation, and raises it whenever it touches a
publication or the local-attach node. -/
theorem Commit.generation (h : Commit pvs next) :
    pvs.publicationGeneration ≤ next.publicationGeneration ∧
      (next.publicationGeneration = pvs.publicationGeneration →
        next.publishedNodes = pvs.publishedNodes ∧ next.localAttachNode = pvs.localAttachNode) := by
  obtain ⟨m, hmutated⟩ := h.mutated
  cases hmutated with
  | access | markVolumeDeleting =>
    exact ⟨Nat.le_succ _, fun heq => absurd heq (Nat.succ_ne_self _)⟩
  | adoptRecoveryPhase _ _ _ hgeneration => exact ⟨hgeneration, fun _ => ⟨rfl, rfl⟩⟩
  | _ => exact ⟨Nat.le_refl _, fun _ => ⟨rfl, rfl⟩⟩

theorem Evolves.generation (h : Evolves pvs later) :
    pvs.publicationGeneration ≤ later.publicationGeneration ∧
      (later.publicationGeneration = pvs.publicationGeneration →
        later.publishedNodes = pvs.publishedNodes ∧
          later.localAttachNode = pvs.localAttachNode) := by
  induction h with
  | refl => exact ⟨Nat.le_refl _, fun _ => ⟨rfl, rfl⟩⟩
  | tail _ hcommit ih =>
    obtain ⟨hle, hsame⟩ := Commit.generation hcommit
    refine ⟨ih.1.trans hle, fun heq => ?_⟩
    -- Equal ends leave no room for a step in between.
    have hmiddle := Nat.le_antisymm (heq ▸ hle) ih.1
    obtain ⟨hpubs, hlocal⟩ := hsame (heq.trans hmiddle.symm)
    obtain ⟨hpubs', hlocal'⟩ := ih.2 hmiddle
    exact ⟨hpubs.trans hpubs', hlocal.trans hlocal'⟩

def AdoptionValid (pvs : VolumeState) : Prop :=
  pvs.spec.filesystemAdoption.isSome = true → pvs.spec.recovery = none

theorem Commit.adoption (hpvs : AdoptionValid pvs) (h : Commit pvs next) :
    next.spec.filesystemAdoption = pvs.spec.filesystemAdoption ∧
      (pvs.spec.filesystemAdoption.isSome = true → next.spec = pvs.spec) := by
  obtain ⟨m, hmutated⟩ := h.mutated
  exact ⟨hmutated.source.filesystemAdoption, fun hsome => hmutated.spec (hpvs hsome)⟩

theorem Evolves.adoption (hpvs : AdoptionValid pvs) (h : Evolves pvs later) :
    later.spec.filesystemAdoption = pvs.spec.filesystemAdoption ∧
      (pvs.spec.filesystemAdoption.isSome = true → later.spec = pvs.spec) := by
  induction h with
  | refl => exact ⟨rfl, fun _ => rfl⟩
  | @tail middle later _ hcommit ih =>
    obtain ⟨hadoption, hspec⟩ := ih
    have hmiddle : AdoptionValid middle := by
      intro hsome
      rw [hadoption] at hsome
      rw [hspec hsome]
      exact hpvs hsome
    obtain ⟨hadoption', hspec'⟩ := Commit.adoption hmiddle hcommit
    refine ⟨hadoption'.trans hadoption, fun hsome => ?_⟩
    rw [hspec' (by rwa [hadoption]), hspec hsome]

theorem Evolves.localOnlyFilesystem (hpvs : AdoptionValid pvs)
    (h : Evolves pvs later) : localOnlyFilesystem later = localOnlyFilesystem pvs := by
  obtain ⟨hadoption, hspec⟩ := Evolves.adoption hpvs h
  cases hsome : pvs.spec.filesystemAdoption.isSome with
  | true => simp only [VolumeRecord.localOnlyFilesystem, hspec hsome]
  | false => simp only [VolumeRecord.localOnlyFilesystem, hadoption, hsome, Bool.false_and]

theorem Traced.adoptionValid {pvName : String} {resource : Resource}
    (h : Traced pvName resource) (hpvs : resource.record = some pvs) : AdoptionValid pvs := by
  obtain ⟨-, recorded, spec, hvalid, hevolves⟩ := h pvs hpvs
  have hfresh : AdoptionValid (freshRecord pvName pvs.uid recorded spec) := by
    intro hsome
    simp only [freshRecord] at hsome ⊢
    simp only [validSpec, Bool.and_eq_true, Bool.or_eq_true, Option.isNone_iff_eq_none] at hvalid
    rcases hvalid.2 with hrecovery | hnone
    · exact hrecovery
    · simp [hnone.2] at hsome
  obtain ⟨hadoption, hspec⟩ := Evolves.adoption hfresh hevolves
  intro hsome
  rw [hadoption] at hsome
  rw [hspec hsome]
  exact hfresh hsome

/-- Two reads of one lifecycle at the same generation make resync grant the same
initiators and fence the export alike, under the same token.  The two pushes
can differ only in the export parameters recorded in between. -/
theorem generation_determines_access {ι : Type*} [DecidableEq ι] (pvName : String)
    (actions more : List (StoreAction ι RecordWrite)) (s t : RecordStore ι)
    (hrun : run (storeStep pvName) (Store.init Resource.empty) actions = some s)
    (hmore : run (storeStep pvName) s more = some t) (pvs later : VolumeState)
    (hpvs : s.object.value.record = some pvs) (hlater : t.object.value.record = some later)
    (huid : later.uid = pvs.uid)
    (hgeneration : later.publicationGeneration = pvs.publicationGeneration)
    (desired desired' : VolumeDesiredState) (hdesired : reconcileVolumeExport pvs = some desired)
    (hdesired' : reconcileVolumeExport later = some desired') : desired'.fence = desired.fence ∧
      desired'.exports.map (·.access) = desired.exports.map (·.access) ∧
      (later.exportSpec = pvs.exportSpec → desired'.exports = desired.exports) := by
  obtain ⟨hcoherent, htraced⟩ := reachable_traced hrun
  have hevolves := later_evolves hcoherent htraced hmore hpvs hlater huid
  have hvalid := Traced.adoptionValid htraced hpvs
  obtain ⟨hpubs, hlocal⟩ := (Evolves.generation hevolves).2 hgeneration
  have hadoption := (Evolves.adoption hvalid hevolves).1
  have honly := Evolves.localOnlyFilesystem hvalid hevolves
  obtain ⟨-, hspec, -, hfence, hexports⟩ := reconcileVolumeExport_some hdesired
  obtain ⟨-, hspec', -, hfence', hexports'⟩ := reconcileVolumeExport_some hdesired'
  rw [hpubs, hlocal, hadoption, honly] at hexports'
  refine ⟨by rw [hfence, hfence', huid, hgeneration], ?_, fun hsame => ?_⟩
  · rw [hexports, hexports']
    cases hlocalOnly : localOnlyFilesystem pvs with
    | true => rfl
    | false =>
      obtain ⟨spec, hsome⟩ := hspec hlocalOnly
      obtain ⟨spec', hsome'⟩ := hspec' (honly.trans hlocalOnly)
      rw [hsome, hsome']
      rfl
  · rw [hexports, hexports', hsame]

/-- A volume published to one node while its creation is still being recorded:
the read before and the read after the Ready write carry one generation. -/
def publishedWhileCreating : List (StoreAction Nat RecordWrite) :=
  let spec : VolumeStateSpec :=
    { volumeID := "agent/nvmeof-tcp/lvm-lv/vg/pvc-1", agentVolumeID := "vg/pvc-1"
      agentRef := "agent", backendType := "lvm-lv", protocolType := "nvmeof-tcp" }
  [ .read 0, .write 0 (.create "u1" true spec),
    .read 0, .write 0 (.update .block "u1" .startProvisioning),
    .read 0, .write 0 (.update .block "u1"
      (.persistCreatePartial "/dev/vg/pvc-1"
        (some { bindAddress := "10.0.0.1", port := 4420, aclEnabled := true }))),
    .read 1, .write 1 (.update .block "u1"
      (.reservePublicationState "v"
        { nodeID := "n1", initiatorID := "nqn-1", accessMode := .singleNodeWriter })) ]

def readyWrite : List (StoreAction Nat RecordWrite) :=
  [ .read 0, .write 0 (.update .block "u1"
      (.persistVolumeReady
        (some { targetID := "nqn-t", address := "10.0.0.1", port := 4420, volumeRef := "1" }))) ]

theorem generation_determines_access_readyWrite : ∃ s t pvs later desired desired',
      run (storeStep "pvc-1") (Store.init Resource.empty) publishedWhileCreating = some s ∧
      run (storeStep "pvc-1") s readyWrite = some t ∧
      s.object.value.record = some pvs ∧ t.object.value.record = some later ∧
      pvs.phase = .createPartial ∧ later.phase = .ready ∧ reconcileVolumeExport pvs = some desired ∧
      reconcileVolumeExport later = some desired' ∧
      desired'.exports.map (·.access) = [(["nqn-1"], false)] ∧
      desired'.exports.map (·.access) = desired.exports.map (·.access) := by
  refine ⟨_, _, _, _, _, _, rfl, rfl, rfl, rfl, rfl, rfl, rfl, rfl, rfl, ?_⟩
  exact (generation_determines_access "pvc-1" publishedWhileCreating readyWrite _ _ rfl rfl
    _ _ rfl rfl (by decide) (by decide) _ _ rfl rfl).2.1

end PillarCsi.DesiredExport
