import PillarCsi.StageContracts
import PillarCsi.TransitionSystem

/-!
Runs of the node plugin: calls one after the other, each with the outcomes of
its system calls.

A crash is a call that is cut off.  The plugin keeps nothing in memory that a
later call needs, so a restart shows only in the sessions it restores.
-/

namespace PillarCsi.NodeRuns

open TransitionSystem FalliblePrograms FalliblePrograms.Program EffectPrograms StageRecord NodeHost
open NodeStaging NodePublishing NodeContracts StageContracts

/-- What has changed on the node by the time of a call without the plugin. -/
structure Surroundings where
  clock : Nat
  formats : String → String
  devices : Session → String
  exports : String → List String
  probes : List Health

def Surroundings.enter (around : Surroundings) (h : Host) : Host :=
  { h with
    clock := around.clock
    formats := around.formats
    devices := around.devices
    exports := around.exports
    probes := around.probes }

inductive Call where
  | stage (req : StageRequest)
  | unstage (req : UnstageRequest)
  | publish (req : PublishRequest)
  | unpublish (req : UnpublishRequest)
  | expand (req : ExpandRequest) (isDir : Bool)
  | trim (t : Trimmer) (volumeID : String) (size chunks : Nat)
  | restore (volumeID : String)

def Call.volumeID : Call → String
  | .stage req => req.volumeID
  | .unstage req => req.volumeID
  | .publish req => req.volumeID
  | .unpublish req => req.volumeID
  | .expand req _ => req.volumeID
  | .trim _ volumeID _ _ => volumeID
  | .restore volumeID => volumeID

variable (node : NodeServer)

/-- Trim and restore go by the volume's record file. -/
def Call.program : Call → Node Unit
  | .stage req => nodeStageVolume node req
  | .unstage req => nodeUnstageVolume node req
  | .publish req => nodePublishVolume node req
  | .unpublish req => nodeUnpublishVolume req
  | .expand req isDir => do
    let _ ← nodeExpandVolume node req isDir
    pure ()
  | .trim t volumeID size chunks => considerRecord t (stateFileKey volumeID) size chunks
  | .restore volumeID => restoreProtocolSession node (stateFileKey volumeID)

structure Action where
  call : Call
  around : Surroundings
  outcomes : List Outcome

def Action.after (a : Action) (h : Host) : Host :=
  (a.call.program node).after a.outcomes (a.around.enter h)

def Action.succeeds (a : Action) (h : Host) : Bool :=
  match (a.call.program node).result a.outcomes (a.around.enter h) with
  | .ok () => true
  | .error _ => false

def step (h : Host) (a : Action) : Option Host := some (a.after node h)

variable {a : Action} {h : Host} {allow : Event → Host → Prop} {P : Host → Prop} {node : NodeServer}

theorem result_of_succeeds (hsucceeds : a.succeeds node h = true) :
    (a.call.program node).result a.outcomes (a.around.enter h) = .ok () := by
  unfold Action.succeeds at hsucceeds
  split at hsucceeds
  · assumption
  · cases hsucceeds

theorem keeps_after {I : Host → Prop} {Q : Except (Stop NodeError) Unit → Host → Prop}
    (hspec : Emits allow P (a.call.program node) Q) (hclosed : Closed allow I)
    (hI : I (a.around.enter h)) (hP : P (a.around.enter h)) : I (a.after node h) :=
  (hspec.after hclosed hI hP a.outcomes).1

theorem returns_of_succeeds {R : Unit → Host → Prop}
    (hspec : Emits allow P (a.call.program node) (Returning R))
    (hP : P (a.around.enter h)) (hsucceeds : a.succeeds node h = true) : R () (a.after node h) := by
  have hclosed : Closed allow fun _ => True := fun _ _ _ _ => trivial
  have hdone := (hspec.after hclosed trivial hP a.outcomes).2
  rw [result_of_succeeds hsucceeds] at hdone
  exact hdone

section Stage

variable {req : StageRequest} (hcall : a.call = .stage req)

include hcall

/-- A stage that is refused at once makes no call. -/
theorem after_invalid {e : NodeError} (hvalid : validateStage node req = .error e) :
    a.after node h = a.around.enter h := by
  simp [Action.after, hcall, Call.program, nodeStageVolume, hvalid, Program.after, fail]

theorem keeps_after_stage {I : Host → Prop} (hI : I (a.around.enter h))
    (hclosed : ∀ localDevice, validateStage node req = .ok localDevice →
      Closed (StageContract node req localDevice) I) : I (a.after node h) := by
  cases hvalid : validateStage node req with
  | error e =>
    rw [after_invalid hcall hvalid]
    exact hI
  | ok localDevice =>
    have hspec := nodeStageVolume_spec hvalid
    rw [show nodeStageVolume node req = a.call.program node by rw [hcall]; rfl] at hspec
    exact keeps_after hspec (hclosed localDevice hvalid) hI trivial

theorem stageDone_of_succeeds (hsucceeds : a.succeeds node h = true) :
    StageDone req (a.after node h) := by
  cases hvalid : validateStage node req with
  | error e =>
    have hresult := result_of_succeeds hsucceeds
    simp [hcall, Call.program, nodeStageVolume, hvalid, Program.result, fail] at hresult
  | ok localDevice =>
    have hspec := nodeStageVolume_spec hvalid
    rw [show nodeStageVolume node req = a.call.program node by rw [hcall]; rfl] at hspec
    exact returns_of_succeeds hspec trivial hsucceeds

end Stage

/-- What the calls of a volume may do; `about` are the volumes that a trim of
its record file may take it for. -/
inductive VolumeContract (node : NodeServer) (about : String → Prop) (volumeID : String)
    (event : Event) (h : Host) : Prop where
  | stage (req : StageRequest) (localDevice : Option String) (hvolume : req.volumeID = volumeID)
      (hevent : StageContract node req localDevice event h)
  | unstage (req : UnstageRequest) (hvolume : req.volumeID = volumeID)
      (hevent : UnstageContract req event h)
  | keep (hevent : RecordContract volumeID event h)
  | trim (hevent : TrimContract about event h)

section Volume

variable {node : NodeServer} {about : String → Prop} {I : Host → Prop} {volumeID : String}

theorem call_spec (call : Call)
    (habout : ∀ other, stateFileKey other = stateFileKey call.volumeID → about other)
    (hreads : Closed (ReadContract call.volumeID)
      (NamesAbout about (stateFileKey call.volumeID))) :
    Emits (VolumeContract node about call.volumeID)
      (NamesAbout about (stateFileKey call.volumeID)) (call.program node) fun _ _ => True := by
  have hanywhere : ∀ {allow : Event → Host → Prop}
      {Q : Except (Stop NodeError) Unit → Host → Prop},
      (∀ event h, allow event h → VolumeContract node about call.volumeID event h) →
      Emits allow (fun _ => True) (call.program node) Q →
      Emits (VolumeContract node about call.volumeID)
        (NamesAbout about (stateFileKey call.volumeID)) (call.program node) fun _ _ => True :=
    fun hwider h => (h.mono hwider).weaken (fun _ _ => trivial) fun _ _ _ => trivial
  cases call with
  | stage req =>
    cases hvalid : validateStage node req with
    | error e =>
      have hfails : Call.program node (.stage req) = fail e := by
        simp [Call.program, nodeStageVolume, hvalid]
      rw [hfails]
      exact .fail fun _ _ => trivial
    | ok localDevice =>
      exact hanywhere (fun _ _ => .stage req localDevice rfl) (nodeStageVolume_spec hvalid)
  | unstage req =>
    exact hanywhere (fun _ _ => .unstage req rfl)
      (nodeUnstageVolume_spec fun _ _ _ _ => trivial)
  | publish req => exact hanywhere (fun _ _ => .keep) keeps_nodePublishVolume
  | unpublish req => exact hanywhere (fun _ _ => .keep) keeps_nodeUnpublishVolume
  | expand req isDir =>
    exact hanywhere (fun _ _ => .keep) (keeps_nodeExpandVolume.bind fun _ => .pure ())
  | trim t volumeID size chunks => exact (considerRecord_spec habout hreads).mono fun _ _ => .trim
  | restore volumeID =>
    exact hanywhere (fun _ _ => .trim) (keeps_restoreProtocolSession (habout volumeID rfl))

theorem run_keeps (habout : ∀ other, stateFileKey other = stateFileKey volumeID → about other)
    (hreads : Closed (ReadContract volumeID) (NamesAbout about (stateFileKey volumeID)))
    (hnames : ∀ h, I h → NamesAbout about (stateFileKey volumeID) h)
    (henter : ∀ (around : Surroundings) h, I h → I (around.enter h))
    (hclosed : Closed (VolumeContract node about volumeID) I)
    {s t : Host} {actions : List Action} (hvolume : ∀ a ∈ actions, a.call.volumeID = volumeID)
    (hs : I s) (hrun : run (step node) s actions = some t) : I t := by
  have hall : AllSteps (step node) (fun _ a => a.call.volumeID = volumeID) s actions :=
    allSteps_of_forall_mem (fun a ha _ => hvolume a ha) s
  refine invariant_run_of_allSteps ?_ hs hall hrun
  rintro h a _ hh rfl ⟨⟩
  have hentered := henter a.around h hh
  exact keeps_after (call_spec a.call habout hreads) hclosed hentered (hnames _ hentered)

end Volume

/-- The log has grown by entries of `φ` only. -/
def Logged (before : List LogEntry) (φ : LogEntry → Prop) (h : Host) : Prop :=
  ∃ added, h.log = added ++ before ∧ ∀ entry ∈ added, φ entry

theorem Logged.apply {before : List LogEntry} {φ : LogEntry → Prop} {event : Event}
    (hlogged : Logged before φ h) (hentry : φ ⟨event, h.mounts.map (·.target)⟩) :
    Logged before φ (h.apply event) := by
  obtain ⟨added, hlog, hadded⟩ := hlogged
  refine ⟨⟨event, h.mounts.map (·.target)⟩ :: added, ?_, List.forall_mem_cons.mpr ⟨hentry, hadded⟩⟩
  rw [List.cons_append, ← hlog]
  rfl

theorem logged_refl (φ : LogEntry → Prop) (h : Host) : Logged h.log φ h :=
  ⟨[], rfl, by simp⟩

/-- A node with every handler, whose options are all unset. -/
def plainNode : NodeServer where
  nodeID := "node-1"
  handlers := fun _ => true
  localDMName := fun volumeID => "pillar-" ++ stateFileKey volumeID
  parseMountOptions := fun _ => .ok []
  parseMkfsOptions := fun _ _ => .ok []
  parseNVMeoFConnectOptions := fun _ _ => .ok ()
  parseNVMeoFMaxDataTransferSize := fun _ => .ok 0
  parseISCSISessionTimeouts := fun _ => .ok 0
  parseISCSICHAP := fun _ _ => .ok none
  nfsStateFromParams := fun _ => .error "no NFS parameters"
  validateNFSStageFilesystem := fun _ _ => .ok ()
  nfsMountFlags := fun _ _ _ => .ok []

def bareHost : Host where
  clock := 0
  files := fun _ => none
  mounts := []
  sessions := []
  claims := []
  formats := fun _ => ""
  devices := fun _ => ""
  exports := fun _ => []
  probes := []
  log := []

/-- The device of every session is there, with the given filesystem. -/
def surroundings (device fsType : String) : Surroundings where
  clock := 0
  formats := fun _ => fsType
  devices := fun _ => device
  exports := fun _ => []
  probes := []

def nvmeStage (volumeID stagingPath nqn : String) : StageRequest where
  volumeID := volumeID
  stagingPath := stagingPath
  capability := some (.mount "ext4" [])
  volumeContext := [("target_id", nqn), ("address", "10.0.0.1"), ("port", "4420")]
  publishContext := []
  secrets := []

def stageOf (volumeID stagingPath nqn : String) : Action where
  call := .stage (nvmeStage volumeID stagingPath nqn)
  around := surroundings "/dev/nvme0n1" ""
  outcomes := []

def unstageOf (volumeID stagingPath : String) : Action where
  call := .unstage ⟨volumeID, stagingPath⟩
  around := surroundings "/dev/nvme0n1" ""
  outcomes := []

end PillarCsi.NodeRuns
