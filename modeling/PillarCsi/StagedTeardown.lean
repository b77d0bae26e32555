import PillarCsi.NodeRuns

/-!
Whether an unstage takes the transport away from under a staged mount.

The session, the device-mapper claim and the record are the volume's; the mount
is the staging path's.  An unstage unmounts the path of its request, with the
access type of the record, before it takes anything away.
-/

namespace PillarCsi.StagedTeardown

open TransitionSystem FalliblePrograms EffectPrograms StageRecord NodeHost NodeStaging
open NodeContracts StageContracts NodeRuns

/-- The node, the staging path and access type of the last stage request that was
not refused at once, and those at which stages have succeeded, since the last
unstage that succeeded. -/
structure Staging where
  host : Host
  current : Option (String × AccessType)
  staged : List (String × AccessType)

def step (node : NodeServer) (s : Staging) (a : Action) : Option Staging :=
  let host := a.after node s.host
  match a.call with
  | .stage req =>
    match validateStage node req with
    | .error _ => some { s with host := host }
    | .ok _ =>
      some
        { host := host
          current := some (req.stagingPath, req.accessType)
          staged :=
            if a.succeeds node s.host then (req.stagingPath, req.accessType) :: s.staged
            else s.staged }
  | .unstage _ =>
    if a.succeeds node s.host then some { host := host, current := none, staged := [] }
    else some { s with host := host }
  | _ => some { s with host := host }

/-- Takes the volume's session, claim or record away. -/
def Event.tearsDown : Event → Bool
  | .disconnect _ | .removeClaim _ | .removeRecord _ => true
  | _ => false

/-- An unstage tears down only while no path at which a stage succeeded is
mounted. -/
def Safe (node : NodeServer) (s : Staging) (a : Action) : Prop :=
  match a.call with
  | .unstage _ => Logged s.host.log (fun entry => Event.tearsDown entry.event = true →
      ∀ place ∈ s.staged, stageSurface place.1 place.2 ∉ entry.mounted) (a.after node s.host)
  | _ => True

/-- The requests for the volume agree: between unstages that succeed, the stages
that are not refused at once name one staging path and access type, and the
unstages that path. -/
def Agrees (node : NodeServer) (volumeID : String) (s : Staging) (a : Action) : Prop :=
  a.call.volumeID = volumeID ∧
    match a.call with
    | .stage req => ∀ localDevice place, validateStage node req = .ok localDevice →
        s.current = some place → place = (req.stagingPath, req.accessType)
    | .unstage req => ∀ place, s.current = some place → place.1 = req.stagingPath
    | _ => True

def Recorded (volumeID : String) (φ : Option AccessType → Prop) (h : Host) : Prop :=
  ∀ state, recordOf h volumeID = some state → φ state.accessType

section Access

variable {node : NodeServer} {volumeID : String} {φ : Option AccessType → Prop} {h : Host}
  {key : String} {new : NodeStageState}

theorem recorded_writeRecord (hrecorded : Recorded volumeID φ h)
    (hnew : key = stateFileKey volumeID → φ (some (new.accessType.getD .filesystem))) :
    Recorded volumeID φ (h.apply (.writeRecord key new)) := by
  intro state hstate
  by_cases hkey : key = stateFileKey volumeID
  · subst hkey
    rw [recordOf_writeRecord] at hstate
    cases hstate
    exact hnew rfl
  · refine hrecorded state ?_
    rw [← hstate]
    simp [recordOf, Host.apply, Host.effect, Function.update_of_ne (Ne.symm hkey)]

theorem recorded_removeRecord (hrecorded : Recorded volumeID φ h) :
    Recorded volumeID φ (h.apply (.removeRecord key)) := by
  intro state hstate
  by_cases hkey : key = stateFileKey volumeID
  · subst hkey
    rw [recordOf_removeRecord] at hstate
    cases hstate
  · refine hrecorded state ?_
    rw [← hstate]
    simp [recordOf, Host.apply, Host.effect, Function.update_of_ne (Ne.symm hkey)]

theorem accessType_of_recordOf {state : NodeStageState} (hrecord : recordOf h volumeID = some state) :
    some (state.accessType.getD .filesystem) = state.accessType := by
  obtain ⟨file, -, hstate⟩ := Option.bind_eq_some_iff.mp hrecord
  obtain ⟨raw, -, rfl⟩ := Option.map_eq_some_iff.mp hstate
  rfl

theorem Recorded.rewrites {otherID : String}
    (hrecorded : Recorded volumeID φ h) (hrewrites : RewritesIn otherID h new) :
    Recorded volumeID φ (h.apply (.writeRecord (stateFileKey otherID) new)) := by
  refine recorded_writeRecord hrecorded fun hkey => ?_
  obtain ⟨old, hold, hnew⟩ := hrewrites
  unfold recordOf at hold
  rw [hkey] at hold
  rw [hnew.accessType, accessType_of_recordOf hold]
  exact hrecorded old hold

theorem closed_recorded_record :
    Closed (RecordContract volumeID) (Recorded volumeID φ) := by
  intro event h hevent hrecorded
  cases event with
  | writeRecord key new =>
    obtain ⟨rfl, hrewrites⟩ := hevent
    exact hrecorded.rewrites hrewrites
  | removeRecord key => exact hevent.elim
  | _ => exact hrecorded

theorem closed_recorded_trim {about : String → Prop} :
    Closed (TrimContract about) (Recorded volumeID φ) := by
  intro event h hevent hrecorded
  cases event with
  | writeRecord key new =>
    obtain ⟨other, -, rfl, hrewrites⟩ := hevent
    exact hrecorded.rewrites hrewrites
  | removeRecord key => exact hevent.elim
  | _ => exact hrecorded

theorem closed_recorded_unstage {req : UnstageRequest} :
    Closed (UnstageContract req) (Recorded req.volumeID φ) := by
  intro event h hevent hrecorded
  cases event with
  | writeRecord key new =>
    obtain ⟨rfl, old, hold, halike⟩ := hevent
    exact hrecorded.rewrites ⟨old, hold, rewrites_of_alike halike⟩
  | removeRecord key => exact recorded_removeRecord hrecorded
  | _ => exact hrecorded

theorem closed_recorded_stage {req : StageRequest} {localDevice : Option String} :
    Closed (StageContract node req localDevice)
      (Recorded req.volumeID (· = some req.accessType)) := by
  intro event h hevent hrecorded
  cases event with
  | writeRecord key new =>
    obtain ⟨rfl, hrewrites | ⟨hstaged, -⟩⟩ := hevent
    · exact hrecorded.rewrites hrewrites
    · refine recorded_writeRecord hrecorded fun _ => ?_
      rw [hstaged.accessType]
      rfl
  | removeRecord key => exact recorded_removeRecord hrecorded
  | _ => exact hrecorded

end Access

/-- The record's access type is that of the last stage request, which is also
the one place where a stage has succeeded. -/
structure Tracked (volumeID : String) (s : Staging) : Prop where
  recorded : Recorded volumeID (fun access => ∃ place, s.current = some place ∧
    access = some place.2) s.host
  staged : ∀ place ∈ s.staged, s.current = some place

section Runs

variable {node : NodeServer} {volumeID : String} {s t : Staging} {a : Action}

/-- A call that is neither a stage nor an unstage leaves the record of the same
access type. -/
theorem recorded_after {φ : Option AccessType → Prop} (hvolume : a.call.volumeID = volumeID)
    (hstage : ∀ req, a.call ≠ .stage req) (hrecorded : Recorded volumeID φ s.host) :
    Recorded volumeID φ (a.after node s.host) := by
  obtain ⟨call, around, outcomes⟩ := a
  subst hvolume
  have hentered : Recorded call.volumeID φ (around.enter s.host) := hrecorded
  cases call with
  | stage req => exact absurd rfl (hstage req)
  | unstage req =>
    exact keeps_after (nodeUnstageVolume_spec (J := fun _ => True) fun _ _ _ _ => trivial)
      closed_recorded_unstage hentered trivial
  | publish req => exact keeps_after keeps_nodePublishVolume closed_recorded_record hentered trivial
  | unpublish req =>
    exact keeps_after keeps_nodeUnpublishVolume closed_recorded_record hentered trivial
  | expand req isDir =>
    have hexpand : Keeps (RecordContract req.volumeID) (fun _ => True)
        (Call.program node (.expand req isDir)) :=
      keeps_nodeExpandVolume.bind fun _ => .pure ()
    exact keeps_after hexpand closed_recorded_record hentered trivial
  | trim t volumeID size chunks =>
    have htrim : Emits (TrimContract fun _ => True)
        (NamesAbout (fun _ => True) (stateFileKey volumeID))
        (Call.program node (.trim t volumeID size chunks)) fun _ _ => True :=
      considerRecord_spec (fun _ _ => trivial) fun _ _ _ _ _ _ _ _ _ => trivial
    exact keeps_after htrim closed_recorded_trim hentered fun _ _ _ _ _ => trivial
  | restore volumeID =>
    have hrestore : Keeps (TrimContract fun _ => True) (fun _ => True)
        (Call.program node (.restore volumeID)) := keeps_restoreProtocolSession trivial
    exact keeps_after hrestore closed_recorded_trim hentered trivial

theorem recorded_after_stage {req : StageRequest} (hcall : a.call = .stage req)
    (hrecorded : Recorded req.volumeID (· = some req.accessType) s.host) :
    Recorded req.volumeID (· = some req.accessType) (a.after node s.host) := by
  have hentered : Recorded req.volumeID (· = some req.accessType) (a.around.enter s.host) :=
    hrecorded
  exact keeps_after_stage hcall hentered fun _ _ => closed_recorded_stage

theorem recordOf_after_unstage {req : UnstageRequest} (hcall : a.call = .unstage req)
    (hsucceeds : a.succeeds node s.host = true) :
    recordOf (a.after node s.host) req.volumeID = none := by
  obtain ⟨call, around, outcomes⟩ := a
  obtain rfl : call = .unstage req := hcall
  obtain ⟨existing, -, hfound, -⟩ := returns_of_succeeds
    (nodeUnstageVolume_spec (J := fun _ => True) fun _ _ _ _ => trivial) trivial hsucceeds
  exact recordOf_of_found_none hfound

theorem tracked_step (htracked : Tracked volumeID s) (hagrees : Agrees node volumeID s a)
    (hstep : step node s a = some t) : Tracked volumeID t := by
  obtain ⟨hvolume, hagrees⟩ := hagrees
  unfold step at hstep
  split at hstep
  · rename_i req hcall
    rw [hcall] at hagrees hvolume
    subst hvolume
    split at hstep
    · rename_i hvalid
      cases hstep
      rw [after_invalid hcall hvalid]
      exact ⟨htracked.recorded, htracked.staged⟩
    rename_i localDevice hvalid
    cases hstep
    have hcurrent : Recorded req.volumeID (· = some req.accessType) s.host := by
      intro state hstate
      obtain ⟨place, hplace, haccess⟩ := htracked.recorded state hstate
      rw [hagrees localDevice place hvalid hplace] at haccess
      exact haccess
    refine ⟨fun state hstate => ?_, fun place hplace => ?_⟩
    · exact ⟨_, rfl, recorded_after_stage hcall hcurrent state hstate⟩
    · -- every place so far is the request's
      have hsame : place ∈ s.staged → place = (req.stagingPath, req.accessType) :=
        fun hmem => hagrees localDevice place hvalid (htracked.staged place hmem)
      dsimp only at hplace
      split at hplace
      · rcases List.mem_cons.mp hplace with rfl | hmem
        · rfl
        · rw [hsame hmem]
      · rw [hsame hplace]
  · rename_i req hcall
    rw [hcall] at hvolume
    split at hstep
    · rename_i hsucceeds
      cases hstep
      refine ⟨fun state hstate => ?_, by simp⟩
      subst hvolume
      have hnone := recordOf_after_unstage hcall hsucceeds
      exact nomatch hnone.symm.trans hstate
    · cases hstep
      refine ⟨?_, htracked.staged⟩
      exact recorded_after (hcall ▸ hvolume) (fun req' heq => by simp [hcall] at heq) htracked.recorded
  · rename_i hstage hunstage
    cases hstep
    exact ⟨recorded_after hvolume hstage htracked.recorded, htracked.staged⟩

theorem not_mem_of_mountedAt {h : Host} {target : String} (hunmounted : h.mountedAt target = false) :
    target ∉ h.mounts.map (·.target) := by
  intro hmem
  obtain ⟨mount, hmount, htarget⟩ := List.mem_map.mp hmem
  exact absurd (decide_eq_true htarget) (List.any_eq_false.mp hunmounted mount hmount)

theorem safe_of_tracked (htracked : Tracked volumeID s) (hagrees : Agrees node volumeID s a) :
    Safe node s a := by
  obtain ⟨call, around, outcomes⟩ := a
  cases call with
  | unstage req =>
    obtain ⟨rfl, hagrees⟩ := hagrees
    -- the record's access type, and what has been done so far
    have hclosed : Closed (UnstageContract req) fun h =>
        Recorded req.volumeID (fun access => ∃ place, s.current = some place ∧
          access = some place.2) h ∧
        Logged s.host.log (fun entry => Event.tearsDown entry.event = true →
          ∀ place ∈ s.staged, stageSurface place.1 place.2 ∉ entry.mounted) h := by
      rintro event h hevent ⟨hrecorded, hlogged⟩
      refine ⟨closed_recorded_unstage event h hevent hrecorded, hlogged.apply ?_⟩
      intro htears place hplace
      have hcurrent := htracked.staged place hplace
      have hreleased : Released req h := by
        cases event with
        | disconnect session | removeClaim name => exact hevent
        | removeRecord key => exact hevent.2
        | _ => cases htears
      rw [hagrees place hcurrent]
      refine not_mem_of_mountedAt (hreleased place.2 fun recorded hrecord => ?_)
      obtain ⟨place', hplace', haccess⟩ := hrecorded recorded hrecord
      obtain rfl := Option.mem_unique hcurrent hplace'
      exact haccess
    exact (keeps_after (nodeUnstageVolume_spec (J := fun _ => True) fun _ _ _ _ => trivial) hclosed
      ⟨htracked.recorded, logged_refl _ s.host⟩ trivial).2
  | _ => trivial

end Runs

/-- In every run of the volume's calls whose requests agree, with whatever
failures, crashes and publishes, every unstage disconnects, releases the claim
and removes the record only while no path at which a stage succeeded is
mounted. -/
theorem no_teardown_under_staged_mount (node : NodeServer) (volumeID : String) (s : Staging)
    (actions : List Action) (htracked : Tracked volumeID s)
    (hagrees : AllSteps (step node) (Agrees node volumeID) s actions) :
    AllSteps (step node) (Safe node) s actions :=
  AllSteps.of_invariant (fun _ _ _ => tracked_step) (fun _ _ => safe_of_tracked) htracked hagrees

/-- A volume that is staged, published and unstaged at one path. -/
theorem no_teardown_under_staged_mount_onePath :
    let s : Staging := ⟨bareHost, none, []⟩
    let publish : Action := ⟨.publish ⟨"vol", "/stage", "/pod", some (.mount "ext4" []), [], false⟩,
      surroundings "/dev/nvme0n1" "ext4", []⟩
    AllSteps (step plainNode) (Safe plainNode) s
      [stageOf "vol" "/stage" "nqn.1", publish, unstageOf "vol" "/stage"] := by
  intro s publish
  have htracked : Tracked "vol" s := by
    refine ⟨fun state hstate => ?_, by simp [s]⟩
    cases hstate
  refine no_teardown_under_staged_mount plainNode "vol" s _ htracked ?_
  refine ⟨⟨rfl, fun _ place _ hplace => nomatch hplace⟩, ?_⟩
  rintro _ ⟨⟩
  refine ⟨⟨rfl, trivial⟩, ?_⟩
  rintro _ ⟨⟩
  refine ⟨⟨rfl, ?_⟩, fun _ _ => trivial⟩
  rintro place ⟨⟩
  rfl

/-- A volume staged at two paths: the record names the second, and the unstage of
the second disconnects the volume while the first is mounted. -/
theorem teardown_under_first_path :
    let s : Staging := ⟨bareHost, none, []⟩
    let unstage := unstageOf "vol" "/stage/b"
    ∃ t, run (step plainNode) s
        [stageOf "vol" "/stage/a" "nqn.1", stageOf "vol" "/stage/b" "nqn.1"] = some t ∧
      ("/stage/a", AccessType.filesystem) ∈ t.staged ∧
      unstage.succeeds plainNode t.host = true ∧
      ∃ entry ∈ (unstage.after plainNode t.host).log,
        entry.event = .disconnect (.nvme "nqn.1") ∧ "/stage/a" ∈ entry.mounted := by
  refine ⟨_, rfl, ?_⟩
  decide +kernel

end PillarCsi.StagedTeardown
