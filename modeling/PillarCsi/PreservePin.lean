import PillarCsi.NodeRuns

/-!
The preserve flag of a stage record: once a stage or a publish has set it, no
later call of the volume drops it or runs a command that writes to the volume's
filesystem, until the record is deleted.
-/

namespace PillarCsi.PreservePin

open TransitionSystem FalliblePrograms FalliblePrograms.Program StageRecord NodeHost
open NodeStaging NodePublishing NodeContracts StageContracts NodeRuns

/-- A format, a filesystem check or a filesystem grow. -/
def Event.destructive : Event → Bool
  | .mkfs _ _ | .fsck _ | .resizeFS _ _ => true
  | _ => false

/-- What a pinned record permits: nothing destructive, and only writes that
keep the flag. -/
def Guarded (volumeID : String) (event : Event) : Prop :=
  Event.destructive event = false ∧
    ∀ new, event = .writeRecord (stateFileKey volumeID) new → new.preserveOriginal = true

section Contract

variable {node : NodeServer} {volumeID : String} {event : Event} {h : Host} {new : NodeStageState}
  {about : String → Prop}

theorem pin_of_rewritesIn {otherID : String}
    (hkey : stateFileKey otherID = stateFileKey volumeID) (hpinned : Pinned volumeID h)
    (hrewrites : RewritesIn otherID h new) : new.preserveOriginal = true := by
  obtain ⟨old, hold, hnew⟩ := hrewrites
  obtain ⟨state, hstate, hflag⟩ := hpinned
  unfold recordOf at hold
  rw [hkey] at hold
  obtain rfl := Option.mem_unique hold hstate
  exact hnew.pin hflag

theorem guarded_of_write {key : String}
    (hpin : key = stateFileKey volumeID → new.preserveOriginal = true) :
    Guarded volumeID (.writeRecord key new) := by
  refine ⟨rfl, ?_⟩
  rintro _ ⟨⟩
  exact hpin rfl

theorem guarded_of_stageContract {req : StageRequest} {localDevice : Option String}
    (hpinned : Pinned req.volumeID h) (hevent : StageContract node req localDevice event h) :
    Guarded req.volumeID event := by
  cases event with
  | writeRecord key new =>
    refine guarded_of_write fun _ => ?_
    obtain ⟨-, hrewrites | ⟨-, hpin⟩⟩ := hevent
    · exact pin_of_rewritesIn rfl hpinned hrewrites
    · exact hpin hpinned
  | mkfs device fsType | fsck device => exact absurd hpinned hevent
  | resizeFS path fsType => exact hevent.elim
  | _ => exact ⟨rfl, fun _ heq => nomatch heq⟩

theorem guarded_of_unstageContract {req : UnstageRequest} (hpinned : Pinned req.volumeID h)
    (hevent : UnstageContract req event h) : Guarded req.volumeID event := by
  cases event with
  | writeRecord key new =>
    obtain ⟨-, old, hold, halike⟩ := hevent
    exact guarded_of_write fun _ =>
      pin_of_rewritesIn rfl hpinned ⟨old, hold, rewrites_of_alike halike⟩
  | mkfs device fsType | fsck device | resizeFS path fsType => exact hevent.elim
  | _ => exact ⟨rfl, fun _ heq => nomatch heq⟩

theorem guarded_of_recordContract (hpinned : Pinned volumeID h)
    (hevent : RecordContract volumeID event h) : Guarded volumeID event := by
  cases event with
  | writeRecord key new => exact guarded_of_write fun _ => pin_of_rewritesIn rfl hpinned hevent.2
  | mkfs device fsType | fsck device | resizeFS path fsType => exact absurd hpinned hevent
  | _ => exact ⟨rfl, fun _ heq => nomatch heq⟩

theorem guarded_of_trimContract (hpinned : Pinned volumeID h)
    (hevent : TrimContract about event h) : Guarded volumeID event := by
  cases event with
  | writeRecord key new =>
    obtain ⟨other, -, rfl, hrewrites⟩ := hevent
    exact guarded_of_write fun hkey => pin_of_rewritesIn hkey hpinned hrewrites
  | mkfs device fsType | fsck device | resizeFS path fsType => exact hevent.elim
  | _ => exact ⟨rfl, fun _ heq => nomatch heq⟩

theorem guarded_of_volumeContract (hpinned : Pinned volumeID h)
    (hevent : VolumeContract node about volumeID event h) : Guarded volumeID event := by
  cases hevent with
  | stage req localDevice hvolume hevent =>
    subst hvolume
    exact guarded_of_stageContract hpinned hevent
  | unstage req hvolume hevent =>
    subst hvolume
    exact guarded_of_unstageContract hpinned hevent
  | keep hevent => exact guarded_of_recordContract hpinned hevent
  | trim hevent => exact guarded_of_trimContract hpinned hevent

theorem pinned_apply (hpinned : Pinned volumeID h) (hguarded : Guarded volumeID event)
    (hkept : event ≠ .removeRecord (stateFileKey volumeID)) : Pinned volumeID (h.apply event) := by
  obtain ⟨state, hstate, hflag⟩ := hpinned
  cases event with
  | writeRecord key new =>
    by_cases hkey : key = stateFileKey volumeID
    · subst hkey
      exact ⟨_, recordOf_writeRecord h volumeID new, hguarded.2 new rfl⟩
    · refine ⟨state, ?_, hflag⟩
      rw [← hstate]
      simp [recordOf, Host.apply, Host.effect, Function.update_of_ne (Ne.symm hkey)]
  | removeRecord key =>
    have hkey : key ≠ stateFileKey volumeID := fun heq => hkept (by rw [heq])
    refine ⟨state, ?_, hflag⟩
    rw [← hstate]
    simp [recordOf, Host.apply, Host.effect, Function.update_of_ne (Ne.symm hkey)]
  | _ => exact ⟨state, hstate, hflag⟩

end Contract

def Undeleted (volumeID : String) (log : List LogEntry) : Prop :=
  ∀ entry ∈ log, entry.event ≠ .removeRecord (stateFileKey volumeID)

/-- In what was added to the log, newest first, every event before which the
record was not deleted is one that a pinned record permits. -/
def KeepsPin (volumeID : String) (added : List LogEntry) : Prop :=
  ∀ later entry earlier, added = later ++ entry :: earlier → Undeleted volumeID earlier →
    Guarded volumeID entry.event

structure PinnedSince (volumeID : String) (before : List LogEntry) (h : Host) (added : List LogEntry) :
    Prop where
  log : h.log = added ++ before
  keeps : KeepsPin volumeID added
  pinned : Undeleted volumeID added → Pinned volumeID h

section Runs

variable {node : NodeServer} {volumeID : String} {added : List LogEntry}

theorem KeepsPin.cons {entry : LogEntry} (hkeeps : KeepsPin volumeID added)
    (hentry : Undeleted volumeID added → Guarded volumeID entry.event) :
    KeepsPin volumeID (entry :: added) := by
  intro later e earlier hsplit hearlier
  cases later with
  | nil =>
    obtain ⟨rfl, rfl⟩ := List.cons.inj hsplit
    exact hentry hearlier
  | cons first later => exact hkeeps later e earlier (List.cons.inj hsplit).2 hearlier

theorem PinnedSince.apply {before : List LogEntry} {h : Host} {event : Event}
    (hsince : PinnedSince volumeID before h added)
    (hevent : Pinned volumeID h → Guarded volumeID event) :
    PinnedSince volumeID before (h.apply event) (⟨event, h.mounts.map (·.target)⟩ :: added) where
  log := by
    rw [List.cons_append, ← hsince.log]
    rfl
  keeps := hsince.keeps.cons fun hundeleted => hevent (hsince.pinned hundeleted)
  pinned := by
    intro hundeleted
    obtain ⟨hkept, hrest⟩ := List.forall_mem_cons.mp hundeleted
    have hpinned := hsince.pinned hrest
    exact pinned_apply hpinned (hevent hpinned) hkept

theorem run_pinnedSince {s t : Host} {actions : List Action} (hpinned : Pinned volumeID s)
    (hvolume : ∀ a ∈ actions, a.call.volumeID = volumeID)
    (hrun : run (step node) s actions = some t) : ∃ added, PinnedSince volumeID s.log t added := by
  have habout : ∀ other, stateFileKey other = stateFileKey volumeID → (fun _ => True) other :=
    fun _ _ => trivial
  have hnames : ∀ h, NamesAbout (fun _ => True) (stateFileKey volumeID) h :=
    fun _ _ _ _ _ _ => trivial
  have hstart : ∃ added, PinnedSince volumeID s.log s added := by
    refine ⟨[], rfl, fun later entry earlier hsplit => ?_, fun _ => hpinned⟩
    simp at hsplit
  refine run_keeps (I := fun h => ∃ added, PinnedSince volumeID s.log h added) habout
    (fun _ _ _ _ => hnames _) (fun h _ => hnames h) (fun around h hh => ?_)
    (fun event h hevent hh => ?_) hvolume hstart hrun
  · obtain ⟨added, hsince⟩ := hh
    exact ⟨added, hsince.log, hsince.keeps, hsince.pinned⟩
  · obtain ⟨added, hsince⟩ := hh
    exact ⟨_, hsince.apply fun hpin => guarded_of_volumeContract hpin hevent⟩

end Runs

/-- A stage with the preserve-original key that succeeds, or a publish with the
key that succeeds while a stage record exists. -/
def Pins (node : NodeServer) (volumeID : String) (h : Host) (a : Action) : Prop :=
  a.succeeds node h = true ∧
    match a.call with
    | .stage req => req.volumeID = volumeID ∧ req.preserveKey = true
    | .publish req => req.volumeID = volumeID ∧ req.preserveKey = true ∧
        h.files (stateFileKey volumeID) ≠ none
    | _ => False

theorem pinned_after {node : NodeServer} {volumeID : String} {h : Host} {a : Action}
    (hpins : Pins node volumeID h a) : Pinned volumeID (a.after node h) := by
  obtain ⟨call, around, outcomes⟩ := a
  obtain ⟨hsucceeds, hcall⟩ := hpins
  cases call with
  | stage req =>
    obtain ⟨rfl, hkey⟩ := hcall
    obtain ⟨recorded, hrecorded, hflag⟩ := stageDone_of_succeeds rfl hsucceeds
    exact ⟨recorded, hrecorded, hflag hkey⟩
  | publish req =>
    obtain ⟨rfl, hkey, hrecorded⟩ := hcall
    exact returns_of_succeeds nodePublishVolume_spec hrecorded hsucceeds hkey
  | _ => exact hcall.elim

/-- A call that pins leaves the volume's record pinned.  From any state with a
pinned record, in every run of the volume's calls, with whatever requests,
failures and crashes: until the record is deleted every version written of it
keeps the flag, and no format, filesystem check or filesystem grow is run. -/
theorem preserve_pin_kept (node : NodeServer) (volumeID : String) (s t : Host)
    (actions : List Action) (hvolume : ∀ b ∈ actions, b.call.volumeID = volumeID)
    (hrun : run (step node) s actions = some t) :
    (∀ h a, Pins node volumeID h a → Pinned volumeID (a.after node h)) ∧
      (Pinned volumeID s → ∃ added, t.log = added ++ s.log ∧
        (∀ later entry earlier, added = later ++ entry :: earlier →
          (∀ e ∈ earlier, e.event ≠ .removeRecord (stateFileKey volumeID)) →
          Event.destructive entry.event = false ∧
          ∀ new, entry.event = .writeRecord (stateFileKey volumeID) new →
            new.preserveOriginal = true) ∧
        ((∀ e ∈ added, e.event ≠ .removeRecord (stateFileKey volumeID)) →
          Pinned volumeID t)) := by
  refine ⟨fun h a hpins => pinned_after hpins, fun hpinned => ?_⟩
  obtain ⟨added, hsince⟩ := run_pinnedSince hpinned hvolume hrun
  exact ⟨added, hsince.log, hsince.keeps, hsince.pinned⟩

/-- A preserved volume is staged, staged again and published without the key
after its filesystem died, and an expand is asked for. -/
theorem preserve_pin_kept_repair :
    let req := nvmeStage "a/nvmeof-tcp/lvm/vg/pvc" "/stage" "nqn.1"
    let pinned : StageRequest :=
      { req with volumeContext := (preserveOriginalKey, "true") :: req.volumeContext }
    let around := surroundings "/dev/nvme0n1" "ext4"
    let dead : Surroundings := { around with probes := [.dead, .alive] }
    let stage : Action := ⟨.stage pinned, around, []⟩
    let actions : List Action :=
      [⟨.stage req, dead, []⟩,
       ⟨.publish ⟨req.volumeID, "/stage", "/pod", some (.mount "ext4" []), [], false⟩, dead, []⟩,
       ⟨.expand ⟨req.volumeID, "/pod", some (.mount "ext4" []), 10⟩ true, around, []⟩]
    ∃ t, run (step plainNode) (stage.after plainNode bareHost) actions = some t ∧
      Pinned req.volumeID t := by
  intro req pinned around dead stage actions
  have hpins : Pins plainNode req.volumeID bareHost stage := ⟨by decide +kernel, by decide +kernel⟩
  obtain ⟨t, hrun, hlog⟩ :
      ∃ t, run (step plainNode) (stage.after plainNode bareHost) actions = some t ∧
      ∀ e ∈ t.log, e.event ≠ .removeRecord (stateFileKey req.volumeID) :=
    ⟨_, rfl, by decide +kernel⟩
  obtain ⟨hafter, hkept⟩ := preserve_pin_kept plainNode req.volumeID _ t actions
    (by simp [actions, Call.volumeID, req]) hrun
  obtain ⟨added, hadded, -, hpinned⟩ := hkept (hafter bareHost stage hpins)
  refine ⟨t, hrun, hpinned fun e he => hlog e ?_⟩
  rw [hadded]
  exact List.mem_append_left _ he

end PillarCsi.PreservePin
