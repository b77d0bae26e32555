import PillarCsi.NodeRuns

/-!
Which stage record a volume ID names.  The record's file name is the ID with its
slashes replaced by underscores, and the lock of a call is the volume ID's, so
two IDs with one file name share a record that no lock protects.
-/

namespace PillarCsi.RecordAliasing

open TransitionSystem EffectPrograms SeparatedNames StageRecord NodeHost NodeStaging NodeContracts
open StageContracts NodeRuns

def Event.touches (key : String) : Event → Bool
  | .readRecord k => k = key
  | .writeRecord k _ => k = key
  | .removeRecord k => k = key
  | _ => false

/-- The two IDs have as many parts, and underscores in at most one, the same of
both. -/
def SameShape (volumeID otherID : String) : Prop :=
  (volumeID.toList.splitOn '/').length = (otherID.toList.splitOn '/').length ∧
    ∃ i, (∀ part ∈ (volumeID.toList.splitOn '/').eraseIdx i, '_' ∉ part) ∧
      ∀ part ∈ (otherID.toList.splitOn '/').eraseIdx i, '_' ∉ part

variable {otherID : String}

theorem stateFileKey_inj {volumeID : String} (hshape : SameShape volumeID otherID)
    (hkey : stateFileKey volumeID = stateFileKey otherID) : volumeID = otherID := by
  obtain ⟨hlength, i, hparts, hothers⟩ := hshape
  apply String.toList_inj.mp
  exact replaceAll_inj i hlength hparts hothers (String.ofList_inj.mp hkey)

def Shares (volumeID otherID : String) : Prop := stateFileKey otherID = stateFileKey volumeID

/-- The volume's record file, if there is one that names a volume, names one
with that file: every write of the plugin leaves it so. -/
def Labelled (volumeID : String) (h : Host) : Prop :=
  NamesAbout (Shares volumeID) (stateFileKey volumeID) h

variable {new : NodeStageState}

section Labels

variable {volumeID : String} {h : Host}

theorem recordOf_of_shares (hshares : Shares volumeID otherID) :
    recordOf h otherID = recordOf h volumeID := by
  unfold recordOf
  rw [show stateFileKey otherID = stateFileKey volumeID from hshares]

theorem label_migrated (raw : StageContents) : raw.migrated.backfilled.volumeID = "" ∨
      raw.migrated.backfilled.volumeID = raw.state.volumeID := by
  unfold StageContents.migrated
  split
  · exact .inl rfl
  · exact .inr rfl

theorem Labelled.recordOf {state : NodeStageState} (hlabelled : Labelled volumeID h)
    (hrecord : recordOf h volumeID = some state) (hlabel : state.volumeID ≠ "") :
    Shares volumeID state.volumeID := by
  obtain ⟨file, hfile, hstate⟩ := Option.bind_eq_some_iff.mp hrecord
  obtain ⟨raw, hraw, rfl⟩ := Option.map_eq_some_iff.mp hstate
  rcases label_migrated raw with hempty | hsame
  · exact absurd hempty hlabel
  · rw [hsame] at hlabel ⊢
    exact hlabelled file raw hfile hraw hlabel

theorem labelled_writeRecord (hlabel : new.volumeID ≠ "" → Shares volumeID new.volumeID) :
    Labelled volumeID (h.apply (.writeRecord (stateFileKey volumeID) new)) := by
  intro file raw hfile hraw
  have hwritten : some (StageFile.written new h.clock) = some file := by
    simpa [Host.apply, Host.effect] using hfile
  cases hwritten
  obtain rfl : { state := new } = raw := Option.some.inj hraw
  exact hlabel

theorem RewritesIn.label (hshares : Shares volumeID otherID)
    (hlabelled : Labelled volumeID h) (hrewrites : RewritesIn otherID h new)
    (hlabel : new.volumeID ≠ "") : Shares volumeID new.volumeID := by
  obtain ⟨old, hold, hnew⟩ := hrewrites
  rw [recordOf_of_shares hshares] at hold
  rcases hnew.label with hsame | hother
  · rw [hsame] at hlabel ⊢
    exact hlabelled.recordOf hold hlabel
  · rw [hother]
    exact hshares

end Labels

/-- The event touches no record file but the volume's, and labels it right. -/
def Own (volumeID : String) : Event → Prop
  | .readRecord key | .removeRecord key => key = stateFileKey volumeID
  | .writeRecord key new => key = stateFileKey volumeID ∧
      (new.volumeID ≠ "" → Shares volumeID new.volumeID)
  | _ => True

variable {event : Event} {h : Host}

section Frame

variable {node : NodeServer} {volumeID otherID : String} {start : Host}

theorem own_of_rewrites {key : String} (hlabelled : Labelled volumeID h)
    (hevent : key = stateFileKey volumeID ∧ RewritesIn volumeID h new) :
    Own volumeID (.writeRecord key new) :=
  ⟨hevent.1, RewritesIn.label rfl hlabelled hevent.2⟩

theorem own_of_stageContract {req : StageRequest} {localDevice : Option String}
    (hlabelled : Labelled req.volumeID h)
    (hevent : StageContract node req localDevice event h) : Own req.volumeID event := by
  cases event with
  | readRecord key => exact hevent
  | removeRecord key => exact hevent.1
  | writeRecord key new =>
    obtain ⟨hkey, hrewrites | ⟨hstaged, -⟩⟩ := hevent
    · exact own_of_rewrites hlabelled ⟨hkey, hrewrites⟩
    · refine ⟨hkey, fun _ => ?_⟩
      rw [hstaged.label]
      rfl
  | _ => trivial

theorem own_of_readContract (hlabelled : Labelled volumeID h)
    (hevent : ReadContract volumeID event h) : Own volumeID event := by
  cases event with
  | readRecord key => exact hevent
  | writeRecord key new =>
    obtain ⟨hkey, old, hold, halike⟩ := hevent
    exact own_of_rewrites hlabelled ⟨hkey, old, hold, rewrites_of_alike halike⟩
  | _ => exact hevent.elim

theorem own_of_unstageContract {req : UnstageRequest}
    (hlabelled : Labelled req.volumeID h) (hevent : UnstageContract req event h) :
    Own req.volumeID event := by
  cases event with
  | readRecord key => exact hevent
  | writeRecord key new => exact own_of_readContract hlabelled hevent
  | removeRecord key => exact hevent.1
  | _ => trivial

theorem own_of_volumeContract (hlabelled : Labelled volumeID h)
    (hevent : VolumeContract node (Shares volumeID) volumeID event h) : Own volumeID event := by
  cases hevent with
  | stage req localDevice hvolume hevent =>
    subst hvolume
    exact own_of_stageContract hlabelled hevent
  | unstage req hvolume hevent =>
    subst hvolume
    exact own_of_unstageContract hlabelled hevent
  | keep hevent =>
    cases event with
    | readRecord key => exact hevent
    | writeRecord key new => exact own_of_rewrites hlabelled hevent
    | removeRecord key => exact hevent.elim
    | _ => trivial
  | trim hevent =>
    cases event with
    | readRecord key =>
      obtain ⟨other, hshares, rfl⟩ := hevent
      exact hshares
    | writeRecord key new =>
      obtain ⟨other, hshares, rfl, hrewrites⟩ := hevent
      exact ⟨hshares, RewritesIn.label hshares hlabelled hrewrites⟩
    | removeRecord key => exact hevent.elim
    | _ => trivial

/-- The other volume's record is as it was at `start`, and no event since has
touched its file. -/
structure Framed (volumeID otherID : String) (start h : Host) : Prop where
  labelled : Labelled volumeID h
  kept : h.files (stateFileKey otherID) = start.files (stateFileKey otherID)
  logged : Logged start.log (fun entry => Event.touches (stateFileKey otherID) entry.event = false) h

theorem labelled_apply (hlabelled : Labelled volumeID h)
    (hown : Own volumeID event) : Labelled volumeID (h.apply event) := by
  cases event with
  | writeRecord key new =>
    obtain ⟨rfl, hlabel⟩ := hown
    exact labelled_writeRecord hlabel
  | removeRecord key =>
    obtain rfl : key = stateFileKey volumeID := hown
    intro file raw hfile
    simp [Host.apply, Host.effect] at hfile
  | _ => exact hlabelled

theorem Framed.apply
    (hkeys : stateFileKey volumeID ≠ stateFileKey otherID) (hframed : Framed volumeID otherID start h)
    (hown : Own volumeID event) : Framed volumeID otherID start (h.apply event) := by
  refine ⟨labelled_apply hframed.labelled hown, ?_, hframed.logged.apply ?_⟩
  · rw [← hframed.kept]
    cases event with
    | writeRecord key new =>
      obtain ⟨rfl, -⟩ := hown
      exact Function.update_of_ne (Ne.symm hkeys) _ _
    | removeRecord key =>
      obtain rfl : key = stateFileKey volumeID := hown
      exact Function.update_of_ne (Ne.symm hkeys) _ _
    | _ => rfl
  · cases event with
    | readRecord key =>
      obtain rfl : key = stateFileKey volumeID := hown
      exact decide_eq_false hkeys
    | writeRecord key new =>
      obtain ⟨rfl, -⟩ := hown
      exact decide_eq_false hkeys
    | removeRecord key =>
      obtain rfl : key = stateFileKey volumeID := hown
      exact decide_eq_false hkeys
    | _ => rfl

theorem run_framed {t : Host} {actions : List Action}
    (hkeys : stateFileKey volumeID ≠ stateFileKey otherID) (hlabelled : Labelled volumeID start)
    (hvolume : ∀ a ∈ actions, a.call.volumeID = volumeID)
    (hrun : run (step node) start actions = some t) : Framed volumeID otherID start t := by
  have hreads : Closed (ReadContract volumeID) (Labelled volumeID) := by
    intro event h hevent hh
    exact labelled_apply hh (own_of_readContract hh hevent)
  have habout : ∀ other, stateFileKey other = stateFileKey volumeID → Shares volumeID other :=
    fun _ hother => hother
  refine run_keeps habout hreads (fun h hframed => hframed.labelled) (fun around h hframed => ?_)
    (fun event h hevent hframed => ?_) hvolume ⟨hlabelled, rfl, logged_refl _ start⟩ hrun
  · exact ⟨hframed.labelled, hframed.kept, hframed.logged⟩
  · exact hframed.apply hkeys (own_of_volumeContract hframed.labelled hevent)

end Frame

/-- Whatever calls are made for a volume, with whatever failures and crashes,
they neither read nor change a record that is kept in another file.  Two volume
IDs of one shape have different files. -/
theorem records_not_aliased (node : NodeServer) (volumeID otherID : String)
    (hne : volumeID ≠ otherID) (s t : Host) (actions : List Action)
    (hlabelled : Labelled volumeID s) (hvolume : ∀ a ∈ actions, a.call.volumeID = volumeID)
    (hrun : run (step node) s actions = some t) :
    (SameShape volumeID otherID → stateFileKey volumeID ≠ stateFileKey otherID) ∧
      (stateFileKey volumeID ≠ stateFileKey otherID →
        t.files (stateFileKey otherID) = s.files (stateFileKey otherID) ∧
        ∃ added, t.log = added ++ s.log ∧
          ∀ entry ∈ added, Event.touches (stateFileKey otherID) entry.event = false) := by
  refine ⟨fun hshape hkey => hne (stateFileKey_inj hshape hkey), fun hkeys => ?_⟩
  have hframed := run_framed hkeys hlabelled hvolume hrun
  exact ⟨hframed.kept, hframed.logged⟩

/-- Two volumes of one pool: staging and unstaging the one leaves the record of
the other alone. -/
theorem records_not_aliased_onePool :
    let s := (stageOf "a/nvmeof-tcp/zfs-zvol/tank/pvc_2" "/stage/2" "nqn.2").after plainNode bareHost
    let actions := [stageOf "a/nvmeof-tcp/zfs-zvol/tank/pvc_1" "/stage/1" "nqn.1",
      unstageOf "a/nvmeof-tcp/zfs-zvol/tank/pvc_1" "/stage/1"]
    ∃ t, run (step plainNode) s actions = some t ∧
      t.files (stateFileKey "a/nvmeof-tcp/zfs-zvol/tank/pvc_2") =
        s.files (stateFileKey "a/nvmeof-tcp/zfs-zvol/tank/pvc_2") ∧
      s.files (stateFileKey "a/nvmeof-tcp/zfs-zvol/tank/pvc_2") ≠ none := by
  intro s actions
  have hshape : SameShape "a/nvmeof-tcp/zfs-zvol/tank/pvc_1" "a/nvmeof-tcp/zfs-zvol/tank/pvc_2" :=
    ⟨by decide, 4, by decide, by decide⟩
  obtain ⟨t, hrun⟩ : ∃ t, run (step plainNode) s actions = some t := ⟨_, rfl⟩
  have hlabelled : Labelled "a/nvmeof-tcp/zfs-zvol/tank/pvc_1" s := by
    intro file raw hfile
    have hnone : s.files (stateFileKey "a/nvmeof-tcp/zfs-zvol/tank/pvc_1") = none := by decide +kernel
    rw [hnone] at hfile
    cases hfile
  obtain ⟨hkeys, hframe⟩ := records_not_aliased plainNode _ "a/nvmeof-tcp/zfs-zvol/tank/pvc_2"
    (by decide) s t actions hlabelled
    (by simp [actions, stageOf, unstageOf, nvmeStage, Call.volumeID]) hrun
  exact ⟨t, hrun, (hframe (hkeys hshape)).1, by decide +kernel⟩

/-- An underscore in a pool name and one in a volume name: the two IDs share a
record, and an unstage of the second disconnects the first, which stays mounted,
and removes its record. -/
theorem unstage_removes_record_of_other :
    let tank := "a/nvmeof-tcp/zfs-zvol/tank_x/pvc"
    let other := "a/nvmeof-tcp/zfs-zvol/tank/x_pvc"
    ∃ s t, run (step plainNode) bareHost [stageOf tank "/stage/1" "nqn.1"] = some s ∧
      run (step plainNode) s [unstageOf other "/stage/2"] = some t ∧
      (stageOf tank "/stage/1" "nqn.1").succeeds plainNode bareHost = true ∧
      (unstageOf other "/stage/2").succeeds plainNode s = true ∧
      s.files (stateFileKey tank) ≠ none ∧ t.files (stateFileKey tank) = none ∧
      .nvme "nqn.1" ∈ s.sessions ∧ .nvme "nqn.1" ∉ t.sessions ∧ t.mountedAt "/stage/1" = true := by
  refine ⟨_, _, rfl, rfl, ?_⟩
  decide +kernel

end PillarCsi.RecordAliasing
