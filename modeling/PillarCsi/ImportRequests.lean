import PillarCsi.OwnershipTransfer

/-!
Imports of existing volumes (`server_import.go`).

An import asks the backend first and writes the mark last, so that an import
that is refused or fails leaves the mark of the volume ID alone, and one that
succeeds leaves the mark its token was admitted for, with the source pinned.
-/

namespace PillarCsi.ImportRequests

open DurableCell FencingAdmission MarkOrder FencedOperations OwnershipOperations
open OwnershipContracts AgentRuns OwnershipTransfer TransitionSystem

inductive RequestedBackend where
  | unspecified
  | blockDevice
  | type (t : BackendType)
  deriving DecidableEq, Repr

structure ImportVolumeRequest where
  volumeID : String
  backendType : RequestedBackend
  fence : FencingToken
  capacityBytes : Int
  expectedDataset : String := ""
  expectedLvmSource : Option MarkLVMSource := none
  preserveOriginal : Option Bool := none
  deriving DecidableEq, Repr

structure ImportVolumeResponse where
  devicePath : String
  capacityBytes : Int
  deriving DecidableEq, Repr

/-- A configured backend and the importers it implements. -/
structure ImportBackend where
  type : BackendType
  volumeImporter : Option (String → Int → String → Except FenceError (String × Int)) := none
  lvImporter : Option (String → Int → MarkLVMSource → Except FenceError (String × Int)) := none

structure ImportOutcome where
  readable : Bool := true
  persist : WriteOutcome := .synced
  deriving DecidableEq, Repr

def invalidImport (volumeID reason : String) : FenceError :=
  { code := .invalidArgument, message := s!"ImportVolume {volumeID.quote}: {reason}" }

def unimplementedImport (volumeID reason : String) : FenceError :=
  { code := .unimplemented, message := s!"ImportVolume {volumeID.quote}: {reason}" }

def checkBackendType (requested : RequestedBackend) (configured : BackendType)
    (volumeID : String) : Except FenceError Unit :=
  match requested with
  | .type t =>
    if t ≠ configured then
      .error (invalidImport volumeID
        "backend_type does not match the pool's configured backend")
    else .ok ()
  | .unspecified => .error (invalidImport volumeID "backend_type is required")
  | .blockDevice => .error (unimplementedImport volumeID "unsupported backend type")

/-- Import under the fence: `found` is what the backend's importer answers. -/
def importFound (req : ImportVolumeRequest) (src : Option MarkLVMSource) (preserve : Bool)
    (found : Except FenceError (String × Int)) (env : ImportOutcome) (marks : MarkCell) :
    MarkCell × Except FenceError ImportVolumeResponse :=
  let r := fencedImport req.volumeID req.fence src preserve
    { readable := env.readable, checks := found.map fun _ => (), persist := env.persist } marks
  (r.1, r.2.bind fun _ => found.map fun f => ⟨f.1, f.2⟩)

def importLV (req : ImportVolumeRequest) (b : ImportBackend) (env : ImportOutcome)
    (marks : MarkCell) : MarkCell × Except FenceError ImportVolumeResponse :=
  match req.expectedLvmSource with
  | none =>
    (marks, .error (invalidImport req.volumeID
      "expected_lvm_source is required for BACKEND_TYPE_LVM"))
  | some src =>
    if src.volumeGroup = "" ∨ src.logicalVolume = "" ∨ src.volumeGroupUUID = "" ∨
        src.logicalVolumeUUID = "" then
      (marks, .error (invalidImport req.volumeID ("expected_lvm_source needs volume_group, " ++
        "logical_volume, volume_group_uuid and logical_volume_uuid")))
    else if req.expectedDataset ≠ "" then
      (marks, .error (invalidImport req.volumeID
        "expected_dataset is not valid for BACKEND_TYPE_LVM"))
    else
      match b.lvImporter with
      | none =>
        (marks, .error (unimplementedImport req.volumeID
          "the backend cannot adopt existing LVs"))
      | some importLV =>
        -- an absent preserve_original preserves
        importFound req (some src) (req.preserveOriginal.getD true)
          (importLV req.volumeID req.capacityBytes src) env marks

def importVolume (req : ImportVolumeRequest) (backendForType : Except FenceError ImportBackend)
    (env : ImportOutcome) (marks : MarkCell) : MarkCell × Except FenceError ImportVolumeResponse :=
  match backendForType with
  | .error err => (marks, .error err)
  | .ok b =>
    match checkBackendType req.backendType b.type req.volumeID with
    | .error err => (marks, .error err)
    | .ok () =>
      if b.type = .lvm then importLV req b env marks
      else if req.expectedLvmSource ≠ none then
        (marks, .error (invalidImport req.volumeID
          "expected_lvm_source is only valid for BACKEND_TYPE_LVM"))
      else
        match b.volumeImporter with
        | none =>
          (marks, .error (unimplementedImport req.volumeID
            "the backend cannot adopt existing volumes"))
        | some import_ =>
          importFound req none false
            (import_ req.volumeID req.capacityBytes req.expectedDataset) env marks

variable {err : FenceError}

section Fence

variable {c : MarkCell} {volumeID : String} {token : FencingToken}
  {src : Option MarkLVMSource} {preserve : Bool} {env : ImportSurroundings}
  {next stored m : FencingMark}

theorem persistFencingMark_error {changed : Bool} {o : WriteOutcome}
    (h : (persistFencingMark volumeID c next changed o).2 = .error err)
    (hrename : o ≠ .failedAfterRename) : (persistFencingMark volumeID c next changed o).1 = c := by
  cases o with
  | failedBeforeRename => cases changed <;> rfl
  | failedAfterRename => exact absurd rfl hrename
  | synced => cases changed <;> cases h

theorem fencedImport_error (h : (fencedImport volumeID token src preserve env c).2 = .error err)
    (hrename : env.persist ≠ .failedAfterRename) :
    (fencedImport volumeID token src preserve env c).1 = c := by
  rcases fencedImport_cases with ⟨_, heq⟩ | ⟨adm, next, -, -, -, -, heq⟩ <;> rw [heq] at h ⊢
  exact persistFencingMark_error h hrename

/-- The pin of an import: the stored one stays, and a policy only tightens. -/
def pinned (stored : FencingMark) (src : Option MarkLVMSource) (preserve : Bool)
    (m : FencingMark) : FencingMark :=
  { m with
    lvmSource := stored.lvmSource.or src
    preserveOriginal := stored.preserveOriginal || (src.isSome && preserve) }

/-- A pinned mark that compares equal to a stored mark with the same
bookkeeping is that mark. -/
theorem eq_of_equalMarks (h : equalMarks m stored = true) (hbook : m = { stored with
      generation := m.generation, lvmSource := m.lvmSource
      preserveOriginal := m.preserveOriginal }) : m = stored := by
  simp only [equalMarks, Bool.and_eq_true, beq_iff_eq] at h
  obtain ⟨⟨⟨⟨⟨⟨-, hgeneration⟩, -⟩, -⟩, hsource⟩, hpreserve⟩, -⟩ := h
  rw [hbook, hgeneration, hsource, hpreserve]

theorem fencedImport_ok (h : (fencedImport volumeID token src preserve env c).2 = .ok ()) :
    env.checks = .ok () ∧ ∃ adm, Admits token .grant c.visible adm ∧
      (fencedImport volumeID token src preserve env c).1 =
        ⟨some (pinned (c.visible.getD {}) src preserve adm.next), []⟩ := by
  rcases fencedImport_cases with ⟨_, heq⟩ | ⟨adm, next, -, hadm, hpin, hchecks, heq⟩ <;>
    rw [heq] at h ⊢
  · cases h
  obtain rfl : next = pinned (c.visible.getD {}) src preserve adm.next := pinImportSource_ok hpin
  refine ⟨hchecks, adm, hadm, ?_⟩
  have hsynced : env.persist = .synced := by
    by_contra hne
    simp only [persistFencingMark, writeFencingMark, if_neg hne] at h
    split at h <;> cases h
  rw [hsynced]
  cases hchanged : c.visible.all fun m =>
      !equalMarks (pinned (c.visible.getD {}) src preserve adm.next) m with
  | true => rfl
  | false =>
    -- an unchanged mark is only synced: it already is the pinned one
    obtain ⟨m, hm, hequal⟩ : ∃ m, c.visible = some m ∧
        equalMarks (pinned m src preserve adm.next) m = true := by
      cases hvisible : c.visible with
      | none => simp [hvisible] at hchanged
      | some m => exact ⟨m, rfl, by simpa [hvisible] using hchanged⟩
    rw [hm] at hadm ⊢
    have howner : adm.next.volumeUID = m.volumeUID := by
      simp only [equalMarks, pinned, Bool.and_eq_true, beq_iff_eq] at hequal
      exact hequal.1.1.1.1.1.1
    have hbook : adm.next = { m with generation := adm.next.generation } := by
      rw [admits_owner_next hadm ((admits_next_volumeUID hadm).symm.trans howner)]
    have hsame : pinned m src preserve adm.next = m := by
      refine eq_of_equalMarks hequal ?_
      rw [hbook]
      rfl
    simp [persistFencingMark, Cell.sync, hm, hsame]

end Fence

/-- The mark an import leaves: a first mark, the owner's mark at the token's
generation, or the first mark of the lifecycle that follows an ended owner. -/
structure Imported (token : FencingToken) (src : Option MarkLVMSource) (preserve : Bool)
    (old : Option FencingMark) (new : FencingMark) : Prop where
  first : old = none →
    new = { volumeUID := token.volumeUID, generation := token.generation
            lvmSource := src, preserveOriginal := src.isSome && preserve }
  owner : ∀ m, old = some m → m.volumeUID = token.volumeUID →
    m.generation ≤ token.generation ∧
    new = { m with
      generation := token.generation, lvmSource := m.lvmSource.or src
      preserveOriginal := m.preserveOriginal || (src.isSome && preserve) }
  successor : ∀ m, old = some m → m.volumeUID ≠ token.volumeUID →
    m.ended = true ∧
    new = { volumeUID := token.volumeUID, generation := token.generation
            endedUIDs := appendUID m.endedUIDs m.volumeUID
            lvmSource := m.lvmSource.or src
            preserveOriginal := m.preserveOriginal || (src.isSome && preserve) }

theorem imported_of_admits {token : FencingToken} {old : Option FencingMark}
    {adm : FenceAdmission} (h : Admits token .grant old adm) (src : Option MarkLVMSource)
    (preserve : Bool) :
    Imported token src preserve old (pinned (old.getD {}) src preserve adm.next) := by
  cases h with
  | first =>
    refine ⟨fun _ => ?_, fun m hm => ?_, fun m hm => ?_⟩
    · simp [pinned]
    · cases hm
    · cases hm
  | successor _ hother hended =>
    refine ⟨(fun hnone => nomatch hnone), fun m hm howner => ?_, fun m hm _ => ?_⟩
    · cases hm
      exact absurd howner.symm hother
    · cases hm
      exact ⟨hended, rfl⟩
  | terminalRetry _ _ _ hop => exact absurd rfl hop
  | sameGeneration _ howner _ hgeneration =>
    refine ⟨(fun hnone => nomatch hnone), fun m hm _ => ?_, fun m hm hother => ?_⟩
    · cases hm
      exact ⟨hgeneration.ge, by rw [hgeneration]; rfl⟩
    · cases hm
      exact absurd howner.symm hother
  | advance _ howner _ hgeneration =>
    refine ⟨(fun hnone => nomatch hnone), fun m hm _ => ?_, fun m hm hother => ?_⟩
    · cases hm
      exact ⟨hgeneration.le, rfl⟩
    · cases hm
      exact absurd howner.symm hother

section Requests

variable {req : ImportVolumeRequest} {src : Option MarkLVMSource} {preserve : Bool}
  {found : Except FenceError (String × Int)} {env : ImportOutcome} {c : MarkCell}

theorem importFound_error (h : (importFound req src preserve found env c).2 = .error err)
    (hrename : env.persist ≠ .failedAfterRename) :
    (importFound req src preserve found env c).1 = c := by
  simp only [importFound] at h ⊢
  cases hreply : (fencedImport req.volumeID req.fence src preserve
      ⟨env.readable, found.map fun _ => (), env.persist⟩ c).2 with
  | error err => exact fencedImport_error hreply hrename
  | ok _ =>
    -- the fence only lets an import through that the backend found
    cases found with
    | ok f =>
      rw [hreply] at h
      cases h
    | error err => exact nomatch (fencedImport_ok hreply).1

theorem importFound_ok {reply : ImportVolumeResponse}
    (h : (importFound req src preserve found env c).2 = .ok reply) :
    ∃ new, (importFound req src preserve found env c).1 = ⟨some new, []⟩ ∧
      Imported req.fence src preserve c.visible new := by
  simp only [importFound] at h ⊢
  cases hreply : (fencedImport req.volumeID req.fence src preserve
      ⟨env.readable, found.map fun _ => (), env.persist⟩ c).2 with
  | error err => simp [hreply, Except.bind] at h
  | ok _ =>
    obtain ⟨-, adm, hadm, hcell⟩ := fencedImport_ok hreply
    exact ⟨_, hcell, imported_of_admits hadm src preserve⟩

/-- The policy a request asks for: an LV is preserved unless it says otherwise. -/
def ImportVolumeRequest.policy (req : ImportVolumeRequest) : Bool :=
  req.expectedLvmSource.isSome && req.preserveOriginal.getD true

theorem importVolume_cases (req : ImportVolumeRequest)
    (backendForType : Except FenceError ImportBackend) (env : ImportOutcome) (c : MarkCell) :
    (∃ err, importVolume req backendForType env c = (c, .error err)) ∨
      ∃ found, importVolume req backendForType env c =
        importFound req req.expectedLvmSource req.policy found env c := by
  unfold importVolume
  split
  · exact .inl ⟨_, rfl⟩
  split
  · exact .inl ⟨_, rfl⟩
  split
  · unfold importLV
    split
    · exact .inl ⟨_, rfl⟩
    rename_i src hsrc
    split
    · exact .inl ⟨_, rfl⟩
    split
    · exact .inl ⟨_, rfl⟩
    split
    · exact .inl ⟨_, rfl⟩
    · exact .inr ⟨_, by simp [hsrc, ImportVolumeRequest.policy]; rfl⟩
  split
  · exact .inl ⟨_, rfl⟩
  rename_i hsrc
  split
  · exact .inl ⟨_, rfl⟩
  · have hnone : req.expectedLvmSource = none := not_not.mp hsrc
    exact .inr ⟨_, by simp [hnone, ImportVolumeRequest.policy]; rfl⟩

end Requests

/-- An import that fails before its mark was renamed into place leaves every
mark as it was, so that no other request can tell.  An import that succeeds
leaves one durable mark, which differs from the mark before by the owner's
generation and the pin, or is the first mark of a new owner. -/
theorem import_leaves_no_trace (req : ImportVolumeRequest)
    (backendForType : Except FenceError ImportBackend) (env : ImportOutcome) (c : MarkCell) :
    (∀ err, (importVolume req backendForType env c).2 = .error err →
      env.persist ≠ .failedAfterRename → (importVolume req backendForType env c).1 = c ∧
        ∀ other op, admitFencingToken req.volumeID other op
          (importVolume req backendForType env c).1.visible =
            admitFencingToken req.volumeID other op c.visible) ∧
    (∀ reply, (importVolume req backendForType env c).2 = .ok reply →
      ∃ new, (importVolume req backendForType env c).1 = ⟨some new, []⟩ ∧
        Imported req.fence req.expectedLvmSource req.policy c.visible new) := by
  rcases importVolume_cases req backendForType env c with ⟨err, heq⟩ | ⟨found, heq⟩
  · rw [heq]
    exact ⟨fun _ _ _ => ⟨rfl, fun _ _ => rfl⟩, nofun⟩
  · rw [heq]
    refine ⟨fun err herr hrename => ?_, fun reply hok => importFound_ok hok⟩
    have hsame := importFound_error herr hrename
    exact ⟨hsame, fun _ _ => by rw [hsame]⟩

def sampleBackend : ImportBackend :=
  { type := .lvm, lvImporter := some fun _ capacity _ => .ok ("/dev/vg/lv", capacity) }

def sampleImport (uid : String) : ImportVolumeRequest :=
  { volumeID := "vg/lv", backendType := .type .lvm, fence := ⟨uid, 3⟩
    capacityBytes := 1024, expectedLvmSource := some adoptedLV, preserveOriginal := some false }

/-- An import onto the mark of a deleted lifecycle, and one that another
lifecycle is refused. -/
theorem import_leaves_no_trace_sampleImport : ∃ s m new, run (step "vg/lv") initial
        (adoptLV ++ [.fenced .deleteVolume ⟨"a", 8⟩ none {}]) = some s ∧ s.marks.visible = some m ∧
      (importVolume (sampleImport "b") (.ok sampleBackend) {} s.marks).1 = ⟨some new, []⟩ ∧
      Imported ⟨"b", 3⟩ (some adoptedLV) false (some m) new ∧
      (importVolume (sampleImport "c") (.ok sampleBackend) {} ⟨some new, []⟩).1 =
        ⟨some new, []⟩ := by
  obtain ⟨s, m, new, err, hs, hm, hok, hrefused⟩ : ∃ s m new err, run (step "vg/lv") initial
        (adoptLV ++ [.fenced .deleteVolume ⟨"a", 8⟩ none {}]) = some s ∧
      s.marks.visible = some m ∧
      importVolume (sampleImport "b") (.ok sampleBackend) {} s.marks =
        (⟨some new, []⟩, .ok ⟨"/dev/vg/lv", 1024⟩) ∧
      (importVolume (sampleImport "c") (.ok sampleBackend) {} ⟨some new, []⟩).2 = .error err :=
    ⟨_, _, _, _, rfl, rfl, rfl, rfl⟩
  obtain ⟨new', hnew', himported⟩ := (import_leaves_no_trace (sampleImport "b")
    (.ok sampleBackend) {} s.marks).2 _ (congrArg Prod.snd hok)
  obtain rfl : new' = new := by simpa [hnew'] using congrArg Prod.fst hok
  obtain ⟨hsame, -⟩ := (import_leaves_no_trace (sampleImport "c") (.ok sampleBackend) {} _).1 err
    hrefused (by decide)
  exact ⟨s, m, new', hs, hm, hnew', hm ▸ himported, hsame⟩

/-- The mark of a new owner keeps neither the end of the former one nor the
transfer that made it the owner. -/
theorem import_changes_more_than_owner : ∃ s m new reply, run (step "vg/lv") initial
        (adoptLV ++ [.transfer ⟨"a", 7, false⟩ recoverToB {},
          .fenced .deleteVolume ⟨"b", 2⟩ none {}]) = some s ∧ s.marks.visible = some m ∧
      importVolume (sampleImport "c") (.ok sampleBackend) {} s.marks = (⟨some new, []⟩, .ok reply) ∧
      new ≠ { m with
        volumeUID := new.volumeUID, generation := new.generation
        lvmSource := new.lvmSource, preserveOriginal := new.preserveOriginal } ∧
      new.ended ≠ m.ended ∧ new.endedUIDs ≠ m.endedUIDs ∧ new.transfer ≠ m.transfer :=
  ⟨_, _, _, _, rfl, rfl, rfl, by decide, by decide, by decide, by decide⟩

end PillarCsi.ImportRequests
