import Mathlib.Data.List.Basic
import Mathlib.Order.Nat

/-!
The agent's durable fencing mark of a volume ID and the rules by which a
request's token is admitted against it (`internal/agent/fencing.go`).
-/

namespace PillarCsi.FencingAdmission

/-- Identity of the pre-existing LV an import adopted. -/
structure MarkLVMSource where
  (volumeGroup logicalVolume volumeGroupUUID logicalVolumeUUID : String)
  deriving DecidableEq, Repr

/-- The committed ownership transfer a mark descends from. -/
structure MarkTransfer where
  (authorizationDigest fromUID : String)
  fromGeneration : Nat
  toUID : String
  toGeneration : Nat
  deriving DecidableEq, Repr

/-- A native directory or dataset adopted in place. -/
structure FilesystemAdoption where
  (kind canonicalSource resourceID hostPath filesystemType filesystemID : String)
  (inode projectID : Nat)
  deriving DecidableEq, Repr

structure Layout where
  (parentDataset thinPool hostRoot : String)
  deriving DecidableEq, Repr

/-- The per-volume fencing state.  Omitted fields are Go's zero values. -/
structure FencingMark where
  volumeUID : String := ""
  generation : Nat := 0
  ended : Bool := false
  endedUIDs : List String := []
  filesystem : Option FilesystemAdoption := none
  filesystemVolumeID : String := ""
  filesystemCapacity : Int := 0
  filesystemLayout : Option Layout := none
  localAttached : Bool := false
  filesystemClients : List String := []
  filesystemOpen : Bool := false
  filesystemExported : Bool := false
  filesystemProxyClaimed : Bool := false
  legacyRevokeOnly : Bool := false
  lvmSource : Option MarkLVMSource := none
  preserveOriginal : Bool := false
  transfer : Option MarkTransfer := none
  deriving DecidableEq, Repr

structure FencingToken where
  volumeUID : String
  generation : Nat
  deriving DecidableEq, Repr

inductive FenceOp where
  | grant
  | revoke
  | destroy
  deriving DecidableEq, Repr

inductive FenceDecision where
  | admitNewLifecycle
  | admitAdvance
  | admitSameGeneration
  | admitTerminalRetry
  | rejectMissingToken
  | rejectRetired
  | rejectOtherOwner
  | rejectEnded
  | rejectSuperseded
  | rejectMarkChanged
  deriving DecidableEq, Repr

inductive Code where
  | failedPrecondition
  | internal
  | unavailable
  | invalidArgument
  | unimplemented
  deriving DecidableEq, Repr

structure FenceError where
  code : Code
  message : String
  decision : Option FenceDecision := none
  deriving DecidableEq, Repr

structure FenceAdmission where
  next : FencingMark
  changed : Bool
  decision : FenceDecision
  deriving DecidableEq, Repr

theorem ok_of_ite_error {ε α : Type*} {p : Prop} [Decidable p] {err : ε}
    {rest : Except ε α} {a : α} (h : (if p then .error err else rest) = .ok a) :
    ¬ p ∧ rest = .ok a := by
  by_cases hp : p
  · simp [hp] at h
  · exact ⟨hp, by simpa [hp] using h⟩

theorem ok_of_ite_errors {ε α : Type*} {p q : Prop} [Decidable p] [Decidable q] {err err' : ε}
    {rest : Except ε α} {a : α}
    (h : (if p then .error err else if q then .error err' else rest) = .ok a) :
    ¬ p ∧ ¬ q ∧ rest = .ok a :=
  (ok_of_ite_error h).imp_right ok_of_ite_error

/-- `slices.Clone(uids)` with `uid` appended unless it is already there. -/
def appendUID (uids : List String) (uid : String) : List String :=
  if uid ∈ uids then uids else uids ++ [uid]

@[simp] theorem mem_appendUID {uids : List String} {uid x : String} :
    x ∈ appendUID uids uid ↔ x ∈ uids ∨ x = uid := by
  unfold appendUID
  split
  · rename_i hmem
    exact ⟨.inl, fun h => h.elim id (fun hx => hx ▸ hmem)⟩
  · simp

def staleToken (volumeID : String) (token : FencingToken) (stored : FencingMark)
    (decision : FenceDecision) (reason : String) : FenceError :=
  { code := .failedPrecondition
    message :=
      s!"stale fencing token (uid {token.volumeUID.quote}, generation {token.generation}) " ++
        s!"for volume {volumeID.quote}: {reason} (mark uid {stored.volumeUID.quote}, " ++
        s!"generation {stored.generation}, ended {stored.ended})"
    decision := some decision }

def missingToken (volumeID : String) : FenceError :=
  { code := .failedPrecondition
    message := s!"fencing token required for volume {volumeID.quote}: every mutating " ++
      "request must carry the PillarVolumeState UID and generation"
    decision := some .rejectMissingToken }

/-- The fencing rules.  An absent mark is `none`. -/
def admitFencingToken (volumeID : String) (token : FencingToken) (op : FenceOp)
    (stored : Option FencingMark) : Except FenceError FenceAdmission :=
  if token.volumeUID = "" then
    .error (missingToken volumeID)
  else
    match stored with
    | none =>
      .ok { next := { volumeUID := token.volumeUID, generation := token.generation }
            changed := true, decision := .admitNewLifecycle }
    | some m =>
      if token.volumeUID ∈ m.endedUIDs then
        .error (staleToken volumeID token m .rejectRetired "lifecycle was retired")
      else if token.volumeUID ≠ m.volumeUID then
        if m.ended then
          -- A new lifecycle inherits the pinned source and policy.
          .ok { next :=
                  { volumeUID := token.volumeUID, generation := token.generation
                    endedUIDs := appendUID m.endedUIDs m.volumeUID
                    lvmSource := m.lvmSource, preserveOriginal := m.preserveOriginal }
                changed := true, decision := .admitNewLifecycle }
        else
          .error (staleToken volumeID token m .rejectOtherOwner
            "another lifecycle owns the volume")
      else if m.ended then
        -- Only a retry of the operation that ended the lifecycle may pass.
        if op = .grant ∨ token.generation ≠ m.generation then
          .error (staleToken volumeID token m .rejectEnded "lifecycle already ended")
        else
          .ok { next := m, changed := false, decision := .admitTerminalRetry }
      else if token.generation < m.generation then
        .error (staleToken volumeID token m .rejectSuperseded
          "superseded by a newer operation")
      else if token.generation = m.generation then
        .ok { next := m, changed := false, decision := .admitSameGeneration }
      else
        .ok { next := { m with generation := token.generation }
              changed := true, decision := .admitAdvance }

/-- The admission rules as a relation, one constructor for each way a token is
admitted. -/
inductive Admits (token : FencingToken) (op : FenceOp) :
    Option FencingMark → FenceAdmission → Prop
  | first :
      Admits token op none
        { next := { volumeUID := token.volumeUID, generation := token.generation }
          changed := true, decision := .admitNewLifecycle }
  | successor {m : FencingMark} (hretired : token.volumeUID ∉ m.endedUIDs)
      (hother : token.volumeUID ≠ m.volumeUID) (hended : m.ended = true) :
      Admits token op (some m)
        { next :=
            { volumeUID := token.volumeUID, generation := token.generation
              endedUIDs := appendUID m.endedUIDs m.volumeUID
              lvmSource := m.lvmSource, preserveOriginal := m.preserveOriginal }
          changed := true, decision := .admitNewLifecycle }
  | terminalRetry {m : FencingMark} (hretired : token.volumeUID ∉ m.endedUIDs)
      (howner : token.volumeUID = m.volumeUID) (hended : m.ended = true)
      (hop : op ≠ .grant) (hgeneration : token.generation = m.generation) :
      Admits token op (some m)
        { next := m, changed := false, decision := .admitTerminalRetry }
  | sameGeneration {m : FencingMark} (hretired : token.volumeUID ∉ m.endedUIDs)
      (howner : token.volumeUID = m.volumeUID) (hopen : m.ended = false)
      (hgeneration : token.generation = m.generation) :
      Admits token op (some m)
        { next := m, changed := false, decision := .admitSameGeneration }
  | advance {m : FencingMark} (hretired : token.volumeUID ∉ m.endedUIDs)
      (howner : token.volumeUID = m.volumeUID) (hopen : m.ended = false)
      (hgeneration : m.generation < token.generation) :
      Admits token op (some m)
        { next := { m with generation := token.generation }
          changed := true, decision := .admitAdvance }

variable {stored : Option FencingMark}

theorem admits_of_admitFencingToken {volumeID : String} {token : FencingToken}
    {op : FenceOp} {adm : FenceAdmission}
    (h : admitFencingToken volumeID token op stored = .ok adm) : Admits token op stored adm := by
  unfold admitFencingToken at h
  split at h
  · cases h
  split at h
  · cases h
    exact .first
  rename_i m
  split at h
  · cases h
  rename_i hretired
  split at h
  · rename_i hother
    split at h
    · rename_i hended
      cases h
      exact .successor hretired hother hended
    · cases h
  rename_i howner
  have howner := not_not.mp howner
  split at h
  · rename_i hended
    split at h
    · cases h
    · rename_i hguard
      cases h
      obtain ⟨hop, hgeneration⟩ := not_or.mp hguard
      exact .terminalRetry hretired howner hended hop (not_not.mp hgeneration)
  rename_i hopen
  have hopen : m.ended = false := by simpa using hopen
  split at h
  · cases h
  rename_i hlower
  split at h
  · rename_i hgeneration
    cases h
    exact .sameGeneration hretired howner hopen hgeneration
  · rename_i hne
    cases h
    exact .advance hretired howner hopen (by omega)

theorem named_of_admitFencingToken {volumeID : String} {token : FencingToken} {op : FenceOp}
    {adm : FenceAdmission}
    (h : admitFencingToken volumeID token op stored = .ok adm) : token.volumeUID ≠ "" := by
  intro hempty
  simp [admitFencingToken, hempty] at h

end PillarCsi.FencingAdmission
