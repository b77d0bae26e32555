import PillarCsi.FilesystemRuns

/-!
Who made what is at the path of an adopted filesystem's proxy, and what a
lifecycle's mark says of the filesystem it adopted.

The mark claims the path before anything is made there and keeps the claim until
it is gone again, so whatever is there under a claim is the agent's own.
-/

namespace PillarCsi.ProxyOwnership

open DurableCell FencingAdmission FencedOperations OwnershipOperations FencingContracts MarkWrites
open FilesystemTeardown FilesystemRuns NfsExports NfsManager
open FalliblePrograms EffectPrograms CheckedComputations AdoptedFilesystem TransitionSystem Program

variable {server : Server}

def madeDirectory : List (ProxyChange × Option FencingMark) → Bool
  | [] => false
  | (.created, _) :: _ => true
  | (.removed, _) :: _ => false
  | _ :: earlier => madeDirectory earlier

def madeMount : List (ProxyChange × Option FencingMark) → Bool
  | [] => false
  | (.mounted, _) :: _ => true
  | (.unmounted, _) :: _ => false
  | _ :: earlier => madeMount earlier

/-- Every change was made under a durable claim, and what was taken away was the
agent's. -/
def Owning : List (ProxyChange × Option FencingMark) → Prop
  | [] => True
  | (change, durable) :: earlier => Owning earlier ∧ durable.any ownsTarget = true ∧
      (change = .removed → madeDirectory earlier = true) ∧
      (change = .unmounted → madeMount earlier = true)

def descriptor (m : FencingMark) : Option (FilesystemAdoption × Int × Option Layout) :=
  m.filesystem.map fun adoption => (adoption, m.filesystemCapacity, m.filesystemLayout)

/-- What a mutation leaves of a mark. -/
def identity (m : FencingMark) :
    String × List String × Option (FilesystemAdoption × Int × Option Layout) :=
  (m.volumeUID, m.endedUIDs, descriptor m)

variable {m : FencingMark} {marks : MarkCell} {v : FencingMark} {α : Type} {target : ProxyTarget}
  {token : FencingToken} {op : FenceOp}

theorem identity_eq_iff {m' : FencingMark} : identity m' = identity m ↔
    m'.volumeUID = m.volumeUID ∧ m'.endedUIDs = m.endedUIDs ∧ descriptor m' = descriptor m := by
  simp [identity]

/-- The descriptors of the lifecycles that ever owned the key. -/
abbrev Ledger := String → Option (FilesystemAdoption × Int × Option Layout)

/-- The lifecycle still owns the key with its descriptor, or was retired. -/
def Settles (m : FencingMark) (uid : String) (d : FilesystemAdoption × Int × Option Layout) : Prop :=
  m.volumeUID = uid ∧ descriptor m = some d ∨ m.volumeUID ≠ uid ∧ uid ∈ m.endedUIDs

structure Recorded (ledger : Ledger) (marks : MarkCell) : Prop where
  values : ∀ m ∈ marks.values, ∀ d, descriptor m = some d → ledger m.volumeUID = some d
  visible : ∀ uid d, ledger uid = some d → ∃ m, marks.visible = some m ∧ Settles m uid d

/-- Whatever is at the path is the agent's. -/
def Ours (agent : Agent) : Prop :=
  match agent.proxy with
  | .absent => True
  | .foreign => False
  | .directory mounted _ =>
    madeDirectory agent.log = true ∧ (mounted = true → madeMount agent.log = true)

structure Inv (ledger : Ledger) (agent : Agent) : Prop where
  recorded : Recorded ledger agent.marks
  ours : ∀ m ∈ agent.marks.values, ownsTarget m = true → Ours agent
  owning : Owning agent.log

structure Follows (ledger : Ledger) (m : FencingMark) : Prop where
  known : ∀ d, descriptor m = some d → ledger m.volumeUID = some d
  settles : ∀ uid d, ledger uid = some d → Settles m uid d

variable {ledger : Ledger}

theorem follows_of_identity
    (h : Recorded ledger marks) (hv : marks.visible = some v) (hsame : identity m = identity v) :
    Follows ledger m := by
  obtain ⟨huid, hended, hdescriptor⟩ := identity_eq_iff.mp hsame
  refine ⟨fun d hd => ?_, fun uid d hd => ?_⟩
  · rw [huid]
    exact h.values v (Cell.mem_values_of_visible hv) d (hdescriptor.symm.trans hd)
  · obtain ⟨v', hv', hsettles⟩ := h.visible uid d hd
    obtain rfl : v = v' := Option.mem_unique hv hv'
    simpa only [Settles, huid, hended, hdescriptor] using hsettles

theorem Recorded.evolves {marks' : MarkCell} (h : Recorded ledger marks)
    (hevolves : marks.Evolves (Follows ledger) marks') : Recorded ledger marks' := by
  refine ⟨fun m hm d hd => ?_, fun uid d hd => ?_⟩
  · rcases hevolves.writes m hm with hold | hnew
    · exact h.values m hold d hd
    · exact hnew.known d hd
  · rcases hevolves.visible with hsame | ⟨m, hm, hnew⟩
    · rw [hsame]
      exact h.visible uid d hd
    · exact ⟨m, hm, hnew.settles uid d hd⟩

variable {agent : Agent}

/-- The marks that are written follow the ledger and claim only what is the
agent's. -/
theorem Inv.evolves (h : Inv ledger agent) (hevolves : agent.marks.Evolves
      (fun m => Follows ledger m ∧ (ownsTarget m = true → Ours agent)) marks) :
    Inv ledger { agent with marks := marks } := by
  refine ⟨h.recorded.evolves (hevolves.mono fun _ hm => hm.1), fun m hm howns => ?_, h.owning⟩
  rcases hevolves.writes m hm with hold | hnew
  · exact h.ours m hold howns
  · exact hnew.2 howns

theorem Inv.ours_of_visible (h : Inv ledger agent) (hv : agent.marks.visible = some v)
    (howns : ownsTarget m = ownsTarget v) : ownsTarget m = true → Ours agent :=
  fun hm => h.ours v (Cell.mem_values_of_visible hv) (howns.symm.trans hm)

theorem ours_of_absent (habsent : agent.proxy = .absent) : Ours agent := by
  simp [Ours, habsent]

/-- A mutation works on a mark that is the durable one up to what it has written
since. -/
structure Holding (ledger : Ledger) (mark : FencingMark) (agent : Agent) : Prop
    extends Inv ledger agent where
  marks : ∃ v, agent.marks = ⟨some v, []⟩ ∧ identity v = identity mark ∧
    ownsTarget v = ownsTarget mark

variable {ledger : Ledger} {mark : FencingMark}

section

variable (h : Holding ledger mark agent)

include h

theorem Holding.visible : ∃ v, agent.marks.visible = some v ∧ identity mark = identity v ∧
      ownsTarget mark = ownsTarget v := by
  obtain ⟨v, hmarks, hidentity, howns⟩ := h.marks
  exact ⟨v, by rw [hmarks]; rfl, hidentity.symm, howns.symm⟩

theorem Holding.of_identity {mark' : FencingMark}
    (hsame : identity mark' = identity mark) (howns : ownsTarget mark' = ownsTarget mark) :
    Holding ledger mark' agent := by
  obtain ⟨v, hmarks, hidentity, hv⟩ := h.marks
  exact ⟨h.toInv, v, hmarks, hidentity.trans hsame.symm, hv.trans howns.symm⟩

theorem Holding.withNfs (host : NfsManager.Host) : Holding ledger mark { agent with nfs := host } :=
  ⟨⟨h.recorded, h.ours, h.owning⟩, h.marks⟩

end

theorem holding_manager (program : Nfs α) : Preserves (Holding ledger mark) (manager program) :=
  .zoom fun _ h _ _ => h.withNfs _

/-- The mark may be written. -/
structure Ready (ledger : Ledger) (m : FencingMark) (agent : Agent) : Prop
    extends Inv ledger agent where
  ours_of_owns : ownsTarget m = true → Ours agent
  visible : ∃ v, agent.marks.visible = some v ∧ identity m = identity v

section

variable (h : Holding ledger mark agent)

include h

theorem Holding.ready (hours : ownsTarget m = true → Ours agent)
    (hsame : identity m = identity mark) : Ready ledger m agent := by
  obtain ⟨v, hv, hidentity, -⟩ := h.visible
  exact ⟨h.toInv, hours, v, hv, hsame.trans hidentity⟩

theorem Holding.ready_of_owns
    (hsame : identity m = identity mark) (howns : ownsTarget m = ownsTarget mark) :
    Ready ledger m agent := by
  obtain ⟨v, hv, -, hvowns⟩ := h.visible
  exact h.ready (h.toInv.ours_of_visible hv (howns.trans hvowns)) hsame

omit h in
theorem ready_writeMark (id : String) :
    Yields (Ready ledger m) (writeMark id m) (fun _ => Holding ledger m) (Inv ledger) := by
  have hwrite : ∀ (agent : Agent) (o : WriteOutcome), Ready ledger m agent →
      Inv ledger { agent with marks := agent.marks.write m o } := by
    intro agent o h
    obtain ⟨v, hv, hidentity⟩ := h.visible
    exact h.toInv.evolves
      (.write .refl ⟨follows_of_identity h.recorded hv hidentity, h.ours_of_owns⟩ o)
  exact (yields_writeMark (fun _ h => h.toInv) hwrite).post fun _ _ h => ⟨h.1, m, h.2, rfl, rfl⟩

theorem Holding.owned
    (howns : ownsTarget mark = true) : agent.marks.durable.any ownsTarget = true ∧ Ours agent := by
  obtain ⟨v, hmarks, -, hv⟩ := h.marks
  have hmem : v ∈ agent.marks.values := by simp [hmarks, Cell.values]
  refine ⟨?_, h.toInv.ours v hmem (hv.trans howns)⟩
  rw [hmarks]
  exact hv.trans howns

/-- A change of a claimed target, of what the log says is the agent's. -/
theorem Holding.change {change : ProxyChange} (howns : ownsTarget mark = true)
    (hremoved : change = .removed → madeDirectory agent.log = true)
    (hunmounted : change = .unmounted → madeMount agent.log = true)
    (hours : Ours (agent.change change target)) :
    Holding ledger mark (agent.change change target) := by
  have howning : Owning (agent.change change target).log :=
    ⟨h.owning, (h.owned howns).1, hremoved, hunmounted⟩
  exact ⟨⟨h.recorded, fun _ _ _ => hours, howning⟩, h.marks⟩

end

section

variable (howns : ownsTarget mark = true)

include howns

theorem holding_changeTarget {error : ProxyError} {change : ProxyChange} :
    Preserves (Holding ledger mark) (changeTarget error change) := by
  refine .call fun agent after h hsome => ?_
  obtain ⟨target, htarget, rfl⟩ := Option.map_eq_some_iff.mp hsome
  have hours := (h.owned howns).2
  unfold ProxyChange.next at htarget
  split at htarget
  · cases htarget
    refine h.change howns (by simp) (by simp) ?_
    simp [Ours, Agent.change, madeDirectory]
  · rename_i hproxy
    cases htarget
    simp only [Ours, hproxy] at hours
    exact h.change howns (fun _ => hours.1) (by simp) (ours_of_absent rfl)
  · rename_i hproxy
    cases htarget
    simp only [Ours, hproxy] at hours
    refine h.change howns (by simp) (by simp) ?_
    simpa [Ours, Agent.change, madeDirectory, madeMount] using hours.1
  · rename_i hproxy
    cases htarget
    simp only [Ours, hproxy] at hours
    refine h.change howns (by simp) (fun _ => hours.2 trivial) ?_
    simpa [Ours, Agent.change, madeDirectory, madeMount] using hours.1
  · cases htarget

end

theorem targetRule_holding : TargetRule (Holding ledger) (Inv ledger) :=
  ⟨fun _ h => h.toInv, fun howns => holding_changeTarget howns⟩

theorem proxyRule_holding (key : String) : ProxyRule key (Holding ledger) (Inv ledger) where
  toTargetRule := targetRule_holding
  claim _ := (ready_writeMark key).pre fun _ h => h.1.ready (fun _ => ours_of_absent h.2) rfl
  claimed h howns := h.of_identity rfl howns.symm

variable (req : Request)

theorem yields_ensureFilesystemProxy (verifyMount : Bool) :
    Yields (Holding ledger mark) (ensureFilesystemProxy server req verifyMount mark)
      (fun out agent => Holding ledger out.2 agent ∧ ownsTarget out.2 = true) (Inv ledger) := by
  refine ((proxyRule_holding _).ensureFilesystemProxy verifyMount).post fun out _ h => ⟨h.1, ?_⟩
  rw [h.2]
  rfl

/-- What a removal of the proxy leaves: nothing at the path. -/
structure Gone (ledger : Ledger) (mark : FencingMark) (agent : Agent) : Prop
    extends Inv ledger agent where
  absent : agent.proxy = .absent
  visible : ∃ v, agent.marks.visible = some v ∧ identity mark = identity v

theorem Gone.ready (h : Gone ledger mark agent) (hsame : identity m = identity mark) :
    Ready ledger m agent := by
  obtain ⟨v, hv, hidentity⟩ := h.visible
  exact ⟨h.toInv, fun _ => ours_of_absent h.absent, v, hv, hsame.trans hidentity⟩

theorem Holding.gone (h : Holding ledger mark agent) (habsent : agent.proxy = .absent) :
    Gone ledger mark agent := by
  obtain ⟨v, hv, hidentity, -⟩ := h.visible
  exact ⟨h.toInv, habsent, v, hv, hidentity⟩

theorem yields_releaseProxy (kept : Bool) :
    Yields (Holding ledger mark) (releaseProxy server req kept mark) (fun out agent =>
      identity out = identity mark ∧
        (kept = true ∧ out = mark ∧ Holding ledger mark agent ∨ Gone ledger mark agent))
      (Inv ledger) := by
  refine (targetRule_holding.releaseProxy kept).post ?_
  rintro _ agent ⟨h, ⟨hkept, rfl⟩ | ⟨habsent, rfl⟩⟩
  · exact ⟨rfl, .inl ⟨hkept, rfl, h⟩⟩
  · exact ⟨rfl, .inr (h.gone habsent)⟩

/-- A mutation that answers with a mark which may be written. -/
abbrev Sound (ledger : Ledger) (mark : FencingMark) (program : Fs FencingMark) : Prop :=
  Yields (Holding ledger mark) program (Ready ledger) (Inv ledger)

section Mutations

variable {req : Request} (answers : Answers)

theorem holding_withdrawPolicy (m : FencingMark) :
    Preserves (Holding ledger mark) (withdrawPolicy server req answers m) :=
  .ite (holding_manager _) (.ite .fail (.pure _))

/-- The proxy stays with a mark that still claims it, or is gone. -/
theorem ready_released {out next : FencingMark} {kept : Bool} (h : identity out = identity mark ∧
      (kept = true ∧ out = mark ∧ Holding ledger mark agent ∨ Gone ledger mark agent))
    (hnext : identity next = identity out)
    (howns : kept = true → out = mark → ownsTarget next = ownsTarget mark) :
    Ready ledger next agent := by
  obtain ⟨hsame, ⟨hkept, rfl, hholding⟩ | hgone⟩ := h
  · exact hholding.ready_of_owns hnext (howns hkept rfl)
  · exact hgone.ready (hnext.trans hsame)

theorem ready_withdrawn {out : FencingMark}
    (h : identity out = identity mark ∧ (mark.localAttached = true ∧ out = mark ∧
      Holding ledger mark agent ∨ Gone ledger mark agent)) :
    Ready ledger (withdrawnMark out) agent := by
  refine ready_released h rfl ?_
  rintro hkept rfl
  simp [ownsTarget, withdrawnMark, hkept]

theorem sound_unexport : Sound ledger mark (unexportMutation server req answers mark) := by
  refine (holding_withdrawPolicy answers mark).andThen (fun _ h => h.toInv) fun _ => ?_
  exact (yields_releaseProxy req _).bind fun out => .pure _ fun agent h => ready_withdrawn h

theorem sound_release (deleting : Bool) :
    Sound ledger mark (releaseFilesystemMutation server req deleting answers mark) := by
  refine .ite (fun _ => .fail fun _ h => h.toInv) fun _ => ?_
  refine (holding_withdrawPolicy answers mark).andThen (fun _ h => h.toInv) fun _ => ?_
  refine targetRule_holding.removeFilesystemProxy.bind fun out => .pure _ ?_
  rintro agent ⟨⟨hholding, habsent⟩, rfl⟩
  exact (hholding.gone habsent).ready rfl

theorem identity_listedMark (m : FencingMark) (client : String) :
    identity (listedMark m client) = identity m ∧
      ownsTarget (listedMark m client) = ownsTarget m := by
  unfold listedMark
  split <;> exact ⟨rfl, rfl⟩

theorem sound_allow (initiator canonical : String) :
    Sound ledger mark (allowMutation server req answers initiator canonical mark) := by
  refine .ite (fun _ => .fail fun _ h => h.toInv) fun _ => ?_
  refine (yields_ensureFilesystemProxy req _).bind fun proxy => ?_
  obtain ⟨hsame, howns⟩ := identity_listedMark proxy.2 canonical
  have hwrite : Yields (fun agent => Holding ledger proxy.2 agent ∧ ownsTarget proxy.2 = true)
      (writeMark (server.key req) (listedMark proxy.2 canonical))
      (fun _ => Holding ledger (listedMark proxy.2 canonical)) (Inv ledger) :=
    (ready_writeMark _).pre fun _ h => h.1.ready_of_owns hsame howns
  refine hwrite.bind fun _ => ?_
  refine (holding_manager _).andThen (fun _ h => h.toInv) fun _ => ?_
  exact .pure _ fun agent h => h.ready_of_owns rfl rfl

theorem sound_deny (initiator canonical : String) :
    Sound ledger mark (denyMutation server req answers initiator canonical mark) := by
  refine .ite (fun _ => .fail fun _ h => h.toInv) fun _ => ?_
  refine (holding_manager _).andThen (fun _ h => h.toInv) fun _ => ?_
  exact .pure _ fun agent h => h.ready_of_owns rfl rfl

theorem sound_attach : Sound ledger mark (attachMutation server req answers mark) := by
  refine (yields_ensureFilesystemProxy req _).bind fun proxy => .pure _ fun agent h => ?_
  refine h.1.ready_of_owns rfl ?_
  rw [h.2]
  simp [ownsTarget]

theorem sound_detach : Sound ledger mark (detachMutation server req mark) := by
  refine (yields_releaseProxy req _).bind fun out => .pure _ fun agent h => ?_
  refine ready_released h rfl ?_
  rintro hkept rfl
  simp [ownsTarget, hkept]

theorem sound_reconcile (exports : List DesiredExport) :
    Sound ledger mark (reconcileMutation server req exports answers mark) := by
  refine .ite (fun _ => ?_) fun _ => .pure _ fun agent h => h.ready_of_owns rfl rfl
  exact (yields_ensureFilesystemProxy req _).bind fun proxy => .pure _ fun agent h =>
    h.1.ready_of_owns rfl rfl

theorem yields_rollback {Q : FencingMark → Agent → Prop} (putErr : NfsError) :
    Yields (Holding ledger mark) (rollbackFilesystemExport server req answers mark putErr) Q
      (Inv ledger) := by
  refine (holding_manager _).andThen (fun _ h => h.toInv) fun _ => ?_
  refine (yields_releaseProxy req _).bind fun out => ?_
  have hwrite : Yields (Ready ledger (withdrawnMark out))
      (attempt (writeMark (server.key req) (withdrawnMark out))) (fun _ => Inv ledger) (Inv ledger) :=
    (ready_writeMark _).attempt (fun _ _ h => h.toInv) fun _ _ h => h
  have hignore : Yields (Ready ledger (withdrawnMark out))
      (ignore (writeMark (server.key req) (withdrawnMark out))) (fun _ => Inv ledger) (Inv ledger) :=
    hwrite.bind fun _ => .pure _ fun _ h => h
  exact (hignore.pre fun _ h => ready_withdrawn h).bind fun _ => .error

theorem sound_export (e : Export) (exact : Bool) (canonical : List String) :
    Sound ledger mark (filesystemExportMutation server req answers e exact canonical mark) := by
  refine (yields_ensureFilesystemProxy req _).bind fun proxy => .assuming fun hproxy => ?_
  have hgrown : ownsTarget (grownMark proxy.2 exact e.aclEnabled canonical) = true := by
    simp [ownsTarget, grownMark]
  have hwrite : Yields (Holding ledger proxy.2)
      (writeMark (server.key req) (grownMark proxy.2 exact e.aclEnabled canonical))
      (fun _ => Holding ledger (grownMark proxy.2 exact e.aclEnabled canonical)) (Inv ledger) :=
    (ready_writeMark _).pre fun _ h => h.ready_of_owns rfl (hgrown.trans hproxy.symm)
  refine hwrite.bind fun _ => ?_
  refine (holding_manager _).attempt.andThen (fun _ h => h.toInv) fun result => ?_
  unfold afterPut
  split
  · exact .pure _ fun agent h => h.ready_of_owns rfl rfl
  · exact .ite (fun _ => .fail fun _ h => h.toInv) fun _ => yields_rollback answers _
  · exact .fail fun _ h => h.toInv

end Mutations

/-- The mark that an operation goes on with is the owner's, descriptor and all,
or an import's of a new lifecycle. -/
theorem next_mark {call : FilesystemCall}
    {stored : Option FencingMark} {adm : FenceAdmission} {answers : Answers} {layout : Option Layout}
    (hop : op ≠ .destroy) (hadm : Admits token op stored adm)
    (hstate : filesystemOperationState op call token stored = .ok false)
    (hlayout : prepareFilesystemPin op call (pinnedLayout call token stored answers) = .ok layout) :
    (∃ m, stored = some m ∧ identity (nextMark call adm.next layout) = identity m ∧
        ownsTarget (nextMark call adm.next layout) = ownsTarget m) ∨
      call.importing = true ∧ (∀ m, stored = some m → token.volumeUID ∉ m.endedUIDs ∧
          token.volumeUID ≠ m.volumeUID ∧
          (nextMark call adm.next layout).endedUIDs = appendUID m.endedUIDs m.volumeUID) ∧
        (nextMark call adm.next layout).volumeUID = token.volumeUID ∧
        ownsTarget (nextMark call adm.next layout) = false := by
  rcases admitted_mark hop hadm hstate with ⟨m, g, rfl, hopen, howner, hadoption, -, hnext⟩ |
    ⟨himporting, hended, huid, -, howns, -⟩
  · have hpinned : ∀ l, layout = some l →
        m.filesystemCapacity = call.capacity ∧ m.filesystemLayout = some l := by
      rintro l rfl
      unfold prepareFilesystemPin at hlayout
      split at hlayout
      · split at hlayout <;> cases hlayout
      · obtain ⟨l', hl', hsame⟩ := exists_of_map_eq_ok hlayout
        cases hsame
        obtain ⟨l'', hl'', hrest⟩ := exists_of_bind_eq_ok hl'
        obtain ⟨-, -, hrest⟩ := exists_of_bind_eq_ok hrest
        cases hrest
        obtain ⟨given, -, hcheck⟩ := exists_of_bind_eq_ok hl''
        obtain ⟨hsame, hgiven⟩ := ok_of_ite_error hcheck
        cases hgiven
        simpa [howner, hopen] using hsame
    refine .inl ⟨m, rfl, ?_, ?_⟩
    · rw [hnext]
      cases layout with
      | none => simp [identity, nextMark, descriptor, hadoption]
      | some l =>
        obtain ⟨hcapacity, hsame⟩ := hpinned l rfl
        simp [identity, nextMark, descriptor, hadoption, hcapacity, hsame]
    · rw [hnext]
      cases layout <;> rfl
  · refine .inr ⟨himporting, ?_⟩
    cases layout <;> exact ⟨fun m hm => (hended m hm).2, huid, howns⟩

/-- The invariant under a ledger that knows what the first one knows. -/
def Kept (ledger : Ledger) (agent : Agent) : Prop :=
  ∃ ledger', (∀ uid d, ledger uid = some d → ledger' uid = some d) ∧ Inv ledger' agent

theorem Inv.kept (h : Inv ledger agent) : Kept ledger agent := ⟨ledger, fun _ _ h => h, h⟩

section Adopt

variable {next : FencingMark} (hsuccessor : ∀ m, marks.visible = some m →
  next.volumeUID ∉ m.endedUIDs ∧ next.volumeUID ≠ m.volumeUID ∧
    next.endedUIDs = appendUID m.endedUIDs m.volumeUID)

include hsuccessor

/-- A new lifecycle extends the ledger. -/
theorem Recorded.adopt (h : Recorded ledger marks) {o : WriteOutcome}
    (hwritten : o ≠ .failedBeforeRename) : ledger next.volumeUID = none ∧
      Recorded (Function.update ledger next.volumeUID (descriptor next)) (marks.write next o) := by
  have hvisible : (marks.write next o).visible = some next := by
    cases o with
    | failedBeforeRename => exact absurd rfl hwritten
    | failedAfterRename => simp [Cell.write, Cell.visible, Cell.values]
    | synced => rfl
  have hfresh : ledger next.volumeUID = none := by
    by_contra hsome
    obtain ⟨d, hd⟩ := Option.ne_none_iff_exists'.mp hsome
    obtain ⟨m, hm, hsettles⟩ := h.visible _ _ hd
    obtain ⟨hretired, hother, -⟩ := hsuccessor m hm
    exact hsettles.elim (fun h => hother h.1.symm) fun h => hretired h.2
  refine ⟨hfresh, fun m hm d hd => ?_, fun uid d hd => ⟨next, hvisible, ?_⟩⟩
  · rcases Cell.mem_values_write hm with hold | rfl
    · have hknown := h.values m hold d hd
      rw [Function.update_of_ne]
      · exact hknown
      · intro heq
        simp [heq, hfresh] at hknown
    · rw [Function.update_self]
      exact hd
  · by_cases hself : uid = next.volumeUID
    · subst hself
      rw [Function.update_self] at hd
      exact .inl ⟨rfl, hd⟩
    · rw [Function.update_of_ne hself] at hd
      obtain ⟨m, hm, hsettles⟩ := h.visible uid d hd
      obtain ⟨-, -, hchain⟩ := hsuccessor m hm
      refine .inr ⟨fun heq => hself heq.symm, ?_⟩
      rw [hchain]
      exact mem_appendUID.mpr (hsettles.elim (fun h => .inr h.1.symm) fun h => .inl h.2)

end Adopt

theorem Inv.adopt {next : FencingMark} (h : Inv ledger agent)
    (hsuccessor : ∀ m, agent.marks.visible = some m → next.volumeUID ∉ m.endedUIDs ∧
      next.volumeUID ≠ m.volumeUID ∧ next.endedUIDs = appendUID m.endedUIDs m.volumeUID)
    (howns : ownsTarget next = false) (o : WriteOutcome) :
    Kept ledger { agent with marks := agent.marks.write next o } := by
  by_cases hbefore : o = .failedBeforeRename
  · rw [hbefore]
    exact h.kept
  obtain ⟨hfresh, hrecorded⟩ := h.recorded.adopt hsuccessor hbefore
  refine ⟨_, fun uid d hd => ?_, hrecorded, fun m hm hm' => ?_, h.owning⟩
  · rw [Function.update_of_ne]
    · exact hd
    · rintro rfl
      simp [hfresh] at hd
  · rcases Cell.mem_values_write hm with hold | rfl
    · exact h.ours m hold hm'
    · simp [howns] at hm'

section Frame

variable {call : FilesystemCall} {mutate : FencingMark → Fs FencingMark} {next : FencingMark}

theorem holding_persistMark (id : String) (changed : Bool)
    (hsame : identity next = identity m) (howns : ownsTarget next = ownsTarget m) :
    Yields (fun agent => Inv ledger agent ∧ agent.marks.visible = some m)
      (persistMark id next changed) (fun _ => Holding ledger next) (Inv ledger) := by
  have hinv : ∀ (agent : Agent) (o : WriteOutcome),
      Inv ledger agent ∧ agent.marks.visible = some m →
        Inv ledger { agent with marks := (persistFencingMark id agent.marks next changed o).1 } :=
    fun agent o h => h.1.evolves (persistFencingMark_evolves
      ⟨follows_of_identity h.1.recorded h.2 hsame, h.1.ours_of_visible h.2 howns⟩)
  refine triple_onMarks (fun outcome agent _ h hok => ⟨hinv agent _ h, ?_⟩)
    (fun outcome agent _ h _ => hinv agent _ h) fun agent h => h.1
  cases changed with
  | true =>
    have hsynced : writeOutcome outcome = .synced := by
      by_contra hother
      simp [persistFencingMark, writeFencingMark, hother] at hok
    exact ⟨next, by simp [persistFencingMark, writeFencingMark, hsynced, Cell.write], rfl, rfl⟩
  | false =>
    have hsynced : writeOutcome outcome = .synced := by
      by_contra hother
      simp [persistFencingMark, hother] at hok
    exact ⟨m, by simp [persistFencingMark, hsynced, Cell.sync, h.2], hsame.symm, howns.symm⟩

theorem inv_commit (stored : Option FencingMark) (changed : Bool)
    (hsame : identity next = identity m) (howns : ownsTarget next = ownsTarget m)
    (hmutate : Sound ledger next (mutate next)) (himport : call.importing = true → mutate = pure) :
    Triple (fun agent => Inv ledger agent ∧ agent.marks.visible = some m)
      (commitOperation key call next stored changed mutate) fun _ => Inv ledger := by
  suffices Yields (fun agent => Inv ledger agent ∧ agent.marks.visible = some m)
      (commitOperation key call next stored changed mutate) (fun _ => Inv ledger) (Inv ledger) from
    this.always fun _ _ h => h
  have hwrite : ∀ mark, Yields (Ready ledger mark) (writeMark key mark)
      (fun _ => Inv ledger) (Inv ledger) :=
    fun mark => (ready_writeMark key).post fun _ _ h => h.toInv
  by_cases himporting : call.importing = true
  · rw [himport himporting]
    refine Preserves.andThen (Triple.ite (fun hno => absurd hno (by simp [himporting])) fun _ =>
      Preserves.pure ()) (fun _ h => h.1) fun _ => ?_
    refine (hwrite next).pre fun agent h => ?_
    exact ⟨h.1, h.1.ours_of_visible h.2 howns, m, h.2, hsame⟩
  · refine .bind (.ite (fun _ => holding_persistMark _ _ hsame howns) fun hno =>
      absurd (by simpa using himporting) hno) fun _ => ?_
    exact hmutate.bind hwrite

theorem kept_adopt (stored : Option FencingMark) (changed : Bool)
    (himporting : call.importing = true) (howns : ownsTarget next = false) :
    Triple (fun agent => Inv ledger agent ∧ ∀ m, agent.marks.visible = some m →
      next.volumeUID ∉ m.endedUIDs ∧ next.volumeUID ≠ m.volumeUID ∧
        next.endedUIDs = appendUID m.endedUIDs m.volumeUID)
      (commitOperation key call next stored changed pure) fun _ => Kept ledger := by
  refine .bind (.ite (fun hno => absurd hno (by simp [himporting])) fun _ =>
    Preserves.pure ()) (fun _ => ?_) fun _ _ h => h.1.kept
  change Triple _ (writeMark key next) _
  exact triple_onMarks (fun outcome agent _ h _ => h.1.adopt h.2 howns _)
    (fun outcome agent _ h _ => h.1.adopt h.2 howns _) fun agent h => h.1.kept

theorem kept_operation (answers : Answers) (hop : op ≠ .destroy)
    (hmutate : ∀ next, Sound ledger next (mutate next))
    (himport : call.importing = true → mutate = pure) :
    Triple (Inv ledger) (operation key call token op answers mutate) fun _ => Kept ledger := by
  refine triple_operation (fun _ h => h.kept) fun stored adm layout hadm hstate hlayout => ?_
  rcases next_mark hop hadm hstate hlayout with ⟨m, hm, hsame, howns⟩ |
    ⟨himporting, hended, huid, howns⟩
  · refine Triple.weaken (inv_commit stored adm.changed hsame howns (hmutate _) himport)
      (fun _ h => ⟨h.1, h.2.trans hm⟩) fun _ _ h => h.kept
  · rw [himport himporting]
    refine .pre (kept_adopt stored adm.changed himporting howns) fun agent h => ⟨h.1, ?_⟩
    intro m hm
    rw [huid]
    exact hended m (h.2.symm.trans hm)

end Frame

theorem inv_retireMark (id : String) (token : FencingToken) (unexported : Bool) :
    Preserves (Inv ledger) (retireMark id token unexported) := by
  refine triple_retireMark_of (fun _ h => h) fun agent h env => ?_
  refine h.evolves (retireFence_evolves fun next _ hretired => ?_)
  cases hretired with
  | first hnone =>
    refine ⟨⟨by simp [descriptor], fun uid d hd => ?_⟩, by simp [ownsTarget]⟩
    obtain ⟨m, hm, -⟩ := h.recorded.visible uid d hd
    rw [hnone] at hm
    cases hm
  | @other m hm =>
    have hsame := follows_of_identity h.recorded hm (m := m) rfl
    refine ⟨⟨hsame.known, fun uid d hd => ?_⟩, h.ours_of_visible hm rfl⟩
    exact (hsame.settles uid d hd).imp (fun howner => howner) fun hretired =>
      ⟨hretired.1, List.mem_append_left _ hretired.2⟩
  | @owner m adm hunexported hm hadm howner =>
    have hnext : adm.next.volumeUID = m.volumeUID ∧ descriptor adm.next = descriptor m ∧
        ownsTarget adm.next = ownsTarget m := by
      rw [MarkOrder.admits_owner_next hadm howner]
      exact ⟨rfl, rfl, rfl⟩
    obtain ⟨huid, hdescriptor, howns⟩ := hnext
    have hsame := follows_of_identity h.recorded hm (m := m) rfl
    refine ⟨⟨fun d hd => ?_, fun uid d hd => ?_⟩, h.ours_of_visible hm howns⟩
    · change ledger adm.next.volumeUID = some d
      rw [huid]
      exact hsame.known d (hdescriptor.symm.trans hd)
    · rcases hsame.settles uid d hd with ⟨hself, hd'⟩ | ⟨hother, hmem⟩
      · exact .inl ⟨huid.trans hself, hdescriptor.trans hd'⟩
      · exact .inr ⟨fun heq => hother (huid.symm.trans heq), List.mem_append_left _ hmem⟩

theorem kept_of_inv {program : Fs α}
    (h : ∀ ledger, Triple (Inv ledger) program fun _ => Kept ledger) :
    Preserves (Kept ledger) program := by
  rintro w ⟨ledger', hextends, hinv⟩
  obtain ⟨ledger'', hextends', hinv'⟩ := h ledger' w hinv
  exact ⟨ledger'', fun uid d hd => hextends' uid d (hextends uid d hd), hinv'⟩

theorem preserves_operation {call : FilesystemCall}
    {mutate : FencingMark → Fs FencingMark} (answers : Answers) (hop : op ≠ .destroy)
    (himport : call.importing = true → mutate = pure)
    (hmutate : ∀ ledger next, Sound ledger next (mutate next)) :
    Preserves (Kept ledger) (operation key call token op answers mutate) :=
  kept_of_inv fun ledger' => kept_operation answers hop (hmutate ledger') himport

theorem kept_single (op : Single) : Preserves (Kept ledger) (op.program server) := by
  cases op with
  | importing req answers =>
    exact preserves_operation answers (by simp) (fun _ => rfl) fun _ next =>
      .pure _ fun agent h => h.ready_of_owns rfl rfl
  | exporting req params exact clients answers =>
    refine .bind (.ite .fail ?_) fun _ => .pure _
    refine preserves_ofExcept.bind fun e => preserves_ofExcept.bind fun canonical => ?_
    refine .bind ?_ fun _ => preserves_ofExcept
    exact preserves_operation answers (by simp) (by simp [Request.pinning]) fun _ _ =>
      sound_export answers e exact canonical
  | unexport req answers =>
    exact preserves_operation answers (by simp) (by simp [Request.unpinned]) fun _ _ =>
      sound_unexport answers
  | allow req initiator answers =>
    refine .ite .fail (preserves_ofExcept.bind fun canonical => ?_)
    exact preserves_operation answers (by simp) (by simp [Request.pinning]) fun _ _ =>
      sound_allow answers initiator canonical
  | deny req initiator answers =>
    change Preserves (Kept ledger) (denyFilesystemClient server req initiator answers)
    unfold denyFilesystemClient
    split
    · exact .fail
    · exact preserves_operation answers (by simp) (by simp [Request.unpinned]) fun _ _ =>
        sound_deny answers initiator _
  | localAttach req attach answers =>
    refine .ite ?_ ?_
    · exact preserves_operation answers (by simp) (by simp [Request.pinning]) fun _ _ =>
        sound_attach answers
    · exact preserves_operation answers (by simp) (by simp [Request.unpinned]) fun _ _ =>
        sound_detach

theorem kept_section (first : Section) : Preserves (Kept ledger) (first.program server) := by
  cases first with
  | whole op => exact (kept_single op).bind fun _ => .pure _
  | restore req exports answers =>
    refine .bind (.bind (.forEach fun _ _ => preserves_ofExcept) fun _ => ?_) fun _ => .pure _
    exact preserves_operation answers (by simp) (by simp [Request.pinning]) fun _ _ =>
      sound_reconcile answers exports
  | retire req unexported =>
    refine kept_of_inv fun ledger' => ?_
    exact .post (inv_retireMark (server.key req) req.token unexported) fun _ _ h => h.kept
  | withdraw req deleting answers =>
    refine .bind ?_ fun _ => .pure _
    exact preserves_operation answers (by simp) (by simp [Request.unpinned]) fun _ _ =>
      sound_release answers deleting

inductive Action where
  | agent (action : FilesystemRuns.Action)
  | manager (host : NfsManager.Host)
  /-- Somebody else puts something at the path, or takes it away. -/
  | foreign (target : ProxyTarget)

/-- Nobody else touches a path that a mark claims. -/
def step (server : Server) (key : String) (s : System) : Action → Option System
  | .agent action => FilesystemRuns.step server key s action
  | .manager host => some { s with agent.nfs := host }
  | .foreign target =>
    if s.agent.marks.values.any ownsTarget then none else some { s with agent.proxy := target }

theorem Kept.withNfs (h : Kept ledger agent) (host : NfsManager.Host) :
    Kept ledger { agent with nfs := host } := by
  obtain ⟨ledger', hextends, hinv⟩ := h
  exact ⟨ledger', hextends, hinv.recorded, hinv.ours, hinv.owning⟩

theorem Kept.foreign (h : Kept ledger agent)
    (hunclaimed : agent.marks.values.any ownsTarget = false) :
    Kept ledger { agent with proxy := target } := by
  obtain ⟨ledger', hextends, hinv⟩ := h
  refine ⟨ledger', hextends, hinv.recorded, fun m hm hset => ?_, hinv.owning⟩
  have hnone : ∀ m ∈ agent.marks.values, ownsTarget m = false := by simpa using hunclaimed
  simp [hnone m hm] at hset

theorem Kept.writeback (h : Kept ledger agent) (renames : Nat) :
    Kept ledger { agent with marks := agent.marks.flush renames } := by
  obtain ⟨ledger', hextends, hinv⟩ := h
  have hsub : ∀ m ∈ (agent.marks.flush renames).values, m ∈ agent.marks.values :=
    fun m hm => (Cell.values_flush_sublist _ _).subset hm
  refine ⟨ledger', hextends, ⟨fun m hm => hinv.recorded.values m (hsub m hm), fun uid d hd => ?_⟩,
    fun m hm => hinv.ours m (hsub m hm), hinv.owning⟩
  rw [Cell.visible_flush]
  exact hinv.recorded.visible uid d hd

theorem kept_step {key : String} {s s' : System} {action : Action} (h : Kept ledger s.agent)
    (hstep : step server key s action = some s') : Kept ledger s'.agent := by
  cases action with
  | agent action =>
    refine invariant_step (fun _ h => h.withNfs _) (fun _ renames h => h.writeback renames) ?_ h
      hstep
    exact fun first _ outcomes => (kept_section first).after h outcomes
  | manager host =>
    cases hstep
    exact h.withNfs host
  | foreign target =>
    simp only [step] at hstep
    split at hstep
    · cases hstep
    · rename_i hunclaimed
      cases hstep
      exact h.foreign (by simpa using hunclaimed)

theorem inv_freshSystem (proxy : ProxyTarget) (table : ExportTable) :
    Inv (fun _ => none) (freshSystem server proxy table).agent := by
  refine ⟨⟨?_, by simp⟩, ?_, trivial⟩ <;> simp [freshSystem, Cell.empty, Cell.values]

theorem kept_run {key : String} {s s' : System} {actions : List Action} (h : Kept ledger s.agent)
    (hrun : run (step server key) s actions = some s') : Kept ledger s'.agent := by
  have hstep : ∀ s action s', Kept ledger s.agent → step server key s action = some s' →
      Kept ledger s'.agent := fun _ _ _ => kept_step
  exact invariant_run hstep h hrun

/-- In every run, with the sections of operations interleaved and with calls that
fail and agents that die anywhere, the agent changes its proxy's path under a
durable claim only and takes away only what it made, and a lifecycle keeps the
descriptor, the capacity and the layout of its mark. -/
theorem proxy_owned_descriptor_kept {server : Server} {key : String} {proxy : ProxyTarget}
    {table : ExportTable} {actions : List Action} {s : System}
    (hrun : run (step server key) (freshSystem server proxy table) actions = some s) :
    Owning s.agent.log ∧ ∀ later s', run (step server key) s later = some s' →
        (∀ m ∈ s.agent.marks.values, ∀ m' ∈ s'.agent.marks.values, m'.volumeUID = m.volumeUID →
          ∀ d d', descriptor m = some d → descriptor m' = some d' → d' = d) ∧
        ∀ m m', s.agent.marks.visible = some m → s'.agent.marks.visible = some m' →
          m'.volumeUID = m.volumeUID → ∀ d, descriptor m = some d → descriptor m' = some d := by
  obtain ⟨ledger, -, hinv⟩ := kept_run (inv_freshSystem proxy table).kept hrun
  refine ⟨hinv.owning, fun later s' hlater => ?_⟩
  obtain ⟨ledger', hextends, hinv'⟩ := kept_run hinv.kept hlater
  have hknown : ∀ m ∈ s.agent.marks.values, ∀ d, descriptor m = some d →
      ledger' m.volumeUID = some d :=
    fun m hm d hd => hextends _ _ (hinv.recorded.values m hm d hd)
  refine ⟨fun m hm m' hm' hsame d d' hd hd' => ?_, fun m m' hm hm' hsame d hd => ?_⟩
  · have hold := hknown m hm d hd
    have hnew := hinv'.recorded.values m' hm' d' hd'
    rw [hsame, hold] at hnew
    exact (Option.some.inj hnew).symm
  · obtain ⟨v, hv, hsettles⟩ := hinv'.recorded.visible _ _
      (hknown m (Cell.mem_values_of_visible hm) d hd)
    obtain rfl : v = m' := Option.mem_unique hv hm'
    exact (hsettles.resolve_right fun h => h.1 hsame).2

/-- An export that makes the proxy and a release that takes it away. -/
def exportedAndReleased : List Action :=
  [.start (.single (.importing (sampleRequest 1) sampleAnswers)), .advance 0 [],
    .start (.single (.exporting (sampleRequest 2) (sampleParams true) false [] sampleAnswers)),
    .advance 0 [], .start (.release (sampleRequest 3) false sampleAnswers), .advance 0 [],
    .advance 0 [], .advance 0 []].map .agent

theorem proxy_owned_exportedAndReleased :
    ∃ s, run (step sampleServer (sampleServer.key (sampleRequest 1)))
        (freshSystem sampleServer .absent ∅) exportedAndReleased = some s ∧
      s.agent.log.map Prod.fst = [.removed, .unmounted, .mounted, .created] ∧
      Owning s.agent.log := by
  obtain ⟨s, hrun, hlog⟩ : ∃ s, run (step sampleServer (sampleServer.key (sampleRequest 1)))
      (freshSystem sampleServer .absent ∅) exportedAndReleased = some s ∧
      s.agent.log.map Prod.fst = [.removed, .unmounted, .mounted, .created] := by decide +kernel
  exact ⟨s, hrun, hlog, (proxy_owned_descriptor_kept hrun).1⟩

end PillarCsi.ProxyOwnership
