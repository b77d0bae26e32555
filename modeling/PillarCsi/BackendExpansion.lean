import PillarCsi.FalliblePrograms
import PillarCsi.TransitionSystem
import Mathlib.Tactic.Ring

/-!
Expansion of one volume: the backends' `Expand` (`backend/zfs/zfs.go`,
`backend/zfs/dataset.go`, `backend/lvm/lvm.go`), the agent's `ExpandVolume` and
the controller's `ControllerExpandVolume` around it.

The agent runs the expansions of one volume one after the other, under the
volume's fencing lock, so a schedule is a list of requests.
-/

namespace PillarCsi.BackendExpansion

open FalliblePrograms FalliblePrograms.Program TransitionSystem

/-- What a tool rounds sizes up to: a zvol's block or an LVM extent. -/
structure Granule where
  bytes : Int
  pos : 0 < bytes

def Granule.roundUp (g : Granule) (n : Int) : Int := -(-n / g.bytes) * g.bytes

theorem Granule.dvd_roundUp (g : Granule) (n : Int) : g.bytes ∣ g.roundUp n :=
  Int.dvd_mul_left _ _

theorem Granule.le_roundUp (g : Granule) (n : Int) : n ≤ g.roundUp n := by
  have hfloor : -n / g.bytes * g.bytes ≤ -n := Int.ediv_mul_le (-n) g.pos.ne'
  have hneg : g.roundUp n = -(-n / g.bytes * g.bytes) := by
    unfold roundUp
    ring
  omega

variable {n : Int} {ds : String} {granule : Granule} {requests : List ExpandRequest}

theorem Granule.roundUp_of_dvd (g : Granule) (h : g.bytes ∣ n) : g.roundUp n = n := by
  obtain ⟨k, rfl⟩ := h
  have hdiv : -(g.bytes * k) / g.bytes = -k := by
    rw [← Int.mul_neg, Int.mul_ediv_cancel_left _ g.pos.ne']
  unfold roundUp
  rw [hdiv]
  ring

theorem Granule.roundUp_mono (g : Granule) {m : Int} (h : m ≤ n) : g.roundUp m ≤ g.roundUp n := by
  have hdiv : -n / g.bytes ≤ -m / g.bytes := Int.ediv_le_ediv g.pos (by omega)
  exact Int.mul_le_mul_of_nonneg_right (by omega) g.pos.le

structure Volume where
  /-- `volsize`, `refquota` or `lv_size`. -/
  size : Int
  /-- Of a dataset. -/
  (typeName mountpoint sharenfs : String)
  deriving DecidableEq, Repr

structure ExpandError where
  message : String
  deriving DecidableEq, Repr

abbrev Expansion := Program Volume ExpandError

def setSize (tool : String) (size : Int) : Expansion Unit :=
  call ⟨tool⟩ fun v => some { v with size := size }

def zvolExpand (ds : String) (volblocksize : Granule) (requestedBytes : Int) : Expansion Int := do
  setSize s!"zfs set volsize={requestedBytes} {ds}" (volblocksize.roundUp requestedBytes)
  query ⟨s!"zfs: reading volsize after expand of {ds.quote}"⟩ Volume.size

def lvmExpand (lv : String) (extent : Granule) (requestedBytes : Int) : Expansion Int :=
  if requestedBytes ≤ 0 then
    fail ⟨s!"lvm: expand {lv}: requestedBytes must be positive, got {requestedBytes}"⟩
  else do
    let currentBytes ← query ⟨s!"lvm: pre-expand size check for {lv}"⟩ Volume.size
    if currentBytes = requestedBytes then pure currentBytes
    else if requestedBytes < currentBytes then
      fail ⟨s!"lvm: expand {lv}: cannot shrink from {currentBytes} to {requestedBytes} bytes; " ++
        "shrink is not supported by ExpandVolume"⟩
    else do
      setSize s!"lvextend {lv} to {requestedBytes}" (extent.roundUp requestedBytes)
      query ⟨s!"lvm: reading lv_size after expand of {lv}"⟩ Volume.size

def validateDatasetState (dataset mountpoint : String) (state : Volume) : Expansion Unit :=
  if state.typeName ≠ "filesystem" then
    fail ⟨s!"zfs dataset {dataset.quote} has type {state.typeName.quote}, want filesystem"⟩
  else if state.mountpoint ≠ mountpoint then
    fail ⟨s!"zfs dataset {dataset.quote} has mountpoint {state.mountpoint.quote}, " ++
      s!"want {mountpoint.quote}"⟩
  else if state.sharenfs ≠ "off" then
    fail ⟨s!"zfs dataset {dataset.quote} has sharenfs={state.sharenfs.quote}, want off"⟩
  else if state.size ≤ 0 then
    fail ⟨s!"zfs dataset {dataset.quote} must have a positive managed refquota"⟩
  else pure ()

def datasetExpand (dataset mountpoint : String) (requestedBytes : Int) : Expansion Int :=
  if requestedBytes ≤ 0 then
    fail ⟨s!"zfs dataset: requested capacity must be positive, got {requestedBytes}"⟩
  else do
    let state ← query ⟨s!"zfs get dataset properties {dataset.quote}"⟩ id
    validateDatasetState dataset mountpoint state
    if requestedBytes ≤ state.size then pure state.size
    else do
      setSize s!"zfs set refquota {dataset.quote}" requestedBytes
      let state ← query ⟨s!"zfs expand dataset {dataset.quote} readback"⟩ id
      validateDatasetState dataset mountpoint state
      if state.size < requestedBytes then
        fail ⟨s!"zfs dataset {dataset.quote} refquota readback {state.size} " ++
          s!"below requested {requestedBytes}"⟩
      else pure state.size

inductive Backend where
  | zvol (ds : String) (volblocksize : Granule)
  | dataset (name mountpoint : String)
  | lvm (lv : String) (extent : Granule)

def Backend.expand : Backend → Int → Expansion Int
  | .zvol ds volblocksize => zvolExpand ds volblocksize
  | .dataset name mountpoint => datasetExpand name mountpoint
  | .lvm lv extent => lvmExpand lv extent

/-- A resized block volume's NVMe-oF namespace is told to read its size again. -/
def revalidateNamespace : Backend → Expansion Unit
  | .dataset _ _ => pure ()
  | .zvol name _ | .lvm name _ =>
    call ⟨s!"ExpandVolume: revalidate NVMe namespace for volume {name.quote}"⟩ some

variable (backend : Backend)

def expandVolume (requestedBytes : Int) : Expansion Int := do
  let allocated ← backend.expand requestedBytes
  revalidateNamespace backend
  pure allocated

def controllerExpandVolume (requiredBytes : Int) : Expansion Int :=
  if requiredBytes < 0 then fail ⟨"capacity_range.required_bytes must not be negative"⟩
  else do
    let actualBytes ← expandVolume backend requiredBytes
    -- An older agent omits its size.
    pure (if actualBytes = 0 then requiredBytes else actualBytes)

structure ExpandRequest where
  requiredBytes : Int
  outcomes : List Outcome
  deriving Repr

def step (v : Volume) (request : ExpandRequest) : Option Volume :=
  some ((controllerExpandVolume backend request.requiredBytes).after request.outcomes v)

/-- What creating the volume leaves and every expansion keeps: whole granules,
or a dataset of the backend's own. -/
def Backend.Provisioned : Backend → Volume → Prop
  | .zvol _ granule, v | .lvm _ granule, v => granule.bytes ∣ v.size
  | .dataset _ mountpoint, v =>
    (v.typeName = "filesystem" ∧ v.mountpoint = mountpoint ∧ v.sharenfs = "off") ∧ 0 < v.size

instance (backend : Backend) (v : Volume) : Decidable (backend.Provisioned v) :=
  match backend with
  | .zvol _ granule | .lvm _ granule => inferInstanceAs (Decidable (granule.bytes ∣ v.size))
  | .dataset _ _ => inferInstanceAs (Decidable (_ ∧ _))

/-- A positive request that does not ask a zvol for fewer blocks than it has,
nor a logical volume for fewer bytes. -/
def Backend.Fits (v : Volume) (requestedBytes : Int) : Prop :=
  0 < requestedBytes ∧
    match backend with
    | .zvol _ volblocksize => v.size ≤ volblocksize.roundUp requestedBytes
    | .dataset _ _ => True
    | .lvm _ _ => v.size ≤ requestedBytes

instance (backend : Backend) (v : Volume) (requestedBytes : Int) :
    Decidable (backend.Fits v requestedBytes) :=
  match backend with
  | .zvol _ _ | .lvm _ _ => inferInstanceAs (Decidable (_ ∧ _ ≤ _))
  | .dataset _ _ => inferInstanceAs (Decidable (_ ∧ True))

/-- The volume is no smaller than before and the same if it covers the request;
success reports a size that does. -/
structure Grown (backend : Backend) (v : Volume) (requestedBytes : Int)
    (result : Except (Stop ExpandError) Int) (w : Volume) : Prop where
  provisioned : backend.Provisioned w
  size_le : v.size ≤ w.size
  kept : requestedBytes ≤ v.size → w = v
  reported : ∀ n, result = .ok n → n = w.size ∧ requestedBytes ≤ w.size

variable {backend : Backend} {v : Volume} {requestedBytes : Int}

theorem grown_error (hv : backend.Provisioned v) (stop : Stop ExpandError) :
    Grown backend v requestedBytes (.error stop) v :=
  ⟨hv, le_refl _, fun _ => rfl, fun _ h => nomatch h⟩

theorem grown_covered (hv : backend.Provisioned v) (hcovered : requestedBytes ≤ v.size) :
    ∀ s, s = v → Grown backend v requestedBytes (.ok v.size) s := by
  rintro _ rfl
  exact ⟨hv, le_refl _, fun _ => rfl, fun n hn => ⟨(Except.ok.inj hn).symm, hcovered⟩⟩

variable {w : Volume}

theorem grown_stopped {size : Int} (hv : backend.Provisioned v)
    (hsize : backend.Provisioned { v with size := size }) (hle : v.size ≤ size)
    (hkept : requestedBytes ≤ v.size → { v with size := size } = v)
    (hw : w = v ∨ w = { v with size := size }) (stop : Stop ExpandError) :
    Grown backend v requestedBytes (.error stop) w := by
  rcases hw with rfl | rfl
  · exact grown_error hv stop
  · exact ⟨hsize, hle, hkept, fun _ h => nomatch h⟩

theorem setSize_spec (tool : String) (size : Int) :
    Triple (· = v) (setSize tool size) fun result w =>
      match result with
      | .ok () => w = { v with size := size }
      | .error _ => w = v ∨ w = { v with size := size } := by
  refine .call ?_ ?_ ?_ ?_
  · rintro s t rfl ht
    exact (Option.some.inj ht).symm
  · exact fun s hs => .inl hs
  · rintro s t rfl ht
    exact .inr (Option.some.inj ht).symm
  · exact fun s hs => .inl hs

theorem query_spec {α : Type} (error : ExpandError) (f : Volume → α) :
    Triple (· = w) (query error f) fun result u => u = w ∧ ∀ a, result = .ok a → a = f w := by
  refine .query ?_ ?_ ?_
  · rintro s rfl
    exact ⟨rfl, fun a ha => (Except.ok.inj ha).symm⟩
  · exact fun s hs => ⟨hs, fun a ha => nomatch ha⟩
  · exact fun s hs => ⟨hs, fun a ha => nomatch ha⟩

theorem query_bind {α β : Type} {error : ExpandError} {f : Volume → α}
    {p : α → Program Volume ExpandError β} {Q : Except (Stop ExpandError) β → Volume → Prop}
    (herror : ∀ stop, Q (.error stop) w) (h : Triple (· = w) (p (f w)) Q) :
    Triple (· = w) (query error f >>= p) Q := by
  refine (query_spec error f).bind (fun a => ?_) fun stop s hs => hs.1 ▸ herror stop
  by_cases ha : a = f w
  · subst ha
    exact h.pre fun s hs => hs.1
  · -- the query returned what it read
    exact fun w' hw => absurd (hw.2 a rfl) ha

theorem readSize_spec (error : ExpandError) (hw : backend.Provisioned w)
    (hle : v.size ≤ w.size) (hkept : requestedBytes ≤ v.size → w = v)
    (hrequest : requestedBytes ≤ w.size) :
    Triple (· = w) (query error Volume.size) (Grown backend v requestedBytes) := by
  refine (query_spec error Volume.size).post ?_
  rintro result u ⟨rfl, hresult⟩
  exact ⟨hw, hle, hkept, fun n hn => ⟨hresult n hn, hrequest⟩⟩

theorem roundUp_eq_size (hv : (Backend.zvol ds granule).Provisioned v)
    (hfits : (Backend.zvol ds granule).Fits v requestedBytes) (hcovered : requestedBytes ≤ v.size) :
    granule.roundUp requestedBytes = v.size := by
  refine le_antisymm ?_ hfits.2
  calc granule.roundUp requestedBytes
      ≤ granule.roundUp v.size := granule.roundUp_mono hcovered
    _ = v.size := granule.roundUp_of_dvd hv

theorem zvolExpand_spec (hv : (Backend.zvol ds granule).Provisioned v)
    (hfits : (Backend.zvol ds granule).Fits v requestedBytes) :
    Triple (· = v) (zvolExpand ds granule requestedBytes)
      (Grown (.zvol ds granule) v requestedBytes) := by
  have hwhole : granule.bytes ∣ granule.roundUp requestedBytes := granule.dvd_roundUp _
  have hkept : requestedBytes ≤ v.size →
      { v with size := granule.roundUp requestedBytes } = v :=
    fun hcovered => by rw [roundUp_eq_size hv hfits hcovered]
  refine (setSize_spec _ _).bind (fun _ => ?_)
    fun stop w hw => grown_stopped hv hwhole hfits.2 hkept hw stop
  exact readSize_spec _ hwhole hfits.2 hkept (granule.le_roundUp requestedBytes)

theorem lvmExpand_spec {lv : String} (hv : (Backend.lvm lv granule).Provisioned v)
    (hfits : (Backend.lvm lv granule).Fits v requestedBytes) :
    Triple (· = v) (lvmExpand lv granule requestedBytes)
      (Grown (.lvm lv granule) v requestedBytes) := by
  have hround := granule.le_roundUp requestedBytes
  have hle : v.size ≤ granule.roundUp requestedBytes := hfits.2.trans hround
  have hwhole : granule.bytes ∣ granule.roundUp requestedBytes := granule.dvd_roundUp _
  have hfail : ∀ {error}, Triple (· = v) (fail error) (Grown (.lvm lv granule) v requestedBytes) :=
    .fail fun s hs => hs ▸ grown_error hv _
  refine .ite (fun _ => hfail) fun _ => query_bind (grown_error hv) ?_
  refine .ite (fun hcurrent => .pure _ (grown_covered hv hcurrent.ge)) fun _ => ?_
  refine .ite (fun _ => hfail) fun hless => ?_
  have hkept : requestedBytes ≤ v.size →
      { v with size := granule.roundUp requestedBytes } = v := fun hcovered => by omega
  refine (setSize_spec _ _).bind (fun _ => ?_)
    fun stop w hw => grown_stopped hv hwhole hle hkept hw stop
  exact readSize_spec _ hwhole hle hkept hround

theorem validateDatasetState_spec {dataset mountpoint : String} :
    Triple (· = w) (validateDatasetState dataset mountpoint w) fun _ u => u = w :=
  Preserves.ite .fail (.ite .fail (.ite .fail (.ite .fail (.pure _))))

theorem datasetExpand_spec {name mountpoint : String}
    (hv : (Backend.dataset name mountpoint).Provisioned v)
    (hfits : (Backend.dataset name mountpoint).Fits v requestedBytes) :
    Triple (· = v) (datasetExpand name mountpoint requestedBytes)
      (Grown (.dataset name mountpoint) v requestedBytes) := by
  refine .ite (fun _ => .fail fun s hs => hs ▸ grown_error hv _) fun _ => ?_
  refine query_bind (grown_error hv) ?_
  refine validateDatasetState_spec.bind (fun _ => ?_) fun stop s hs => hs ▸ grown_error hv stop
  refine .ite (fun hcovered => .pure _ (grown_covered hv hcovered)) fun hsmall => ?_
  have hkept : requestedBytes ≤ v.size → { v with size := requestedBytes } = v :=
    fun hcovered => absurd hcovered hsmall
  have hle : v.size ≤ requestedBytes := (not_le.mp hsmall).le
  have hset : (Backend.dataset name mountpoint).Provisioned { v with size := requestedBytes } :=
    ⟨hv.1, hfits.1⟩
  have hstopped : ∀ stop, Grown (.dataset name mountpoint) v requestedBytes (.error stop)
      { v with size := requestedBytes } := fun stop => grown_stopped hv hset hle hkept (.inr rfl) stop
  refine (setSize_spec _ _).bind (fun _ => ?_) fun stop w hw => grown_stopped hv hset hle hkept hw stop
  refine query_bind hstopped ?_
  refine validateDatasetState_spec.bind (fun _ => ?_) fun stop s hs => ?_
  · refine .ite (fun hless => absurd hless (lt_irrefl _)) fun _ => ?_
    refine .pure _ fun s hs => ?_
    subst hs
    exact ⟨hset, hle, hkept, fun n hn => ⟨(Except.ok.inj hn).symm, le_refl _⟩⟩
  · subst hs
    exact hstopped stop

theorem expand_spec (hv : backend.Provisioned v) (hfits : backend.Fits v requestedBytes) :
    Triple (· = v) (backend.expand requestedBytes) (Grown backend v requestedBytes) := by
  cases backend with
  | zvol ds granule => exact zvolExpand_spec hv hfits
  | dataset name mountpoint => exact datasetExpand_spec hv hfits
  | lvm lv granule => exact lvmExpand_spec hv hfits

theorem revalidateNamespace_spec {I : Volume → Prop} : Preserves I (revalidateNamespace backend) := by
  have hkept : ∀ s t : Volume, I s → some s = some t → I t := by
    rintro s t hs ⟨⟩
    exact hs
  cases backend with
  | zvol ds granule => exact .call hkept
  | dataset name mountpoint => exact .pure ()
  | lvm lv granule => exact .call hkept

theorem controllerExpandVolume_spec (hv : backend.Provisioned v)
    (hfits : backend.Fits v requestedBytes) :
    Triple (· = v) (controllerExpandVolume backend requestedBytes)
      (Grown backend v requestedBytes) := by
  have hstop : ∀ (stop : Stop ExpandError) s {r : Except (Stop ExpandError) Int},
      Grown backend v requestedBytes r s → Grown backend v requestedBytes (.error stop) s :=
    fun stop s r h => ⟨h.provisioned, h.size_le, h.kept, fun _ hn => nomatch hn⟩
  refine .ite (fun hneg => absurd hneg (not_lt.mpr hfits.1.le)) fun _ => ?_
  have hagent : Triple (· = v) (expandVolume backend requestedBytes)
      (Grown backend v requestedBytes) := by
    refine (expand_spec hv hfits).bind (fun allocated => ?_) fun stop s h => h
    refine .bind revalidateNamespace_spec (fun _ => ?_) fun stop s h => hstop stop s h
    exact .pure _ fun s h => h
  refine hagent.bind (fun actual => .pure _ fun s h => ?_) fun stop s h => h
  obtain ⟨hactual, hcovered⟩ := h.reported actual rfl
  have hpositive : actual ≠ 0 := by
    have hrequest := hfits.1
    omega
  rw [if_neg hpositive]
  exact h

/-- A request for no more than the volume has changes nothing and reports the
size there is. -/
theorem controllerExpandVolume_covered (hv : backend.Provisioned v)
    (hfits : backend.Fits v requestedBytes) (hcovered : requestedBytes ≤ v.size) :
    controllerExpandVolume backend requestedBytes { state := v, outcomes := [] } =
      (.ok v.size, { state := v, outcomes := [] }) := by
  have hpositive := hfits.1
  have hsize : v.size ≠ 0 := by omega
  unfold controllerExpandVolume
  rw [if_neg (not_lt.mpr hpositive.le)]
  have hagent : expandVolume backend requestedBytes { state := v, outcomes := [] } =
      (.ok v.size, { state := v, outcomes := [] }) := by
    cases backend with
    | zvol ds granule =>
      change (Except.ok (granule.roundUp requestedBytes), _) = _
      rw [roundUp_eq_size hv hfits hcovered]
    | dataset name mountpoint =>
      obtain ⟨⟨htype, hmountpoint, hshare⟩, hquota⟩ := hv
      simp [expandVolume, Backend.expand, datasetExpand, not_le.mpr hpositive,
        validateDatasetState, htype, hmountpoint, hshare, not_le.mpr hquota, hcovered, revalidateNamespace,
        bind, Program.bind, query, next, pure]
    | lvm lv granule =>
      obtain rfl : v.size = requestedBytes := le_antisymm hfits.2 hcovered
      simp [expandVolume, Backend.expand, lvmExpand, not_le.mpr hpositive,
        revalidateNamespace, bind, Program.bind, query, call, next, pure]
  change Program.bind _ _ _ = _
  unfold Program.bind
  rw [hagent]
  change (Except.ok _, _) = _
  rw [if_neg hsize]

def Fitting (backend : Backend) (v : Volume) (request : ExpandRequest) : Prop :=
  backend.Fits v request.requiredBytes

instance (backend : Backend) (v : Volume) (request : ExpandRequest) :
    Decidable (Fitting backend v request) :=
  inferInstanceAs (Decidable (backend.Fits v request.requiredBytes))

section

variable (hv : backend.Provisioned v)

include hv

theorem grown_controllerExpandVolume
    (hfits : backend.Fits v requestedBytes) (outcomes : List Outcome) :
    Grown backend v requestedBytes
      ((controllerExpandVolume backend requestedBytes).result outcomes v)
      ((controllerExpandVolume backend requestedBytes).after outcomes v) :=
  controllerExpandVolume_spec hv hfits { state := v, outcomes := outcomes } rfl

theorem run_grown (hfits : AllSteps (step backend) (Fitting backend) v requests)
    (hrun : run (step backend) v requests = some w) : backend.Provisioned w ∧ v.size ≤ w.size := by
  have hstep : ∀ u request u', (backend.Provisioned u ∧ v.size ≤ u.size) →
      Fitting backend u request → step backend u request = some u' →
      backend.Provisioned u' ∧ v.size ≤ u'.size := by
    rintro u request u' ⟨hu, hle⟩ hrequest hstep
    cases hstep
    have hgrown := grown_controllerExpandVolume hu hrequest request.outcomes
    exact ⟨hgrown.provisioned, hle.trans hgrown.size_le⟩
  exact invariant_run_of_allSteps hstep ⟨hv, le_refl _⟩ hfits hrun

theorem run_kept (hfits : AllSteps (step backend) (Fitting backend) v requests)
    (hsmall : ∀ request ∈ requests, request.requiredBytes ≤ v.size)
    (hrun : run (step backend) v requests = some w) : w = v := by
  induction requests with
  | nil => exact (Option.some.inj hrun).symm
  | cons request requests ih =>
    obtain ⟨u, hstep, hrest⟩ := run_cons_eq_some hrun
    have hkept := (grown_controllerExpandVolume hv hfits.1 request.outcomes).kept
      (hsmall request (.head _))
    obtain rfl : u = v := (Option.some.inj hstep).symm.trans hkept
    exact ih (hfits.2 u hstep) (fun later hlater => hsmall later (.tail _ hlater))
      hrest

theorem expand_again (hfits : backend.Fits v requestedBytes) (hcovered : requestedBytes ≤ v.size) :
    (controllerExpandVolume backend requestedBytes).result [] v = .ok v.size ∧
      (controllerExpandVolume backend requestedBytes).after [] v = v := by
  have hagain := controllerExpandVolume_covered hv hfits hcovered
  exact ⟨congrArg (·.1) hagain, congrArg (·.2.state) hagain⟩

end

/-- Requests that fit never shrink the volume. After any of them a request for
no more than there is changes nothing and reports the size there is, and one
that succeeded reports the same again while nothing larger was asked for. -/
theorem expansion_monotone_idempotent (backend : Backend) (v w : Volume)
    (requests : List ExpandRequest) (hv : backend.Provisioned v)
    (hfits : AllSteps (step backend) (Fitting backend) v requests)
    (hrun : run (step backend) v requests = some w) : v.size ≤ w.size ∧ backend.Provisioned w ∧
      ∀ r, backend.Fits w r → (r ≤ w.size →
          (controllerExpandVolume backend r).result [] w = .ok w.size ∧
            (controllerExpandVolume backend r).after [] w = w) ∧ ∀ outcomes reported,
          (controllerExpandVolume backend r).result outcomes w = .ok reported → r ≤ reported ∧
          ∀ later u, AllSteps (step backend) (Fitting backend)
              ((controllerExpandVolume backend r).after outcomes w) later →
            run (step backend) ((controllerExpandVolume backend r).after outcomes w) later =
              some u → backend.Fits u r → (∀ request ∈ later, request.requiredBytes ≤ reported) →
            (controllerExpandVolume backend r).result [] u = .ok reported ∧
              (controllerExpandVolume backend r).after [] u = u := by
  obtain ⟨hw, hle⟩ := run_grown hv hfits hrun
  refine ⟨hle, hw, fun r hr => ⟨fun hcovered => ?_, fun outcomes reported hreported => ?_⟩⟩
  · exact expand_again hw hr hcovered
  have hgrown := grown_controllerExpandVolume hw hr outcomes
  obtain ⟨rfl, hcovered⟩ := hgrown.reported reported hreported
  refine ⟨hcovered, fun later u hlater hreach hagain hsmall => ?_⟩
  obtain rfl := run_kept hgrown.provisioned hlater hsmall hreach
  exact expand_again hgrown.provisioned hagain hcovered

def blockVolume (size : Int) : Volume := ⟨size, "", "", ""⟩

/-- Four-byte extents: ten bytes become twelve, and asking for twelve again
changes nothing. -/
theorem expansion_monotone_idempotent_extents :
    let extent : Granule := ⟨4, by decide⟩
    let backend := Backend.lvm "vg/pvc" extent
    let grow : ExpandRequest := ⟨10, []⟩
    run (step backend) (blockVolume 8) [grow] = some (blockVolume 12) ∧
      (controllerExpandVolume backend 12).result [] (blockVolume 12) = .ok 12 := by
  intro extent backend grow
  have hrun : run (step backend) (blockVolume 8) [grow] = some (blockVolume 12) := rfl
  have hfits : AllSteps (step backend) (Fitting backend) (blockVolume 8) [grow] :=
    ⟨⟨by decide, by decide⟩, fun _ _ => trivial⟩
  obtain ⟨-, -, hrepeat⟩ :=
    expansion_monotone_idempotent backend (blockVolume 8) (blockVolume 12) [grow] (by decide) hfits hrun
  have hagain : backend.Fits (blockVolume 12) 12 := ⟨by decide, le_refl _⟩
  exact ⟨hrun, ((hrepeat 12 hagain).1 (le_refl _)).1⟩

/-- A delayed request shrinks a zvol, and the retry of a request that
succeeded fails once LVM has rounded it up. -/
theorem expansion_shrinks_or_fails_again :
    (∃ v w : Volume, (Backend.zvol "tank/pvc" ⟨4, by decide⟩).Provisioned v ∧
      run (step (.zvol "tank/pvc" ⟨4, by decide⟩)) v [⟨20, []⟩, ⟨10, []⟩] = some w ∧
      w.size < 20 ∧
      (controllerExpandVolume (.zvol "tank/pvc" ⟨4, by decide⟩) 20).result [] v = .ok 20) ∧
    ∃ v w : Volume, (Backend.lvm "vg/pvc" ⟨4, by decide⟩).Provisioned v ∧
      run (step (.lvm "vg/pvc" ⟨4, by decide⟩)) v [⟨10, []⟩] = some w ∧
      (controllerExpandVolume (.lvm "vg/pvc" ⟨4, by decide⟩) 10).result [] v = .ok 12 ∧
      (controllerExpandVolume (.lvm "vg/pvc" ⟨4, by decide⟩) 10).result [] w =
        .error (.failed ⟨"lvm: expand vg/pvc: cannot shrink from 12 to 10 bytes; " ++
          "shrink is not supported by ExpandVolume"⟩) := by
  refine ⟨⟨blockVolume 8, blockVolume 12, by decide, rfl, by decide, rfl⟩, ?_⟩
  exact ⟨blockVolume 8, blockVolume 12, by decide, rfl, rfl, by decide +kernel⟩

end PillarCsi.BackendExpansion
