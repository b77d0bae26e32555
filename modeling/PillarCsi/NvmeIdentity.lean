import PillarCsi.TargetFrame
import PillarCsi.TransitionSystem

/-!
The identity hosts see of a volume's NVMe-oF export (`internal/agent/nvme_identity.go`,
`internal/agent/nvmeof/identity.go`): a namespace that is enabled carries the
identity of its lifecycle, and so does a subsystem that is linked to a port.

A crash cuts a request off before one of its calls, so every moment of a
request is the end of a run that is cut off there.
-/

namespace PillarCsi.NvmeIdentity

open FalliblePrograms ItemTree Configfs TargetNames SeparatedNames Nvmet ProtocolHandlers
open TargetFrame TransitionSystem Program

section Places

variable (root : Path) (nqn : Name)

def subsystemPlace : Path := root ++ [.of "nvmet", .of "subsystems", nqn]

def serialPlace : Path := root ++ [.of "nvmet", .of "subsystems", nqn, .of "attr_serial"]

def namespacePlace : Path :=
  root ++ [.of "nvmet", .of "subsystems", nqn, .of "namespaces", .of "1"]

def namespaceAttr (attr : Name) : Path :=
  root ++ [.of "nvmet", .of "subsystems", nqn, .of "namespaces", .of "1", attr]

def portLinkPlace (port : Name) : Path :=
  root ++ [.of "nvmet", .of "ports", port, .of "subsystems", nqn]

/-- Where the identity of an export stands. -/
def attrPlaces : List Path :=
  [serialPlace root nqn, namespaceAttr root nqn (.of "enable"),
    namespaceAttr root nqn (.of "device_uuid"), namespaceAttr root nqn (.of "device_nguid")]

/-- The attributes of the identity and the objects they belong to. -/
def places : List Path := subsystemPlace root nqn :: namespacePlace root nqn :: attrPlaces root nqn

/-- Some port offers the subsystem. -/
def Linked (t : Tree) : Prop :=
  ∃ port target, (portLinkPlace root nqn port, Node.link target) ∈ t.entries

def Identified (id : Identity) (t : Tree) : Prop :=
  t.lookup (namespaceAttr root nqn (.of "device_uuid")) = some (.attr id.uuid) ∧
    t.lookup (namespaceAttr root nqn (.of "device_nguid")) = some (.attr id.nguid)

end Places

section Names

variable {host : Host} {t : NvmetTarget} {nqn : Name}

variable (h : t.subsystemNQN = nqn.text)

include h

theorem subsystemDir_eq : t.subsystemDir host = subsystemPlace host.kernel.root nqn := by
  simp [NvmetTarget.subsystemDir, NvmetTarget.nvmetRoot, h, join_name, subsystemPlace]

theorem serial_eq :
    t.subsystemDir host ++ [.of "attr_serial"] = serialPlace host.kernel.root nqn := by
  simp [subsystemDir_eq h, subsystemPlace, serialPlace]

theorem namespaceDir_eq : t.namespaceDir host = namespacePlace host.kernel.root nqn := by
  simp [NvmetTarget.namespaceDir, subsystemDir_eq h, subsystemPlace, namespacePlace]

theorem namespaceAttr_eq (attr : Name) :
    t.namespaceDir host ++ [attr] = namespaceAttr host.kernel.root nqn attr := by
  simp [namespaceDir_eq h, namespacePlace, namespaceAttr]

theorem portSubsystemLink_eq (port : Name) :
    t.portSubsystemLink host port = portLinkPlace host.kernel.root nqn port := by
  simp [NvmetTarget.portSubsystemLink, NvmetTarget.portDir, NvmetTarget.portsDir,
    NvmetTarget.nvmetRoot, h, join_name, portLinkPlace]

end Names

/-- A linked subsystem and an enabled namespace carry `id`.  `pinned`: so does
the subsystem, linked or not. -/
structure Sound (root : Path) (nqn : Name) (id : Identity) (pinned : Bool) (t : Tree) : Prop where
  linked : Linked root nqn t → t.lookup (serialPlace root nqn) = some (.attr id.serial)
  enabled : t.lookup (namespaceAttr root nqn (.of "enable")) = some (.attr "1") →
    Identified root nqn id t
  dir : ∀ p ∈ attrPlaces root nqn, t.lookup p ≠ none → t.isDir p.dropLast = true
  pinned : pinned = true → t.lookup (serialPlace root nqn) = some (.attr id.serial)

variable {attr : Name} {value want : String} {path : Path} {tree : Tree}

section Sound

variable {root : Path} {nqn : Name} {id : Identity} {pinned : Bool} {t t' : Tree} {p : Path}
  {a b : Name}

theorem Sound.unpin (h : Sound root nqn id pinned t) : Sound root nqn id false t :=
  { h with pinned := nofun }

theorem Sound.pin (h : Sound root nqn id pinned t)
    (hserial : t.lookup (serialPlace root nqn) = some (.attr id.serial)) :
    Sound root nqn id true t :=
  { h with pinned := fun _ => hserial }

theorem isDir_iff (hp : p ≠ []) : t.isDir p = true ↔ ∃ node, t.lookup p = some node ∧ node.isDir := by
  simp [Tree.isDir, hp, Option.any_eq_true]

theorem isDir_congr {p : Path} (h : t'.lookup p = t.lookup p) : t'.isDir p = t.isDir p := by
  simp [Tree.isDir, h]

theorem lookup_ne_none_of_isDir (hp : p ≠ []) (h : t.isDir p = true) : t.lookup p ≠ none := by
  obtain ⟨node, hnode, -⟩ := (isDir_iff hp).mp h
  simp [hnode]

theorem exists_attr (hp : p ∈ attrPlaces root nqn) :
    ∃ attr, p = subsystemPlace root nqn ++ [attr] ∨ p = namespacePlace root nqn ++ [attr] := by
  simp only [attrPlaces, List.mem_cons, List.not_mem_nil, or_false] at hp
  rcases hp with rfl | rfl | rfl | rfl <;>
    simp [serialPlace, namespaceAttr, subsystemPlace, namespacePlace]

theorem mem_places : p ∈ places root nqn ↔
    p = subsystemPlace root nqn ∨ p = namespacePlace root nqn ∨ p ∈ attrPlaces root nqn := by
  simp [places]

theorem dropLast_ne_nil (hp : p ∈ attrPlaces root nqn) : p.dropLast ≠ [] := by
  obtain ⟨attr, rfl | rfl⟩ := exists_attr hp <;> simp [subsystemPlace, namespacePlace]

theorem dropLast_mem (hp : p ∈ attrPlaces root nqn) : p.dropLast ∈ places root nqn := by
  obtain ⟨attr, rfl | rfl⟩ := exists_attr hp <;> simp [places]

theorem Sound.of_same (h : Sound root nqn id pinned t)
    (hplaces : ∀ q ∈ places root nqn, t'.lookup q = t.lookup q)
    (hlinked : Linked root nqn t' → Linked root nqn t) : Sound root nqn id pinned t' := by
  have hattr : ∀ q ∈ attrPlaces root nqn, t'.lookup q = t.lookup q :=
    fun q hq => hplaces q (mem_places.mpr (.inr (.inr hq)))
  have hserial := hattr (serialPlace root nqn) (by simp [attrPlaces])
  constructor
  · rw [hserial]
    exact fun hlink => h.linked (hlinked hlink)
  · unfold Identified
    rw [hattr _ (by simp [attrPlaces]), hattr _ (by simp [attrPlaces]),
      hattr _ (by simp [attrPlaces])]
    exact h.enabled
  · intro p hp
    rw [hattr p hp, isDir_congr (hplaces _ (dropLast_mem hp))]
    exact h.dir p hp
  · rw [hserial]
    exact h.pinned

theorem Sound.of_grown (h : Sound root nqn id pinned t)
    (hkeep : ∀ q ∈ places root nqn, t.lookup q ≠ none → t'.lookup q = t.lookup q)
    (hnew : ∀ q ∈ attrPlaces root nqn, t.lookup q = none → t'.lookup q ≠ none →
      t'.isDir q.dropLast = true)
    (henable : t.lookup (namespaceAttr root nqn (.of "enable")) = none →
      t'.lookup (namespaceAttr root nqn (.of "enable")) ≠ some (.attr "1"))
    (hlinked : Linked root nqn t' → Linked root nqn t ∨ pinned = true) :
    Sound root nqn id pinned t' := by
  have hkeepAttr : ∀ q ∈ attrPlaces root nqn, ∀ node, t.lookup q = some node →
      t'.lookup q = some node := by
    intro q hq node hnode
    rw [hkeep q (mem_places.mpr (.inr (.inr hq))) (by simp [hnode]), hnode]
  have hkeepSerial := hkeepAttr (serialPlace root nqn) (by simp [attrPlaces])
  constructor
  · intro hlink
    rcases hlinked hlink with hold | hpinned
    · exact hkeepSerial _ (h.linked hold)
    · exact hkeepSerial _ (h.pinned hpinned)
  · intro hone
    cases hold : t.lookup (namespaceAttr root nqn (.of "enable")) with
    | none => exact absurd hone (henable hold)
    | some node =>
      have hsame := hkeepAttr _ (by simp [attrPlaces]) node hold
      have hnode : node = .attr "1" := Option.mem_unique hsame hone
      obtain ⟨huuid, hnguid⟩ := h.enabled (hold.trans (congrArg some hnode))
      exact ⟨hkeepAttr _ (by simp [attrPlaces]) _ huuid,
        hkeepAttr _ (by simp [attrPlaces]) _ hnguid⟩
  · intro q hq hne
    by_cases hold : t.lookup q = none
    · exact hnew q hq hold hne
    · have hdir := h.dir q hq hold
      rw [isDir_congr (hkeep _ (dropLast_mem hq)
        (lookup_ne_none_of_isDir (dropLast_ne_nil hq) hdir)), hdir]
  · exact fun hpinned => hkeepSerial _ (h.pinned hpinned)

theorem linked_of_put {node : Node} (hnode : node.isLink = false)
    (h : Linked root nqn (t.put p node)) : Linked root nqn t := by
  obtain ⟨port, target, hmem⟩ := h
  rcases Tree.mem_put hmem with heq | hold
  · obtain ⟨-, rfl⟩ := Prod.mk.inj heq
    cases hnode
  · exact ⟨port, target, hold⟩

theorem Sound.write (hp : p ∉ places root nqn) (h : Sound root nqn id pinned t)
    (hwrite : t.write p value = some t') : Sound root nqn id pinned t' := by
  rw [(Tree.lookup_write hwrite).1]
  refine h.of_same (fun q hq => Tree.lookup_put_of_ne ?_ _) (linked_of_put rfl)
  rintro rfl
  exact hp hq

theorem Sound.unlink (hp : p ∉ places root nqn) (h : Sound root nqn id pinned t)
    (hunlink : t.unlink p = some t') : Sound root nqn id pinned t' := by
  obtain ⟨-, hsame, hentries⟩ := Tree.lookup_unlink hunlink
  refine h.of_same (fun q hq => hsame q ?_) ?_
  · rintro rfl
    exact hp hq
  · rintro ⟨port, target, hmem⟩
    exact ⟨port, target, hentries _ hmem⟩

theorem Sound.rmdir (hp : ∀ q ∈ places root nqn, ¬p <+: q) (h : Sound root nqn id pinned t)
    (hrmdir : t.rmdir p = some t') : Sound root nqn id pinned t' := by
  obtain ⟨hsame, hentries⟩ := Tree.lookup_rmdir hrmdir
  refine h.of_same (fun q hq => hsame q (hp q hq)) ?_
  rintro ⟨port, target, hmem⟩
  exact ⟨port, target, hentries _ hmem⟩

theorem Sound.symlink {target : Path} (h : Sound root nqn id true t)
    (hlink : t.symlink target p = some t') : Sound root nqn id true t' := by
  obtain ⟨rfl, hfree, hparent⟩ := Tree.lookup_symlink hlink
  have hkeep : ∀ q, t.lookup q ≠ none → (t.put p (.link target)).lookup q = t.lookup q := by
    intro q hq
    apply Tree.lookup_put_of_ne
    rintro rfl
    exact hq hfree
  refine h.of_grown (fun q _ hq => hkeep q hq) ?_ ?_ fun _ => .inr rfl
  · -- What is new is the link itself, and its directory stays.
    intro q hq hnone hsome
    by_cases heq : q = p
    · rw [← heq] at hparent
      rw [isDir_congr (hkeep _ (lookup_ne_none_of_isDir (dropLast_ne_nil hq) hparent)), hparent]
    · rw [Tree.lookup_put_of_ne heq] at hsome
      exact absurd hnone hsome
  · intro hnone hone
    by_cases hq : namespaceAttr root nqn (.of "enable") = p
    · rw [← hq, Tree.lookup_put_self] at hone
      cases hone
    · rw [Tree.lookup_put_of_ne hq, hnone] at hone
      cases hone

section Mkdir

variable {k : Kernel}

/-- What the kernel puts where the identity stands is an attribute of the object
that it makes. -/
theorem attr_of_default {e : Path × Node} (he : e ∈ k.defaults p) {q : Path}
    (hq : q ∈ places k.root nqn) (heq : q = p ++ e.1) :
    q ∈ attrPlaces k.root nqn ∧ ∃ attr, e.1 = [attr] := by
  have hpart := List.length_pos_iff.mpr (k.part_of_mem_defaults he).1
  obtain ⟨r, rfl, hobject⟩ := k.mem_defaults he
  rw [List.append_assoc] at heq
  -- The object is as deep as a subsystem, or as a namespace.
  have hdepth : ∀ rest, q = k.root ++ .of "nvmet" :: rest →
      (rest.length = 3 ∧ e.1.length = 1) ∨ e.1.length + 4 ≤ rest.length := by
    rintro rest rfl
    have hsplit := List.append_cancel_left heq
    have hlength := congrArg List.length hsplit
    rcases k.mem_objectDefaults hobject with ⟨kind, name, rfl, hone⟩ | ⟨kind, name, sub, rfl⟩ | hlong
    · simp at hlength
      omega
    · simp at hsplit
    · simp at hlength
      omega
  rcases mem_places.mp hq with rfl | rfl | hattr
  · have hshort := hdepth [.of "subsystems", nqn] rfl
    simp at hshort
  · have hshort := hdepth [.of "subsystems", nqn, .of "namespaces", .of "1"] rfl
    simp only [List.length_cons, List.length_nil] at hshort
    omega
  · refine ⟨hattr, List.length_eq_one_iff.mp ?_⟩
    obtain ⟨attr, rfl | rfl⟩ := exists_attr hattr
    · have hlength := hdepth [.of "subsystems", nqn, attr] (by simp [subsystemPlace])
      simp at hlength
      omega
    · have hlength := hdepth [.of "subsystems", nqn, .of "namespaces", .of "1", attr]
        (by simp [namespacePlace])
      simp at hlength
      omega

theorem defaults_namespacePlace : k.defaults (namespacePlace k.root nqn) = k.namespaceDefaults := by
  simp [Kernel.defaults, namespacePlace, Kernel.objectDefaults]

theorem Sound.mkdir (h : Sound k.root nqn id pinned t)
    (hmkdir : t.mkdir k.defaults p = some t') : Sound k.root nqn id pinned t' := by
  obtain ⟨hfree, hparent⟩ := Tree.free_of_mkdir hmkdir
  have hself : t'.lookup p = some .item :=
    Tree.lookup_mkdir_self hmkdir fun e he => (k.part_of_mem_defaults he).1
  have hdir : ∀ {q : Path} {e : Path × Node}, q = p ++ e.1 → (∃ attr, e.1 = [attr]) → q.dropLast = p := by
    rintro q e rfl ⟨attr, hattr⟩
    rw [hattr, List.dropLast_concat]
  have hkeep : ∀ q ∈ places k.root nqn, t.lookup q ≠ none → t'.lookup q = t.lookup q := by
    intro q hq hsome
    rcases Tree.lookup_mkdir hmkdir q with hsame | ⟨rfl, -⟩ | ⟨e, he, heq, -⟩
    · exact hsame
    · exact absurd hfree hsome
    · obtain ⟨hattr, hpart⟩ := attr_of_default he hq heq
      have hold := lookup_ne_none_of_isDir (dropLast_ne_nil hattr) (h.dir q hattr hsome)
      exact absurd (hdir heq hpart ▸ hfree) hold
  refine h.of_grown hkeep ?_ ?_ fun hlink => .inl ?_
  · -- A new entry is the new object in its directory, or a part of it.
    intro q hq hnone hsome
    rcases Tree.lookup_mkdir hmkdir q with hsame | ⟨rfl, -⟩ | ⟨e, he, heq, -⟩
    · exact absurd (hsame.trans hnone) hsome
    · rw [isDir_congr (hkeep _ (dropLast_mem hq)
        (lookup_ne_none_of_isDir (dropLast_ne_nil hq) hparent)), hparent]
    · have hp := hdir heq (attr_of_default he (mem_places.mpr (.inr (.inr hq))) heq).2
      rw [isDir_iff (dropLast_ne_nil hq), hp]
      exact ⟨.item, hself, rfl⟩
  · intro hnone hone
    rcases Tree.lookup_mkdir hmkdir (namespaceAttr k.root nqn (.of "enable")) with
      hsame | ⟨-, hitem⟩ | ⟨e, he, heq, hpart⟩
    · cases hone.symm.trans (hsame.trans hnone)
    · cases hone.symm.trans hitem
    · have hmem : namespaceAttr k.root nqn (.of "enable") ∈ places k.root nqn := by
        simp [places, attrPlaces]
      obtain ⟨-, attr, hattr⟩ := attr_of_default he hmem heq
      rw [hattr] at heq
      have hsplit : namespacePlace k.root nqn ++ [.of "enable"] = p ++ [attr] := by
        rw [← heq]
        simp [namespacePlace, namespaceAttr]
      obtain ⟨rfl, hname⟩ := List.append_inj' hsplit rfl
      rw [defaults_namespacePlace] at he
      have hvalue : e.2 = .attr "1" := Option.mem_unique hpart hone
      rw [← hname] at hattr
      simp only [Kernel.namespaceDefaults, List.mem_cons, List.not_mem_nil, or_false] at he
      rcases he with rfl | rfl | rfl | rfl <;> simp at hattr hvalue
  · obtain ⟨port, target, hmem⟩ := hlink
    rcases Tree.mem_mkdir hmkdir hmem with heq | ⟨part, hpart, heq⟩ | hold
    · cases (Prod.mk.inj heq).2
    · have hlink := (k.part_of_mem_defaults hpart).2
      rw [← (Prod.mk.inj heq).2] at hlink
      cases hlink
    · exact ⟨port, target, hold⟩

end Mkdir

theorem namespaceAttr_inj : namespaceAttr root nqn a = namespaceAttr root nqn b ↔ a = b := by
  simp [namespaceAttr]

theorem dropLast_ne (hp : p ∈ attrPlaces root nqn) {q : Path} (hq : q ∈ attrPlaces root nqn) :
    p.dropLast ≠ q := by
  obtain ⟨attr, rfl | rfl⟩ := exists_attr hp <;> obtain ⟨other, rfl | rfl⟩ := exists_attr hq <;>
    simp [subsystemPlace, namespacePlace]

/-- The attributes stay where they are. -/
theorem dir_write (h : Sound root nqn id pinned t) (hp : p ∈ attrPlaces root nqn)
    (hwrite : t.write p value = some t') :
    ∀ q ∈ attrPlaces root nqn, t'.lookup q ≠ none → t'.isDir q.dropLast = true := by
  obtain ⟨rfl, old, hold⟩ := Tree.lookup_write hwrite
  intro q hq hne
  rw [isDir_congr (Tree.lookup_put_of_ne (dropLast_ne hq hp) _)]
  refine h.dir q hq ?_
  by_cases heq : q = p
  · simp [heq, hold]
  · rwa [Tree.lookup_put_of_ne heq] at hne

theorem Sound.write_serial (h : Sound root nqn id pinned t)
    (hwrite : t.write (serialPlace root nqn) id.serial = some t') :
    Sound root nqn id pinned t' := by
  have hdir := dir_write h (by simp [attrPlaces]) hwrite
  obtain ⟨rfl, -⟩ := Tree.lookup_write hwrite
  have hattr : ∀ attr, (t.put (serialPlace root nqn) (.attr id.serial)).lookup
      (namespaceAttr root nqn attr) = t.lookup (namespaceAttr root nqn attr) :=
    fun attr => Tree.lookup_put_of_ne (by simp [namespaceAttr, serialPlace]) _
  refine ⟨fun _ => Tree.lookup_put_self _, ?_, hdir, fun _ => Tree.lookup_put_self _⟩
  unfold Identified
  rw [hattr, hattr, hattr]
  exact h.enabled

theorem Sound.write_attr (hmem : namespaceAttr root nqn attr ∈ attrPlaces root nqn)
    (h : Sound root nqn id pinned t)
    (hwrite : t.write (namespaceAttr root nqn attr) value = some t')
    (henabled : t'.lookup (namespaceAttr root nqn (.of "enable")) = some (.attr "1") →
      Identified root nqn id t') : Sound root nqn id pinned t' := by
  have hdir := dir_write h hmem hwrite
  obtain ⟨rfl, -⟩ := Tree.lookup_write hwrite
  have hserial : (t.put (namespaceAttr root nqn attr) (.attr value)).lookup
      (serialPlace root nqn) = t.lookup (serialPlace root nqn) :=
    Tree.lookup_put_of_ne (by simp [namespaceAttr, serialPlace]) _
  refine ⟨?_, henabled, hdir, ?_⟩
  · rw [hserial]
    exact fun hlink => h.linked (linked_of_put rfl hlink)
  · rw [hserial]
    exact h.pinned

theorem lookup_write_attr (hne : b ≠ a)
    (hwrite : t.write (namespaceAttr root nqn a) value = some t') :
    t'.lookup (namespaceAttr root nqn b) = t.lookup (namespaceAttr root nqn b) := by
  rw [(Tree.lookup_write hwrite).1]
  exact Tree.lookup_put_of_ne (fun h => hne (namespaceAttr_inj.mp h)) _

variable (h : Sound root nqn id pinned t)

include h

theorem Sound.write_uuid
    (hwrite : t.write (namespaceAttr root nqn (.of "device_uuid")) id.uuid = some t') :
    Sound root nqn id pinned t' := by
  refine h.write_attr (by simp [attrPlaces]) hwrite fun hone => ?_
  rw [lookup_write_attr (by simp) hwrite] at hone
  unfold Identified
  rw [lookup_write_attr (b := .of "device_nguid") (by simp) hwrite, (Tree.lookup_write hwrite).1]
  exact ⟨Tree.lookup_put_self _, (h.enabled hone).2⟩

theorem Sound.write_nguid
    (hwrite : t.write (namespaceAttr root nqn (.of "device_nguid")) id.nguid = some t') :
    Sound root nqn id pinned t' := by
  refine h.write_attr (by simp [attrPlaces]) hwrite fun hone => ?_
  rw [lookup_write_attr (by simp) hwrite] at hone
  unfold Identified
  rw [lookup_write_attr (b := .of "device_uuid") (by simp) hwrite, (Tree.lookup_write hwrite).1]
  exact ⟨(h.enabled hone).1, Tree.lookup_put_self _⟩

theorem Sound.disable (hwrite : t.write (namespaceAttr root nqn (.of "enable")) "0" = some t') :
    Sound root nqn id pinned t' := by
  refine h.write_attr (by simp [attrPlaces]) hwrite fun hone => ?_
  rw [(Tree.lookup_write hwrite).1, Tree.lookup_put_self] at hone
  simp at hone

theorem Sound.enable (hid : Identified root nqn id t)
    (hwrite : t.write (namespaceAttr root nqn (.of "enable")) "1" = some t') :
    Sound root nqn id pinned t' ∧ Identified root nqn id t' := by
  have hid' : Identified root nqn id t' := by
    unfold Identified
    rw [lookup_write_attr (by simp) hwrite, lookup_write_attr (by simp) hwrite]
    exact hid
  exact ⟨h.write_attr (by simp [attrPlaces]) hwrite fun _ => hid', hid'⟩

end Sound

section Operations

variable {host : Host} {t : NvmetTarget} {nqn : Name} {id : Identity} {pinned : Bool}
  {P : Tree → Prop}

theorem sound_mkdirAll :
    Preserves (Sound host.kernel.root nqn id pinned) (mkdirAll host.kernel path) :=
  invariant_mkdirAll fun _ _ _ _ h hmkdir => h.mkdir hmkdir

theorem bears_of_not_mem {p : Path} (hp : p ∉ places host.kernel.root nqn) :
    NvmetTarget.Bears host.kernel (Sound host.kernel.root nqn id true) p where
  mkdir _ _ _ _ h hmkdir := h.mkdir hmkdir
  write _ _ _ h hwrite := h.write hp hwrite
  symlink _ _ _ h hlink := h.symlink hlink
  unlink _ _ h hunlink := h.unlink hp hunlink

theorem canonicalUUID_ne_empty {s : String} (h : canonicalUUID s = true) : s ≠ "" := by
  rintro rfl
  exact absurd h (by decide)

theorem nonempty_of_validate (h : id.validate = true) :
    id.uuid ≠ "" ∧ id.nguid ≠ "" ∧ id.serial ≠ "" := by
  unfold Identity.validate at h
  simp only [Bool.and_eq_true, decide_eq_true_eq] at h
  obtain ⟨⟨⟨⟨huuid, hnguid⟩, hserial⟩, -⟩, -⟩ := h
  exact ⟨canonicalUUID_ne_empty huuid, canonicalUUID_ne_empty hnguid, hserial⟩

theorem yields_desiredIdentity (hid : t.identity = some id) :
    Yields P (t.desiredIdentity host) (fun a tree => P tree ∧ (a = id ∧ id.validate = true)) P := by
  unfold NvmetTarget.desiredIdentity
  rw [hid]
  exact .ite (fun hvalid => .pure _ fun _ h => ⟨h, rfl, hvalid⟩) fun _ => Yields.error

theorem sound_allowHost (hostNQN : String) :
    Preserves (Sound host.kernel.root nqn id true) (t.allowHost host hostNQN) :=
  sound_mkdirAll.bind fun _ => sound_mkdirAll.bind fun _ =>
    invariant_symlink fun _ _ h hlink => h.symlink hlink

section Identity

variable (hnqn : t.subsystemNQN = nqn.text)
include hnqn

theorem sound_createSubsystem (hid : t.identity = some id) :
    Yields (Sound host.kernel.root nqn id false) (t.createSubsystem host)
      (fun _ => Sound host.kernel.root nqn id true) (Sound host.kernel.root nqn id false) := by
  refine (yields_desiredIdentity hid).bind fun a => .assuming fun ⟨ha, hvalid⟩ => ?_
  subst ha
  refine sound_mkdirAll.seq fun _ => ?_
  refine Preserves.andThen (invariant_writeFile fun _ _ h hwrite => h.write ?_ hwrite)
    (fun _ h => h) fun _ => ?_
  · simp [subsystemDir_eq hnqn, places, subsystemPlace, serialPlace, namespacePlace, namespaceAttr,
      attrPlaces]
  · rw [serial_eq hnqn]
    exact (yields_ensureAttr (fun _ _ h hwrite => h.write_serial hwrite)
      (nonempty_of_validate hvalid).2.2).post fun _ _ h => h.1.pin h.2

theorem sound_disableNamespace :
    Preserves (Sound host.kernel.root nqn id pinned) (t.disableNamespace host) := by
  refine invariant_readAttr.bind fun _ => .ite (.pure _) ?_
  rw [namespaceAttr_eq hnqn]
  exact invariant_writeFile fun _ _ h hwrite => h.disable hwrite

theorem sound_enableNamespace : Preserves (fun tree => Sound host.kernel.root nqn id pinned tree ∧
      Identified host.kernel.root nqn id tree) (t.enableNamespace host) := by
  refine invariant_readAttr.bind fun _ => .ite (.pure _) ?_
  refine invariant_readAttr.bind fun _ => (Preserves.when .query).bind fun _ => ?_
  rw [namespaceAttr_eq hnqn]
  refine Preserves.bind (Preserves.attempt ?_) fun written => ?_
  · exact invariant_writeFile fun _ _ h hwrite => h.1.enable h.2 hwrite
  refine (Preserves.when .query).attempt.bind fun released => ?_
  match written, released with
  | .ok (), .ok () => exact .pure _
  | .error _, _ | .ok (), .error _ => exact .fail

theorem yields_ensureIdentifier {enabled : String} (hwant : want ≠ "") (h : ∀ tree tree', P tree →
      tree.write (namespaceAttr host.kernel.root nqn attr) want = some tree' → P tree') :
    Yields P (t.ensureIdentifier host enabled attr want) (fun _ tree => P tree ∧
      tree.lookup (namespaceAttr host.kernel.root nqn attr) = some (.attr want)) P := by
  unfold NvmetTarget.ensureIdentifier
  rw [namespaceAttr_eq hnqn]
  refine .ite (fun _ => yields_ensureAttr h hwant) fun _ => ?_
  refine (yields_readAttr fun _ h => h).bind fun current => .ite (fun hcurrent => ?_) fun _ => ?_
  · refine .pure _ fun tree h => ⟨h.1, ?_⟩
    exact (hcurrent ▸ h.2 : Reads tree _ want).lookup hwant
  · exact .fail fun _ h => h.1

theorem sound_ensureNamespaceIdentity (hvalid : id.validate = true) :
    Yields (Sound host.kernel.root nqn id pinned) (t.ensureNamespaceIdentity host id)
      (fun _ tree => Sound host.kernel.root nqn id pinned tree ∧
        Identified host.kernel.root nqn id tree) (Sound host.kernel.root nqn id pinned) := by
  obtain ⟨huuid, hnguid, -⟩ := nonempty_of_validate hvalid
  refine invariant_readAttr.seq fun enabled => ?_
  refine (yields_ensureIdentifier hnqn huuid fun _ _ h hwrite => h.write_uuid hwrite).bind fun _ => ?_
  -- The second identifier leaves the first.
  refine (yields_ensureIdentifier hnqn hnguid fun _ _ h hwrite =>
    ⟨h.1.write_nguid hwrite, ?_⟩).mono (fun _ h => h) (fun _ _ h => ⟨h.1.1, h.1.2, h.2⟩) fun _ h => h.1
  rw [lookup_write_attr (by simp) hwrite]
  exact h.2

theorem sound_createNamespace (hid : t.identity = some id) :
    Preserves (Sound host.kernel.root nqn id pinned) (t.createNamespace host) := by
  refine Yields.always (Q := fun _ => Sound host.kernel.root nqn id pinned) ?_ fun _ _ h => h
  refine (yields_desiredIdentity hid).bind fun a => .assuming fun ⟨ha, hvalid⟩ => ?_
  subst ha
  refine sound_mkdirAll.seq fun _ => ?_
  refine (sound_disableNamespace hnqn).when.seq fun _ => ?_
  refine Preserves.andThen (invariant_ensureAttr fun _ _ h hwrite => h.write ?_ hwrite)
    (fun _ h => h) fun _ => ?_
  · rw [namespaceAttr_eq hnqn]
    simp [places, subsystemPlace, serialPlace, namespacePlace, namespaceAttr, attrPlaces]
  refine (sound_ensureNamespaceIdentity hnqn hvalid).bind fun _ => ?_
  exact ((sound_enableNamespace hnqn).when.returns fun _ h => h.1).post fun _ _ h => h.1

theorem sound_revokeHostsExcept (keep : List String) :
    Preserves (Sound host.kernel.root nqn id true) (t.revokeHostsExcept host keep) := by
  refine Preserves.query.bind fun _ => .forEach fun entry _ => .when ?_
  refine NvmetTarget.invariant_denyHost (bears_of_not_mem ?_) fun _ _ h hrmdir => h.rmdir ?_ hrmdir
  · unfold NvmetTarget.allowedHostLink NvmetTarget.allowedHostsDir
    rw [join_name, subsystemDir_eq hnqn]
    simp [places, subsystemPlace, serialPlace, namespacePlace, namespaceAttr, attrPlaces]
  · unfold NvmetTarget.hostDir NvmetTarget.nvmetRoot
    rw [join_name]
    simp [places, subsystemPlace, serialPlace, namespacePlace, namespaceAttr, attrPlaces,
      List.prefix_append_right_inj, List.cons_prefix_cons]

theorem sound_linkSubsystemToPort (spec : NvmetTarget.PortSpec) :
    Preserves (Sound host.kernel.root nqn id true) (t.linkSubsystemToPort host spec) := by
  refine NvmetTarget.invariant_linkSubsystemToPort (fun attr => bears_of_not_mem ?_)
    (bears_of_not_mem ?_) fun _ _ h hrmdir => h.rmdir ?_ hrmdir
  · simp [NvmetTarget.portDir, NvmetTarget.portsDir, NvmetTarget.nvmetRoot, places, subsystemPlace,
      serialPlace, namespacePlace, namespaceAttr, attrPlaces]
  · simp [portSubsystemLink_eq hnqn, portLinkPlace, places, subsystemPlace, serialPlace,
      namespacePlace, namespaceAttr, attrPlaces]
  · simp [NvmetTarget.portDir, NvmetTarget.portsDir, NvmetTarget.nvmetRoot, places, subsystemPlace,
      serialPlace, namespacePlace, namespaceAttr, attrPlaces, List.prefix_append_right_inj,
      List.cons_prefix_cons]

theorem sound_prepare (hid : t.identity = some id) :
    Yields (Sound host.kernel.root nqn id false) (t.prepare host)
      (fun a tree => Sound host.kernel.root nqn id true tree ∧
        (a.identity = id ∧ id.validate = true)) (Sound host.kernel.root nqn id false) := by
  refine NvmetTarget.invariant_portSpec.seq fun port => ?_
  refine (yields_desiredIdentity hid).bind fun a => .assuming fun hidentity => ?_
  refine (sound_createSubsystem hnqn hid).bind fun _ => ?_
  refine Preserves.andThen (.forEach fun hostNQN _ => sound_allowHost hostNQN)
    (fun _ h => h.unpin) fun _ => ?_
  refine (sound_createNamespace hnqn hid).andThen (fun _ h => h.unpin) fun _ => ?_
  exact .pure _ fun _ h => ⟨h, hidentity⟩

theorem sound_link {prepared : NvmetTarget.PreparedTarget} (hid : prepared.identity = id)
    (hserial : id.serial ≠ "") :
    Preserves (Sound host.kernel.root nqn id false) (t.link host prepared) := by
  unfold NvmetTarget.link
  rw [hid]
  refine Yields.always (Q := fun _ => Sound host.kernel.root nqn id false)
    (NvmetTarget.yields_verifyPrepared.bind fun _ => ?_) fun _ _ h => h
  refine ((sound_linkSubsystemToPort hnqn prepared.port).returns fun _ h => h.unpin).weaken
    (fun tree h => ?_) fun _ _ h => h.unpin
  have hread := h.2
  rw [serial_eq hnqn] at hread
  exact h.1.pin (hread.lookup hserial)

end Identity

end Operations

section Lifecycle

structure Lifecycle where
  server : Server
  volumeID : String
  volumeUID : String

variable (l : Lifecycle)

abbrev Lifecycle.root : Path := l.server.nvmet.kernel.root

abbrev Lifecycle.nqn : Name := nqnName l.volumeID

abbrev Lifecycle.region : Region := nvmetRegion l.server.nvmet.kernel l.nqn

/-- The identity a record stands for in the lifecycle. -/
def recorded (record : Option IdentityRecord) : Identity :=
  match record with
  | some r =>
    if r.volumeUID = l.volumeUID then r.identity
    else l.server.deriveIdentity (nvmeTargetForVolume l.volumeID).subsystemNQN
  | none => l.server.deriveIdentity (nvmeTargetForVolume l.volumeID).subsystemNQN

variable (s : AgentState)

def storedIdentity : Identity :=
  recorded l (s.identities l.volumeID)

def WholeSubsystem : Prop :=
  s.tree.lookup (serialPlace l.root l.nqn) = none ∨
    s.tree.lookup (serialPlace l.root l.nqn) =
      some (.attr (storedIdentity l s).serial)

/-- No namespace, or one that has the identifiers of its lifecycle. -/
def WholeNamespace : Prop :=
  s.tree.lookup (namespacePlace l.root l.nqn) = none ∨
    Identified l.root l.nqn
      (storedIdentity l s) s.tree

instance : Decidable (WholeSubsystem l s) :=
  inferInstanceAs (Decidable (_ ∨ _))

instance : Decidable (WholeNamespace l s) :=
  inferInstanceAs (Decidable (_ ∨ _ ∧ _))

/-- The lifecycle has the identity `id`, and so has what hosts can see. -/
def Holds (id : Identity) (s : AgentState) : Prop :=
  storedIdentity l s = id ∧
    Sound l.root l.nqn id false s.tree

/-- Where an export can start. -/
def Ready (id : Identity) (s : AgentState) : Prop :=
  Holds l id s ∧ WholeSubsystem l s

/-- The lifecycle has the identity `old`, and `id` is what an export makes of it
and of the objects that are there. -/
structure Finds (old id : Identity) (s : AgentState) : Prop where
  holds : Holds l old s
  sound : Sound l.root l.nqn id false s.tree
  uuid : old.uuid = id.uuid
  nguid : old.nguid = id.nguid
  serial : ∀ value, Reads s.tree (serialPlace l.root l.nqn) value →
    (if value ≠ "" then value else old.serial) = id.serial

end Lifecycle

variable {target : NvmetTarget}

section Handlers

variable {l : Lifecycle} {old id : Identity} {α : Type}
  {I : AgentState → Prop} {desired : List ExportDesiredState}
  {entry : ExportDesiredState × Except Failure NvmetTarget}

theorem subsystemNQN_eq : (nvmeTargetForVolume l.volumeID).subsystemNQN = l.nqn.text :=
  rfl

theorem yields_onTree {p : Op α} {Q : α → Tree → Prop}
    (h : Yields (Sound l.root l.nqn id false) p Q (Sound l.root l.nqn id false)) :
    Yields (Holds l id) (onTree p) (fun a s => storedIdentity l s = id ∧ Q a s.tree)
      (Holds l id) :=
  .zoom fun _ hs => h.mono (fun _ htree => htree ▸ hs.2) (fun _ _ hQ => ⟨hs.1, hQ⟩)
    fun _ hI => ⟨hs.1, hI⟩

theorem holds_onTree {pinned : Bool} {p : Op α} (h : Preserves (Sound l.root l.nqn id pinned) p) :
    Preserves (fun s => storedIdentity l s = id ∧
      Sound l.root l.nqn id pinned s.tree) (onTree p) :=
  .zoom fun _ hs => h.weaken (fun _ htree => htree ▸ hs.2) fun _ _ hI => ⟨hs.1, hI⟩

theorem preserves_orFail (result : Except Failure α) : Preserves I (orFail result) := by
  cases result with
  | ok a => exact .pure a
  | error failure => exact .fail

theorem holds_setIdentityRecord {record : Option IdentityRecord} {P : AgentState → Prop}
    (h : recorded l record = id) (hP : ∀ s, P s → I s ∧ Sound l.root l.nqn id false s.tree)
    (hI : ∀ s, Holds l id s → I s) :
    Yields P (setIdentityRecord l.volumeID record) (fun _ => Holds l id) I := by
  have hset : ∀ s t : AgentState, P s →
      some { s with identities := Function.update s.identities l.volumeID record } = some t →
        Holds l id t := by
    intro s t hs hset
    cases hset
    refine ⟨?_, (hP s hs).2⟩
    unfold storedIdentity
    dsimp only
    rw [Function.update_self]
    exact h
  exact Triple.call hset (fun s hs => (hP s hs).1) (fun s t hs ht => hI t (hset s t hs ht))
    fun s hs => (hP s hs).1

theorem Reads.unique {other : String} (h : Reads tree path value) (hother : Reads tree path other) :
    other = value := by
  rcases h with h | ⟨h, rfl⟩ <;> rcases hother with hother | ⟨hother, rfl⟩ <;>
    simp_all

theorem chosen_of_reads (h : Reads tree path value)
    (hlookup : tree.lookup path = none ∨ tree.lookup path = some (.attr want)) :
    (if value ≠ "" then value else want) = want := by
  rcases h with h | ⟨-, hvalue⟩
  · rcases hlookup with hnone | hsome
    · cases hnone.symm.trans h
    · have hvalue : value = want := by simpa using h.symm.trans hsome
      rw [hvalue, ite_self]
  · rw [if_neg (by simpa using hvalue)]

theorem Ready.finds {s : AgentState} (h : Ready l id s) : Finds l id id s := by
  obtain ⟨hholds, hwhole⟩ := h
  unfold WholeSubsystem at hwhole
  rw [hholds.1] at hwhole
  exact ⟨hholds, hholds.2, rfl, rfl, fun value hvalue => chosen_of_reads hvalue hwhole⟩

/-- A subsystem that no port offers may have any serial. -/
theorem exists_finds {s : AgentState} (h : Holds l old s) : ∃ id, Finds l old id s := by
  by_cases hlinked : Linked l.root l.nqn s.tree
  · have hwhole : WholeSubsystem l s := by
      unfold WholeSubsystem
      rw [h.1]
      exact .inr (h.2.linked hlinked)
    exact ⟨old, Ready.finds ⟨h, hwhole⟩⟩
  have hserial : ∃ serial, ∀ value,
      Reads s.tree (serialPlace l.root l.nqn) value →
        (if value ≠ "" then value else old.serial) = serial := by
    by_cases hread : ∃ value, Reads s.tree (serialPlace l.root l.nqn) value
    · obtain ⟨value, hvalue⟩ := hread
      refine ⟨if value ≠ "" then value else old.serial, fun other hother => ?_⟩
      rw [Reads.unique hvalue hother]
    · exact ⟨"", fun value hvalue => absurd ⟨value, hvalue⟩ hread⟩
  obtain ⟨serial, hserial⟩ := hserial
  refine ⟨{ old with serial := serial }, h, ?_, rfl, rfl, hserial⟩
  exact { h.2 with linked := fun hlink => absurd hlink hlinked, pinned := nofun }

def resolved (stored live : Identity) : Identity :=
  { uuid := if live.uuid ≠ "" then live.uuid else stored.uuid
    nguid := if live.nguid ≠ "" then live.nguid else stored.nguid
    serial := if live.serial ≠ "" then live.serial else stored.serial }

theorem resolved_eq {live : Identity}
    (huuid : (if live.uuid ≠ "" then live.uuid else old.uuid) = id.uuid)
    (hnguid : (if live.nguid ≠ "" then live.nguid else old.nguid) = id.nguid)
    (hserial : (if live.serial ≠ "" then live.serial else old.serial) = id.serial) :
    resolved old live = id := by
  unfold resolved
  rw [huuid, hnguid, hserial]

theorem finds_liveIdentity (hnqn : target.subsystemNQN = l.nqn.text)
    {s : AgentState} (h : Finds l old id s) :
    Yields (fun now => now = s.tree) (target.liveIdentity l.server.nvmet)
      (fun live now => now = s.tree ∧ resolved old live = id) fun now => now = s.tree := by
  refine (yields_readAttr fun _ h => h).bind fun serial => ?_
  refine (yields_readAttr fun _ h => h.1).bind fun enabled => ?_
  rw [serial_eq hnqn, namespaceAttr_eq hnqn]
  refine .ite (fun _ => .pure _ ?_) fun henabled => ?_
  · rintro _ ⟨⟨rfl, hreadSerial⟩, -⟩
    exact ⟨rfl, resolved_eq h.uuid h.nguid (h.serial serial hreadSerial)⟩
  · rw [ne_eq, not_not] at henabled
    subst henabled
    rw [namespaceAttr_eq hnqn, namespaceAttr_eq hnqn]
    refine (yields_readAttr fun _ h => h.1.1).bind fun uuid => ?_
    refine (yields_readAttr fun _ h => h.1.1.1).bind fun nguid => .pure _ ?_
    rintro _ ⟨⟨⟨⟨rfl, hreadSerial⟩, hone⟩, hreadUUID⟩, hreadNGUID⟩
    obtain ⟨huuid, hnguid⟩ := h.sound.enabled (hone.lookup (by decide))
    refine ⟨rfl, resolved_eq ?_ ?_ (h.serial serial hreadSerial)⟩
    · rw [h.uuid]
      exact chosen_of_reads hreadUUID (.inr huuid)
    · rw [h.nguid]
      exact chosen_of_reads hreadNGUID (.inr hnguid)

theorem resolveNVMeIdentity_eq
    (hnqn : target.subsystemNQN = (nvmeTargetForVolume l.volumeID).subsystemNQN) :
    resolveNVMeIdentity l.server l.volumeID l.volumeUID target = (do
      let record ← readIdentityRecord l.volumeID
      let live ← onTree (target.liveIdentity l.server.nvmet)
      let want := resolved (recorded l record) live
      if want.validate = false then
        fail .mismatch
      else do
        when (want = recorded l none ∧ record ≠ none)
          (removeIdentityRecord l.volumeID)
        when (want ≠ recorded l none ∧
            record ≠ some ⟨l.volumeUID, want⟩)
          (setIdentityRecord l.volumeID (some ⟨l.volumeUID, want⟩))
        pure want) := by
  unfold resolveNVMeIdentity
  rw [hnqn]
  rfl

theorem holds_resolveNVMeIdentity (hnqn : target.subsystemNQN = l.nqn.text) :
    Yields (Finds l old id) (resolveNVMeIdentity l.server l.volumeID l.volumeUID target)
      (fun a s => Holds l id s ∧ (a = id ∧ id.validate = true))
      fun s => Holds l old s ∨ Holds l id s := by
  rw [resolveNVMeIdentity_eq hnqn]
  refine Yields.bind (Q := fun record s => Finds l old id s ∧
    recorded l record = old)
    (.query (fun _ hs => ⟨hs, hs.holds.1⟩) fun _ hs => .inl hs.holds) fun record =>
      .assuming fun hrecord => ?_
  have hlive : Yields (Finds l old id)
      (onTree (target.liveIdentity l.server.nvmet))
      (fun live s => Finds l old id s ∧ resolved old live = id)
      fun s => Holds l old s ∨ Holds l id s := by
    refine .zoom fun s hs => (finds_liveIdentity hnqn hs).mono (fun _ h => h) ?_ ?_
    · rintro live _ ⟨rfl, hlive⟩
      exact ⟨hs, hlive⟩
    · rintro _ rfl
      exact .inl hs.holds
  refine hlive.bind fun live => .assuming fun hwant => ?_
  rw [hrecord, hwant]
  refine Triple.ite (fun _ => .fail fun _ hs => .inl hs.holds) fun hvalid => ?_
  -- A record that is not written says `id` already.
  refine Yields.bind (Q := fun _ s => Holds l id s ∨
      Finds l old id s ∧
        ¬(id = recorded l none ∧ record ≠ none))
    (.ite (fun hremove => ?_) fun hkeep => .pure _ fun _ hs => .inr ⟨hs, hkeep⟩) fun _ => ?_
  · exact (holds_setIdentityRecord hremove.1.symm (fun _ hs => ⟨.inl hs.holds, hs.sound⟩)
      fun _ hs => .inr hs).post fun _ _ hs => .inl hs
  refine Yields.bind (Q := fun _ => Holds l id)
    (.ite (fun _ => ?_) fun hset => .pure _ ?_) fun _ => .pure _ fun _ hs =>
      ⟨hs, rfl, by simpa using hvalid⟩
  · refine holds_setIdentityRecord (by simp [recorded]) ?_ fun _ hs => .inr hs
    rintro s (hs | ⟨hs, -⟩)
    · exact ⟨.inr hs, hs.2⟩
    · exact ⟨.inl hs.holds, hs.sound⟩
  · rintro s (hs | ⟨hs, hkeep⟩)
    · exact hs
    · have hsame : old = id := by
        rw [← hrecord]
        by_cases hid : id = recorded l none
        · rw [not_and, not_not] at hkeep
          rw [hkeep hid, ← hid]
        · rw [not_and, not_not] at hset
          simp [hset hid, recorded]
      exact hsame ▸ hs.holds

theorem holds_apply (hnqn : target.subsystemNQN = l.nqn.text) (hid : target.identity = some id) :
    Preserves (Holds l id) (onTree (target.apply l.server.nvmet)) := by
  refine holds_onTree (Yields.always (.bind (sound_prepare hnqn hid) fun prepared =>
    .assuming fun hprepared => ?_) fun _ _ h => h)
  exact ((sound_link hnqn hprepared.1 (nonempty_of_validate hprepared.2).2.2).returns
    fun _ h => h).pre (fun _ h => h.unpin)

theorem holds_nvmeExport {params : ExportParams} (hvolume : params.volumeID = l.volumeID)
    (huid : params.fence.volumeUID = l.volumeUID) :
    Yields (Finds l old id) (nvmeExport l.server params) (fun _ => Holds l id)
      fun s => Holds l old s ∨ Holds l id s := by
  obtain ⟨server, volumeID, volumeUID⟩ := l
  obtain rfl : params.volumeID = volumeID := hvolume
  obtain rfl : params.fence.volumeUID = volumeUID := huid
  refine (preserves_orFail _).andThen (fun _ hs => .inl hs.holds) fun endpoint => ?_
  refine (preserves_orFail _).andThen (fun _ hs => .inl hs.holds) fun _ => ?_
  refine (preserves_orFail _).andThen (fun _ hs => .inl hs.holds) fun devicePath => ?_
  refine Preserves.query.andThen (fun _ hs => .inl hs.holds) fun _ => ?_
  refine .bind (Q := fun _ => Holds _ id)
    (.ite (fun _ => ?_) fun _ => .fail fun _ hs => .inl hs.holds)
    fun _ => .pure _ fun _ hs => hs
  refine (holds_resolveNVMeIdentity rfl).bind fun identity => .assuming fun hidentity => ?_
  exact (holds_apply rfl (congrArg some hidentity.1)).returns fun _ hs => .inr hs

theorem holds_nvmeSetLocalAttach {local_ : Bool} {fence : Fence} : Yields (fun s => Holds l id s ∧
        (local_ = false → WholeNamespace l s))
      (nvmeSetLocalAttach l.server l.volumeID local_ fence)
      (fun _ => Holds l id) (Holds l id) := by
  refine .ite (fun _ => ?_) fun _ => .fail fun _ h => h.1
  refine .ite (fun _ => ?_) fun hlocal => ?_
  · refine ((holds_onTree ?_).returns fun _ hs => hs).pre fun _ hs => hs.1
    refine NvmetTarget.invariant_requireNamespace.bind fun _ => ?_
    refine (sound_disableNamespace subsystemNQN_eq).bind fun _ => ?_
    exact invariant_readAttr.bind fun _ => .ite .fail (.pure _)
  · refine Yields.bind (Q := fun _ => Holds l id) (.zoom fun s hs => ?_)
      fun _ => .pure _ fun _ hs => hs
    have hwhole := hs.2 (by simpa using hlocal)
    unfold WholeNamespace at hwhole
    rw [hs.1.1] at hwhole
    have hrequire : Yields (fun tree => tree = s.tree)
        ((nvmeTargetForVolume l.volumeID).requireNamespace l.server.nvmet)
        (fun _ tree => Sound l.root l.nqn id false tree ∧
          Identified l.root l.nqn id tree)
        (Sound l.root l.nqn id false) := by
      refine (yields_stat (by rintro _ rfl; exact hs.1.2)).bind fun node => .ite (fun _ => ?_)
        fun hnode => ?_
      · exact .fail (by rintro _ ⟨rfl, -⟩; exact hs.1.2)
      · refine .pure _ ?_
        rintro _ ⟨rfl, hlookup⟩
        rw [namespaceDir_eq subsystemNQN_eq] at hlookup
        exact ⟨hs.1.2, hwhole.resolve_left fun hnone => hnode (hlookup.symm.trans hnone)⟩
    exact (hrequire.bind fun _ => (sound_enableNamespace subsystemNQN_eq).returns fun _ h => h.1).mono
      (fun _ h => h) (fun _ _ h => ⟨hs.1.1, h.1⟩) fun _ h => ⟨hs.1.1, h⟩

theorem Sound.of_view {k : Kernel} {nqn : Name} {pinned : Bool} {tree' : Tree}
    (hview : view (nvmetRegion k nqn) tree' = view (nvmetRegion k nqn) tree)
    (h : Sound k.root nqn id pinned tree) : Sound k.root nqn id pinned tree' := by
  refine h.of_same (fun q hq => lookup_of_view hview ?_) ?_
  · intro node
    have hunder : k.root ++ [.of "nvmet", .of "subsystems", nqn] <+: q := by
      simp only [places, attrPlaces, List.mem_cons, List.not_mem_nil, or_false] at hq
      rcases hq with rfl | rfl | rfl | rfl | rfl | rfl <;>
        simp [subsystemPlace, serialPlace, namespacePlace, namespaceAttr,
          List.prefix_append_right_inj, List.cons_prefix_cons]
    simp [nvmetRegion, hunder]
  · rintro ⟨port, target, hmem⟩
    refine ⟨port, target, (mem_iff_of_view hview ?_).mp hmem⟩
    simp only [nvmetRegion, Bool.or_eq_true, Bool.and_eq_true, decide_eq_true_eq]
    exact .inr ⟨rfl, port, by simp [portLinkPlace], List.prefix_refl _⟩

theorem preserves_of_untouched (l : Lifecycle) {p : Agent α} (hI : ∀ s s', view l.region s'.tree =
      view l.region s.tree → s'.identities l.volumeID = s.identities l.volumeID → I s → I s')
    (h : ∀ before, Preserves (Untouched ⟨l.volumeID, l.region, before⟩) p) : Preserves I p := by
  intro w hw
  obtain ⟨hview, hrecord⟩ := h w.state w ⟨rfl, rfl⟩
  exact hI w.state _ hview hrecord hw

section SameExport

variable {s s' : AgentState}
  (hview : view l.region s'.tree =
    view l.region s.tree)
  (hrecord : s'.identities l.volumeID = s.identities l.volumeID)
include hview hrecord

theorem holds_congr (h : Holds l id s) : Holds l id s' := by
  refine ⟨?_, h.2.of_view hview⟩
  unfold storedIdentity
  rw [hrecord]
  exact h.1

theorem wholeSubsystem_congr (h : WholeSubsystem l s) : WholeSubsystem l s' := by
  have hserial : s'.tree.lookup (serialPlace l.root l.nqn) =
      s.tree.lookup (serialPlace l.root l.nqn) := by
    refine lookup_of_view hview fun node => ?_
    simp [nvmetRegion, serialPlace, Lifecycle.root, Server.nvmet, List.prefix_append_right_inj,
      List.cons_prefix_cons]
  unfold WholeSubsystem storedIdentity
  rw [hserial, hrecord]
  exact h

end SameExport

/-- What the first phase of a pass knows of a prepared export. -/
def PreparedAs (id : Identity) (prepared : Identity × NvmetTarget.PreparedTarget) : Prop :=
  prepared.1 = id ∧ prepared.2.identity = id ∧ id.validate = true

theorem holds_nvmePrepareExport {desired : ExportDesiredState}
    (hvolume : desired.volumeID = l.volumeID) (huid : desired.fence.volumeUID = l.volumeUID)
    (hnqn : target.subsystemNQN = l.nqn.text) :
    Yields (Ready l id) (nvmePrepareExport l.server desired target)
      (fun a s => Holds l id s ∧ PreparedAs id a) (Holds l id) := by
  obtain ⟨server, volumeID, volumeUID⟩ := l
  obtain rfl : desired.volumeID = volumeID := hvolume
  obtain rfl : desired.fence.volumeUID = volumeUID := huid
  refine .ite (fun _ => ?_) fun _ => .fail fun _ h => h.1
  refine Preserves.query.andThen (fun _ hs => hs.1) fun _ => ?_
  refine ((holds_resolveNVMeIdentity hnqn).mono (fun _ hs => hs.finds) (fun _ _ hs => hs)
    fun _ hs => hs.elim (fun hs => hs) fun hs => hs).bind fun identity => .assuming
      fun hidentity => ?_
  have hprepare : Yields (Sound server.nvmet.kernel.root (nqnName desired.volumeID) id false)
      (NvmetTarget.prepare server.nvmet { target with identity := some identity }) _ _ :=
    sound_prepare hnqn (congrArg some hidentity.1)
  refine (yields_onTree hprepare).bind fun prepared => ?_
  refine .pre (.assuming (P := fun s => storedIdentity _ s = id ∧
      Sound server.nvmet.kernel.root (nqnName desired.volumeID) id true s.tree)
    fun hprepared => ?_) (fun s hs => ⟨⟨hs.1, hs.2.1⟩, hs.2.2⟩)
  refine (holds_onTree (sound_revokeHostsExcept hnqn _)).when.andThen
    (fun _ hs => ⟨hs.1, hs.2.unpin⟩) fun _ => ?_
  exact .pure _ fun _ hs => ⟨⟨hs.1, hs.2.unpin⟩, hidentity.1, hprepared⟩

theorem holds_linkEntry {desired : ExportDesiredState} {target : Except Failure NvmetTarget}
    {prepared : Except Failure (Identity × NvmetTarget.PreparedTarget)}
    (hnqn : ∀ t, target = .ok t → t.subsystemNQN = l.nqn.text)
    (hprepared : ∀ a, prepared = .ok a → PreparedAs id a) : Preserves (Holds l id) (attempt do
      let target ← orFail target
      let (identity, prepared) ← orFail prepared
      fenced desired.fence.rechecked
        (onTree (NvmetTarget.link l.server.nvmet { target with identity := some identity }
          prepared))) := by
  refine .attempt ?_
  cases htarget : target with
  | error failure => exact .fail
  | ok t =>
    rw [orFail_ok_bind]
    cases hresult : prepared with
    | error failure => exact .fail
    | ok a =>
      rw [orFail_ok_bind]
      obtain ⟨-, hidentity, hvalid⟩ := hprepared a hresult
      refine .ite (holds_onTree ?_) .fail
      exact sound_link (hnqn t htarget) hidentity (nonempty_of_validate hvalid).2.2

/-- The volume is listed once, with the token of its lifecycle; the others have
targets of their own. -/
structure Listed (l : Lifecycle) (desired : List ExportDesiredState) : Prop where
  once : (desired.filter fun d => d.volumeID = l.volumeID).length ≤ 1
  token : ∀ d ∈ desired, d.volumeID = l.volumeID → d.fence.volumeUID = l.volumeUID
  other : ∀ d ∈ desired, d.volumeID ≠ l.volumeID → nqnName d.volumeID ≠ l.nqn ∧
    ∀ hostNQN ∈ d.allowedInitiators, IsName hostNQN.toList

abbrev entries (l : Lifecycle) (desired : List ExportDesiredState) :
    List (ExportDesiredState × Except Failure NvmetTarget) :=
  desired.zip (setPortMDTSFloors (desired.map (nvmeReconcileTarget l.server)))

theorem Listed.ne_of_later (hlisted : Listed l desired)
    {rest : List (ExportDesiredState × Except Failure NvmetTarget)}
    (hsuffix : entry :: rest <:+ entries l desired) (hvolume : entry.1.volumeID = l.volumeID) :
    ¬∃ later ∈ rest, later.1.volumeID = l.volumeID := by
  rintro ⟨later, hlater, heq⟩
  have hfst : (entry :: rest).map Prod.fst <:+ desired := by
    have hmap := hsuffix.map Prod.fst
    rwa [List.map_fst_zip (by simp [setPortMDTSFloors])] at hmap
  have hcount := (hfst.filter fun d => decide (d.volumeID = l.volumeID)).length_le.trans hlisted.once
  have hmem : later.1 ∈ (rest.map Prod.fst).filter fun d => d.volumeID = l.volumeID := by
    simp only [List.mem_filter, List.mem_map, decide_eq_true_eq]
    exact ⟨⟨later, hlater, rfl⟩, heq⟩
  have hpos := List.length_pos_of_mem hmem
  simp only [List.map_cons, hvolume, decide_true, List.filter_cons_of_pos,
    List.length_cons] at hcount
  omega

theorem holds_prepareEntry
    (hvolume : entry.1.volumeID = l.volumeID) (huid : entry.1.fence.volumeUID = l.volumeUID)
    (hnqn : ∀ t, entry.2 = .ok t → t.subsystemNQN = l.nqn.text) : Yields (Ready l id) (attempt do
        let target ← orFail entry.2
        nvmePrepareExport l.server entry.1 target)
      (fun b s => Holds l id s ∧ ∀ a, b = .ok a → PreparedAs id a)
      (Holds l id) := by
  refine .attempt (Q := fun a s => Holds l id s ∧ PreparedAs id a) ?_
    (fun _ _ hs => ⟨hs.1, fun _ ha => Except.ok.inj ha ▸ hs.2⟩) fun _ _ hs => ⟨hs, nofun⟩
  cases htarget : entry.2 with
  | error failure => exact .fail fun _ h => h.1
  | ok t => exact holds_nvmePrepareExport hvolume huid (hnqn t htarget)

theorem holds_prepareEntries (hlisted : Listed l desired) :
    Yields (Ready l id) (mapEach (fun entry => attempt do
        let target ← orFail entry.2
        nvmePrepareExport l.server entry.1 target) (entries l desired))
      (fun prepared s => Holds l id s ∧
        ∀ pair ∈ (entries l desired).zip prepared, pair.1.1.volumeID = l.volumeID →
          ∀ a, pair.2 = .ok a → PreparedAs id a) (Holds l id) := by
  refine .weaken (.mapEach
    (P := fun rest s => Holds l id s ∧
      ((∃ entry ∈ rest, entry.1.volumeID = l.volumeID) → WholeSubsystem l s))
    (D := fun entry b => entry.1.volumeID = l.volumeID → ∀ a, b = .ok a → PreparedAs id a)
    (fun rest s hs => hs.1) fun entry rest hsuffix => ?_)
    (fun s hs => ⟨hs.1, fun _ => hs.2⟩) fun _ _ hs => hs
  obtain ⟨hmem, hok⟩ := nvmeReconcile_entry (hsuffix.subset (.head _))
  by_cases hvolume : entry.1.volumeID = l.volumeID
  · have hlater := hlisted.ne_of_later hsuffix hvolume
    refine (holds_prepareEntry hvolume (hlisted.token entry.1 hmem hvolume) fun t ht => ?_).weaken
      (fun s hs => ⟨hs.1, hs.2 ⟨entry, by simp, hvolume⟩⟩) fun b s hs =>
        ⟨⟨hs.1, fun hcome => absurd hcome hlater⟩, fun _ => hs.2⟩
    rw [(hok t ht).1, hvolume]
    rfl
  · obtain ⟨hnqn, hinitiators⟩ := hlisted.other entry.1 hmem hvolume
    refine .weaken (Triple.returns (preserves_of_untouched l
        (fun s s' hview hrecord hs => ?_)
        fun before => untouched_prepareEntry (nvme_apartFrom hnqn before) hok hinitiators) fun _ hs => hs.1)
      (fun s hs => hs) fun b s hs =>
        ⟨⟨hs.1, fun ⟨later, hin, heq⟩ => hs.2 ⟨later, .tail _ hin, heq⟩⟩,
          fun heq => absurd heq hvolume⟩
    exact ⟨holds_congr hview hrecord hs.1,
      fun hcome => wholeSubsystem_congr hview hrecord (hs.2 hcome)⟩

theorem holds_nvmeReconcile (hlisted : Listed l desired) :
    Yields (Ready l id) (nvmeReconcile l.server desired) (fun _ => Holds l id) (Holds l id) := by
  refine (holds_prepareEntries hlisted).bind fun prepared => .assuming fun hprepared => ?_
  refine Triple.returns (Preserves.mapEach fun entry hentry => ?_) fun _ hs => hs
  obtain ⟨hmem, hok⟩ := nvmeReconcile_entry (List.of_mem_zip hentry).1
  by_cases hvolume : entry.1.1.volumeID = l.volumeID
  · refine holds_linkEntry (fun t ht => ?_) (hprepared entry hentry hvolume)
    rw [(hok t ht).1, hvolume]
    rfl
  · refine preserves_of_untouched l
      (fun s s' hview hrecord hs => holds_congr hview hrecord hs) fun before => ?_
    have hnqn := (hlisted.other entry.1.1 hmem hvolume).1
    exact untouched_linkEntry (nvme_apartFrom hnqn before) fun t ht => (hok t ht).1

end Handlers

/-- A request with the values the kernel makes up for new objects and the
outcomes of its calls, or the loss of the tree. -/
inductive Action where
  | request (serial uuid : String) (request : Request) (outcomes : List Outcome)
  | reboot (tree : Tree)

section Runs

variable (l : Lifecycle)

def drawn (serial uuid : String) : Lifecycle :=
  { l with server.kernel := { l.server.kernel with serial := serial, uuid := uuid } }

def ofLifecycle : Request → Bool
  | .exportVolume params => params.volumeID = l.volumeID && params.fence.volumeUID = l.volumeUID
  | .setLocalAttach id _ fence => id = l.volumeID && fence.volumeUID = l.volumeUID
  | .reconcile desired =>
    desired.all fun d => d.volumeID ≠ l.volumeID || d.fence.volumeUID = l.volumeUID
  | _ => false

variable (s : AgentState)

def step : Action → Option AgentState
  | .request serial uuid request outcomes =>
    if ofLifecycle l request then
      some ((handleNVMe (drawn l serial uuid).server request).after outcomes s)
    else
      none
  | .reboot tree =>
    if view (owned l.server .nvmeofTCP l.volumeID) tree = [] then some { s with tree := tree }
    else none

def attrValue : Option Node → String
  | some (.attr value) => value
  | _ => ""

/-- What hosts see while the subsystem is linked to a port and its namespace is
enabled. -/
def presented (tree : Tree) : Option Identity :=
  let target := nvmeTargetForVolume l.volumeID
  if (tree.entries.any fun e => e.2.isLink &&
        decide (∃ port ∈ e.1, e.1 = target.portSubsystemLink l.server.nvmet port)) ∧
      tree.lookup (target.namespaceDir l.server.nvmet ++ [.of "enable"]) = some (.attr "1") then
    some
      { uuid := attrValue (tree.lookup (target.namespaceDir l.server.nvmet ++ [.of "device_uuid"]))
        nguid := attrValue (tree.lookup (target.namespaceDir l.server.nvmet ++ [.of "device_nguid"]))
        serial := attrValue (tree.lookup (target.subsystemDir l.server.nvmet ++ [.of "attr_serial"])) }
  else
    none

/-- What is there of the export has the identity of the lifecycle. -/
def Settled : Prop :=
  Holds l (storedIdentity l s) s

/-- No request starts on objects that an earlier one left half made. -/
def Orderly : Action → Prop
  | .request _ _ (.exportVolume _) _ => WholeSubsystem l s
  | .request _ _ (.reconcile desired) _ => WholeSubsystem l s ∧ Listed l desired
  | .request _ _ (.setLocalAttach _ false _) _ => WholeNamespace l s
  | _ => True

def isExport : Action → Bool
  | .request _ _ (.exportVolume _) _ => true
  | _ => false

/-- As long as hosts have not seen the export, it may also be made of objects
that were left half made: it takes their identity over and records it. -/
def Adopting (a : Action) : Prop :=
  isExport a = true ∨ Orderly l s a

instance (desired : List ExportDesiredState) : Decidable (Listed l desired) :=
  decidable_of_iff
    ((desired.filter fun d => d.volumeID = l.volumeID).length ≤ 1 ∧
      (∀ d ∈ desired, d.volumeID = l.volumeID → d.fence.volumeUID = l.volumeUID) ∧
      ∀ d ∈ desired, d.volumeID ≠ l.volumeID → nqnName d.volumeID ≠ l.nqn ∧
        ∀ hostNQN ∈ d.allowedInitiators, IsName hostNQN.toList)
    ⟨fun h => ⟨h.1, h.2.1, h.2.2⟩, fun h => ⟨h.once, h.token, h.other⟩⟩

instance (a : Action) : Decidable (Orderly l s a) := by
  unfold Orderly
  split <;> infer_instance

instance (a : Action) : Decidable (Adopting l s a) :=
  inferInstanceAs (Decidable (_ ∨ _))

end Runs

section Stability

variable {l : Lifecycle} {id : Identity} {s t : AgentState}

theorem sound_of_empty {k : Kernel} {nqn : Name}
    (h : view (nvmetRegion k nqn) tree = []) : Sound k.root nqn id false tree := by
  have hempty : Sound k.root nqn id false { entries := [] } := by
    constructor
    · rintro ⟨port, target, hmem⟩
      cases hmem
    · exact fun hone => nomatch hone
    · exact fun p _ hne => absurd rfl hne
    · exact nofun
  have hview : view (nvmetRegion k nqn) tree = view (nvmetRegion k nqn) { entries := [] } := h
  exact hempty.of_view hview

theorem Holds.settled (h : Holds l id s) : Settled l s := by
  unfold Settled
  rw [h.1]
  exact h

theorem after_pure {α : Type} {p : Agent α} {f : α → Response} {P J I : AgentState → Prop}
    (hp : Yields P p (fun _ => J) I) (hJ : ∀ s, J s → I s) (hs : P s) (outcomes : List Outcome) :
    I ((p >>= fun a => pure (f a)).after outcomes s) :=
  (hp.bind fun a => .pure (f a) hJ).always (fun _ _ hs => hs) ⟨s, outcomes⟩ hs

-- The values the kernel makes up are no part of the lifecycle's identity.
theorem holds_handleNVMe {request : Request} (hlife : ofLifecycle l request = true)
    {serial uuid : String} (hs : Holds (drawn l serial uuid) id s) {outcomes : List Outcome}
    (horderly : Orderly l s (.request serial uuid request outcomes)) :
    Holds (drawn l serial uuid) id
      ((handleNVMe (drawn l serial uuid).server request).after outcomes s) := by
  cases request with
  | exportVolume params =>
    simp only [ofLifecycle, Bool.and_eq_true, decide_eq_true_eq] at hlife
    exact or_self_iff.mp (after_pure (holds_nvmeExport (l := drawn l serial uuid) hlife.1 hlife.2)
      (fun _ hs => .inr hs) (Ready.finds ⟨hs, horderly⟩) outcomes)
  | setLocalAttach volume local_ fence =>
    simp only [ofLifecycle, Bool.and_eq_true, decide_eq_true_eq] at hlife
    obtain ⟨rfl, -⟩ := hlife
    refine after_pure (holds_nvmeSetLocalAttach (l := drawn l serial uuid)) (fun _ hs => hs)
      ⟨hs, ?_⟩ outcomes
    rintro rfl
    exact horderly
  | reconcile desired =>
    have hlisted : Listed (drawn l serial uuid) desired :=
      ⟨horderly.2.once, horderly.2.token, horderly.2.other⟩
    exact after_pure (holds_nvmeReconcile hlisted) (fun _ hs => hs) ⟨hs, horderly.1⟩ outcomes
  | unexportVolume | allowInitiator | denyInitiator => cases hlife

theorem holds_step {a : Action} (hs : Holds l id s) (horderly : Orderly l s a)
    (hstep : step l s a = some t) : Holds l id t := by
  cases a with
  | request serial uuid request outcomes =>
    simp only [step] at hstep
    obtain ⟨hlife, rfl⟩ := of_guard hstep
    have hdrawn : Holds (drawn l serial uuid) id s := hs
    exact holds_handleNVMe hlife hdrawn horderly
  | reboot tree =>
    simp only [step] at hstep
    obtain ⟨hlost, rfl⟩ := of_guard hstep
    rw [owned_nvmeofTCP] at hlost
    exact ⟨hs.1, sound_of_empty hlost⟩

theorem settled_step {a : Action} (hs : Settled l s) (hadopting : Adopting l s a)
    (hstep : step l s a = some t) : Settled l t := by
  rcases hadopting with hexport | horderly
  · rcases a with ⟨serial, uuid, request, outcomes⟩ | tree
    · cases request with
      | exportVolume params =>
        simp only [step] at hstep
        obtain ⟨hlife, rfl⟩ := of_guard hstep
        simp only [ofLifecycle, Bool.and_eq_true, decide_eq_true_eq] at hlife
        have hdrawn : Holds (drawn l serial uuid) _ s := hs
        obtain ⟨id, hfinds⟩ := exists_finds hdrawn
        rcases after_pure (holds_nvmeExport (l := drawn l serial uuid) hlife.1 hlife.2)
          (fun _ hs => .inr hs) hfinds outcomes with hold | hnew
        · exact Holds.settled (l := l) hold
        · exact Holds.settled (l := l) hnew
      | setLocalAttach | reconcile | unexportVolume | allowInitiator | denyInitiator => cases hexport
    · cases hexport
  · exact (holds_step hs horderly hstep).settled

theorem presented_eq (hs : Holds l id s) {x : Identity}
    (hx : presented l s.tree = some x) : x = id := by
  unfold presented at hx
  dsimp only at hx
  obtain ⟨hshown, rfl⟩ := of_guard hx
  obtain ⟨hlinks, henable⟩ := hshown
  rw [namespaceAttr_eq subsystemNQN_eq] at henable
  have hlinked : Linked l.root l.nqn s.tree := by
    obtain ⟨e, hmem, hlink⟩ := List.any_eq_true.mp hlinks
    simp only [Bool.and_eq_true, decide_eq_true_eq] at hlink
    obtain ⟨hisLink, port, -, hpath⟩ := hlink
    obtain ⟨path, node⟩ := e
    cases node with
    | link target =>
      dsimp only at hpath
      rw [portSubsystemLink_eq subsystemNQN_eq] at hpath
      exact ⟨port, target, hpath ▸ hmem⟩
    | group | item | attr value => cases hisLink
  obtain ⟨huuid, hnguid⟩ := hs.2.enabled henable
  have hserial := hs.2.linked hlinked
  rw [namespaceAttr_eq subsystemNQN_eq, namespaceAttr_eq subsystemNQN_eq,
    serial_eq subsystemNQN_eq]
  rw [huuid, hnguid, hserial]
  rfl

end Stability

/-- Once hosts have seen the export, no request starts on half-made objects: then
they are shown the same identity at every two moments of the lifecycle. -/
theorem presented_identity_stable (l : Lifecycle) (s₀ s t₁ t₂ : AgentState) (earlier first second : List Action) (x y : Identity)
    (hstart : Settled l s₀) (hearlier : AllSteps (step l) (Adopting l) s₀
      earlier) (hrun : run (step l) s₀ earlier = some s)
    (hfirst : AllSteps (step l) (Orderly l) s first) (hrun₁ : run (step l) s first = some t₁)
    (hsecond : AllSteps (step l) (Orderly l) s second) (hrun₂ : run (step l) s second = some t₂)
    (hx : presented l t₁.tree = some x) (hy : presented l t₂.tree = some y) : x = y := by
  have hsettled : Settled l s :=
    invariant_run_of_allSteps
      (fun _ _ _ hs hadopting hstep => settled_step hs hadopting hstep) hstart hearlier hrun
  have hreached : ∀ {actions : List Action} {t : AgentState},
      AllSteps (step l) (Orderly l) s actions →
      run (step l) s actions = some t →
        Holds l (storedIdentity l s) t :=
    fun hall hrun => invariant_run_of_allSteps
      (fun _ _ _ hs horderly hstep => holds_step hs horderly hstep) hsettled hall hrun
  exact (presented_eq (hreached hfirst hrun₁) hx).trans
    (presented_eq (hreached hsecond hrun₂) hy).symm

def sampleExport (serial : String) (outcomes : List Outcome) : Action :=
  .request serial "11111111-1111-1111-1111-111111111111" (exportNVMe "tank/pvc-1") outcomes

def sampleReboot : Action := .reboot booted.tree

/-- The agent dies before the call after the first `n`. -/
def cutAfter (n : Nat) : List Outcome := List.replicate n .done ++ [.died]

def sampleLifecycle : Lifecycle := ⟨storageNode, "tank/pvc-1", "uid-1"⟩

abbrev sampleStep : AgentState → Action → Option AgentState := step sampleLifecycle

def halfMade : List Action := [sampleExport "b" (cutAfter 10), sampleExport "c" []]

def comeBack : List Action := [sampleReboot, sampleExport "d" (cutAfter 30), sampleExport "e" []]

/-- The first export takes over the serial of a half-made subsystem.  It comes
back with it after a reboot and a crash that left it whole. -/
theorem presented_identity_stable_reboot :
    ∃ s t₁ t₂ x y, run sampleStep booted halfMade = some s ∧ run sampleStep s [] = some t₁ ∧
      run sampleStep s comeBack = some t₂ ∧ presented sampleLifecycle t₁.tree = some x ∧
      presented sampleLifecycle t₂.tree = some y ∧
      (x.serial = "b" ∧ s.identities "tank/pvc-1" = some ⟨"uid-1", x⟩) ∧ x = y := by
  obtain ⟨s, hrun, t₁, hrun₁, t₂, hrun₂, x, hx, y, hy, hadopted, horderly⟩ :
      ∃ s, run sampleStep booted halfMade = some s ∧ ∃ t₁, run sampleStep s [] = some t₁ ∧
        ∃ t₂, run sampleStep s comeBack = some t₂ ∧
          ∃ x, presented sampleLifecycle t₁.tree = some x ∧
            ∃ y, presented sampleLifecycle t₂.tree = some y ∧
              (x.serial = "b" ∧ s.identities "tank/pvc-1" = some ⟨"uid-1", x⟩) ∧
              AllSteps sampleStep (Orderly sampleLifecycle) s comeBack := by decide +kernel
  refine ⟨s, t₁, t₂, x, y, hrun, hrun₁, hrun₂, hx, hy, hadopted, ?_⟩
  exact presented_identity_stable sampleLifecycle booted s t₁ t₂ halfMade []
    comeBack x y ⟨rfl, sound_of_empty (by decide)⟩ (by decide +kernel) hrun trivial hrun₁ horderly
    hrun₂ hx hy

/-- A crash right after the subsystem was made again leaves the serial the
kernel made up, and the next export takes it for one that hosts know.  And a
crash before the identifiers are written leaves a namespace that a local attach
enables with the UUID the kernel made up. -/
theorem interrupted_creation_changes_identity :
    (∃ s t₁ t₂ x y, run sampleStep booted [sampleExport "a" []] = some s ∧
      run sampleStep s [] = some t₁ ∧ run sampleStep s (sampleReboot :: halfMade) = some t₂ ∧
      presented sampleLifecycle t₁.tree = some x ∧
      presented sampleLifecycle t₂.tree = some y ∧ x.serial ≠ y.serial) ∧
    (∃ s t₁ t₂ x y, run sampleStep booted [sampleExport "a" []] = some s ∧
      run sampleStep s [] = some t₁ ∧
      run sampleStep s [sampleReboot, sampleExport "b" (cutAfter 28),
        .request "d" "0" (.setLocalAttach "tank/pvc-1" false ⟨"uid-1", true, true⟩) [],
        sampleExport "c" []] = some t₂ ∧ presented sampleLifecycle t₁.tree = some x ∧
      presented sampleLifecycle t₂.tree = some y ∧ x.uuid ≠ y.uuid) := by
  simp only [exists_and_left]
  decide +kernel

end PillarCsi.NvmeIdentity
