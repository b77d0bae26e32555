import Mathlib.Data.List.Infix
import PillarCsi.ItemTree

/-!
The configfs operations of the target packages (`internal/agent/nvmeof`,
`internal/agent/lio`) and the kernel objects they make.

Attribute values stand without the padding the kernel adds.
-/

namespace PillarCsi.Configfs

open FalliblePrograms ItemTree Program

inductive Failure where
  | configfs
  | mismatch
  | notExported
  | deviceHeld
  | portConflict
  | invalidArgument
  | fenced
  deriving DecidableEq, Repr

/-- The mount point of configfs, and the values the kernel makes up. -/
structure Kernel where
  root : Path
  serial : String := "0"
  uuid : String := "0"

inductive IPFamily where
  | ipv4
  | ipv6
  deriving DecidableEq, Repr

abbrev Op := Program Tree Failure

variable (k : Kernel)

def Kernel.subsystemDefaults : List (Path × Node) :=
  [([.of "attr_allow_any_host"], .attr "0"), ([.of "attr_serial"], .attr k.serial),
    ([.of "namespaces"], .group), ([.of "allowed_hosts"], .group)]

def Kernel.namespaceDefaults : List (Path × Node) :=
  [([.of "device_path"], .attr ""), ([.of "device_uuid"], .attr k.uuid),
    ([.of "device_nguid"], .attr "00000000-0000-0000-0000-000000000000"),
    ([.of "enable"], .attr "0")]

def portDefaults : List (Path × Node) :=
  [([.of "addr_trtype"], .attr ""), ([.of "addr_adrfam"], .attr ""),
    ([.of "addr_traddr"], .attr ""), ([.of "addr_trsvcid"], .attr ""),
    ([.of "param_inline_data_size"], .attr "-1"), ([.of "param_mdts"], .attr "0"),
    ([.of "subsystems"], .group)]

def tpgDefaults : List (Path × Node) :=
  [([.of "enable"], .attr "0"), ([.of "attrib"], .group),
    ([.of "attrib", .of "authentication"], .attr "1"),
    ([.of "attrib", .of "generate_node_acls"], .attr "0"),
    ([.of "attrib", .of "cache_dynamic_acls"], .attr "0"),
    ([.of "attrib", .of "demo_mode_write_protect"], .attr "1"),
    ([.of "lun"], .group), ([.of "np"], .group), ([.of "acls"], .group)]

def Kernel.backstoreDefaults : List (Path × Node) :=
  [([.of "info"], .attr ""), ([.of "udev_path"], .attr ""),
    ([.of "enable"], .attr "0"), ([.of "attrib"], .group),
    ([.of "attrib", .of "emulate_tpu"], .attr "0"), ([.of "wwn"], .group),
    ([.of "wwn", .of "vpd_unit_serial"], .attr k.serial)]

def aclDefaults : List (Path × Node) :=
  [([.of "attrib"], .group), ([.of "attrib", .of "authentication"], .attr "-1"),
    ([.of "auth"], .group), ([.of "auth", .of "userid"], .attr ""),
    ([.of "auth", .of "password"], .attr ""),
    ([.of "auth", .of "userid_mutual"], .attr ""),
    ([.of "auth", .of "password_mutual"], .attr "")]

/-- Attributes and groups by the place of the object below the mount point. -/
def Kernel.objectDefaults : Path → List (Path × Node)
  | [top, kind, _] =>
    if top = .of "nvmet" ∧ kind = .of "subsystems" then k.subsystemDefaults
    else if top = .of "nvmet" ∧ kind = .of "ports" then portDefaults
    else []
  | [top, kind, _, _] =>
    if top = .of "target" ∧ kind = .of "iscsi" then tpgDefaults
    else if top = .of "target" ∧ kind = .of "core" then k.backstoreDefaults
    else []
  | [top, kind, _, group, _] =>
    if top = .of "nvmet" ∧ kind = .of "subsystems" ∧ group = .of "namespaces" then
      k.namespaceDefaults
    else []
  | [top, kind, _, _, group, _] =>
    if top = .of "target" ∧ kind = .of "iscsi" ∧ group = .of "acls" then aclDefaults else []
  | _ => []

def Kernel.defaults (p : Path) : List (Path × Node) :=
  if k.root <+: p then k.objectDefaults (p.drop k.root.length) else []

variable {e : Path × Node} {p : Path} {t : Tree}

theorem Kernel.mem_objectDefaults {k : Kernel} {r : Path} (h : e ∈ k.objectDefaults r) :
    (∃ kind name, r = [.of "nvmet", kind, name] ∧ e.1.length = 1) ∨
      (∃ kind name sub, r = [.of "target", kind, name, sub]) ∨ 5 ≤ r.length := by
  unfold Kernel.objectDefaults at h
  split at h
  · rename_i top kind name
    left
    split at h
    · rename_i hplace
      refine ⟨kind, name, by rw [hplace.1], ?_⟩
      simp only [Kernel.subsystemDefaults, List.mem_cons, List.not_mem_nil, or_false] at h
      rcases h with rfl | rfl | rfl | rfl <;> rfl
    · split at h
      · rename_i hplace
        refine ⟨kind, name, by rw [hplace.1], ?_⟩
        simp only [portDefaults, List.mem_cons, List.not_mem_nil, or_false] at h
        rcases h with rfl | rfl | rfl | rfl | rfl | rfl | rfl <;> rfl
      · cases h
  · rename_i top kind name sub
    right; left
    split at h
    · rename_i hplace
      exact ⟨kind, name, sub, by rw [hplace.1]⟩
    · split at h
      · rename_i hplace
        exact ⟨kind, name, sub, by rw [hplace.1]⟩
      · cases h
  · exact .inr (.inr (by simp))
  · exact .inr (.inr (by simp))
  · cases h

/-- An object is made with its parts, so none of them is looked for without it. -/
theorem Kernel.isPrefix_of_part {k : Kernel} {r place : Path} (h : e ∈ k.objectDefaults r)
    (hplace : place <+: r ++ e.1) (hlength : place.length ≤ 3 ∨
      (∃ rest, place = .of "target" :: rest ∧ rest.length = 3) ∨
      ∃ rest, place = .of "nvmet" :: rest ∧ rest.length = 4) : place <+: r := by
  refine List.prefix_of_prefix_length_le hplace (List.prefix_append r e.1) ?_
  have hle := hplace.length_le
  rcases k.mem_objectDefaults h with ⟨kind, name, rfl, hone⟩ | ⟨kind, name, sub, rfl⟩ | hlong <;>
    rcases hlength with h | ⟨rest, rfl, hrest⟩ | ⟨rest, rfl, hrest⟩ <;>
    simp_all [List.cons_prefix_cons] <;> omega

theorem Kernel.mem_defaults {k : Kernel} (h : e ∈ k.defaults p) :
    ∃ r, p = k.root ++ r ∧ e ∈ k.objectDefaults r := by
  unfold Kernel.defaults at h
  split at h
  · rename_i hroot
    obtain ⟨r, rfl⟩ := hroot
    exact ⟨r, rfl, by simpa using h⟩
  · cases h

theorem Kernel.part_of_mem_defaults {k : Kernel}
    (h : e ∈ k.defaults p) : e.1 ≠ [] ∧ e.2.isLink = false := by
  have hpart : ∀ parts : List (Path × Node),
      (parts.all fun e => !e.1.isEmpty && !e.2.isLink) = true → e ∈ parts →
        e.1 ≠ [] ∧ e.2.isLink = false := by
    intro parts hparts he
    have hboth := List.all_eq_true.mp hparts e he
    simp only [Bool.and_eq_true, Bool.not_eq_true'] at hboth
    exact ⟨List.isEmpty_eq_false_iff.mp hboth.1, hboth.2⟩
  obtain ⟨r, -, hobject⟩ := k.mem_defaults h
  unfold Kernel.objectDefaults at hobject
  repeat' split at hobject
  all_goals exact hpart _ rfl hobject

variable (path : Path)

/-- Reads an attribute; a missing one reads as empty. -/
def readAttr : Op String := do
  let node ← query .configfs fun t => t.lookup path
  match node with
  | none => pure ""
  | some (.attr value) => pure value
  | some _ => fail .configfs

/-- Writes an attribute and reads it back. -/
def writeFile (content : String) : Op Unit := do
  call .configfs fun t => t.write path content
  let readback ← readAttr path
  if readback = content then pure () else fail .mismatch

def ensureAttr (want : String) : Op Unit := do
  let current ← readAttr path
  if current = want then pure () else writeFile path want

def stat : Op (Option Node) := query .configfs fun t => t.lookup path

def readDir : Op (List (Name × Node)) := query .configfs fun t => t.children path

/-- Makes one object; its parent must exist. -/
def ensureDir (path : Path) : Op Unit := do
  let present ← query .configfs fun t => t.isDir path
  if present then pure () else call .configfs fun t => t.mkdir k.defaults path

/-- Makes an object and every missing directory above it. -/
def mkdirAll (path : Path) : Op Unit := forEach (ensureDir k) path.inits

/-- Links `path` to `target` unless it already points there. -/
def symlink (target path : Path) : Op Unit := do
  let existing ← stat path
  match existing with
  | none => call .configfs fun t => t.symlink target path
  | some (.link current) => if current = target then pure () else fail .configfs
  | some _ => fail .configfs

def removeSymlink : Op Unit := do
  let existing ← stat path
  match existing with
  | none => pure ()
  | some (.link _) => call .configfs fun t => t.unlink path
  | some _ => fail .configfs

/-- Destroys an object; a missing one is gone already. -/
def removeDir : Op Unit := do
  let existing ← stat path
  match existing with
  | none => pure ()
  | some _ => call .configfs fun t => t.rmdir path

def removeDirVerified : Op Unit := do
  removeDir path
  let remaining ← stat path
  if remaining = none then pure () else fail .configfs

/-- An exclusive open of the backing device; whether it is free is up to the
storage node. -/
def claimDevice : Op Unit := query .deviceHeld fun _ => ()

section Invariants

variable {k : Kernel} {I P : Tree → Prop} {path target : Path} {value : String}

theorem invariant_readAttr : Preserves I (readAttr path) :=
  Preserves.query.bind fun node =>
    match node with
    | none | some (.attr _) => .pure _
    | some .group | some .item | some (.link _) => .fail

theorem invariant_writeFile (h : ∀ t t', I t → t.write path value = some t' → I t') :
    Preserves I (writeFile path value) := by
  refine (Preserves.call h).bind fun _ => ?_
  exact invariant_readAttr.bind fun _ => Preserves.ite (Preserves.pure _) Preserves.fail

theorem invariant_ensureAttr (h : ∀ t t', I t → t.write path value = some t' → I t') :
    Preserves I (ensureAttr path value) :=
  invariant_readAttr.bind fun _ => .ite (.pure _) (invariant_writeFile h)

theorem invariant_ensureDir (h : ∀ t t', I t → t.mkdir k.defaults path = some t' → I t') :
    Preserves I (ensureDir k path) :=
  Preserves.query.bind fun _ => .ite (.pure _) (.call h)

theorem invariant_mkdirAll
    (h : ∀ p, p <+: path → ∀ t t', I t → t.mkdir k.defaults p = some t' → I t') :
    Preserves I (mkdirAll k path) :=
  .forEach fun p hp => invariant_ensureDir (h p ((List.mem_inits p path).mp hp))

theorem invariant_symlink (h : ∀ t t', I t → t.symlink target path = some t' → I t') :
    Preserves I (symlink target path) := by
  refine Preserves.query.bind fun existing => ?_
  match existing with
  | none => exact .call h
  | some (.link _) => exact .ite (.pure _) .fail
  | some .group | some .item | some (.attr _) => exact .fail

theorem invariant_removeSymlink (h : ∀ t t', I t → t.unlink path = some t' → I t') :
    Preserves I (removeSymlink path) := by
  refine Preserves.query.bind fun existing => ?_
  match existing with
  | none => exact .pure _
  | some (.link _) => exact .call h
  | some .group | some .item | some (.attr _) => exact .fail

theorem invariant_removeDir (h : ∀ t t', I t → t.rmdir path = some t' → I t') :
    Preserves I (removeDir path) := by
  refine Preserves.query.bind fun existing => ?_
  match existing with
  | none => exact .pure _
  | some _ => exact .call h

theorem invariant_removeDirVerified (h : Preserves I (removeDir path)) :
    Preserves I (removeDirVerified path) :=
  h.bind fun _ => Preserves.query.bind fun _ => .ite (.pure _) .fail

/-- What a read of an attribute returns. -/
def Reads (t : Tree) (path : Path) (value : String) : Prop :=
  t.lookup path = some (.attr value) ∨ (t.lookup path = none ∧ value = "")

theorem Reads.lookup (h : Reads t path value) (hvalue : value ≠ "") :
    t.lookup path = some (.attr value) :=
  h.resolve_right fun hnone => hvalue hnone.2

theorem yields_stat (hI : ∀ t, P t → I t) :
    Yields P (stat path) (fun node t => P t ∧ t.lookup path = node) I :=
  .query (fun _ ht => ⟨ht, rfl⟩) hI

theorem yields_readAttr (hI : ∀ t, P t → I t) :
    Yields P (readAttr path) (fun value t => P t ∧ Reads t path value) I := by
  refine (yields_stat hI).bind fun node => ?_
  match node with
  | none => exact .pure _ fun t ht => ⟨ht.1, .inr ⟨ht.2, rfl⟩⟩
  | some (.attr _) => exact .pure _ fun t ht => ⟨ht.1, .inl ht.2⟩
  | some .group | some .item | some (.link _) => exact .fail fun t ht => hI t ht.1

theorem yields_writeFile (h : ∀ t t', P t → t.write path value = some t' → P t') :
    Yields P (writeFile path value) (fun _ t => P t ∧ t.lookup path = some (.attr value)) P := by
  have hcall : Yields P (call Failure.configfs fun t => t.write path value)
      (fun _ t => P t ∧ t.lookup path = some (.attr value)) P := by
    refine .call (fun t t' ht hwrite => ⟨h t t' ht hwrite, ?_⟩) (fun _ ht => ht) h
      fun _ ht => ht
    rw [(Tree.lookup_write hwrite).1]
    exact Tree.lookup_put_self _
  refine hcall.bind fun _ => invariant_readAttr.andThen (fun _ ht => ht.1) fun readback => ?_
  exact .ite (fun _ => .pure _ fun _ ht => ht) fun _ => .fail fun _ ht => ht.1

theorem yields_ensureAttr (h : ∀ t t', P t → t.write path value = some t' → P t')
    (hvalue : value ≠ "") :
    Yields P (ensureAttr path value) (fun _ t => P t ∧ t.lookup path = some (.attr value)) P := by
  refine (yields_readAttr fun _ ht => ht).bind fun current => ?_
  refine .ite (fun hcurrent => ?_) fun _ => ?_
  · exact .pure _ fun t ht => ⟨ht.1, (hcurrent ▸ ht.2 : Reads t path value).lookup hvalue⟩
  · exact (yields_writeFile h).weaken (fun _ ht => ht.1) fun _ _ ht => ht

theorem runs_stat {node : Option Node} {rest : List Outcome} (h : t.lookup path = node) :
    Runs (stat path) ⟨t, .done :: rest⟩ (.ok node) ⟨t, rest⟩ :=
  h ▸ rfl

theorem runs_readAttr {rest : List Outcome} (h : t.lookup path = some (.attr value)) :
    Runs (readAttr path) ⟨t, .done :: rest⟩ (.ok value) ⟨t, rest⟩ :=
  (runs_stat h).bind rfl

/-- A write that takes effect and is reported as failed. -/
theorem runs_writeFile_lost {old : String} (h : t.lookup path = some (.attr old)) :
    Runs (writeFile path value) ⟨t, [.lost]⟩ (.error (.failed .configfs))
      ⟨t.put path (.attr value), []⟩ := by
  refine Runs.stop ?_
  have hwrite : t.write path value = some (t.put path (.attr value)) := by rw [Tree.write, h]
  change (_, (⟨(t.write path value).getD t, []⟩ : World Tree)) = _
  rw [hwrite]
  rfl

end Invariants

def Same (region : Region) (before : List (Path × Node)) (t : Tree) : Prop :=
  view region t = before

/-- The region holds nothing at or below `p`. -/
def Foreign (region : Region) (p : Path) : Prop := ∀ q, p <+: q → Apart region q

/-- A region that holds what is below its places, and no kernel default of an
object outside it. -/
structure Framed (k : Kernel) (region : Region) : Prop where
  below : ∀ p q, p <+: q → Apart region q → Apart region p
  defaults : ∀ p, Apart region p → ∀ e ∈ k.defaults p, Apart region (p ++ e.1)

section Frames

variable {k : Kernel} {region : Region} {before : List (Path × Node)} {path target : Path}
  {value : String}

theorem Foreign.apart (h : Foreign region path) : Apart region path := h path (List.prefix_refl _)

theorem Foreign.append (h : Foreign region path) (rest : Path) : Foreign region (path ++ rest) :=
  fun q hq => h q ((List.prefix_append path rest).trans hq)

theorem preserves_readAttr : Preserves (Same region before) (readAttr path) := invariant_readAttr

theorem preserves_writeFile (h : Apart region path) :
    Preserves (Same region before) (writeFile path value) :=
  invariant_writeFile fun _ _ ht hwrite => (view_write h hwrite).trans ht

theorem preserves_ensureAttr (h : Apart region path) :
    Preserves (Same region before) (ensureAttr path value) :=
  invariant_ensureAttr fun _ _ ht hwrite => (view_write h hwrite).trans ht

theorem preserves_ensureDir (hregion : Framed k region) (h : Apart region path) :
    Preserves (Same region before) (ensureDir k path) :=
  invariant_ensureDir fun _ _ ht hmkdir => (view_mkdir h (hregion.defaults path h) hmkdir).trans ht

theorem preserves_mkdirAll (hregion : Framed k region) (h : Apart region path) :
    Preserves (Same region before) (mkdirAll k path) := by
  refine invariant_mkdirAll fun p hp t t' ht hmkdir => ?_
  have happart := hregion.below p path hp h
  exact (view_mkdir happart (hregion.defaults p happart) hmkdir).trans ht

theorem preserves_symlink (h : Apart region path) :
    Preserves (Same region before) (symlink target path) :=
  invariant_symlink fun _ _ ht hlink => (view_symlink h hlink).trans ht

theorem preserves_removeSymlink (h : Apart region path) :
    Preserves (Same region before) (removeSymlink path) :=
  invariant_removeSymlink fun _ _ ht hunlink => (view_unlink h hunlink).trans ht

theorem view_rmdir_of_foreign {t' : Tree} (h : Foreign region path)
    (hrmdir : t.rmdir path = some t') : view region t' = view region t := by
  refine view_rmdir h.apart (fun q node hq hregion => ?_) hrmdir
  exact absurd ((h q hq node).symm.trans hregion) Bool.false_ne_true

theorem preserves_removeDir (h : Foreign region path) :
    Preserves (Same region before) (removeDir path) :=
  invariant_removeDir fun _ _ ht hrmdir => (view_rmdir_of_foreign h hrmdir).trans ht

theorem preserves_removeDirVerified (h : Preserves (Same region before) (removeDir path)) :
    Preserves (Same region before) (removeDirVerified path) :=
  invariant_removeDirVerified h

end Frames

end PillarCsi.Configfs
