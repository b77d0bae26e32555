import PillarCsi.CheckedComputations
import PillarCsi.MkfsOptions
import PillarCsi.VolumeDestruction

/-!
The mount options of an NFS volume (`internal/csi/nfs_handler.go`), and the text
that the mount command makes of them: it joins the options with commas and
`mount.nfs` takes them apart again at every comma.
-/

namespace PillarCsi.NfsMountOptions

open CheckedComputations MkfsOptions SeparatedNames
open VolumeDestruction (toLower)

abbrev Text := List Char

variable (flag : Text)

def keyOf : String :=
  String.ofList ((cutKey (trimSpace flag)).map toLower)

def valueOf : String :=
  let value := ((trimSpace flag).dropWhile (· ≠ '=')).drop 1
  String.ofList ((trimSpace value).map toLower)

def conflict (required : String) : Except String Bool :=
  .error ("NFS mount option " ++ (String.ofList flag).quote ++ " conflicts with required " ++ required)

/-- Whether the option is structural, if it does not contradict the contract. -/
def validateNFSStructuralMountOption (requiredProto : String) : Except String Bool :=
  let key := keyOf flag
  let value := valueOf flag
  if key = "hard" then .ok true
  else if key = "tcp" ∨ key = "tcp6" then
    if key ≠ requiredProto then conflict flag (requiredProto ++ " transport") else .ok true
  else if key ∈ ["soft", "softerr", "softreval", "udp", "rdma"] then
    conflict flag ("hard " ++ requiredProto ++ " transport")
  else if key = "nfsvers" ∨ key = "vers" then
    if value ≠ "4.2" then conflict flag "NFS version 4.2" else .ok true
  else if key = "proto" then
    if value ≠ requiredProto then conflict flag (requiredProto ++ " transport") else .ok true
  else if key = "proto6" then
    if requiredProto ≠ "tcp6" ∨ value ≠ "tcp" then conflict flag (requiredProto ++ " transport")
    else .ok true
  else if key = "port" then
    if value ≠ "2049" then conflict flag "port 2049" else .ok true
  else .ok false

def filterFlags (requiredProto : String) : List Text → Except String (List Text)
  | [] => .ok []
  | flag :: flags => do
    let structural ← validateNFSStructuralMountOption flag requiredProto
    let filtered ← filterFlags requiredProto flags
    .ok (if structural then filtered else flag :: filtered)

section Flags

variable (decodeMountOptions : String → Except String (List Text)) (volCtx : Option String)
  (mountFlags : List Text) (serverIPv6 : Bool)

/-- The options of the volume context replace those of the capability. -/
def collectNFSMountFlags : Except String (List Text) :=
  match volCtx with
  | none => .ok mountFlags
  | some raw => decodeMountOptions raw

/-- `serverIPv6`: the server address is an IP address, and not an IPv4 one. -/
def nfsMountTransport : String := if serverIPv6 then "tcp6" else "tcp"

def requiredOptions : List Text :=
  ["hard".toList, "nfsvers=4.2".toList, "proto=".toList ++ (nfsMountTransport serverIPv6).toList,
    "port=2049".toList]

def nfsMountFlags : Except String (List Text) := do
  let flags ← collectNFSMountFlags decodeMountOptions volCtx mountFlags
  let filtered ← filterFlags (nfsMountTransport serverIPv6) flags
  .ok (filtered ++ requiredOptions serverIPv6)

end Flags

/-- The spellings of an NFS version without `vers=`. -/
def versionShorthands : List String := ["v2", "v3", "v4", "v4.0", "v4.1", "minorversion"]

def structuralKeys : List String :=
  ["hard", "tcp", "tcp6", "soft", "softerr", "softreval", "udp", "rdma", "nfsvers", "vers", "proto",
    "proto6", "port"]

/-- The option asks for another kind of mount. -/
def Conflicts (requiredProto : String) (piece : Text) : Prop :=
  keyOf piece ∈ ["soft", "softerr", "softreval", "udp", "rdma"] ∨ keyOf piece ∈ versionShorthands ∨
    keyOf piece ∈ ["nfsvers", "vers"] ∧ valueOf piece ≠ "4.2" ∨
    keyOf piece ∈ ["tcp", "tcp6"] ∧ keyOf piece ≠ requiredProto ∨
    keyOf piece = "proto" ∧ valueOf piece ≠ requiredProto ∨
    keyOf piece = "proto6" ∧ ¬(requiredProto = "tcp6" ∧ valueOf piece = "tcp") ∨
    keyOf piece = "port" ∧ valueOf piece ≠ "2049"

instance (requiredProto : String) (piece : Text) : Decidable (Conflicts requiredProto piece) :=
  inferInstanceAs (Decidable (_ ∨ _))

def pieces (flags : List Text) : List Text := ([','].intercalate flags).splitOn ','

variable {requiredProto : String} {flag : Text} {flags filtered : List Text}

theorem structural_iff {structural : Bool}
    (h : validateNFSStructuralMountOption flag requiredProto = .ok structural) :
    structural = true ↔ keyOf flag ∈ structuralKeys := by
  simp only [structuralKeys, List.mem_cons, List.not_mem_nil, or_false]
  cases structural with
  | true =>
    refine iff_of_true rfl (by_contra fun hkey => ?_)
    simp only [not_or] at hkey
    simp [validateNFSStructuralMountOption, hkey] at h
  | false =>
    refine iff_of_false (by simp) fun hkey => ?_
    unfold validateNFSStructuralMountOption conflict at h
    rcases hkey with hkey | hkey | hkey | hkey | hkey | hkey | hkey | hkey | hkey | hkey | hkey |
      hkey | hkey <;> simp [hkey, ite_eq_iff] at h

/-- The options that are kept are those with another key. -/
theorem mem_filterFlags (h : filterFlags requiredProto flags = .ok filtered) :
    ∀ flag, flag ∈ filtered ↔ flag ∈ flags ∧ keyOf flag ∉ structuralKeys := by
  induction flags generalizing filtered with
  | nil =>
    obtain rfl := Except.ok.inj h
    simp
  | cons flag flags ih =>
    rw [filterFlags] at h
    obtain ⟨structural, hflag, h⟩ := exists_of_bind_eq_ok h
    obtain ⟨rest, hrest, h⟩ := exists_of_bind_eq_ok h
    obtain rfl := Except.ok.inj h
    have hkey := structural_iff hflag
    intro f
    cases structural with
    | true =>
      rw [if_pos rfl, ih hrest, List.mem_cons]
      constructor
      · rintro ⟨hmem, hother⟩
        exact ⟨.inr hmem, hother⟩
      · rintro ⟨rfl | hmem, hother⟩
        · exact absurd (hkey.mp rfl) hother
        · exact ⟨hmem, hother⟩
    | false =>
      have hother : keyOf flag ∉ structuralKeys := fun hmem => by simpa using hkey.mpr hmem
      rw [if_neg (by simp), List.mem_cons, ih hrest, List.mem_cons]
      constructor
      · rintro (rfl | ⟨hmem, hf⟩)
        · exact ⟨.inl rfl, hother⟩
        · exact ⟨.inr hmem, hf⟩
      · rintro ⟨rfl | hmem, hf⟩
        · exact .inl rfl
        · exact .inr ⟨hmem, hf⟩

theorem mem_pieces (hne : flags ≠ []) {piece : Text} :
    piece ∈ pieces flags ↔ ∃ flag ∈ flags, piece ∈ flag.splitOn ',' := by
  obtain ⟨flag, flags, rfl⟩ := List.exists_cons_of_ne_nil hne
  rw [pieces, splitOn_intercalate_flatMap, List.mem_flatMap]

theorem requiredOptions_plain (serverIPv6 : Bool) : ∀ flag ∈ requiredOptions serverIPv6,
    ',' ∉ flag ∧ ¬ Conflicts (nfsMountTransport serverIPv6) flag := by
  cases serverIPv6 <;> decide +kernel

/-- An accepted list keeps the contract in the text that is mounted with exactly
if no comma piece of a kept user option asks for another kind of mount. -/
theorem nfsMountFlags_structural (decodeMountOptions : String → Except String (List Text))
    (volCtx : Option String) (mountFlags : List Text) (serverIPv6 : Bool) (options flags : List Text)
    (hoptions : collectNFSMountFlags decodeMountOptions volCtx mountFlags = .ok options)
    (h : nfsMountFlags decodeMountOptions volCtx mountFlags serverIPv6 = .ok flags) :
    ((∀ piece ∈ pieces flags, ¬ Conflicts (nfsMountTransport serverIPv6) piece) ∧
        ∀ option ∈ requiredOptions serverIPv6, option ∈ pieces flags) ↔
      ∀ flag ∈ options, keyOf flag ∉ structuralKeys →
        ∀ piece ∈ flag.splitOn ',', ¬ Conflicts (nfsMountTransport serverIPv6) piece := by
  obtain ⟨given, hgiven, h⟩ := exists_of_bind_eq_ok h
  obtain rfl := Except.ok.inj (hoptions.symm.trans hgiven)
  obtain ⟨filtered, hfiltered, h⟩ := exists_of_bind_eq_ok h
  obtain rfl := Except.ok.inj h
  have hne : filtered ++ requiredOptions serverIPv6 ≠ [] := by simp [requiredOptions]
  have hone : ∀ option ∈ requiredOptions serverIPv6, option.splitOn ',' = [option] :=
    fun option hoption => List.splitOn_eq_singleton (requiredOptions_plain serverIPv6 option hoption).1
  constructor
  · rintro ⟨hnone, -⟩ flag hflag hkey piece hpiece
    have hkept := (mem_filterFlags hfiltered flag).mpr ⟨hflag, hkey⟩
    exact hnone piece ((mem_pieces hne).mpr ⟨flag, List.mem_append_left _ hkept, hpiece⟩)
  · intro huser
    constructor
    · intro piece hpiece
      obtain ⟨flag, hflag, hpiece⟩ := (mem_pieces hne).mp hpiece
      rcases List.mem_append.mp hflag with hkept | hrequired
      · obtain ⟨hmem, hkey⟩ := (mem_filterFlags hfiltered flag).mp hkept
        exact huser flag hmem hkey piece hpiece
      · rw [hone flag hrequired, List.mem_singleton] at hpiece
        rw [hpiece]
        exact (requiredOptions_plain serverIPv6 flag hrequired).2
    · intro option hoption
      refine (mem_pieces hne).mpr ⟨option, List.mem_append_right _ hoption, ?_⟩
      rw [hone option hoption, List.mem_singleton]

/-- Options that agree with the contract, two in one text and one in another
spelling. -/
theorem nfsMountFlags_structural_user :
    ∃ flags, nfsMountFlags (fun _ => .ok []) none ["ro,noatime".toList, " VERS=4.2".toList] true =
        .ok flags ∧ "noatime".toList ∈ pieces flags ∧
      ∀ piece ∈ pieces flags, ¬ Conflicts (nfsMountTransport true) piece := by
  refine ⟨"ro,noatime".toList :: requiredOptions true, by decide +kernel, by decide +kernel, ?_⟩
  exact ((nfsMountFlags_structural (fun _ => .ok []) none
    ["ro,noatime".toList, " VERS=4.2".toList] true _ _ rfl (by decide +kernel)).mpr
      (by decide +kernel)).1

/-- A comma inside an option hides what follows it, and a version has spellings
without a key. -/
theorem nfsMountFlags_overridden :
    (nfsMountFlags (fun _ => .ok []) none ["ro,soft".toList] false).toOption.any
        (fun flags => ∃ piece ∈ pieces flags, Conflicts "tcp" piece) = true ∧
      (nfsMountFlags (fun _ => .ok []) none ["v3".toList] false).toOption.any
        (fun flags => ∃ piece ∈ pieces flags, Conflicts "tcp" piece) = true := by
  decide +kernel

end PillarCsi.NfsMountOptions
