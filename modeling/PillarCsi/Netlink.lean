import PillarCsi.ByteCodes

/-!
The framing of netlink messages (`iscsi/uevent.go`).
-/

namespace PillarCsi.Netlink

open ByteCodes

/-- A number in the byte order of the host. -/
def put (big : Bool) (width n : Nat) : List UInt8 :=
  if big then (putUint width n).reverse else putUint width n

def get (big : Bool) (b : List UInt8) : Nat := getUint (if big then b.reverse else b)

def nlmsgHdrLen : Nat := 16

def nlmsgAlign (n : Nat) : Nat := (n + 3) / 4 * 4

variable (big : Bool)

structure Request where
  (type flags : UInt16)
  (seq pid : UInt32)
  payload : List UInt8

def Request.total (r : Request) : Nat := nlmsgAlign (nlmsgHdrLen + r.payload.length)

def Request.header (r : Request) : List UInt8 :=
  put big 4 r.total ++ put big 2 r.type.toNat ++ put big 2 r.flags.toNat ++
    put big 4 r.seq.toNat ++ put big 4 r.pid.toNat

def Request.padded (r : Request) : List UInt8 :=
  r.payload ++ List.replicate (r.total - nlmsgHdrLen - r.payload.length) 0

def encodeNlmsg (r : Request) : List UInt8 := r.header big ++ r.padded

structure Nlmsg where
  type : UInt16
  seq : UInt32
  data : List UInt8

def nlmsg (header data : List UInt8) : Nlmsg where
  type := .ofNat (get big ((header.drop 4).take 2))
  seq := .ofNat (get big ((header.drop 8).take 4))
  data := data

/-- The messages of a datagram, and the length that ends it when it lies outside
of the buffer. -/
def parseNlmsgs (b : List UInt8) : List Nlmsg × Option Nat :=
  if b.length < nlmsgHdrLen then ([], none)
  else
    let l := get big (b.take 4)
    if l < nlmsgHdrLen ∨ b.length < l then ([], some l)
    else
      let msg := nlmsg big (b.take nlmsgHdrLen) ((b.take l).drop nlmsgHdrLen)
      if b.length < nlmsgAlign l then ([msg], none)
      else
        let rest := parseNlmsgs (b.drop (nlmsgAlign l))
        (msg :: rest.1, rest.2)
termination_by b.length
decreasing_by
  simp only [nlmsgHdrLen, nlmsgAlign, List.length_drop] at *
  omega

/-- The messages that a buffer starts with, each of them complete; the padding of
the last one may be missing. -/
inductive Leading : List UInt8 → List Nlmsg → Prop
  | nil (b : List UInt8) : Leading b []
  | cons {header data tail : List UInt8} {msgs : List Nlmsg} (hheader : header.length = nlmsgHdrLen)
      (hlength : get big (header.take 4) = nlmsgHdrLen + data.length)
      (hrest : Leading (tail.drop (nlmsgAlign data.length - data.length)) msgs) :
      Leading (header ++ data ++ tail) (nlmsg big header data :: msgs)

/-- The parts stand in the buffer one behind the other. -/
def Slices : List UInt8 → List (List UInt8) → Prop
  | _, [] => True
  | b, part :: parts => ∃ front back, b = front ++ part ++ back ∧ Slices back parts

theorem Slices.of_drop {n : Nat} {b : List UInt8} {parts : List (List UInt8)}
    (h : Slices (b.drop n) parts) : Slices b parts := by
  cases parts with
  | nil => trivial
  | cons part parts =>
    obtain ⟨front, back, heq, hrest⟩ := h
    refine ⟨b.take n ++ front, back, ?_, hrest⟩
    rw [List.append_assoc, List.append_assoc, ← List.append_assoc front, ← heq,
      List.take_append_drop]

variable {big} {b : List UInt8} {msgs : List Nlmsg}

theorem Leading.slices (h : Leading big b msgs) : Slices b (msgs.map (·.data)) := by
  induction h with
  | nil => trivial
  | cons _ _ _ ih => exact ⟨_, _, rfl, ih.of_drop⟩

theorem parseNlmsgs_frame {header data tail : List UInt8} (hheader : header.length = nlmsgHdrLen)
    (hlength : get big (header.take 4) = nlmsgHdrLen + data.length) :
    parseNlmsgs big (header ++ data ++ tail) =
      (nlmsg big header data ::
          (parseNlmsgs big (tail.drop (nlmsgAlign data.length - data.length))).1,
        (parseNlmsgs big (tail.drop (nlmsgAlign data.length - data.length))).2) := by
  have htake : (header ++ data ++ tail).take 4 = header.take 4 := by
    rw [List.append_assoc, List.take_append_of_le_length (by simp [hheader, nlmsgHdrLen])]
  have hfront : (header ++ data ++ tail).take nlmsgHdrLen = header := by
    rw [List.append_assoc, ← hheader, List.take_left]
  have hdata : ((header ++ data ++ tail).take (nlmsgHdrLen + data.length)).drop nlmsgHdrLen =
      data := by
    rw [← hheader, ← List.length_append, List.take_left, List.drop_left]
  have hadv : nlmsgAlign (nlmsgHdrLen + data.length) =
      nlmsgHdrLen + data.length + (nlmsgAlign data.length - data.length) := by
    simp only [nlmsgAlign, nlmsgHdrLen]
    omega
  rw [parseNlmsgs, if_neg (by simp [hheader])]
  simp only [htake, hlength, hfront, hdata, hadv]
  rw [if_neg (by simp [hheader])]
  split
  · -- the padding of the last message is missing
    rename_i hshort
    simp only [List.length_append, hheader] at hshort
    rw [List.drop_eq_nil_of_le (by omega), parseNlmsgs, if_pos (by simp [nlmsgHdrLen])]
  · have hdrop : ∀ n, (header ++ data ++ tail).drop (nlmsgHdrLen + data.length + n) =
        tail.drop n := by
      intro n
      rw [← hheader, ← List.length_append, ← List.drop_drop, List.drop_left]
    rw [hdrop]

theorem leading_parseNlmsgs (big : Bool) (b : List UInt8) :
    Leading big b (parseNlmsgs big b).1 := by
  induction hsize : b.length using Nat.strong_induction_on generalizing b with
  | _ size ih =>
    by_cases hshort : b.length < nlmsgHdrLen
    · rw [parseNlmsgs, if_pos hshort]
      exact .nil b
    by_cases hl : get big (b.take 4) < nlmsgHdrLen ∨ b.length < get big (b.take 4)
    · rw [parseNlmsgs, if_neg hshort]
      simp only [if_pos hl]
      exact .nil b
    · rw [not_or, not_lt, not_lt] at hl
      rw [not_lt] at hshort
      have hheader : (b.take nlmsgHdrLen).length = nlmsgHdrLen := List.length_take_of_le hshort
      have hlength : get big ((b.take nlmsgHdrLen).take 4) =
          nlmsgHdrLen + ((b.take (get big (b.take 4))).drop nlmsgHdrLen).length := by
        rw [List.length_drop, List.length_take_of_le hl.2, List.take_take]
        exact (Nat.add_sub_cancel' hl.1).symm
      have hsplit : b = b.take nlmsgHdrLen ++ (b.take (get big (b.take 4))).drop nlmsgHdrLen ++
          b.drop (get big (b.take 4)) := by
        conv_lhs => rw [← List.take_append_drop (get big (b.take 4)) b,
          ← List.take_append_drop nlmsgHdrLen (b.take (get big (b.take 4))), List.take_take,
          Nat.min_eq_left hl.1]
      rw [hsplit, parseNlmsgs_frame hheader hlength]
      refine .cons hheader hlength (ih _ ?_ _ rfl)
      simp only [List.length_drop]
      simp only [nlmsgHdrLen] at hl hshort
      omega

theorem Leading.isPrefix (h : Leading big b msgs) : msgs <+: (parseNlmsgs big b).1 := by
  induction h with
  | nil => exact List.nil_prefix
  | cons hheader hlength _ ih =>
    rw [parseNlmsgs_frame hheader hlength]
    exact List.cons_prefix_cons.mpr ⟨rfl, ih⟩

@[simp] theorem length_put (width n : Nat) : (put big width n).length = width := by
  unfold put
  split <;> simp

theorem get_put {width n : Nat} (h : n < 256 ^ width) : get big (put big width n) = n := by
  cases big <;> simp [get, put, getUint_putUint h]

theorem parseNlmsgs_encodeNlmsg {r : Request} (h : r.total < 2 ^ 32) (rest : List UInt8) :
    parseNlmsgs big (encodeNlmsg big r ++ rest) =
      (⟨r.type, r.seq, r.padded⟩ :: (parseNlmsgs big rest).1, (parseNlmsgs big rest).2) := by
  have hheader : (r.header big).length = nlmsgHdrLen := by simp [Request.header, nlmsgHdrLen]
  have hpadded : r.padded.length = r.total - nlmsgHdrLen ∧ nlmsgHdrLen ≤ r.total ∧
      nlmsgAlign r.padded.length = r.padded.length := by
    simp only [Request.padded, Request.total, nlmsgAlign, nlmsgHdrLen, List.length_append,
      List.length_replicate]
    omega
  have hlength : get big ((r.header big).take 4) = nlmsgHdrLen + r.padded.length := by
    have htake : (r.header big).take 4 = put big 4 r.total := by
      simp [Request.header]
    rw [htake, get_put h]
    omega
  have hmsg : nlmsg big (r.header big) r.padded = ⟨r.type, r.seq, r.padded⟩ := by
    have htype : ((r.header big).drop 4).take 2 = put big 2 r.type.toNat := by
      simp [Request.header]
    have hseq : ((r.header big).drop 8).take 4 = put big 4 r.seq.toNat := by
      simp [Request.header, List.drop_append, List.drop_eq_nil_of_le]
    rw [nlmsg, htype, hseq, get_put r.type.toNat_lt, get_put r.seq.toNat_lt]
    simp
  rw [encodeNlmsg, parseNlmsgs_frame hheader hlength, hmsg, hpadded.2.2, Nat.sub_self, List.drop_zero]

/-- Messages that were encoded are read back one by one, their payloads with at
most three zero bytes behind them; and of any buffer at all exactly the complete
messages at its front are read, with the parts of the buffer as payloads. -/
theorem netlink_framing (big : Bool) :
    (∀ rs : List Request, (∀ r ∈ rs, r.total < 2 ^ 32) →
      parseNlmsgs big (rs.flatMap (encodeNlmsg big)) =
        (rs.map fun r => ⟨r.type, r.seq, r.padded⟩, none)) ∧
      (∀ r : Request, ∃ zeros ≤ 3, r.padded = r.payload ++ List.replicate zeros 0) ∧
      ∀ b, Slices b ((parseNlmsgs big b).1.map (·.data)) ∧ Leading big b (parseNlmsgs big b).1 ∧
        ∀ msgs, Leading big b msgs → msgs <+: (parseNlmsgs big b).1 := by
  refine ⟨fun rs h => ?_, fun r => ⟨_, ?_, rfl⟩, fun b => ?_⟩
  · induction rs with
    | nil =>
      rw [List.flatMap_nil, parseNlmsgs, if_pos (by simp [nlmsgHdrLen])]
      rfl
    | cons r rs ih =>
      rw [List.forall_mem_cons] at h
      rw [List.flatMap_cons, parseNlmsgs_encodeNlmsg h.1, ih h.2]
      rfl
  · simp only [Request.total, nlmsgAlign, nlmsgHdrLen]
    omega
  · have hleading := leading_parseNlmsgs big b
    exact ⟨hleading.slices, hleading, fun _ h => h.isPrefix⟩

theorem netlink_framing_pair :
    parseNlmsgs false (encodeNlmsg false ⟨1, 0, 5, 0, [7]⟩ ++ encodeNlmsg false ⟨2, 0, 6, 0, []⟩) =
      ([⟨1, 5, [7, 0, 0, 0]⟩, ⟨2, 6, []⟩], none) :=
  (netlink_framing false).1 [⟨1, 0, 5, 0, [7]⟩, ⟨2, 0, 6, 0, []⟩] (by decide)

end PillarCsi.Netlink
