import PillarCsi.SeparatedNames

/-!
The text of an iSCSI login (`internal/iscsi/pdu.go`) and the exchange that
collects it (`exchangeComplete` of `internal/iscsi/login.go`).
-/

namespace PillarCsi.LoginText

open SeparatedNames

structure TextKV where
  (key value : List UInt8)
  deriving DecidableEq

structure LoginRequest where
  transit : Bool := false
  csg : UInt8
  nsg : UInt8 := 0
  isid : List UInt8
  (tsih cid : UInt16)
  expStatSN : UInt32
  data : List UInt8 := []
  deriving DecidableEq

structure LoginResponse where
  transit : Bool := false
  continue_ : Bool := false
  csg : UInt8 := 0
  nsg : UInt8 := 0
  versionActive : UInt8 := 0
  isid : List UInt8
  tsih : UInt16 := 0
  statSN : UInt32 := 0
  statusClass : UInt8 := 0
  statusDetail : UInt8 := 0
  data : List UInt8
  deriving DecidableEq

inductive ExchangeError where
  | noAnswer
  | isidMismatch
  | malformedPair (pair : List UInt8)
  | continuedBeyondLimit
  deriving DecidableEq

def encodeText (kvs : List TextKV) : List UInt8 :=
  kvs.flatMap fun kv => (kv.key ++ 61 :: kv.value) ++ [0]

def decodePair (f : List UInt8) : Except ExchangeError TextKV :=
  if 61 ∉ f ∨ f.takeWhile (· ≠ 61) = [] then .error (.malformedPair f)
  else .ok ⟨f.takeWhile (· ≠ 61), (f.dropWhile (· ≠ 61)).drop 1⟩

def decodeText (data : List UInt8) : Except ExchangeError (List TextKV) :=
  ((data.splitOn 0).filter (· ≠ [])).mapM decodePair

def maxLoginRounds : Nat := 32

/-- How a target answers: any function of the requests it has had so far. -/
abbrev LoginExchanger := List LoginRequest → Except ExchangeError LoginResponse

structure Wire where
  sent : List LoginRequest := []
  expStatSN : UInt32 := 0
  deriving DecidableEq

def exchangeRounds (ex : LoginExchanger) : Nat → LoginRequest → List UInt8 → Wire →
    Except ExchangeError (LoginResponse × List TextKV) × Wire
  | 0, _, _, w => (.error .continuedBeyondLimit, w)
  | rounds + 1, req, buf, w =>
    let sent := w.sent ++ [req]
    match ex sent with
    | .error err => (.error err, { w with sent })
    | .ok resp =>
      -- A target that rejects the login early answers with a zeroed ISID.
      if resp.statusClass = 0 ∧ req.isid ≠ resp.isid then (.error .isidMismatch, { w with sent })
      else
        let w := { sent, expStatSN := resp.statSN + 1 }
        let buf := buf ++ resp.data
        if resp.statusClass ≠ 0 ∨ !resp.continue_ then ((decodeText buf).map (resp, ·), w)
        else
          exchangeRounds ex rounds
            { csg := req.csg, isid := req.isid, tsih := req.tsih, cid := req.cid
              expStatSN := w.expStatSN } buf w

def exchangeComplete (ex : LoginExchanger) (req : LoginRequest) (w : Wire) :
    Except ExchangeError (LoginResponse × List TextKV) × Wire :=
  exchangeRounds ex maxLoginRounds req [] w

/-- A pair whose key and value the encoding can tell apart. -/
structure TextKV.Encodable (kv : TextKV) : Prop where
  key_ne_nil : kv.key ≠ []
  eq_notMem_key : 61 ∉ kv.key
  nul_notMem_key : 0 ∉ kv.key
  nul_notMem_value : 0 ∉ kv.value

theorem decodePair_encoded {kv : TextKV} (h : kv.Encodable) :
    decodePair (kv.key ++ 61 :: kv.value) = .ok kv := by
  have hkey : ∀ b ∈ kv.key, decide (b ≠ 61) = true := by
    intro b hb
    rw [decide_eq_true_eq]
    rintro rfl
    exact h.eq_notMem_key hb
  have htake : (kv.key ++ 61 :: kv.value).takeWhile (· ≠ 61) = kv.key := by
    rw [List.takeWhile_append_of_pos hkey]
    simp
  have hdrop : (kv.key ++ 61 :: kv.value).dropWhile (· ≠ 61) = 61 :: kv.value := by
    rw [List.dropWhile_append_of_pos hkey]
    simp
  unfold decodePair
  rw [htake, hdrop, if_neg (by simp [h.key_ne_nil])]
  rfl

theorem decodeText_encodeText {kvs : List TextKV} (h : ∀ kv ∈ kvs, kv.Encodable) :
    decodeText (encodeText kvs) = .ok kvs := by
  induction kvs with
  | nil => rfl
  | cons kv kvs ih =>
    have hkv := h kv (by simp)
    have hnul : (0 : UInt8) ∉ kv.key ++ 61 :: kv.value := by
      simp [hkv.nul_notMem_key, hkv.nul_notMem_value]
    have hrest : decodeText (encodeText kvs) = .ok kvs := ih fun kv' hmem => h kv' (by simp [hmem])
    have hsplit : (encodeText (kv :: kvs)).splitOn 0 =
        (kv.key ++ 61 :: kv.value) :: (encodeText kvs).splitOn 0 := by
      have hcons : encodeText (kv :: kvs) = (kv.key ++ 61 :: kv.value) ++ 0 :: encodeText kvs := by
        simp [encodeText]
      rw [hcons, splitOn_append_cons, List.splitOn_eq_singleton hnul, List.singleton_append]
    unfold decodeText at hrest ⊢
    rw [hsplit, List.filter_cons_of_pos (by simp), List.mapM_cons, decodePair_encoded hkv, hrest]
    rfl

/-- To the requests after `sent`, the target answers with the chunks of its text,
each with the continue bit, and the last one without. -/
structure Segmented (ex : LoginExchanger) (isid : List UInt8) (sent : List LoginRequest)
    (chunks : List LoginResponse) (last : LoginResponse) : Prop where
  continues : ∀ resp ∈ chunks, resp.continue_ = true
  ends : last.continue_ = false
  accepted : ∀ resp ∈ chunks ++ [last], resp.statusClass = 0 ∧ resp.isid = isid
  answers : ∀ requests resp, (chunks ++ [last])[requests.length]? = some resp →
    ∀ req, ex (sent ++ requests ++ [req]) = .ok resp

section Exchange

variable {ex : LoginExchanger} {isid : List UInt8} {sent : List LoginRequest}
  {chunk last : LoginResponse} {chunks : List LoginResponse}

theorem Segmented.tail (h : Segmented ex isid sent (chunk :: chunks) last) (req : LoginRequest) :
    Segmented ex isid (sent ++ [req]) chunks last where
  continues resp hmem := h.continues resp (by simp [hmem])
  ends := h.ends
  accepted resp hmem := h.accepted resp (.tail _ hmem)
  answers requests resp hget r := by
    simpa using h.answers (req :: requests) resp (by simpa using hget) r

/-- Every chunk but the last is only collected. -/
theorem exchangeRounds_chunks {kvs : List TextKV} (hkvs : ∀ kv ∈ kvs, kv.Encodable) {w : Wire}
    (h : Segmented ex isid w.sent chunks last) {rounds : Nat} (hrounds : chunks.length ≤ rounds)
    {req : LoginRequest} (hreq : req.isid = isid) {buf : List UInt8}
    (htext : buf ++ (chunks ++ [last]).flatMap (·.data) = encodeText kvs) :
    (exchangeRounds ex (rounds + 1) req buf w).1 = .ok (last, kvs) := by
  induction chunks generalizing rounds req buf w with
  | nil =>
    obtain ⟨hstatus, hisid⟩ := h.accepted last (by simp)
    have hanswer : ex (w.sent ++ [req]) = .ok last := by simpa using h.answers [] last rfl req
    have hdecode : decodeText (buf ++ last.data) = .ok kvs := by
      rw [← decodeText_encodeText hkvs, ← htext]
      simp
    simp [exchangeRounds, hanswer, hstatus, hisid, hreq, h.ends, hdecode, Except.map]
  | cons chunk chunks ih =>
    rw [List.length_cons] at hrounds
    obtain ⟨rounds, rfl⟩ : ∃ n, rounds = n + 1 := ⟨rounds - 1, by omega⟩
    obtain ⟨hstatus, hisid⟩ := h.accepted chunk (by simp)
    have hanswer : ex (w.sent ++ [req]) = .ok chunk := by simpa using h.answers [] chunk rfl req
    rw [exchangeRounds]
    simp only [hanswer, hstatus, hisid, hreq, h.continues chunk (by simp), ne_eq,
      not_true_eq_false, and_false, or_self, Bool.not_true, Bool.false_eq_true, if_false]
    exact ih (h.tail req) (by omega) rfl (by simpa using htext)

end Exchange

/-- The text comes back whole from every segmentation. -/
theorem exchangeComplete_text (ex : LoginExchanger) (req : LoginRequest) (w : Wire)
    (kvs : List TextKV) (hkvs : ∀ kv ∈ kvs, kv.Encodable) (chunks : List LoginResponse)
    (last : LoginResponse) (h : Segmented ex req.isid w.sent chunks last)
    (hlimit : chunks.length + 1 ≤ maxLoginRounds)
    (htext : (chunks ++ [last]).flatMap (·.data) = encodeText kvs) :
    (exchangeComplete ex req w).1 = .ok (last, kvs) :=
  exchangeRounds_chunks hkvs h (Nat.le_of_succ_le_succ hlimit) rfl htext

/-- `A=1`, `B=` cut inside the first pair and before the separator of the second. -/
theorem exchangeComplete_text_split : (exchangeComplete (fun sent => match sent.length with
        | 1 => .ok { continue_ := true, isid := [1], data := [65] }
        | 2 => .ok { continue_ := true, isid := [1], data := [61, 49, 0, 66] }
        | _ => .ok { isid := [1], data := [61, 0] })
      { csg := 1, isid := [1], tsih := 0, cid := 0, expStatSN := 0 } {}).1 =
        .ok ({ isid := [1], data := [61, 0] }, [⟨[65], [49]⟩, ⟨[66], []⟩]) := by
  refine exchangeComplete_text _ _ _ _ ?_ [{ continue_ := true, isid := [1], data := [65] },
    { continue_ := true, isid := [1], data := [61, 49, 0, 66] }] _
    ⟨by decide, rfl, by decide, fun requests resp hget r => ?_⟩ (by decide) rfl
  · simp only [List.mem_cons, List.not_mem_nil, or_false]
    rintro kv (rfl | rfl) <;> constructor <;> decide
  · match requests with
    | [] | [_] | [_, _] => simp at hget ⊢; exact hget
    | _ :: _ :: _ :: _ => simp at hget

end PillarCsi.LoginText
