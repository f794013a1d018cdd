import Mathlib

/-!
# HTTP/2 framing

`split` gives the complete frames of a stream and the bytes of the unfinished one. A stream that goes on keeps
the frames it had (`split_append`).
-/

namespace Http2

def fromBeBytes (bytes : List UInt8) : Nat := bytes.foldl (fun n byte => 256 * n + byte.toNat) 0

structure FrameHeader where
  length : Nat
  frameType : Nat
  flags : Nat
  stream : Nat
  deriving DecidableEq, Repr

structure Frame where
  header : FrameHeader
  payload : List UInt8
  deriving DecidableEq, Repr

/-- The highest bit of the stream identifier is reserved. -/
def FrameHeader.read (bytes : List UInt8) : FrameHeader :=
  { length := fromBeBytes (bytes.take 3), frameType := fromBeBytes ((bytes.drop 3).take 1),
    flags := fromBeBytes ((bytes.drop 4).take 1),
    stream := fromBeBytes ((bytes.drop 5).take 4) % 2 ^ 31 }

def takeFrame (bytes : List UInt8) : Option (Frame × List UInt8) :=
  if 9 ≤ bytes.length ∧ (FrameHeader.read bytes).length ≤ (bytes.drop 9).length then
    some (⟨.read bytes, (bytes.drop 9).take (FrameHeader.read bytes).length⟩,
      (bytes.drop 9).drop (FrameHeader.read bytes).length)
  else none

variable {bytes rest header : List UInt8} {frame : Frame}

theorem takeFrame_length (h : takeFrame bytes = some (frame, rest)) :
    rest.length < bytes.length := by
  rw [takeFrame] at h
  split_ifs at h with hwhole
  cases h
  rw [List.length_drop, List.length_drop]
  omega

def split (bytes : List UInt8) : List Frame × List UInt8 :=
  match h : takeFrame bytes with
  | none => ([], bytes)
  | some (frame, rest) =>
    have _ : rest.length < bytes.length := takeFrame_length h
    (frame :: (split rest).1, (split rest).2)
termination_by bytes.length

def frames (bytes : List UInt8) : List Frame := (split bytes).1

def unfinished (bytes : List UInt8) : List UInt8 := (split bytes).2

theorem frames_of_none (h : takeFrame bytes = none) : frames bytes = [] := by
  rw [frames, split.eq_def]
  split <;> simp_all

theorem unfinished_of_none (h : takeFrame bytes = none) : unfinished bytes = bytes := by
  rw [unfinished, split.eq_def]
  split <;> simp_all

theorem frames_of_some (h : takeFrame bytes = some (frame, rest)) :
    frames bytes = frame :: frames rest := by
  rw [frames, split.eq_def]
  split <;> simp_all [frames]

theorem unfinished_of_some (h : takeFrame bytes = some (frame, rest)) :
    unfinished bytes = unfinished rest := by
  rw [unfinished, split.eq_def]
  split <;> simp_all [unfinished]

theorem takeFrame_of_frames (h : frames bytes = []) : takeFrame bytes = none := by
  cases htake : takeFrame bytes with
  | none => rfl
  | some taken =>
    obtain ⟨frame, rest⟩ := taken
    rw [frames_of_some htake] at h
    cases h

theorem frames_induction {motive : List UInt8 → Prop}
    (rest : ∀ bytes, takeFrame bytes = none → motive bytes)
    (frame : ∀ bytes frame rest, takeFrame bytes = some (frame, rest) → motive rest → motive bytes)
    (bytes : List UInt8) : motive bytes := by
  induction hlength : bytes.length using Nat.strongRecOn generalizing bytes with
  | ind length ih =>
    cases htake : takeFrame bytes with
    | none => exact rest bytes htake
    | some taken =>
      obtain ⟨first, left⟩ := taken
      apply frame bytes first left htake
      exact ih left.length (hlength ▸ takeFrame_length htake) left rfl

theorem read_append {a : List UInt8} (b : List UInt8) (h : 9 ≤ a.length) :
    FrameHeader.read (a ++ b) = FrameHeader.read a := by
  simp only [FrameHeader.read]
  rw [List.take_append_of_le_length (by omega), List.drop_append_of_le_length (by omega),
    List.drop_append_of_le_length (by omega), List.drop_append_of_le_length (by omega),
    List.take_append_of_le_length (by rw [List.length_drop]; omega),
    List.take_append_of_le_length (by rw [List.length_drop]; omega),
    List.take_append_of_le_length (by rw [List.length_drop]; omega)]

theorem takeFrame_short (h : bytes.length < 9) : takeFrame bytes = none := by
  rw [takeFrame, if_neg]
  omega

theorem takeFrame_header (payload : List UInt8) (h : header.length = 9) :
    takeFrame (header ++ payload) =
      if (FrameHeader.read header).length ≤ payload.length then
        some (⟨.read header, payload.take (FrameHeader.read header).length⟩,
          payload.drop (FrameHeader.read header).length)
      else none := by
  have hdrop : (header ++ payload).drop 9 = payload := by rw [← h, List.drop_left]
  rw [takeFrame, read_append payload (Nat.le_of_eq h.symm), hdrop]
  congr 1
  rw [List.length_append]
  apply propext
  constructor
  · exact And.right
  · intro hpayload
    exact ⟨by omega, hpayload⟩

theorem takeFrame_whole {payload : List UInt8} (h : header.length = 9)
    (hpayload : payload.length = (FrameHeader.read header).length) :
    takeFrame (header ++ payload) = some (⟨.read header, payload⟩, []) := by
  rw [takeFrame_header payload h, if_pos (Nat.le_of_eq hpayload.symm), ← hpayload, List.take_length, List.drop_length]

theorem takeFrame_open {payload : List UInt8} (h : header.length = 9)
    (hpayload : payload.length < (FrameHeader.read header).length) :
    takeFrame (header ++ payload) = none := by
  rw [takeFrame_header payload h, if_neg (by omega)]

theorem takeFrame_nil : takeFrame [] = none := takeFrame_short (Nat.succ_pos 8)

theorem frames_nil : frames [] = [] := frames_of_none takeFrame_nil

theorem unfinished_nil : unfinished [] = [] := unfinished_of_none takeFrame_nil

theorem takeFrame_append {a : List UInt8} (b : List UInt8) (h : takeFrame a = some (frame, rest)) :
    takeFrame (a ++ b) = some (frame, rest ++ b) := by
  rw [takeFrame] at h
  split_ifs at h with hwhole
  obtain ⟨hnine, hpayload⟩ := hwhole
  cases h
  rw [takeFrame, read_append b hnine, List.drop_append_of_le_length hnine, if_pos]
  · rw [List.take_append_of_le_length hpayload, List.drop_append_of_le_length hpayload]
  · refine ⟨?_, ?_⟩
    · rw [List.length_append]
      omega
    · rw [List.length_append]
      omega

theorem frames_append (a b : List UInt8) :
    frames (a ++ b) = frames a ++ frames (unfinished a ++ b) := by
  induction a using frames_induction with
  | rest a htake => rw [frames_of_none htake, unfinished_of_none htake, List.nil_append]
  | frame _ _ _ htake ih =>
    rw [frames_of_some (takeFrame_append b htake), frames_of_some htake, unfinished_of_some htake, ih,
      List.cons_append]

theorem unfinished_append (a b : List UInt8) :
    unfinished (a ++ b) = unfinished (unfinished a ++ b) := by
  induction a using frames_induction with
  | rest a htake => rw [unfinished_of_none htake]
  | frame _ _ _ htake ih =>
    rw [unfinished_of_some (takeFrame_append b htake), unfinished_of_some htake, ih]

/-- The frames, and the header of the unfinished one if that is complete. -/
def headers (bytes : List UInt8) : List FrameHeader :=
  (frames bytes).map Frame.header ++
    if 9 ≤ (unfinished bytes).length then [.read (unfinished bytes)] else []

theorem headers_append (a b : List UInt8) :
    headers (a ++ b) = (frames a).map Frame.header ++ headers (unfinished a ++ b) := by
  rw [headers, headers, frames_append, unfinished_append, List.map_append, List.append_assoc]

theorem headers_short (h : bytes.length < 9) : headers bytes = [] := by
  have htake := takeFrame_short h
  rw [headers, frames_of_none htake, unfinished_of_none htake, if_neg (by omega)]
  rfl

theorem headers_nil : headers [] = [] := headers_short (Nat.succ_pos 8)

theorem headers_header (payload : List UInt8) (h : header.length = 9)
    (hpayload : payload.length ≤ (FrameHeader.read header).length) :
    headers (header ++ payload) = [.read header] := by
  rcases Nat.eq_or_lt_of_le hpayload with hwhole | hopen
  · have htake := takeFrame_whole h hwhole
    rw [headers, frames_of_some htake, unfinished_of_some htake, frames_nil, unfinished_nil]
    rfl
  · have htake := takeFrame_open h hopen
    rw [headers, frames_of_none htake, unfinished_of_none htake, if_pos,
      read_append payload (Nat.le_of_eq h.symm)]
    · rfl
    · rw [List.length_append]
      omega

theorem prefix_headers (a b : List UInt8) : headers a <+: headers (a ++ b) := by
  rw [headers_append, headers]
  apply (List.prefix_append_right_inj _).mpr
  split_ifs with hnine
  · rw [headers]
    cases htake : takeFrame (unfinished a ++ b) with
    | none =>
      rw [frames_of_none htake, unfinished_of_none htake, if_pos, read_append b hnine]
      · exact List.prefix_rfl
      · rw [List.length_append]
        omega
    | some taken =>
      obtain ⟨frame, rest⟩ := taken
      have hheader : frame.header = .read (unfinished a) := by
        rw [takeFrame] at htake
        split_ifs at htake
        cases htake
        exact read_append b hnine
      rw [frames_of_some htake, List.map_cons, hheader]
      exact List.prefix_append [FrameHeader.read (unfinished a)] _
  · exact List.nil_prefix

/-! ### SETTINGS -/

def settingPairs : List UInt8 → List (Nat × Nat)
  | a :: b :: c :: d :: e :: f :: rest =>
    (fromBeBytes [a, b], fromBeBytes [c, d, e, f]) :: settingPairs rest
  | _ => []

def lastValue (id : Nat) (pairs : List (Nat × Nat)) : Option Nat :=
  (pairs.reverse.find? fun pair => pair.1 == id).map Prod.snd

theorem settingPairs_short (h : bytes.length < 6) : settingPairs bytes = [] := by
  fun_cases settingPairs bytes with
  | case1 a b c d e f rest => simp at h; omega
  | case2 bytes hshort => rfl

theorem settingPairs_single {pair : List UInt8} (h : pair.length = 6) :
    settingPairs pair = [(fromBeBytes (pair.take 2), fromBeBytes (pair.drop 2))] := by
  obtain ⟨a, b, c, d, e, f, rfl⟩ : ∃ a b c d e f, pair = [a, b, c, d, e, f] := by
    match pair, h with
    | [a, b, c, d, e, f], _ => exact ⟨a, b, c, d, e, f, rfl⟩
  rfl

theorem settingPairs_append {whole : List UInt8} (rest : List UInt8) (h : whole.length % 6 = 0) :
    settingPairs (whole ++ rest) = settingPairs whole ++ settingPairs rest := by
  fun_induction settingPairs whole with
  | case1 a b c d e f whole ih =>
    simp only [List.length_cons] at h
    change _ :: settingPairs (whole ++ rest) = _
    rw [ih (by omega)]
    rfl
  | case2 whole hshort =>
    have hnil : whole = [] := by
      match whole, hshort, h with
      | [], _, _ => rfl
      | a :: b :: c :: d :: e :: f :: rest, hshort, _ => exact absurd rfl (hshort a b c d e f rest)
    rw [hnil]
    rfl

theorem prefix_settingPairs (bytes rest : List UInt8) : settingPairs bytes <+: settingPairs (bytes ++ rest) := by
  fun_induction settingPairs bytes with
  | case1 a b c d e f bytes ih => exact (List.prefix_cons_inj _).mpr ih
  | case2 bytes hshort => exact List.nil_prefix

theorem lastValue_concat (id : Nat) (pairs : List (Nat × Nat)) (pair : Nat × Nat) :
    lastValue id (pairs ++ [pair]) = if pair.1 = id then some pair.2 else lastValue id pairs := by
  rw [lastValue, List.reverse_append, List.reverse_singleton, List.singleton_append, List.find?_cons]
  split_ifs with heq
  · rw [beq_iff_eq.mpr heq]
    rfl
  · rw [beq_eq_false_iff_ne.mpr heq]
    rfl

end Http2
