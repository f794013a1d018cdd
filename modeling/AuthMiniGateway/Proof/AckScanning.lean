import AuthMiniGateway.H2Reference

namespace AuthMiniGateway

open Http2

/-! ### Verdicts -/

theorem outboundVerdict_preface {outbound : List UInt8} (hshort : outbound.length ≤ h2ClientPreface.length)
    (h : outbound ≠ h2ClientPreface.take outbound.length) (next : List UInt8) :
    outboundVerdict (outbound ++ next) = .violated := by
  rw [outboundVerdict, if_pos]
  intro heq
  have htake := congrArg (List.take outbound.length) heq
  rw [List.take_take, List.take_take, Nat.min_eq_left hshort, List.take_left, List.length_append,
    Nat.min_eq_left (Nat.le_add_right _ _)] at htake
  exact h htake

theorem outboundVerdict_frames (rest : List UInt8) :
    outboundVerdict (h2ClientPreface ++ rest) = ackVerdict (headers rest) := by
  have hlong : h2ClientPreface.take (h2ClientPreface ++ rest).length = h2ClientPreface := by
    apply List.take_of_length_le
    rw [List.length_append]
    exact Nat.le_add_right _ _
  rw [outboundVerdict, List.take_left, hlong, if_neg (not_not_intro rfl), List.drop_left]

theorem outboundVerdict_short {outbound : List UInt8} (hshort : outbound.length < h2ClientPreface.length)
    (h : outbound = h2ClientPreface.take outbound.length) : outboundVerdict outbound = .pending := by
  rw [outboundVerdict, List.take_of_length_le (Nat.le_of_lt hshort), if_neg (not_not_intro h),
    List.drop_of_length_le (Nat.le_of_lt hshort), headers_nil]
  rfl

theorem find?_ack_none {headers : List FrameHeader} (h : ∀ header ∈ headers, ¬AckHeader header) :
    headers.find? (fun header => AckHeader header) = none := by
  rw [List.find?_eq_none]
  intro header hmem
  exact mt of_decide_eq_true (h header hmem)

theorem ackVerdict_none {headers : List FrameHeader} (h : ∀ header ∈ headers, ¬AckHeader header) :
    ackVerdict headers = .pending := by
  rw [ackVerdict, find?_ack_none h]

theorem ackVerdict_concat {headers : List FrameHeader} {ack : FrameHeader}
    (h : ∀ header ∈ headers, ¬AckHeader header) (hack : AckHeader ack) :
    ackVerdict (headers ++ [ack]) =
      if ack.length = 0 ∧ ack.stream = 0 then .accepted () else .violated := by
  have hfind : (headers ++ [ack]).find? (fun header => AckHeader header) = some ack := by
    rw [List.find?_append, find?_ack_none h, Option.none_or]
    exact List.find?_cons_of_pos (decide_eq_true hack)
  rw [ackVerdict, hfind]

theorem ackVerdict_prefix {before after : List FrameHeader} (h : before <+: after)
    (hdecided : ackVerdict before ≠ .pending) : ackVerdict after = ackVerdict before := by
  cases hfind : before.find? fun header => AckHeader header with
  | none =>
    rw [ackVerdict, hfind] at hdecided
    exact absurd rfl hdecided
  | some => rw [ackVerdict, h.find?_eq_some hfind, ackVerdict, hfind]

theorem outbound_cases (outbound : List UInt8) :
    (∃ front next, outbound = front ++ next ∧ front.length ≤ h2ClientPreface.length ∧
        front ≠ h2ClientPreface.take front.length) ∨
      (outbound.length < h2ClientPreface.length ∧ outbound = h2ClientPreface.take outbound.length) ∨
      ∃ rest, outbound = h2ClientPreface ++ rest := by
  rcases Nat.lt_or_ge outbound.length h2ClientPreface.length with hshort | hlong
  · by_cases hagrees : outbound = h2ClientPreface.take outbound.length
    · exact .inr (.inl ⟨hshort, hagrees⟩)
    · exact .inl ⟨outbound, [], (List.append_nil _).symm, Nat.le_of_lt hshort, hagrees⟩
  · have hsplit := (List.take_append_drop h2ClientPreface.length outbound).symm
    have hlength := List.length_take_of_le hlong
    by_cases hagrees : outbound.take h2ClientPreface.length = h2ClientPreface
    · rw [hagrees] at hsplit
      exact .inr (.inr ⟨_, hsplit⟩)
    · refine .inl ⟨_, _, hsplit, Nat.le_of_eq hlength, ?_⟩
      rw [hlength, List.take_length]
      exact hagrees

theorem outboundVerdict_append {outbound : List UInt8} (next : List UInt8)
    (h : outboundVerdict outbound ≠ .pending) :
    outboundVerdict (outbound ++ next) = outboundVerdict outbound := by
  rcases outbound_cases outbound with ⟨front, left, rfl, hlength, hleaves⟩ | ⟨hshort, hagrees⟩ | ⟨rest, rfl⟩
  · rw [List.append_assoc, outboundVerdict_preface hlength hleaves, outboundVerdict_preface hlength hleaves]
  · exact absurd (outboundVerdict_short hshort hagrees) h
  · rw [outboundVerdict_frames] at h
    rw [List.append_assoc, outboundVerdict_frames, outboundVerdict_frames]
    exact ackVerdict_prefix (prefix_headers rest next) h

/-! ### The scanner -/

inductive FrameCounted (bytes : List UInt8) (p : ClientAckParser) : Prop
  | header (hshort : bytes.length < 9) (hidle : p.payloadRemaining = 0) (hheader : p.header = bytes)
  | payload (header payload : List UInt8) (hbytes : bytes = header ++ payload) (hnine : header.length = 9)
      (hheader : p.header = [])
      (hremaining : p.payloadRemaining = (FrameHeader.read header).length - payload.length)
      (hless : payload.length < (FrameHeader.read header).length)

theorem frameCounted {header : List UInt8} (payload : List UInt8) {p : ClientAckParser}
    (hnine : header.length = 9) (hpayload : payload.length ≤ (FrameHeader.read header).length)
    (hheader : p.header = [])
    (hremaining : p.payloadRemaining = (FrameHeader.read header).length - payload.length) :
    FrameCounted (unfinished (header ++ payload)) p := by
  rcases Nat.eq_or_lt_of_le hpayload with hwhole | hopen
  · rw [unfinished_of_some (takeFrame_whole hnine hwhole), unfinished_nil]
    exact .header (Nat.succ_pos 8) (by omega) hheader
  · rw [unfinished_of_none (takeFrame_open hnine hopen)]
    exact .payload header payload rfl hnine hheader hremaining hopen

inductive AckFollows (outbound : List UInt8) (p : ClientAckParser) : Prop
  | preface (hshort : outbound.length < h2ClientPreface.length)
      (hagrees : outbound = h2ClientPreface.take outbound.length)
      (hlen : p.prefaceLen = outbound.length) (hheader : p.header = []) (hidle : p.payloadRemaining = 0)
      (hseen : p.ackSeen = false)
  | frames (rest : List UInt8) (houtbound : outbound = h2ClientPreface ++ rest)
      (hlen : p.prefaceLen = h2ClientPreface.length)
      (hnone : ∀ header ∈ headers rest, ¬AckHeader header)
      (hcounted : FrameCounted (unfinished rest) p) (hseen : p.ackSeen = false)

theorem AckFollows.verdict {outbound : List UInt8} {p : ClientAckParser} (h : AckFollows outbound p) :
    outboundVerdict outbound = .pending := by
  cases h with
  | preface hshort hagrees => exact outboundVerdict_short hshort hagrees
  | frames _ houtbound _ hnone => rw [houtbound, outboundVerdict_frames, ackVerdict_none hnone]

theorem AckFollows.seen {outbound : List UInt8} {p : ClientAckParser} (h : AckFollows outbound p) :
    p.ackSeen = false := by
  cases h with
  | preface hshort hagrees hlen hheader hidle hseen
  | frames _ _ _ _ _ hseen => exact hseen

theorem AckFollows.start : AckFollows [] .default :=
  .preface (by decide) rfl rfl rfl rfl rfl

namespace ClientAckParser

def Advances (outbound chunk : List UInt8) : Turn → Prop
  | .failed _ => ∃ next rest, chunk = next ++ rest ∧ outboundVerdict (outbound ++ next) = .violated
  | .done p => p.ackSeen = true ∧
      ∃ next rest, chunk = next ++ rest ∧ outboundVerdict (outbound ++ next) = .accepted ()
  | .again p rest => ∃ next, chunk = next ++ rest ∧ AckFollows (outbound ++ next) p

theorem agrees_append {outbound : List UInt8} (hagrees : outbound = h2ClientPreface.take outbound.length)
    (next : List UInt8) :
    outbound ++ next = h2ClientPreface.take (outbound ++ next).length ↔
      next = (h2ClientPreface.drop outbound.length).take next.length := by
  rw [List.length_append, List.take_add, ← hagrees, List.append_cancel_left_eq]

theorem prefaceTurn_advances {outbound : List UInt8} {p : ClientAckParser}
    (hshort : outbound.length < h2ClientPreface.length)
    (hagrees : outbound = h2ClientPreface.take outbound.length) (hlen : p.prefaceLen = outbound.length)
    (hheader : p.header = []) (hidle : p.payloadRemaining = 0) (hseen : p.ackSeen = false)
    (chunk : List UInt8) : Advances outbound chunk (p.turn chunk) := by
  rw [turn, if_pos (hlen ▸ hshort)]
  simp only [hlen]
  -- the piece of the preface that is compared in this turn
  generalize hcopied : min (h2ClientPreface.length - outbound.length) chunk.length = copied
  have hnext : (chunk.take copied).length = copied := List.length_take_of_le (by omega)
  have hlength : (outbound ++ chunk.take copied).length = outbound.length + copied := by
    rw [List.length_append, hnext]
  have hagree := agrees_append hagrees (chunk.take copied)
  rw [hnext] at hagree
  split_ifs with hleaves
  · refine ⟨chunk.take copied, chunk.drop copied, (List.take_append_drop _ _).symm, ?_⟩
    rw [← List.append_nil (outbound ++ _)]
    apply outboundVerdict_preface
    · omega
    · exact fun h => hleaves (hagree.mp h)
  · refine ⟨chunk.take copied, (List.take_append_drop _ _).symm, ?_⟩
    have hfollows := hagree.mpr (not_not.mp hleaves)
    rcases Nat.lt_or_ge (outbound ++ chunk.take copied).length h2ClientPreface.length with hless | hdone
    · exact .preface hless hfollows hlength.symm hheader hidle hseen
    · rw [List.take_of_length_le hdone] at hfollows
      refine .frames [] (hfollows.trans (List.append_nil _).symm) ?_ ?_ ?_ hseen
      · change outbound.length + copied = _
        rw [← hlength, hfollows]
      · rw [headers_nil]
        exact fun _ hmem => absurd hmem List.not_mem_nil
      · rw [unfinished_nil]
        exact .header (Nat.succ_pos 8) hidle hheader

theorem headerTurn_advances {rest next : List UInt8} (left : List UInt8) {p : ClientAckParser}
    (hlen : p.prefaceLen = h2ClientPreface.length)
    (hnone : ∀ header ∈ headers rest, ¬AckHeader header) (hseen : p.ackSeen = false)
    (hnine : (unfinished rest ++ next).length = 9) (hshort : (unfinished rest).length < 9) :
    Advances (h2ClientPreface ++ rest) (next ++ left)
      (p.headerTurn (unfinished rest ++ next) left) := by
  generalize hhead : unfinished rest ++ next = head at hnine ⊢
  have hheaders : headers (rest ++ next) = headers rest ++ [.read head] := by
    have hone := headers_header [] hnine (Nat.zero_le _)
    rw [List.append_nil] at hone
    rw [headers_append, hhead, hone, headers, if_neg (Nat.not_le.mpr hshort), List.append_nil]
  simp only [headerTurn]
  split_ifs with hack hbad
  · refine ⟨next, left, rfl, ?_⟩
    rw [List.append_assoc, outboundVerdict_frames, hheaders, ackVerdict_concat hnone hack, if_neg]
    rintro ⟨hlength, hstream⟩
    exact hbad.elim (fun h => h hlength) (fun h => h hstream)
  · refine ⟨rfl, next, left, rfl, ?_⟩
    push Not at hbad
    rw [List.append_assoc, outboundVerdict_frames, hheaders, ackVerdict_concat hnone hack]
    exact if_pos hbad
  · refine ⟨next, rfl, ?_⟩
    rw [List.append_assoc]
    refine .frames _ rfl hlen ?_ ?_ hseen
    · rw [hheaders]
      intro header hmem
      rcases List.mem_append.mp hmem with hbefore | hlast
      · exact hnone header hbefore
      · rw [List.mem_singleton.mp hlast]
        exact hack
    · rw [unfinished_append, hhead, ← List.append_nil head]
      exact frameCounted [] hnine (Nat.zero_le _) rfl (by rw [List.append_nil]; rfl)

theorem turn_advances {outbound : List UInt8} {p : ClientAckParser} (h : AckFollows outbound p)
    (chunk : List UInt8) : Advances outbound chunk (p.turn chunk) := by
  rcases h with ⟨hshort, hagrees, hlen, hheader, hidle, hseen⟩ | ⟨rest, rfl, hlen, hnone, hcounted, hseen⟩
  · exact prefaceTurn_advances hshort hagrees hlen hheader hidle hseen chunk
  · rw [turn, if_neg (by rw [hlen]; exact Nat.lt_irrefl _)]
    rcases hcounted with ⟨hshort, hidle, hheader⟩ | ⟨head, payload, hhead, hnine, hheader, hremaining, hless⟩
    · rw [if_neg (not_not_intro hidle)]
      simp only [hheader]
      have hsplit := (List.take_append_drop (9 - (unfinished rest).length) chunk).symm
      split_ifs with hstill
      · refine ⟨_, hsplit, ?_⟩
        rw [List.append_assoc]
        refine .frames _ rfl hlen ?_ ?_ hseen
        · rw [headers_append, headers_short hstill, List.append_nil]
          intro header hmem
          exact hnone header (List.mem_append_left _ hmem)
        · rw [unfinished_append, unfinished_of_none (takeFrame_short hstill)]
          exact .header hstill hidle rfl
      · have hnine : (unfinished rest ++ chunk.take (9 - (unfinished rest).length)).length = 9 := by
          rw [List.length_append, List.length_take] at hstill ⊢
          omega
        have hturn := headerTurn_advances (chunk.drop (9 - (unfinished rest).length)) hlen hnone hseen
          hnine hshort
        rwa [← hsplit] at hturn
    · rw [if_pos (by omega)]
      simp only
      generalize hskipped : min p.payloadRemaining chunk.length = skipped
      have hlength : (payload ++ chunk.take skipped).length = payload.length + skipped := by
        rw [List.length_append, List.length_take_of_le (by omega)]
      refine ⟨chunk.take skipped, (List.take_append_drop _ _).symm, ?_⟩
      rw [List.append_assoc]
      refine .frames _ rfl hlen ?_ ?_ hseen
      · rw [headers, hhead, if_pos (by rw [List.length_append]; omega),
          read_append payload (Nat.le_of_eq hnine.symm)] at hnone
        rw [headers_append, hhead, List.append_assoc, headers_header _ hnine (by omega)]
        exact hnone
      · rw [unfinished_append, hhead, List.append_assoc]
        apply frameCounted
        · exact hnine
        · omega
        · exact hheader
        · change p.payloadRemaining - skipped = _
          omega

end ClientAckParser

def AckFed (outbound chunk : List UInt8) : Except Unit Unit × ClientAckParser → Prop
  | (.ok (), p) => AckFollows (outbound ++ chunk) p ∨
      (p.ackSeen = true ∧ outboundVerdict (outbound ++ chunk) = .accepted ())
  | (.error (), _) => outboundVerdict (outbound ++ chunk) = .violated

theorem AckFed.prepend {outbound next rest : List UInt8} {result : Except Unit Unit × ClientAckParser}
    (h : AckFed (outbound ++ next) rest result) : AckFed outbound (next ++ rest) result := by
  match result, h with
  | (.ok (), p), h =>
    rw [AckFed, ← List.append_assoc]
    exact h
  | (.error (), p), h =>
    rw [AckFed, ← List.append_assoc]
    exact h

theorem ack_feedLoop_fed {p : ClientAckParser} {outbound : List UInt8} (h : AckFollows outbound p)
    (chunk : List UInt8) : AckFed outbound chunk (p.feedLoop chunk) := by
  fun_induction p.feedLoop chunk generalizing outbound with
  | case1 p =>
    rw [AckFed, List.append_nil]
    exact .inl h
  | case2 p chunk hchunk failed hturn =>
    have hadvances := p.turn_advances h chunk
    rw [hturn] at hadvances
    obtain ⟨next, rest, rfl, hviolated⟩ := hadvances
    rw [AckFed, ← List.append_assoc, outboundVerdict_append rest (by rw [hviolated]; nofun), hviolated]
  | case3 p chunk hchunk done hturn =>
    have hadvances := p.turn_advances h chunk
    rw [hturn] at hadvances
    obtain ⟨hseen, next, rest, rfl, haccepted⟩ := hadvances
    rw [AckFed, ← List.append_assoc, outboundVerdict_append rest (by rw [haccepted]; nofun), haccepted]
    exact .inr ⟨hseen, rfl⟩
  | case4 p chunk hchunk p' rest hturn hless ih =>
    have hadvances := p.turn_advances h chunk
    rw [hturn] at hadvances
    obtain ⟨next, rfl, hfollows⟩ := hadvances
    exact (ih hfollows).prepend

theorem ack_feed_fed {p : ClientAckParser} {outbound : List UInt8} (h : AckFollows outbound p)
    (chunk : List UInt8) : AckFed outbound chunk (p.feed chunk) := by
  rw [ClientAckParser.feed, if_neg (by rw [h.seen]; exact Bool.false_ne_true)]
  exact ack_feedLoop_fed h chunk

end AuthMiniGateway
