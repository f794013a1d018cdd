import AuthMiniGateway.H2Reference

namespace AuthMiniGateway

open Http2

/-! ### Verdicts -/

theorem inboundVerdict_header {header : List UInt8} (payload : List UInt8) (hnine : header.length = 9) :
    inboundVerdict (header ++ payload) =
      if ¬FirstFrameValid (.read header) (payload.take (FrameHeader.read header).length) then .violated
      else if (FrameHeader.read header).length ≤ payload.length then
        .accepted (effectiveSettings (settingPairs (payload.take (FrameHeader.read header).length)))
      else .pending := by
  have htake := takeFrame_header payload hnine
  by_cases hwhole : (FrameHeader.read header).length ≤ payload.length
  · rw [if_pos hwhole] at htake ⊢
    rw [inboundVerdict, frames_of_some htake, ite_not]
  · rw [if_neg hwhole] at htake ⊢
    have hdrop : (header ++ payload).drop 9 = payload := by rw [← hnine, List.drop_left]
    have hall : payload.take (FrameHeader.read header).length = payload :=
      List.take_of_length_le (by omega)
    have hlength : 9 ≤ (header ++ payload).length := by
      rw [List.length_append]
      omega
    rw [inboundVerdict, frames_of_none htake, unfinished_of_none htake,
      read_append payload (Nat.le_of_eq hnine.symm), hdrop, hall]
    simp only [hlength, true_and]

theorem inboundVerdict_violated {header payload : List UInt8} (hnine : header.length = 9)
    (hpayload : payload.length ≤ (FrameHeader.read header).length)
    (hinvalid : ¬FirstFrameValid (.read header) payload) :
    inboundVerdict (header ++ payload) = .violated := by
  rw [inboundVerdict_header payload hnine, List.take_of_length_le hpayload, if_pos hinvalid]

theorem firstFrameValid_of_append {header : FrameHeader} {payload : List UInt8} (next : List UInt8)
    (h : FirstFrameValid header (payload ++ next)) : FirstFrameValid header payload :=
  ⟨h.1, h.2.1, fun setting hmem => h.2.2 setting ((prefix_settingPairs payload next).subset hmem)⟩

variable {inbound before : List UInt8}

theorem inboundVerdict_short (h : inbound.length < 9) : inboundVerdict inbound = .pending := by
  have htake := takeFrame_short h
  rw [inboundVerdict, frames_of_none htake, unfinished_of_none htake]
  exact if_neg (fun hbad => absurd hbad.1 (Nat.not_le.mpr h))

theorem exists_header {bytes : List UInt8} (h : 9 ≤ bytes.length) :
    ∃ header payload, bytes = header ++ payload ∧ header.length = 9 :=
  ⟨bytes.take 9, bytes.drop 9, (List.take_append_drop 9 bytes).symm, List.length_take_of_le h⟩

theorem inboundVerdict_violated_append (next : List UInt8) (h : inboundVerdict before = .violated) :
    inboundVerdict (before ++ next) = .violated := by
  by_cases hshort : before.length < 9
  · rw [inboundVerdict_short hshort] at h
    cases h
  · obtain ⟨header, payload, rfl, hnine⟩ := exists_header (Nat.not_lt.mp hshort)
    rw [inboundVerdict_header payload hnine] at h
    split_ifs at h with hinvalid
    rw [List.append_assoc, inboundVerdict_header _ hnine, if_pos]
    intro hvalid
    rw [List.take_append] at hvalid
    exact hinvalid (firstFrameValid_of_append _ hvalid)

namespace ServerFrameScanner

/-! ### Settings -/

theorem initialPair_eq (pairs : List (Nat × Nat)) (id value : Nat) :
    initialPair (effectiveSettings pairs) id value =
      if SettingValid (id, value) then some (effectiveSettings (pairs ++ [(id, value)])) else none := by
  have hone : (some value == some 1) = (value == 1) := rfl
  simp only [initialPair, effectiveSettings, lastValue_concat, SettingValid, apply_ite (· == some 1), hone]
  split_ifs <;> grind

def laterValue (pairs : List (Nat × Nat)) : Option Bool :=
  (lastValue 8 (pairs.filter fun pair => pair.2 ≤ 1)).map fun value => value == 1

theorem laterPair_eq (pairs : List (Nat × Nat)) (id value : Nat) :
    laterPair (laterValue pairs) id value = laterValue (pairs ++ [(id, value)]) := by
  rw [laterPair, laterValue, laterValue, List.filter_append, List.filter_singleton]
  by_cases hvalue : value ≤ 1
  · rw [decide_eq_true hvalue, cond_true, lastValue_concat]
    by_cases hid : id = 8
    · rw [if_pos ⟨hid, hvalue⟩, if_pos hid]
      rfl
    · rw [if_neg (fun h => hid h.1), if_neg hid]
  · rw [decide_eq_false hvalue, cond_false, List.append_nil, if_neg (fun h => hvalue h.2)]

theorem laterValue_false {pairs : List (Nat × Nat)} :
    laterValue pairs = some false ↔ lastValue 8 (pairs.filter fun pair => pair.2 ≤ 1) = some 0 := by
  rw [laterValue, Option.map_eq_some_iff]
  constructor
  · rintro ⟨value, hlast, hvalue⟩
    rw [lastValue, Option.map_eq_some_iff] at hlast
    obtain ⟨pair, hfind, rfl⟩ := hlast
    have hmem := List.mem_of_find?_eq_some hfind
    rw [List.mem_reverse, List.mem_filter] at hmem
    have hle : pair.2 ≤ 1 := of_decide_eq_true hmem.2
    have hne : pair.2 ≠ 1 := beq_eq_false_iff_ne.mp hvalue
    rw [lastValue, hfind]
    exact congrArg some (by omega : pair.2 = 0)
  · intro hlast
    exact ⟨0, hlast, rfl⟩

/-! ### The unfinished frame -/

/-- The payload so far, as the scanner keeps it: whole settings and the beginning of one. -/
def Paired (payload pair : List UInt8) : Prop :=
  pair.length < 6 ∧ ∃ whole, payload = whole ++ pair ∧ whole.length % 6 = 0

/-- The fields that the payload of a frame goes to; `first` is what the first frame said, `none` inside
of it. -/
def Body (first : Option InitialH2Settings) (header : FrameHeader) (payload : List UInt8)
    (s : ServerFrameScanner) : Prop :=
  match s.payload with
  | .initialSettings =>
    first = none ∧ FirstFrameValid header payload ∧ Paired payload s.pair ∧
      s.buildingInitial = effectiveSettings (settingPairs payload)
  | .laterSettings =>
    first ≠ none ∧ SettingsHeader header ∧ Paired payload s.pair ∧
      s.frameExtendedConnect = laterValue (settingPairs payload)
  | .skip => first ≠ none ∧ ¬SettingsHeader header

inductive Scanned (first : Option InitialH2Settings) (bytes : List UInt8) (s : ServerFrameScanner) : Prop
  | header (hsettings : s.settings = first) (hidle : s.payloadRemaining = 0) (hheader : s.header = bytes)
  | payload (hsettings : s.settings = first) (header payload : List UInt8)
      (hbytes : bytes = header ++ payload) (hnine : header.length = 9) (hheader : s.header = [])
      (hremaining : s.payloadRemaining = (FrameHeader.read header).length - payload.length)
      (hless : payload.length < (FrameHeader.read header).length)
      (hbody : Body first (.read header) payload s)

variable {payload : List UInt8}

theorem Paired.settings_eq {pair : List UInt8} (h : Paired payload pair) (next : List UInt8)
    (hshort : (pair ++ next).length < 6) :
    settingPairs (payload ++ next) = settingPairs payload ∧ Paired (payload ++ next) (pair ++ next) := by
  obtain ⟨hpair, whole, rfl, hwhole⟩ := h
  refine ⟨?_, hshort, whole, List.append_assoc _ _ _, hwhole⟩
  rw [List.append_assoc, settingPairs_append _ hwhole, settingPairs_append _ hwhole, settingPairs_short hshort,
    settingPairs_short hpair]

theorem Paired.settings_full {pair : List UInt8} (h : Paired payload pair) (next : List UInt8)
    (hfull : (pair ++ next).length = 6) :
    settingPairs (payload ++ next) = settingPairs payload ++
        [(fromBeBytes ((pair ++ next).take 2), fromBeBytes ((pair ++ next).drop 2))] ∧
      Paired (payload ++ next) [] := by
  obtain ⟨hpair, whole, rfl, hwhole⟩ := h
  refine ⟨?_, Nat.succ_pos 5, whole ++ pair ++ next, (List.append_nil _).symm, ?_⟩
  · rw [List.append_assoc, settingPairs_append _ hwhole, settingPairs_append _ hwhole, settingPairs_single hfull,
      settingPairs_short hpair, List.append_nil]
  · rw [List.append_assoc, List.length_append]
    omega

theorem firstFrameValid_concat {header : FrameHeader} {next : List UInt8} {setting : Nat × Nat}
    (h : FirstFrameValid header payload)
    (hsettings : settingPairs next = settingPairs payload ++ [setting]) :
    FirstFrameValid header next ↔ SettingValid setting := by
  obtain ⟨hheader, hlength, hvalid⟩ := h
  constructor
  · intro hnext
    apply hnext.2.2
    rw [hsettings]
    exact List.mem_append_right _ (List.mem_singleton_self _)
  · intro hsetting
    refine ⟨hheader, hlength, ?_⟩
    intro other hother
    rw [hsettings, List.mem_append, List.mem_singleton] at hother
    rcases hother with hbefore | rfl
    · exact hvalid other hbefore
    · exact hsetting

section Bodies

variable {first : Option InitialH2Settings} {header : FrameHeader} {payload : List UInt8}
  {s s' : ServerFrameScanner}

theorem body_initial (h : s.payload = .initialSettings) :
    Body first header payload s ↔ first = none ∧ FirstFrameValid header payload ∧
      Paired payload s.pair ∧ s.buildingInitial = effectiveSettings (settingPairs payload) := by
  rw [Body, h]

theorem body_later (h : s.payload = .laterSettings) :
    Body first header payload s ↔ first ≠ none ∧ SettingsHeader header ∧
      Paired payload s.pair ∧ s.frameExtendedConnect = laterValue (settingPairs payload) := by
  rw [Body, h]

theorem body_skip (h : s.payload = .skip) :
    Body first header payload s ↔ first ≠ none ∧ ¬SettingsHeader header := by
  rw [Body, h]

theorem Body.valid (h : Body none header payload s) : FirstFrameValid header payload := by
  cases hpayload : s.payload with
  | initialSettings => exact ((body_initial hpayload).mp h).2.1
  | laterSettings => exact absurd rfl ((body_later hpayload).mp h).1
  | skip => exact absurd rfl ((body_skip hpayload).mp h).1

variable {bytes : List UInt8}

/-- What is copied completes a setting or not, and a setting that is refused spoils the first frame. -/
theorem Body.copy (h : Body first header payload s) (hkind : s.payload ≠ .skip) (bytes : List UInt8) :
    if (s.copyPair bytes).pair.length = 6 then
      match (s.copyPair bytes).consumePair with
      | some s' => Body first header (payload ++ bytes.take (s.copied bytes)) s'.clearPair ∧
          s'.settings = s.settings ∧ s'.header = s.header ∧
          s'.payloadRemaining = s.payloadRemaining - s.copied bytes
      | none => first = none ∧ ¬FirstFrameValid header (payload ++ bytes.take (s.copied bytes))
    else Body first header (payload ++ bytes.take (s.copied bytes)) (s.copyPair bytes) := by
  have hless (hshort : (s.copyPair bytes).pair.length ≠ 6) :
      (s.pair ++ bytes.take (s.copied bytes)).length < 6 :=
    Nat.lt_of_le_of_ne (s.copyPair bytes).pair_short hshort
  cases hpayload : s.payload with
  | skip => exact absurd hpayload hkind
  | initialSettings =>
    have hcopied : (s.copyPair bytes).payload = .initialSettings := hpayload
    rw [body_initial hpayload] at h
    obtain ⟨hfirst, hvalid, hpaired, hbuilding⟩ := h
    split_ifs with hfull
    · obtain ⟨hsettings, hnext⟩ := hpaired.settings_full _ hfull
      have hconcat := firstFrameValid_concat hvalid hsettings
      have hsame : (s.copyPair bytes).buildingInitial = effectiveSettings (settingPairs payload) := hbuilding
      simp only [consumePair, hcopied, hsame, initialPair_eq]
      split_ifs with hsetting
      · refine ⟨(body_initial rfl).mpr ⟨hfirst, hconcat.mpr hsetting, hnext, ?_⟩, rfl, rfl, rfl⟩
        rw [hsettings]
        rfl
      · exact ⟨hfirst, fun hnextValid => hsetting (hconcat.mp hnextValid)⟩
    · obtain ⟨hsettings, hnext⟩ := hpaired.settings_eq _ (hless hfull)
      rw [body_initial hcopied, FirstFrameValid, hsettings]
      exact ⟨hfirst, hvalid, hnext, hbuilding⟩
  | laterSettings =>
    have hcopied : (s.copyPair bytes).payload = .laterSettings := hpayload
    rw [body_later hpayload] at h
    obtain ⟨hfirst, hheader, hpaired, hlater⟩ := h
    split_ifs with hfull
    · obtain ⟨hsettings, hnext⟩ := hpaired.settings_full _ hfull
      simp only [consumePair, hcopied]
      refine ⟨(body_later rfl).mpr ⟨hfirst, hheader, hnext, ?_⟩, rfl, rfl, rfl⟩
      rw [hsettings, ← laterPair_eq, ← hlater]
      rfl
    · obtain ⟨hsettings, hnext⟩ := hpaired.settings_eq _ (hless hfull)
      rw [body_later hcopied, hsettings]
      exact ⟨hfirst, hheader, hnext, hlater⟩

end Bodies

/-! ### One turn -/

def report (first : Option InitialH2Settings) (frame : Http2.Frame) (observation : InboundObservation) :
    InboundObservation :=
  match first with
  | none => { observation with initial := some (effectiveSettings (settingPairs frame.payload)) }
  | some _ => { observation with revoke := observation.revoke || decide (Revoking frame) }

def firstAfter (first : Option InitialH2Settings) (frame : Http2.Frame) : InitialH2Settings :=
  first.getD (effectiveSettings (settingPairs frame.payload))

def Advances (first : Option InitialH2Settings) (bytes chunk : List UInt8)
    (observation : InboundObservation) : Turn → Prop
  | .failed _ => first = none ∧ ∃ next rest, chunk = next ++ rest ∧
      inboundVerdict (bytes ++ next) = .violated
  | .stopped s observation' => takeFrame (bytes ++ chunk) = none ∧ Scanned first (bytes ++ chunk) s ∧
      observation' = observation
  | .again s observation' rest => ∃ next, chunk = next ++ rest ∧
      ((takeFrame (bytes ++ next) = none ∧ Scanned first (bytes ++ next) s ∧ observation' = observation) ∨
        ∃ frame, takeFrame (bytes ++ next) = some (frame, []) ∧
          (first = none → FirstFrameValid frame.header frame.payload) ∧
          Scanned (some (firstAfter first frame)) [] s ∧ observation' = report first frame observation)

section Turns

variable {first : Option InitialH2Settings} {header : FrameHeader} {payload : List UInt8}
  {s s' : ServerFrameScanner}

variable {bytes head : List UInt8}

theorem scanPayload_scans (hbody : Body first header payload s) (hless : payload.length ≤ header.length)
    (hremaining : s.payloadRemaining = header.length - payload.length) (bytes : List UInt8) :
    match s.scanPayload bytes with
    | .ok (s', rest) => ∃ next, bytes = next ++ rest ∧ (payload ++ next).length ≤ header.length ∧
        s'.payloadRemaining = header.length - (payload ++ next).length ∧
        s'.settings = s.settings ∧ s'.header = s.header ∧ Body first header (payload ++ next) s'
    | .error _ => first = none ∧ ∃ next rest, bytes = next ++ rest ∧
        (payload ++ next).length ≤ header.length ∧ ¬FirstFrameValid header (payload ++ next) := by
  have hcut (n : Nat) : bytes = bytes.take n ++ bytes.drop n := (List.take_append_drop n bytes).symm
  have hcopied : (payload ++ bytes.take (s.copied bytes)).length ≤ header.length ∧
      s.payloadRemaining - s.copied bytes =
        header.length - (payload ++ bytes.take (s.copied bytes)).length := by
    rw [List.length_append, List.length_take, copied]
    omega
  rw [scanPayload]
  split_ifs with hkind
  · refine ⟨_, hcut _, ?_, ?_, rfl, rfl, (body_skip hkind).mpr ((body_skip hkind).mp hbody)⟩
    · rw [List.length_append, List.length_take]
      omega
    · change s.payloadRemaining - _ = _
      rw [List.length_append, List.length_take]
      omega
  · have hcopy := hbody.copy hkind bytes
    dsimp only
    split_ifs at hcopy ⊢
    · cases hpair : (s.copyPair bytes).consumePair with
      | none =>
        rw [hpair] at hcopy
        exact ⟨hcopy.1, _, _, hcut _, hcopied.1, hcopy.2⟩
      | some s' =>
        rw [hpair] at hcopy
        obtain ⟨hnext, hsettings, hheader, hleft⟩ := hcopy
        exact ⟨_, hcut _, hcopied.1, hleft.trans hcopied.2, hsettings, hheader, hnext⟩
    · exact ⟨_, hcut _, hcopied.1, hcopied.2, rfl, rfl, hcopy⟩

theorem finishFrame_report (hbody : Body first header payload s) (hsettings : s.settings = first)
    (hidle : s.payloadRemaining = 0) (hheader : s.header = []) (observation : InboundObservation) :
    Scanned (some (firstAfter first ⟨header, payload⟩)) [] (s.finishFrame observation).1 ∧
      (s.finishFrame observation).2 = report first ⟨header, payload⟩ observation := by
  cases hpayload : s.payload with
  | initialSettings =>
    obtain ⟨rfl, -, -, hbuilding⟩ := (body_initial hpayload).mp hbody
    rw [finishFrame, hpayload]
    refine ⟨.header (congrArg some hbuilding) hidle hheader, ?_⟩
    rw [report, ← hbuilding]
  | laterSettings =>
    obtain ⟨hfirst, hlater, -, hvalue⟩ := (body_later hpayload).mp hbody
    obtain ⟨settings, rfl⟩ := Option.ne_none_iff_exists'.mp hfirst
    have hrevoking : Revoking ⟨header, payload⟩ ↔ s.frameExtendedConnect = some false := by
      rw [hvalue, laterValue_false]
      exact and_iff_right hlater
    rw [finishFrame, hpayload, report, decide_eq_decide.mpr hrevoking]
    dsimp only
    split_ifs with hfalse
    · refine ⟨.header hsettings hidle hheader, ?_⟩
      rw [decide_eq_true hfalse, Bool.or_true]
    · refine ⟨.header hsettings hidle hheader, ?_⟩
      rw [decide_eq_false hfalse, Bool.or_false]
  | skip =>
    obtain ⟨hfirst, hother⟩ := (body_skip hpayload).mp hbody
    obtain ⟨settings, rfl⟩ := Option.ne_none_iff_exists'.mp hfirst
    have hrevoking : ¬Revoking ⟨header, payload⟩ := fun h => hother h.1
    rw [finishFrame, hpayload, report, decide_eq_false hrevoking, Bool.or_false]
    exact ⟨.header hsettings hidle hheader, rfl⟩

theorem payloadTurn_advances {payload : List UInt8} (hnine : head.length = 9)
    (hsettings : s.settings = first) (hheader : s.header = [])
    (hremaining : s.payloadRemaining = (FrameHeader.read head).length - payload.length)
    (hless : payload.length ≤ (FrameHeader.read head).length)
    (hbody : Body first (.read head) payload s) (observation : InboundObservation)
    (chunk : List UInt8) :
    Advances first (head ++ payload) chunk observation (s.payloadTurn observation chunk) := by
  have hscans := scanPayload_scans hbody hless hremaining chunk
  rw [payloadTurn]
  cases hscan : s.scanPayload chunk with
  | error =>
    rw [hscan] at hscans
    obtain ⟨hfirst, next, rest, hchunk, hlength, hinvalid⟩ := hscans
    refine ⟨hfirst, next, rest, hchunk, ?_⟩
    rw [List.append_assoc]
    exact inboundVerdict_violated hnine hlength hinvalid
  | ok result =>
    rw [hscan] at hscans
    obtain ⟨next, hchunk, hlength, hleft, hsettings', hheader', hbody'⟩ := hscans
    dsimp only
    rw [hsettings] at hsettings'
    rw [hheader] at hheader'
    split_ifs with hdone
    · have hwhole : (payload ++ next).length = (FrameHeader.read head).length := by omega
      obtain ⟨hscanned, hreport⟩ := finishFrame_report hbody' hsettings' hdone hheader' observation
      refine ⟨next, hchunk, .inr ⟨⟨.read head, payload ++ next⟩, ?_, ?_, hscanned, hreport⟩⟩
      · rw [List.append_assoc]
        exact takeFrame_whole hnine hwhole
      · rintro rfl
        exact hbody'.valid
    · have hopen : (payload ++ next).length < (FrameHeader.read head).length := by omega
      refine ⟨next, hchunk, .inl ⟨?_, ?_, rfl⟩⟩
      · rw [List.append_assoc]
        exact takeFrame_open hnine hopen
      · rw [List.append_assoc]
        exact .payload hsettings' head _ rfl hnine hheader' hleft hopen hbody'

theorem firstFrameValid_nil {header : FrameHeader} :
    FirstFrameValid header [] ↔ SettingsHeader header ∧ header.length ≤ h2InitialSettingsMax := by
  constructor
  · rintro ⟨hheader, hlength, -⟩
    exact ⟨hheader, hlength⟩
  · rintro ⟨hheader, hlength⟩
    exact ⟨hheader, hlength, fun _ hsetting => absurd hsetting List.not_mem_nil⟩

theorem paired_nil : Paired [] [] := ⟨Nat.succ_pos 5, [], rfl, rfl⟩

theorem beginFrame_ok (h : s.beginFrame head = .ok s') :
    s'.settings = s.settings ∧ s'.header = [] ∧
      s'.payloadRemaining = (FrameHeader.read head).length ∧
      Body s.settings (.read head) [] s' := by
  simp only [beginFrame] at h
  split_ifs at h with hfirst hbad hlater
  · cases h
    refine ⟨rfl, rfl, rfl, (body_initial rfl).mpr ⟨hfirst, firstFrameValid_nil.mpr ?_, paired_nil, rfl⟩⟩
    simp only [FrameHeader.read, SettingsHeader]
    simp only [ne_eq, not_or, not_not, Nat.not_lt] at hbad
    obtain ⟨htype, hflags, hstream, hlength, hsix⟩ := hbad
    exact ⟨⟨htype, hflags, hstream, hsix⟩, hlength⟩
  · cases h
    exact ⟨rfl, rfl, rfl, (body_later rfl).mpr ⟨hfirst, hlater, paired_nil, rfl⟩⟩
  · cases h
    exact ⟨rfl, rfl, rfl, (body_skip rfl).mpr ⟨hfirst, hlater⟩⟩

theorem beginFrame_error (h : s.beginFrame head = .error s') :
    s.settings = none ∧ ¬FirstFrameValid (.read head) [] := by
  simp only [beginFrame] at h
  split_ifs at h with hfirst hbad hlater
  refine ⟨hfirst, ?_⟩
  rw [firstFrameValid_nil]
  rintro ⟨⟨htype, hflags, hstream, hsix⟩, hlength⟩
  rcases hbad with hbad | hbad | hbad | hbad | hbad
  · exact hbad htype
  · exact hbad hflags
  · exact hbad hstream
  · exact absurd hlength (Nat.not_le.mpr hbad)
  · exact hbad hsix

theorem headerTurn_advances (hnine : head.length = 9) (observation : InboundObservation)
    (chunk : List UInt8) :
    Advances s.settings head chunk observation (s.headerTurn observation head chunk) := by
  rw [headerTurn]
  cases hbegin : s.beginFrame head with
  | error =>
    obtain ⟨hfirst, hinvalid⟩ := beginFrame_error hbegin
    refine ⟨hfirst, [], chunk, rfl, ?_⟩
    exact inboundVerdict_violated hnine (Nat.zero_le _) hinvalid
  | ok next =>
    obtain ⟨hsettings, hheader, hremaining, hbody⟩ := beginFrame_ok hbegin
    dsimp only
    split_ifs with hempty
    · have hwhole : ([] : List UInt8).length = (FrameHeader.read head).length :=
        hempty.symm.trans hremaining
      obtain ⟨hscanned, hreport⟩ := finishFrame_report hbody hsettings hempty hheader observation
      refine ⟨[], rfl, .inr ⟨⟨.read head, []⟩, takeFrame_whole hnine hwhole, ?_, hscanned, hreport⟩⟩
      intro hfirst
      rw [hfirst] at hbody
      exact hbody.valid
    · have hleft : next.payloadRemaining =
          (FrameHeader.read head).length - ([] : List UInt8).length := hremaining
      have hturn := payloadTurn_advances hnine hsettings hheader hleft (Nat.zero_le _) hbody
        observation chunk
      rwa [List.append_nil] at hturn

theorem Advances.prepend {copied rest : List UInt8} {observation : InboundObservation} {t : Turn}
    (h : Advances first (bytes ++ copied) rest observation t) :
    Advances first bytes (copied ++ rest) observation t := by
  cases t with
  | failed =>
    obtain ⟨hfirst, next, left, rfl, hviolated⟩ := h
    rw [List.append_assoc] at hviolated
    exact ⟨hfirst, copied ++ next, left, (List.append_assoc _ _ _).symm, hviolated⟩
  | stopped =>
    rw [Advances, List.append_assoc] at h
    exact h
  | again =>
    obtain ⟨next, rfl, hcases⟩ := h
    rw [List.append_assoc] at hcases
    exact ⟨copied ++ next, (List.append_assoc _ _ _).symm, hcases⟩

theorem turn_advances (h : Scanned first bytes s) (observation : InboundObservation)
    (chunk : List UInt8) : Advances first bytes chunk observation (s.turn observation chunk) := by
  rw [turn]
  rcases h with ⟨rfl, hidle, rfl⟩ | ⟨hsettings, head, payload, rfl, hnine, hheader, hremaining, hless, hbody⟩
  · rw [if_pos hidle]
    have hshort := s.header_short
    split_ifs with hstill
    · have hall : chunk.take (9 - s.header.length) = chunk := by
        apply List.take_of_length_le
        rw [List.length_append, List.length_take] at hstill
        omega
      simp only [hall] at hstill ⊢
      exact ⟨takeFrame_short hstill, .header rfl hidle rfl, rfl⟩
    · have hnine : (s.header ++ chunk.take (9 - s.header.length)).length = 9 := by
        rw [List.length_append, List.length_take] at hstill ⊢
        omega
      have hturn := headerTurn_advances (s := s) hnine observation (chunk.drop (9 - s.header.length))
      have hprepend := hturn.prepend
      rwa [List.take_append_drop] at hprepend
  · have hbusy : s.payloadRemaining ≠ 0 := by omega
    rw [if_neg hbusy]
    exact payloadTurn_advances hnine hsettings hheader hremaining (Nat.le_of_lt hless) hbody observation chunk

end Turns

end ServerFrameScanner

/-! ### The stream -/

def InboundObservation.merge (observation later : InboundObservation) : InboundObservation :=
  { initial := later.initial.or observation.initial, revoke := observation.revoke || later.revoke }

theorem InboundObservation.merge_assoc (a b c : InboundObservation) :
    (a.merge b).merge c = a.merge (b.merge c) := by
  simp only [merge, Bool.or_assoc, Option.or_assoc]

theorem InboundObservation.merge_default (observation : InboundObservation) :
    observation.merge .default = observation := by
  simp only [merge, default, Bool.or_false, Option.none_or]

theorem InboundObservation.default_merge (later : InboundObservation) : default.merge later = later := by
  simp only [merge, default, Bool.false_or, Option.or_none]

theorem frames_ne_nil_append (next : List UInt8) (h : frames before ≠ []) :
    frames (before ++ next) ≠ [] := by
  rw [frames_append]
  exact List.append_ne_nil_of_left_ne_nil h _

theorem firstSettings_append (next : List UInt8) (h : frames before ≠ []) :
    firstSettings (before ++ next) = firstSettings before := by
  obtain ⟨first, later, hframes⟩ := List.exists_cons_of_ne_nil h
  rw [firstSettings, firstSettings, frames_append, hframes]
  rfl

theorem firstSettings_nil (h : frames inbound = []) : firstSettings inbound = none := by
  rw [firstSettings, h]
  rfl

theorem frames_of_firstSettings (h : firstSettings inbound = none) : frames inbound = [] := by
  rw [firstSettings, Option.map_eq_none_iff] at h
  exact List.head?_eq_none_iff.mp h

theorem firstSettings_isSome (h : frames inbound ≠ []) :
    ∃ settings, firstSettings inbound = some settings := by
  obtain ⟨first, later, hframes⟩ := List.exists_cons_of_ne_nil h
  rw [firstSettings, hframes]
  exact ⟨_, rfl⟩

theorem revocations_append_le (before next : List UInt8) :
    revocations before ≤ revocations (before ++ next) := by
  rw [revocations, revocations, frames_append]
  apply List.Sublist.countP_le
  cases frames before with
  | nil => exact List.nil_sublist _
  | cons => exact List.sublist_append_left _ _

theorem observed_merge (before next rest : List UInt8) :
    (observed before (before ++ next)).merge (observed (before ++ next) (before ++ next ++ rest)) =
      observed before (before ++ next ++ rest) := by
  have hfirst := revocations_append_le before next
  have hsecond := revocations_append_le (before ++ next) rest
  simp only [observed, InboundObservation.merge, InboundObservation.mk.injEq]
  refine ⟨?_, ?_⟩
  · by_cases hbefore : frames before = []
    · rw [if_pos hbefore, if_pos hbefore]
      by_cases hnext : frames (before ++ next) = []
      · rw [if_pos hnext, firstSettings_nil hnext]
        exact Option.or_none
      · rw [if_neg hnext, firstSettings_append rest hnext]
        rfl
    · rw [if_neg hbefore, if_neg hbefore, if_neg (frames_ne_nil_append next hbefore)]
      rfl
  · rw [← Bool.decide_or, decide_eq_decide]
    omega

/-! ### Reads -/

/-- The scanner stands where the framing of the stream stands, and the first frame was in order. -/
structure Follows (inbound : List UInt8) (s : ServerFrameScanner) : Prop where
  scanned : s.Scanned (firstSettings inbound) (unfinished inbound)
  first : ∀ first ∈ (frames inbound).head?, FirstFrameValid first.header first.payload

namespace Follows

variable {inbound : List UInt8} {s s' : ServerFrameScanner}

theorem start : Follows [] .default := by
  refine ⟨?_, ?_⟩
  · rw [firstSettings_nil frames_nil, unfinished_nil]
    exact .header rfl rfl rfl
  · rw [frames_nil]
    intro first hfirst
    cases hfirst

theorem settings (h : Follows inbound s) : s.settings = firstSettings inbound := by
  cases h.scanned with
  | header hsettings | payload hsettings => exact hsettings

theorem verdict (h : Follows inbound s) :
    inboundVerdict inbound =
      match firstSettings inbound with
      | some settings => .accepted settings
      | none => .pending := by
  cases hframes : frames inbound with
  | cons first =>
    have hvalid := h.first first (by rw [hframes]; rfl)
    rw [inboundVerdict, firstSettings, hframes]
    exact if_pos hvalid
  | nil =>
    have hscanned := h.scanned
    rw [firstSettings_nil hframes, unfinished_of_none (takeFrame_of_frames hframes)] at hscanned
    rw [firstSettings_nil hframes]
    rcases hscanned with ⟨_, _, rfl⟩ | ⟨_, header, payload, rfl, hnine, _, _, hless, hbody⟩
    · exact inboundVerdict_short s.header_short
    · rw [inboundVerdict_header payload hnine, List.take_of_length_le (Nat.le_of_lt hless),
        if_neg (not_not_intro hbody.valid), if_neg (Nat.not_le.mpr hless)]

theorem goesOn (h : Follows inbound s) {next : List UInt8}
    (htake : takeFrame (unfinished inbound ++ next) = none)
    (hscanned : s'.Scanned (firstSettings inbound) (unfinished inbound ++ next)) :
    Follows (inbound ++ next) s' ∧ observed inbound (inbound ++ next) = .default := by
  have hframes : frames (inbound ++ next) = frames inbound := by
    rw [frames_append, frames_of_none htake, List.append_nil]
  have hfirst : firstSettings (inbound ++ next) = firstSettings inbound := by
    rw [firstSettings, hframes, firstSettings]
  refine ⟨⟨?_, ?_⟩, ?_⟩
  · rw [hfirst, unfinished_append, unfinished_of_none htake]
    exact hscanned
  · rw [hframes]
    exact h.first
  · have hsame : revocations (inbound ++ next) = revocations inbound := by
      rw [revocations, hframes, revocations]
    rw [observed, hfirst, hsame, decide_eq_false (Nat.lt_irrefl _)]
    split_ifs with hnone
    · rw [firstSettings_nil hnone]
      rfl
    · rfl

theorem completes (h : Follows inbound s) {next : List UInt8} {frame : Http2.Frame}
    (htake : takeFrame (unfinished inbound ++ next) = some (frame, []))
    (hvalid : firstSettings inbound = none → FirstFrameValid frame.header frame.payload)
    (hscanned : s'.Scanned (some (ServerFrameScanner.firstAfter (firstSettings inbound) frame)) [])
    (observation : InboundObservation) :
    Follows (inbound ++ next) s' ∧
      ServerFrameScanner.report (firstSettings inbound) frame observation =
        observation.merge (observed inbound (inbound ++ next)) := by
  have hframes : frames (inbound ++ next) = frames inbound ++ [frame] := by
    rw [frames_append, frames_of_some htake, frames_nil]
  have hrest : unfinished (inbound ++ next) = [] := by
    rw [unfinished_append, unfinished_of_some htake, unfinished_nil]
  cases hbefore : frames inbound with
  | nil =>
    have hfirst := firstSettings_nil hbefore
    rw [hbefore, List.nil_append] at hframes
    have hnow : firstSettings (inbound ++ next) =
        some (effectiveSettings (settingPairs frame.payload)) := by
      rw [firstSettings, hframes]
      rfl
    refine ⟨⟨?_, ?_⟩, ?_⟩
    · rw [hnow, hrest]
      rw [hfirst] at hscanned
      exact hscanned
    · rw [hframes]
      intro first hmem
      cases hmem
      exact hvalid hfirst
    · rw [hfirst, observed, if_pos hbefore, hnow, revocations, revocations, hframes, hbefore]
      simp only [ServerFrameScanner.report, InboundObservation.merge, List.tail_nil, List.tail_cons,
        List.countP_nil, Nat.lt_irrefl, decide_false, Bool.or_false, Option.some_or]
  | cons first =>
    have hne : frames inbound ≠ [] := by
      rw [hbefore]
      exact List.cons_ne_nil _ _
    have hnow := firstSettings_append next hne
    obtain ⟨settings, hsettings⟩ := firstSettings_isSome hne
    rw [hbefore, List.cons_append] at hframes
    refine ⟨⟨?_, ?_⟩, ?_⟩
    · rw [hnow, hrest, hsettings]
      rw [hsettings] at hscanned
      exact hscanned
    · rw [hframes]
      intro other hmem
      cases hmem
      exact h.first _ (by rw [hbefore]; rfl)
    · rw [hsettings, observed, if_neg hne, revocations, revocations, hframes, hbefore]
      simp only [ServerFrameScanner.report, InboundObservation.merge, List.tail_cons,
        List.countP_append, Option.none_or, Nat.lt_add_right_iff_pos, List.countP_singleton]
      by_cases hrevoking : Revoking frame
      · rw [decide_eq_true hrevoking]
        rfl
      · rw [decide_eq_false hrevoking]
        rfl

end Follows

def Fed (inbound chunk : List UInt8) (observation : InboundObservation) :
    Except Unit InboundObservation × ServerFrameScanner → Prop
  | (.ok observation', s) => Follows (inbound ++ chunk) s ∧
      observation' = observation.merge (observed inbound (inbound ++ chunk))
  | (.error (), _) => inboundVerdict (inbound ++ chunk) = .violated

theorem Fed.prepend {next rest : List UInt8} {observation : InboundObservation}
    {result : Except Unit InboundObservation × ServerFrameScanner}
    (h : Fed (inbound ++ next) rest (observation.merge (observed inbound (inbound ++ next))) result) :
    Fed inbound (next ++ rest) observation result := by
  match result, h with
  | (.ok observation', s), ⟨hfollows, hobserved⟩ =>
    rw [InboundObservation.merge_assoc, observed_merge] at hobserved
    rw [Fed, ← List.append_assoc]
    exact ⟨hfollows, hobserved⟩
  | (.error (), s), hviolated =>
    rw [Fed, ← List.append_assoc]
    exact hviolated

theorem feedLoop_fed {s : ServerFrameScanner} (h : Follows inbound s)
    (observation : InboundObservation) (chunk : List UInt8) :
    Fed inbound chunk observation (s.feedLoop observation chunk) := by
  fun_induction s.feedLoop observation chunk generalizing inbound with
  | case1 s observation =>
    have hnone : observed inbound inbound = .default := by
      rw [observed, decide_eq_false (Nat.lt_irrefl _)]
      split_ifs with hframes
      · rw [firstSettings_nil hframes]
        rfl
      · rfl
    rw [Fed, List.append_nil, hnone, InboundObservation.merge_default]
    exact ⟨h, rfl⟩
  | case2 s observation chunk hchunk failed hturn =>
    have hadvances := s.turn_advances h.scanned observation chunk
    rw [hturn] at hadvances
    obtain ⟨hfirst, next, rest, rfl, hviolated⟩ := hadvances
    rw [unfinished_of_none (takeFrame_of_frames (frames_of_firstSettings hfirst))] at hviolated
    rw [Fed, ← List.append_assoc]
    exact inboundVerdict_violated_append rest hviolated
  | case3 s observation chunk hchunk stopped observation' hturn =>
    have hadvances := s.turn_advances h.scanned observation chunk
    rw [hturn] at hadvances
    obtain ⟨htake, hscanned, rfl⟩ := hadvances
    obtain ⟨hfollows, hobserved⟩ := h.goesOn htake hscanned
    rw [Fed, hobserved, InboundObservation.merge_default]
    exact ⟨hfollows, rfl⟩
  | case4 s observation chunk hchunk s' observation' rest hturn hless ih =>
    have hadvances := s.turn_advances h.scanned observation chunk
    rw [hturn] at hadvances
    obtain ⟨next, rfl, hcases⟩ := hadvances
    -- in both cases the turn reports what reading `next` should report
    obtain ⟨hfollows, hobserved⟩ : Follows (inbound ++ next) s' ∧
        observation' = observation.merge (observed inbound (inbound ++ next)) := by
      rcases hcases with ⟨htake, hscanned, rfl⟩ | ⟨frame, htake, hvalid, hscanned, rfl⟩
      · obtain ⟨hfollows, hobserved⟩ := h.goesOn htake hscanned
        rw [hobserved, InboundObservation.merge_default]
        exact ⟨hfollows, rfl⟩
      · exact h.completes htake hvalid hscanned observation
    subst hobserved
    exact (ih hfollows).prepend

theorem feed_fed {s : ServerFrameScanner} (h : Follows inbound s) (chunk : List UInt8) :
    Fed inbound chunk .default (s.feed chunk) :=
  feedLoop_fed h .default chunk

end AuthMiniGateway
