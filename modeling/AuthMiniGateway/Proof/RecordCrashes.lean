import AuthMiniGateway.Benchmark.RecordFiles
import AuthMiniGateway.Lib.Fallible
import AuthMiniGateway.Lib.Utf8

namespace AuthMiniGateway.Benchmark

namespace RecordFiles

variable {Content : Type} {format : RecordFormat Content} {identity : Identity} {records : List Record}
  {directory : Directory Content}

/-- What is assumed of the format: a valid record is read back as it was written, and no digest is a
placeholder. -/
structure Sound (format : RecordFormat Content) : Prop where
  roundTrip : ∀ record : Record, record.validate = .ok () →
    format.fromSliceStrict (format.canonicalBytes record) = .ok record
  digest : ∀ content name, validateNonPlaceholderSha256 name (format.sha256Hex content) = .ok ()

def Fits (format : RecordFormat Content) (record : Record) : Prop :=
  format.size (format.canonicalBytes record) ≤ jsonMaxBytes

def recordFile (format : RecordFormat Content) (record : Record) : String × Content :=
  (recordName record.sequence record.phase, format.canonicalBytes record)

/-! ### Chains of records -/

structure Belongs (identity : Identity) (record : Record) : Prop where
  valid : record.validate = .ok ()
  kind : record.evidenceKind = identity.evidenceKind
  id : record.evidenceId = identity.evidenceId
  root : record.sealRootSha256 = identity.sealRootSha256

/-- Records of one transaction, counted from zero, each with the digest of the one before it. -/
inductive Chained (format : RecordFormat Content) (identity : Identity) : List Record → Prop
  | nil : Chained format identity []
  | snoc {records : List Record} {record : Record} : Chained format identity records →
      Belongs identity record → record.sequence = records.length →
      record.predecessorSha256 = predecessorOf format records → Chained format identity (records ++ [record])

variable {record : Record} {name temp : String} {phase : DeliveryPhase} {bindings : List Binding}

theorem Belongs.phase_eq (h : Belongs identity record) :
    DeliveryPhase.all[record.sequence]? = some record.phase := by
  have hvalid := h.valid
  simp only [Record.validate, Fallible.bind_eq_ok_iff, require_eq_ok_iff, Bool.and_eq_true, beq_iff_eq] at hvalid
  obtain ⟨-, ⟨-, hphase⟩, -⟩ := hvalid
  exact hphase

def recordNames : List String := DeliveryPhase.all.zipIdx.map fun place => recordName place.2 place.1

theorem recordNames_sorted : recordNames.Pairwise fun left right => textKey left < textKey right := by
  decide +kernel

theorem recordNames_first : ∀ name ∈ recordNames, (textKey name).head? = some 48 := by
  decide +kernel

theorem Chained.phases (h : Chained format identity records) :
    records.map (·.phase) = DeliveryPhase.all.take records.length := by
  induction h with
  | nil => rfl
  | @snoc _ _ _ hbelongs hsequence _ ih =>
    have hphase := hbelongs.phase_eq
    rw [hsequence] at hphase
    rw [List.map_append, ih, List.length_append, List.length_singleton, List.take_add_one, hphase]
    rfl

theorem Chained.names (h : Chained format identity records) :
    (records.map (recordFile format)).map Prod.fst = recordNames.take records.length := by
  induction h with
  | nil => rfl
  | @snoc records record _ hbelongs hsequence _ ih =>
    have hname : recordNames[records.length]? = some (recordName record.sequence record.phase) := by
      have hphase := hbelongs.phase_eq
      rw [hsequence] at hphase
      rw [recordNames, List.getElem?_map, List.getElem?_zipIdx, hphase, hsequence]
      simp
    rw [List.map_append, List.map_append, ih, List.length_append, List.length_singleton, List.take_add_one, hname]
    rfl

theorem Chained.sorted (h : Chained format identity records) :
    (records.map (recordFile format)).Pairwise fun left right => textKey left.1 < textKey right.1 := by
  have hnames := recordNames_sorted.sublist (List.take_sublist records.length _)
  rw [← h.names, List.pairwise_map] at hnames
  exact hnames

/-! ### Reading a directory -/

theorem sortedFiles_eq {files : List (String × Content)} (hperm : directory.Perm files)
    (hsorted : files.Pairwise fun left right => textKey left.1 < textKey right.1) :
    sortedFiles directory = files := by
  have hdistinct : (files.map fun file => textKey file.1).Nodup :=
    List.pairwise_map.mpr (hsorted.imp fun h => ne_of_lt h)
  have hsort := List.perm_insertionSort (fun left right : String × Content => textKey left.1 ≤ textKey right.1)
    directory
  refine List.Perm.eq_of_pairwise ?_ ?_ (hsorted.imp fun h => le_of_lt h) (hsort.trans hperm)
  · intro left right hleft hright hleftRight hrightLeft
    exact List.inj_on_of_nodup_map hdistinct ((hsort.trans hperm).mem_iff.mp hleft) hright
      (le_antisymm hleftRight hrightLeft)
  · have htotal : Std.Total fun left right : String × Content => textKey left.1 ≤ textKey right.1 :=
      ⟨fun left right => le_total _ _⟩
    have htrans : IsTrans (String × Content) fun left right => textKey left.1 ≤ textKey right.1 :=
      ⟨fun _ _ _ => le_trans⟩
    exact List.pairwise_insertionSort _ _

theorem openFile_eq_ok (hformat : Sound format) (hbelongs : Belongs identity record)
    (hsequence : record.sequence = records.length)
    (hpredecessor : record.predecessorSha256 = predecessorOf format records)
    (hfits : Fits format record) :
    openFile format identity records (recordFile format record, records.length) = .ok (records ++ [record]) := by
  have hphase := hbelongs.phase_eq
  rw [hsequence] at hphase
  rw [openFile]
  dsimp only
  rw [hphase]
  simp only [Fallible.bind_eq_ok_iff, readStrict, require_eq_ok_iff]
  refine ⟨(), by simp [recordFile, hsequence], record, ⟨(), decide_eq_true hfits, ?_⟩, (), hbelongs.valid, (),
    ?_, rfl⟩
  · exact hformat.roundTrip record hbelongs.valid
  · simp [hbelongs.kind, hbelongs.id, hbelongs.root, hsequence, hpredecessor]

theorem foldlM_openFile (hformat : Sound format) (h : Chained format identity records)
    (hfits : ∀ record ∈ records, Fits format record) :
    (records.map (recordFile format)).zipIdx.foldlM (openFile format identity) [] = .ok records := by
  induction h with
  | nil => rfl
  | @snoc _ record _ hbelongs hsequence hpredecessor ih =>
    have hbefore := ih fun other hother => hfits other (List.mem_append_left _ hother)
    have hlast := openFile_eq_ok hformat hbelongs hsequence hpredecessor
      (hfits record (List.mem_append_right _ (List.mem_singleton_self record)))
    rw [List.map_append, List.zipIdx_append, List.foldlM_append, hbefore, List.length_map]
    simpa [List.zipIdx, Fallible.bind_eq_ok_iff] using hlast

theorem size_of_foldlM {files : List ((String × Content) × Nat)} {result : List Record}
    (h : files.foldlM (openFile format identity) [] = .ok result) :
    ∀ file ∈ files, format.size file.1.2 ≤ jsonMaxBytes := by
  refine Fallible.foldlM_ok (motive := fun done _ => ∀ file ∈ done, format.size file.1.2 ≤ jsonMaxBytes) h
    nofun ?_
  intro done file before after hdone hfile other hother
  rcases List.mem_append.mp hother with hother | hother
  · exact hdone other hother
  · rw [List.mem_singleton.mp hother]
    rw [openFile] at hfile
    split at hfile
    · cases hfile
    · simp only [Fallible.bind_eq_ok_iff, readStrict, require_eq_ok_iff] at hfile
      obtain ⟨-, -, -, ⟨-, hsize, -⟩, -⟩ := hfile
      simpa using hsize

structure Kept (format : RecordFormat Content) (identity : Identity) (directory : Directory Content)
    (records : List Record) : Prop where
  files : directory.Perm (records.map (recordFile format))
  chained : Chained format identity records

theorem Kept.sortedFiles (h : Kept format identity directory records) :
    sortedFiles directory = records.map (recordFile format) := sortedFiles_eq h.files h.chained.sorted

theorem Kept.openTransaction_iff (hformat : Sound format) (hidentity : identity.validate = .ok ())
    (h : Kept format identity directory records) (result : List Record) :
    openTransaction format identity directory = .ok result ↔
      result = records ∧ ∀ record ∈ records, Fits format record := by
  rw [openTransaction, hidentity, h.sortedFiles]
  change (records.map (recordFile format)).zipIdx.foldlM (openFile format identity) [] = .ok result ↔ _
  constructor
  · intro hread
    have hfits : ∀ record ∈ records, Fits format record := by
      intro record hrecord
      obtain ⟨index, hindex⟩ := List.mem_iff_getElem?.mp (List.mem_map_of_mem (f := recordFile format) hrecord)
      exact size_of_foldlM hread (recordFile format record, index) (List.mem_zipIdx_iff_getElem?.mpr hindex)
    rw [foldlM_openFile hformat h.chained hfits] at hread
    cases hread
    exact ⟨rfl, hfits⟩
  · rintro ⟨rfl, hfits⟩
    exact foldlM_openFile hformat h.chained hfits

/-! ### Temporary files -/

theorem tempName_first (process : Process) (name : String) :
    (textKey (tempName process name)).head? = some 46 := by
  have htext : (tempName process name).toList = '.' :: (name ++ ".tmp." ++ toString process.id ++ "." ++
      toString process.nextTemp).toList := by
    simp [tempName]
  rw [textKey, utf8, Utf8.data_toList, htext]
  rfl

theorem Chained.name_first (h : Chained format identity records) {file : String × Content}
    (hfile : file ∈ records.map (recordFile format)) : (textKey file.1).head? = some 48 := by
  have hname : file.1 ∈ recordNames.take records.length := by
    rw [← h.names]
    exact List.mem_map_of_mem hfile
  exact recordNames_first file.1 (List.mem_of_mem_take hname)

theorem Kept.name_first (h : Kept format identity directory records) {file : String × Content}
    (hfile : file ∈ directory) : (textKey file.1).head? = some 48 :=
  h.chained.name_first (h.files.mem_iff.mp hfile)

theorem Kept.temp_not_found (h : Kept format identity directory records) (process : Process) (name : String) :
    ∀ file ∈ directory, file.1 ≠ tempName process name := by
  intro file hfile heq
  have hfirst := h.name_first hfile
  rw [heq, tempName_first] at hfirst
  cases hfirst

theorem lt_of_head {left right : List Nat} {a b : Nat} (hleft : left.head? = some a)
    (hright : right.head? = some b) (hab : a < b) : left < right := by
  cases left with
  | nil => cases hleft
  | cons =>
    cases right with
    | nil => cases hright
    | cons =>
      cases hleft
      cases hright
      exact List.Lex.rel hab

theorem openTransaction_temp (hidentity : identity.validate = .ok ())
    (h : Chained format identity records) (process : Process) (name : String) (content : Content)
    (hperm : directory.Perm ((tempName process name, content) :: records.map (recordFile format))) :
    openTransaction format identity directory
      = .error "delivery transaction record path is not canonical" := by
  have htemp := tempName_first process name
  have hsorted : sortedFiles directory = (tempName process name, content) :: records.map (recordFile format) := by
    refine sortedFiles_eq hperm (List.pairwise_cons.mpr ⟨fun file hfile => ?_, h.sorted⟩)
    exact lt_of_head htemp (h.name_first hfile) (by decide)
  have hname : tempName process name ≠ recordName 0 .sourceVerified := by
    intro heq
    rw [heq] at htemp
    exact absurd htemp (by decide +kernel)
  rw [openTransaction, hidentity, hsorted]
  change List.foldlM (openFile format identity) [] (((tempName process name, content), 0) ::
    (records.map (recordFile format)).zipIdx 1) = _
  rw [List.foldlM_cons]
  have hrefused : openFile format identity [] ((tempName process name, content), 0)
      = .error "delivery transaction record path is not canonical" := by
    change (require (tempName process name == recordName 0 .sourceVerified) _ >>= _) = _
    rw [beq_false_of_ne hname]
    rfl
  rw [hrefused]
  rfl

/-! ### The steps of a record -/

theorem find_eq_none (h : ∀ file ∈ directory, file.1 ≠ name) : directory.find name = none := by
  rw [Directory.find, List.find?_eq_none.mpr fun file hfile => by simpa using h file hfile]
  rfl

theorem fillFile_temp (h : ∀ file ∈ directory, file.1 ≠ temp) (content : Content) :
    fillFile temp content (createFile format temp directory) = (temp, content) :: directory := by
  rw [createFile, fillFile, List.map_cons, if_pos rfl, List.map_congr_left fun file hfile => if_neg (h file hfile),
    List.map_id']

theorem linkFile_temp (temp name : String) (content : Content) :
    linkFile format temp name ((temp, content) :: directory)
      = (name, content) :: (temp, content) :: directory := by
  simp [linkFile, Directory.find]

theorem removeFile_temp (h : ∀ file ∈ directory, file.1 ≠ temp) (hne : name ≠ temp)
    (content : Content) :
    removeFile temp ((name, content) :: (temp, content) :: directory) = (name, content) :: directory := by
  have hkept : directory.filter (fun file => decide (file.1 ≠ temp)) = directory :=
    List.filter_eq_self.mpr fun file hfile => by simpa using h file hfile
  rw [removeFile, List.filter_cons_of_pos (by simpa using hne), List.filter_cons_of_neg (by simp), hkept]

theorem writeRecord_eq {process : Process} {content : Content}
    (htemp : temp = tempName process name) (hname : name = recordName record.sequence record.phase)
    (hcontent : content = format.canonicalBytes record) (hvalid : record.validate = .ok ())
    (hfresh : ∀ file ∈ directory, file.1 ≠ temp) (hfree : ∀ file ∈ directory, file.1 ≠ name)
    (hne : name ≠ temp) :
    writeRecord format process records record directory =
      { passed := [directory, (temp, format.empty) :: directory, (temp, content) :: directory,
          (temp, content) :: directory, (name, content) :: (temp, content) :: directory,
          (name, content) :: directory, (name, content) :: directory]
        state := (name, content) :: directory
        result := .ok (records ++ [record]) } := by
  have hcreate : createTemp format temp directory = CutOff.write (createFile format temp) directory := by
    rw [createTemp, find_eq_none hfresh]
    rfl
  have htaken : ∀ file ∈ ((temp, content) :: directory : Directory Content), file.1 ≠ name :=
    List.forall_mem_cons.mpr ⟨hne.symm, hfree⟩
  have hinstall : installFile format temp name ((temp, content) :: directory)
      = CutOff.write (linkFile format temp name) ((temp, content) :: directory) := by
    rw [installFile, find_eq_none htaken]
    rfl
  subst htemp hname hcontent
  simp only [writeRecord, writeNewBytes, sync, hvalid, bind, CutOff.bind, CutOff.ofExcept, hcreate, CutOff.write,
    fillFile_temp hfresh, id, hinstall, linkFile_temp, removeFile_temp hfresh hne, pure, CutOff.pure]
  rfl

/-! ### Calls -/

def ValidBindings (bindings : List Binding) : Prop := checkBindings none (sortBindings bindings) = .ok ()

theorem belongs_nextRecord (hformat : Sound format) (hidentity : identity.validate = .ok ())
    (hphase : DeliveryPhase.all[records.length]? = some phase)
    (hbindings : ValidBindings bindings) :
    Belongs identity (nextRecord format identity records phase bindings) := by
  refine ⟨?_, rfl, rfl, rfl⟩
  simp only [Identity.validate, Fallible.bind_eq_ok_iff] at hidentity
  obtain ⟨⟨⟩, hid, hroot⟩ := hidentity
  have hpredecessor : checkRecordPredecessor records.length (predecessorOf format records) = .ok () := by
    rcases List.eq_nil_or_concat records with rfl | ⟨earlier, last, rfl⟩
    · rfl
    · unfold checkRecordPredecessor
      rw [List.concat_eq_append, if_neg (by simp), predecessorOf, List.getLast?_concat]
      exact hformat.digest _ _
  simp only [Record.validate, Fallible.bind_eq_ok_iff, require_eq_ok_iff]
  exact ⟨(), by simp [nextRecord, hphase], (), hid, (), hroot, (), hpredecessor, hbindings⟩

theorem Chained.next (h : Chained format identity records) (hformat : Sound format)
    (hidentity : identity.validate = .ok ())
    (hphase : DeliveryPhase.all[records.length]? = some phase)
    (hbindings : ValidBindings bindings) :
    Chained format identity (records ++ [nextRecord format identity records phase bindings]) :=
  .snoc h (belongs_nextRecord hformat hidentity hphase hbindings) rfl rfl

theorem Kept.name_free (h : Kept format identity directory records)
    (hnext : Chained format identity (records ++ [record])) :
    ∀ file ∈ directory, file.1 ≠ recordName record.sequence record.phase := by
  intro file hfile heq
  have hsorted := hnext.sorted
  rw [List.map_append, List.pairwise_append] at hsorted
  have hlt := hsorted.2.2 file (h.files.mem_iff.mp hfile) (recordFile format record)
    (List.mem_map_of_mem (List.mem_singleton_self record))
  rw [heq] at hlt
  exact lt_irrefl _ hlt

theorem Kept.next (h : Kept format identity directory records)
    (hnext : Chained format identity (records ++ [record])) :
    Kept format identity (recordFile format record :: directory) (records ++ [record]) where
  files := by
    rw [List.map_append]
    exact (h.files.cons _).trans (List.perm_append_singleton _ _).symm
  chained := hnext

theorem phase_not_recorded (h : Chained format identity records)
    (hphase : DeliveryPhase.all[records.length]? = some phase) :
    records.find? (fun record => record.phase == phase) = none := by
  have hnodup : DeliveryPhase.all.Nodup := by decide
  rw [List.find?_eq_none]
  intro record hrecord heq
  have hmem : record.phase ∈ DeliveryPhase.all.take records.length := by
    rw [← h.phases]
    exact List.mem_map_of_mem hrecord
  rw [beq_iff_eq.mp heq] at hmem
  have hlater : phase ∈ DeliveryPhase.all.drop records.length :=
    List.mem_iff_getElem?.mpr ⟨0, by simpa [List.getElem?_drop] using hphase⟩
  exact List.disjoint_take_drop hnodup le_rfl hmem hlater

theorem Kept.recordPhase_eq (h : Kept format identity directory records) (hformat : Sound format)
    (hidentity : identity.validate = .ok ())
    (hphase : DeliveryPhase.all[records.length]? = some phase) (hbindings : ValidBindings bindings)
    (process : Process) (hrecord : record = nextRecord format identity records phase bindings)
    (htemp : temp = tempName process (recordName record.sequence record.phase)) :
    recordPhase format identity process records phase bindings directory =
      { passed := [directory, (temp, format.empty) :: directory,
          (temp, format.canonicalBytes record) :: directory,
          (temp, format.canonicalBytes record) :: directory,
          recordFile format record :: (temp, format.canonicalBytes record) :: directory,
          recordFile format record :: directory, recordFile format record :: directory]
        state := recordFile format record :: directory
        result := .ok (records ++ [record]) } := by
  have hbelongs := belongs_nextRecord hformat hidentity hphase hbindings
  have hnext := h.chained.next hformat hidentity hphase hbindings
  subst hrecord
  have hfresh := h.temp_not_found process (recordName records.length phase)
  have hne : recordName records.length phase ≠ temp := by
    have hfirst := hnext.name_first (List.mem_map_of_mem (List.mem_append_right records
      (List.mem_singleton_self (nextRecord format identity records phase bindings))))
    intro heq
    change (textKey (recordName records.length phase)).head? = some 48 at hfirst
    rw [heq, htemp, tempName_first] at hfirst
    cases hfirst
  rw [recordPhase, phase_not_recorded h.chained hphase]
  have hwrite : writeRecord format process records _ directory = _ :=
    writeRecord_eq htemp rfl rfl hbelongs.valid (htemp ▸ hfresh) (h.name_free hnext) hne
  simp only [hphase, beq_self_eq_true, require, if_true, bind, CutOff.bind, CutOff.ofExcept]
  rw [hwrite]
  rfl

/-! ### Runs -/

/-- Where a program can be cut off: before each of its steps, and after the last one. -/
def cuts {α : Type} (program : Files Content α) (directory : Directory Content) : List (Directory Content) :=
  (program directory).passed ++ [(program directory).state]

structure TransactionState (Content : Type) where
  directory : Directory Content
  records : List Record

/-- A call that runs to its end, and a call that is cut off, after which the transaction is opened again. -/
inductive Event where
  | call (process : Process) (phase : DeliveryPhase) (bindings : List Binding)
  | crash (process : Process) (phase : DeliveryPhase) (bindings : List Binding) (cut : Nat)

def afterCall (outcome : CutOff.Outcome (Directory Content) String (List Record)) (records : List Record) :
    TransactionState Content where
  directory := outcome.state
  records := match outcome.result with
    | .ok after => after
    | .error _ => records

def transaction (format : RecordFormat Content) (identity : Identity) :
    Transitions (TransactionState Content) Event where
  step state event next :=
    match event with
    | .call process phase bindings =>
      next = afterCall (recordPhase format identity process state.records phase bindings state.directory)
        state.records
    | .crash process phase bindings cut =>
      (cuts (recordPhase format identity process state.records phase bindings) state.directory)[cut]?
          = some next.directory ∧
        openTransaction format identity next.directory = .ok next.records

theorem validBindings_of_validate
    (h : (nextRecord format identity records phase bindings).validate = .ok ()) :
    ValidBindings bindings := by
  simp only [Record.validate, Fallible.bind_eq_ok_iff] at h
  obtain ⟨-, -, -, -, -, -, -, -, hbindings⟩ := h
  exact hbindings

theorem recordPhase_cases (format : RecordFormat Content) (identity : Identity) (records : List Record)
    (directory : Directory Content) (process : Process) (phase : DeliveryPhase) (bindings : List Binding) :
    (∃ result, recordPhase format identity process records phase bindings directory = ⟨[], directory, result⟩ ∧
      ∀ after, result = .ok after → after = records) ∨
    (DeliveryPhase.all[records.length]? = some phase ∧ ValidBindings bindings) := by
  by_cases hnew : records.find? (fun record => record.phase == phase) = none
  · by_cases hphase : DeliveryPhase.all[records.length]? = some phase
    · cases hvalid : (nextRecord format identity records phase bindings).validate with
      | ok => exact .inr ⟨hphase, validBindings_of_validate hvalid⟩
      | error e =>
        refine .inl ⟨.error e, ?_, fun _ hok => by cases hok⟩
        rw [recordPhase, hnew]
        simp only [hphase, beq_self_eq_true, require, if_true, writeRecord, hvalid, bind, CutOff.bind,
          CutOff.ofExcept, List.nil_append]
    · refine .inl ⟨.error "delivery transaction attempted an out-of-order phase", ?_, fun _ hok => by cases hok⟩
      rw [recordPhase, hnew]
      simp only [beq_false_of_ne hphase, require, bind, CutOff.bind, CutOff.ofExcept]
      rfl
  · obtain ⟨existing, hexisting⟩ := Option.ne_none_iff_exists'.mp hnew
    left
    rw [recordPhase, hexisting]
    by_cases hsame : existing.bindings = sortBindings bindings
    · refine ⟨.ok records, ?_, fun after hafter => (Except.ok.inj hafter).symm⟩
      simp only [beq_iff_eq.mpr hsame, require, bind, CutOff.bind, CutOff.ofExcept]
      rfl
    · refine ⟨.error "completed delivery transaction phase has stale or changed bindings", ?_,
        fun _ hok => by cases hok⟩
      simp only [beq_false_of_ne hsame, require, bind, CutOff.bind, CutOff.ofExcept]
      rfl

theorem Kept.temp_refused (h : Kept format identity directory records) (hidentity : identity.validate = .ok ())
    (process : Process) (name : String) (content : Content) (files : Directory Content)
    (hfiles : files.Perm ((tempName process name, content) :: directory)) (known : List Record) :
    openTransaction format identity files ≠ .ok known := by
  rw [openTransaction_temp hidentity h.chained process name content (hfiles.trans (h.files.cons _))]
  exact nofun

/-- What is left of the call that records the next phase, by the place at which it is cut off: the temporary
file exists from the second place to the fifth. -/
theorem Kept.cut_cases (h : Kept format identity directory records) (hformat : Sound format)
    (hidentity : identity.validate = .ok ())
    (hphase : DeliveryPhase.all[records.length]? = some phase) (hbindings : ValidBindings bindings)
    (process : Process) {cut : Nat} {crashed : Directory Content}
    (hcut : (cuts (recordPhase format identity process records phase bindings) directory)[cut]? = some crashed) :
    (cut = 0 ∧ crashed = directory) ∨
      (1 ≤ cut ∧ cut ≤ 4 ∧ ∀ known, openTransaction format identity crashed ≠ .ok known) ∨
      (5 ≤ cut ∧ crashed = recordFile format (nextRecord format identity records phase bindings) :: directory) := by
  have hnext := h.next (h.chained.next hformat hidentity hphase hbindings)
  have htemp := h.temp_refused hidentity process (recordName records.length phase)
  rw [cuts, h.recordPhase_eq hformat hidentity hphase hbindings process rfl rfl] at hcut
  obtain _ | _ | _ | _ | _ | _ | _ | _ | cut := cut
  · exact .inl ⟨rfl, (Option.some.inj hcut).symm⟩
  · cases hcut
    exact .inr (.inl ⟨by decide, by decide, htemp _ _ .rfl⟩)
  · cases hcut
    exact .inr (.inl ⟨by decide, by decide, htemp _ _ .rfl⟩)
  · cases hcut
    exact .inr (.inl ⟨by decide, by decide, htemp _ _ .rfl⟩)
  · cases hcut
    exact .inr (.inl ⟨by decide, by decide, hnext.temp_refused hidentity process _ _ _ (.swap _ _ _)⟩)
  · exact .inr (.inr ⟨by decide, (Option.some.inj hcut).symm⟩)
  · exact .inr (.inr ⟨by decide, (Option.some.inj hcut).symm⟩)
  · exact .inr (.inr ⟨by decide, (Option.some.inj hcut).symm⟩)
  · cases hcut

theorem kept_of_run (hformat : Sound format) (hidentity : identity.validate = .ok ()) {events : List Event}
    {state : TransactionState Content}
    (hrun : (transaction format identity).Run ⟨[], []⟩ events state) :
    Kept format identity state.directory state.records := by
  refine hrun.invariant (fun state => Kept format identity state.directory state.records) ⟨.rfl, .nil⟩ ?_
  intro state event next h hstep
  cases event with
  | call process phase bindings =>
    change next = _ at hstep
    subst hstep
    rcases recordPhase_cases format identity state.records state.directory process phase bindings with
      ⟨result, heq, hsame⟩ | ⟨hphase, hbindings⟩
    · rw [heq]
      cases result with
      | error => exact h
      | ok after =>
        rw [hsame after rfl]
        exact h
    · rw [h.recordPhase_eq hformat hidentity hphase hbindings process rfl rfl]
      exact h.next (h.chained.next hformat hidentity hphase hbindings)
  | crash process phase bindings =>
    obtain ⟨hcut, hopen⟩ := hstep
    have hreopened : ∀ known, Kept format identity next.directory known →
        Kept format identity next.directory next.records := by
      intro known hknown
      rw [((hknown.openTransaction_iff hformat hidentity next.records).mp hopen).1]
      exact hknown
    rcases recordPhase_cases format identity state.records state.directory process phase bindings with
      ⟨result, heq, -⟩ | ⟨hphase, hbindings⟩
    · rw [cuts, heq] at hcut
      have hsame : state.directory = next.directory :=
        (List.mem_singleton.mp (List.mem_of_getElem? hcut)).symm
      exact hreopened state.records (hsame ▸ h)
    · rcases h.cut_cases hformat hidentity hphase hbindings process hcut with ⟨-, hsame⟩ | ⟨-, -, hrefused⟩ | ⟨-, hnext⟩
      · exact hreopened state.records (hsame ▸ h)
      · exact absurd hopen (hrefused next.records)
      · refine hreopened _ (?_ : Kept format identity next.directory
          (state.records ++ [nextRecord format identity state.records phase bindings]))
        rw [hnext]
        exact h.next (h.chained.next hformat hidentity hphase hbindings)

/-! ### Completing a transaction -/

def recordAll (format : RecordFormat Content) (identity : Identity) (process : Nat → Process)
    (bindings : DeliveryPhase → List Binding) : List DeliveryPhase → List Record → Files Content (List Record)
  | [], records => pure records
  | phase :: later, records => do
      let records ← recordPhase format identity (process records.length) records phase (bindings phase)
      recordAll format identity process bindings later records

theorem Kept.completes (h : Kept format identity directory records) (hformat : Sound format)
    (hidentity : identity.validate = .ok ()) (process : Nat → Process) {bindings : DeliveryPhase → List Binding}
    (hbindings : ∀ phase, ValidBindings (bindings phase)) :
    ∃ final, (recordAll format identity process bindings (DeliveryPhase.all.drop records.length) records
        directory).result = .ok final ∧ records <+: final ∧ requireComplete final = .ok () := by
  generalize hlater : DeliveryPhase.all.drop records.length = later
  induction later generalizing directory records with
  | nil =>
    refine ⟨records, rfl, List.prefix_rfl, ?_⟩
    have hphases := h.chained.phases
    rw [List.take_of_length_le (List.drop_eq_nil_iff.mp hlater)] at hphases
    have hlast : DeliveryPhase.outcomePublished ∈ records.map (·.phase) := by
      rw [hphases]
      decide
    obtain ⟨record, hrecord, hphase⟩ := List.mem_map.mp hlast
    rw [requireComplete, require_eq_ok_iff, Bool.and_eq_true, beq_iff_eq, ← hphases, List.length_map, completed,
      List.any_eq_true]
    exact ⟨rfl, record, hrecord, beq_iff_eq.mpr hphase⟩
  | cons phase later ih =>
    have hphase : DeliveryPhase.all[records.length]? = some phase := by
      have hfirst := congrArg (·[0]?) hlater
      simpa [List.getElem?_drop] using hfirst
    have hrest : DeliveryPhase.all.drop (records.length + 1) = later := by
      rw [← List.tail_drop, hlater, List.tail_cons]
    have hnext := h.next (h.chained.next hformat hidentity hphase (hbindings phase))
    obtain ⟨final, hfinal, hbegins, hcomplete⟩ := ih hnext (by rw [List.length_append]; exact hrest)
    refine ⟨final, ?_, (List.prefix_append _ _).trans hbegins, hcomplete⟩
    rw [← hfinal, recordAll]
    simp only [bind, CutOff.bind]
    rw [h.recordPhase_eq hformat hidentity hphase (hbindings phase) _ rfl rfl]

/-! ### Crashes -/

/-- A directory after a crash is as good as new: it is opened with the records before the call or with the new one
as well, which are the first phases in a chain, and the phases that remain can be recorded. -/
def Recovers (format : RecordFormat Content) (identity : Identity) (records : List Record) (record : Record)
    (crashed : Directory Content) : Prop :=
  ∃ known, openTransaction format identity crashed = .ok known ∧
    (known = records ∨ known = records ++ [record]) ∧ Chained format identity known ∧
    known.map (·.phase) = DeliveryPhase.all.take known.length ∧
    ∀ (process : Nat → Process) (bindings : DeliveryPhase → List Binding),
      (∀ phase, ValidBindings (bindings phase)) →
      ∃ final, (recordAll format identity process bindings (DeliveryPhase.all.drop known.length) known
          crashed).result = .ok final ∧ known <+: final ∧ requireComplete final = .ok ()

theorem Kept.recovers (h : Kept format identity directory records) (hformat : Sound format)
    (hidentity : identity.validate = .ok ()) (hfits : ∀ record ∈ records, Fits format record)
    {before : List Record} (heq : records = before ∨ records = before ++ [record]) :
    Recovers format identity before record directory :=
  ⟨records, (h.openTransaction_iff hformat hidentity records).mpr ⟨rfl, hfits⟩, heq, h.chained, h.chained.phases,
    fun process _ hbindings => h.completes hformat hidentity process hbindings⟩

/-- **Crashes inside of a record.** Wherever a transaction has come to, the call that records its next phase can be cut
off at eight places. The transaction can be opened and completed afterwards exactly when the temporary
file was not there at that place and no record is too long for the reader. -/
theorem record_crash_recovers_iff (hformat : Sound format) (hidentity : identity.validate = .ok ())
    {events : List Event} {state : TransactionState Content}
    (hrun : (transaction format identity).Run ⟨[], []⟩ events state) {phase : DeliveryPhase}
    (hphase : DeliveryPhase.all[state.records.length]? = some phase) {bindings : List Binding}
    (hbindings : ValidBindings bindings) (process : Process) {cut : Nat} {crashed : Directory Content}
    (hcut : (cuts (recordPhase format identity process state.records phase bindings)
      state.directory)[cut]? = some crashed) :
    Recovers format identity state.records (nextRecord format identity state.records phase bindings) crashed ↔
      (∀ record ∈ state.records, Fits format record) ∧
        (cut = 0 ∨ 5 ≤ cut ∧ Fits format (nextRecord format identity state.records phase bindings)) := by
  have hkept := kept_of_run hformat hidentity hrun
  have hnext := hkept.next (hkept.chained.next hformat hidentity hphase hbindings)
  rcases hkept.cut_cases hformat hidentity hphase hbindings process hcut with
    ⟨rfl, rfl⟩ | ⟨hlow, hhigh, hrefused⟩ | ⟨hlow, rfl⟩
  · constructor
    · rintro ⟨known, hopen, -⟩
      exact ⟨((hkept.openTransaction_iff hformat hidentity known).mp hopen).2, .inl rfl⟩
    · rintro ⟨hfits, -⟩
      exact hkept.recovers hformat hidentity hfits (.inl rfl)
  · refine iff_of_false ?_ ?_
    · rintro ⟨known, hopen, -⟩
      exact hrefused known hopen
    · rintro ⟨-, hzero | ⟨hfive, -⟩⟩ <;> omega
  · constructor
    · rintro ⟨known, hopen, -⟩
      have hfits := ((hnext.openTransaction_iff hformat hidentity known).mp hopen).2
      rw [List.forall_mem_append] at hfits
      exact ⟨hfits.1, .inr ⟨hlow, hfits.2 _ (List.mem_singleton_self _)⟩⟩
    · rintro ⟨hfits, hzero | ⟨-, hnew⟩⟩
      · omega
      · refine hnext.recovers hformat hidentity (List.forall_mem_append.mpr ⟨hfits, ?_⟩) (.inr rfl)
        exact List.forall_mem_singleton.mpr hnew

/-! ### A first record that is cut off -/

def sampleDigest : Digest := "0123456789abcdef0123456789abcdef0123456789abcdef0123456789abcdef"

def sampleFormat : RecordFormat (Option Record) where
  empty := none
  size _ := 1
  canonicalBytes := some
  fromSliceStrict
    | some record => .ok record
    | none => .error "EOF while parsing a value at line 1 column 0"
  sha256Hex _ := sampleDigest

def sampleIdentity : Identity where
  evidenceKind := .calibration
  evidenceId := "cal-1"
  sealRootSha256 := sampleDigest

theorem sampleFormat_sound : Sound sampleFormat where
  roundTrip _ _ := rfl
  digest _ name := by
    change validateNonPlaceholderSha256 name sampleDigest = _
    simp only [validateNonPlaceholderSha256, validateSha256, Fallible.bind_eq_ok_iff, require_eq_ok_iff]
    exact ⟨(), by decide +kernel, by decide +kernel⟩

-- the process is cut off when the temporary file of the first record has been created
theorem first_record_refused :
    ∃ crashed, (cuts (recordPhase sampleFormat sampleIdentity ⟨1, 0⟩ [] .sourceVerified []) [])[1]? = some crashed ∧
      openTransaction sampleFormat sampleIdentity crashed
        = .error "delivery transaction record path is not canonical" :=
  ⟨[(tempName ⟨1, 0⟩ (recordName 0 .sourceVerified), none)], by decide +kernel, by decide +kernel⟩

-- the same call is cut off before that
theorem record_crash_recovers_first :
    Recovers sampleFormat sampleIdentity [] (nextRecord sampleFormat sampleIdentity [] .sourceVerified []) [] := by
  have hphase : DeliveryPhase.all[([] : List Record).length]? = some .sourceVerified := rfl
  have hbindings : ValidBindings [] := rfl
  have hcut : (cuts (recordPhase sampleFormat sampleIdentity ⟨1, 0⟩ [] .sourceVerified []) [])[0]? = some [] := by
    decide +kernel
  exact (record_crash_recovers_iff sampleFormat_sound (by decide +kernel) .start hphase hbindings ⟨1, 0⟩ hcut).mpr
    ⟨nofun, .inl rfl⟩

end RecordFiles

end AuthMiniGateway.Benchmark
