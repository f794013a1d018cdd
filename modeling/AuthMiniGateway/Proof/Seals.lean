import AuthMiniGateway.Benchmark.Seal
import AuthMiniGateway.Proof.OperationSummaries

namespace AuthMiniGateway.Benchmark

open Fallible
open RawCodec (hexLower ensure_eq_ok_iff raise_eq_ok_iff)

/-! ### One entry -/

theorem toBeBytes_append_inj {width first second : ℕ} {rest rest' : Bytes} (hfirst : first < 256 ^ width)
    (hsecond : second < 256 ^ width) (h : toBeBytes width first ++ rest = toBeBytes width second ++ rest') :
    first = second ∧ rest = rest' := by
  obtain ⟨hnumber, hrest⟩ := List.append_inj h (by simp [toBeBytes])
  exact ⟨LittleEndian.toBytes_injective hfirst hsecond (List.reverse_injective hnumber), hrest⟩

theorem Seal.decodeHash_eq_ok_iff {digest : Digest} {hash : Bytes} :
    Seal.decodeHash digest = .ok hash ↔ hash.length = 32 ∧ hexLower hash = digest := by
  rw [← RawCodec.decodeHash_eq_ok_iff]
  simp only [Seal.decodeHash, RawCodec.decodeHash, bind_eq_ok_iff, raise_eq_ok_iff, validateSha256,
    require_eq_ok_iff]

variable {left right : SealEntry} {record record' rest rest' : Bytes}

theorem SealEntry.hashed_eq_ok (h : left.hashed = .ok record) :
    (utf8 left.path).length < 2 ^ 32 ∧ ∃ hash : Bytes, hash.length = 32 ∧ hexLower hash = left.sha256 ∧
      record = toBeBytes 4 (utf8 left.path).length ++
        (utf8 left.path ++ (toBeBytes 8 left.bytes.toNat ++ hash)) := by
  simp only [SealEntry.hashed, bind_eq_ok_iff, raise_eq_ok_iff, ensure_eq_ok_iff, decide_eq_true_eq,
    Seal.decodeHash_eq_ok_iff] at h
  obtain ⟨-, -, -, hlength, hash, ⟨hwidth, hhash⟩, ⟨⟩⟩ := h
  exact ⟨hlength, hash, hwidth, hhash, rfl⟩

theorem SealEntry.hashed_append_inj (hleft : left.hashed = .ok record) (hright : right.hashed = .ok record')
    (h : record ++ rest = record' ++ rest') : left = right ∧ rest = rest' := by
  obtain ⟨hlength, hash, hwidth, hhash, rfl⟩ := SealEntry.hashed_eq_ok hleft
  obtain ⟨hlength', hash', hwidth', hhash', rfl⟩ := SealEntry.hashed_eq_ok hright
  simp only [List.append_assoc] at h
  obtain ⟨hsame, h⟩ := toBeBytes_append_inj hlength hlength' h
  obtain ⟨hpath, h⟩ := List.append_inj h hsame
  obtain ⟨hbytes, h⟩ := toBeBytes_append_inj left.bytes.toNat_lt right.bytes.toNat_lt h
  obtain ⟨rfl, hrest⟩ := List.append_inj h (hwidth.trans hwidth'.symm)
  refine ⟨?_, hrest⟩
  cases left
  cases right
  rw [SealEntry.mk.injEq]
  exact ⟨utf8_injective hpath, UInt64.toNat_inj.mp hbytes, hhash.symm.trans hhash'⟩

theorem SealEntry.hashed_ne_nil (h : left.hashed = .ok record) : record ≠ [] := by
  obtain ⟨-, hash, -, -, rfl⟩ := SealEntry.hashed_eq_ok h
  rw [← List.length_pos_iff, List.length_append, toBeBytes, List.length_reverse,
    LittleEndian.length_toBytes]
  omega

/-! ### Lists of entries -/

theorem records_injective {first second : List SealEntry} {records records' : List Bytes}
    (hfirst : List.Forall₂ (fun entry record => entry.hashed = .ok record) first records)
    (hsecond : List.Forall₂ (fun entry record => entry.hashed = .ok record) second records')
    (h : records.flatten = records'.flatten) : first = second := by
  induction hfirst generalizing second records' with
  | nil =>
    cases hsecond with
    | nil => rfl
    | cons hrecord =>
      exact absurd (List.append_eq_nil_iff.mp h.symm).1 (SealEntry.hashed_ne_nil hrecord)
  | cons hrecord _ ih =>
    cases hsecond with
    | nil => exact absurd (List.append_eq_nil_iff.mp h).1 (SealEntry.hashed_ne_nil hrecord)
    | cons hrecord' hsecond =>
      obtain ⟨rfl, hrest⟩ := SealEntry.hashed_append_inj hrecord hrecord' h
      rw [ih hsecond hrest]

theorem sealInput_injective {first second : List SealEntry} {input : Bytes}
    (hfirst : sealInput first = .ok input) (hsecond : sealInput second = .ok input) : first = second := by
  simp only [sealInput, bind_eq_ok_iff, mapM_eq_ok_iff] at hfirst hsecond
  obtain ⟨records, hrecords, ⟨⟩⟩ := hfirst
  obtain ⟨records', hrecords', heq⟩ := hsecond
  exact records_injective hrecords hrecords' (List.append_cancel_left (Except.ok.inj heq)).symm

/-! ### Manifests -/

namespace SealManifest

theorem checkEntries_sorted {previous : Option (List ℕ)} {unique : List String} {entries : List SealEntry}
    (h : checkEntries previous unique entries = .ok ()) :
    (∀ key ∈ previous, ∀ path ∈ entries.map (·.path), key < pathKey path) ∧
      (entries.map (·.path)).Pairwise fun left right => pathKey left < pathKey right := by
  induction entries generalizing previous unique with
  | nil => simp
  | cons entry _ ih =>
    simp only [checkEntries, bind_eq_ok_iff, require_eq_ok_iff, Bool.and_eq_true] at h
    obtain ⟨-, -, -, ⟨hkey, -⟩, hrest⟩ := h
    obtain ⟨hafter, hsorted⟩ := ih hrest
    have hless : ∀ key ∈ previous, key < pathKey entry.path := by
      intro key hmem
      rw [Option.mem_def] at hmem
      simpa [hmem] using hkey
    refine ⟨fun key hmem => ?_, List.pairwise_cons.mpr ⟨hafter _ rfl, hsorted⟩⟩
    exact List.forall_mem_cons.mpr
      ⟨hless key hmem, fun path hpath => (hless key hmem).trans (hafter _ rfl path hpath)⟩

variable {sha256 : Bytes → Bytes} {manifest : SealManifest}

theorem validate_eq_ok (h : manifest.validate sha256 = .ok ()) :
    ((manifest.entries.map (·.path)).Pairwise fun left right => pathKey left < pathKey right) ∧
      ∃ input, sealInput manifest.entries = .ok input ∧ (sha256 input).length = 32 ∧
        hexLower (sha256 input) = manifest.rootSha256 := by
  simp only [validate, sealRoot, bind_eq_ok_iff, raise_eq_ok_iff, ensure_eq_ok_iff,
    validateNonPlaceholderSha256, validateSha256, require_eq_ok_iff, Bool.and_eq_true, decide_eq_true_eq,
    beq_iff_eq] at h
  obtain ⟨-, -, -, ⟨-, ⟨hwidth, -⟩, -⟩, ⟨⟩, hentries, root, ⟨input, hinput, ⟨⟩⟩, hroot⟩ := h
  refine ⟨(checkEntries_sorted hentries).2, input, hinput, ?_, hroot⟩
  rw [← hroot, RawCodec.utf8_hexLower, RawCodec.length_hexPairs] at hwidth
  omega

end SealManifest

/-- **The seal root identifies its entries.** Of two valid manifests, both have a string that is hashed, and
these are equal only for equal entries. So, unless the two strings are a collision, equal roots have equal
entries. The entries of a valid manifest are in the only order that their paths can have. -/
theorem seal_root_identifies (sha256 : Bytes → Bytes) {first second : SealManifest}
    (hfirst : first.validate sha256 = .ok ()) (hsecond : second.validate sha256 = .ok ()) :
    ∃ input input', sealInput first.entries = .ok input ∧ sealInput second.entries = .ok input' ∧
      (input = input' → first.entries = second.entries) ∧
      ((sha256 input = sha256 input' → input = input') → first.rootSha256 = second.rootSha256 →
        first.entries = second.entries) ∧
      ((∀ path, path ∈ first.entries.map (·.path) ↔ path ∈ second.entries.map (·.path)) →
        first.entries.map (·.path) = second.entries.map (·.path)) := by
  obtain ⟨hsorted, input, hinput, hwidth, hroot⟩ := SealManifest.validate_eq_ok hfirst
  obtain ⟨hsorted', input', hinput', hwidth', hroot'⟩ := SealManifest.validate_eq_ok hsecond
  have hentries (heq : input = input') : first.entries = second.entries :=
    sealInput_injective hinput (heq ▸ hinput')
  refine ⟨input, input', hinput, hinput', hentries, fun hfree heq => hentries (hfree ?_), fun hpaths => ?_⟩
  · have hdecoded := Seal.decodeHash_eq_ok_iff.mpr ⟨hwidth, hroot.trans heq⟩
    exact Except.ok.inj (hdecoded.symm.trans (Seal.decodeHash_eq_ok_iff.mpr ⟨hwidth', hroot'⟩))
  · have hasymm : Std.Antisymm fun left right => pathKey left < pathKey right :=
      ⟨fun _ _ hless hless' => absurd hless' hless.asymm⟩
    have hirrefl : Std.Irrefl fun left right => pathKey left < pathKey right :=
      ⟨fun _ hless => lt_irrefl _ hless⟩
    exact hsorted.eq_of_mem_iff hsorted' hpaths

def sampleSeal : SealManifest where
  schema := executionSchema
  hashAlgorithm := "sha256"
  entries := [⟨"a", 1, hexLower (List.replicate 32 7)⟩, ⟨"b/c", 2, hexLower (List.replicate 32 8)⟩]
  rootSha256 := hexLower (List.replicate 32 9)

theorem seal_root_identifies_sample :
    sampleSeal.validate (fun _ => List.replicate 32 9) = .ok () ∧
      ∃ input, sealInput sampleSeal.entries = .ok input := by
  have hvalid : sampleSeal.validate (fun _ => List.replicate 32 9) = .ok () := by decide +kernel
  obtain ⟨input, -, hinput, -⟩ := seal_root_identifies _ hvalid hvalid
  exact ⟨hvalid, input, hinput⟩

end AuthMiniGateway.Benchmark
