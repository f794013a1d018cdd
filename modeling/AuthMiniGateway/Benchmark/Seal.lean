import AuthMiniGateway.Benchmark.OperationSummary

/-!
# The seal of an evidence tree

The root of the seal is the SHA-256 of a domain and of every entry. SHA-256 is a parameter.
-/

namespace AuthMiniGateway.Benchmark

open RawCodec (Outcome ensure raise decodePair hexLower)

def executionSchema : String := "amg-http2-perf/v1"

structure SealEntry where
  path : String
  bytes : UInt64
  sha256 : Digest

structure SealManifest where
  schema : String
  hashAlgorithm : String
  entries : List SealEntry
  rootSha256 : Digest

def pathKey (path : String) : List ℕ := (utf8 path).map UInt8.toNat

def toBeBytes (width number : ℕ) : Bytes := (LittleEndian.toBytes width number).reverse

namespace Seal

def decodeHash (value : Digest) : Outcome Bytes := do
  raise (validateSha256 "hash" value)
  (Slices.chunksExact 2 (utf8 value)).mapM decodePair

end Seal

namespace SealEntry

def validate (entry : SealEntry) : Except String Unit := do
  -- the check looks at the text of a path, which is what a path of one piece has
  validateRelativePath [entry.path]
  validateNonPlaceholderSha256 "seal entry sha256" entry.sha256

/-- What the hasher is fed with for one entry. -/
def hashed (entry : SealEntry) : Outcome Bytes := do
  raise entry.validate
  ensure ((utf8 entry.path).length < 2 ^ 32) "seal path length exceeds u32"
  let hash ← Seal.decodeHash entry.sha256
  pure (toBeBytes 4 (utf8 entry.path).length ++
    (utf8 entry.path ++ (toBeBytes 8 entry.bytes.toNat ++ hash)))

end SealEntry

def sealDomain : Bytes := utf8 "amg-http2-perf/seal/v1\x00"

def sealInput (entries : List SealEntry) : Outcome Bytes := do
  let records ← entries.mapM SealEntry.hashed
  pure (sealDomain ++ records.flatten)

def sealRoot (sha256 : Bytes → Bytes) (entries : List SealEntry) : Outcome Digest := do
  let input ← sealInput entries
  pure (hexLower (sha256 input))

namespace SealManifest

/-- The loop over the entries: the path before and the paths so far. -/
def checkEntries : Option (List ℕ) → List String → List SealEntry → Except String Unit
  | _, _, [] => .ok ()
  | previous, unique, entry :: entries => do
    entry.validate
    require (previous.all (fun value => decide (value < pathKey entry.path)) && !unique.contains entry.path)
      "seal entries are not strictly byte-sorted and unique"
    checkEntries (some (pathKey entry.path)) (entry.path :: unique) entries

def validate (sha256 : Bytes → Bytes) (manifest : SealManifest) : Outcome Unit := do
  ensure (manifest.schema == executionSchema && manifest.hashAlgorithm == "sha256")
    "unsupported seal schema or hash algorithm"
  raise (validateNonPlaceholderSha256 "seal root" manifest.rootSha256)
  raise (checkEntries none [] manifest.entries)
  let computed ← sealRoot sha256 manifest.entries
  ensure (computed == manifest.rootSha256) "seal root does not match its entries"

end SealManifest

end AuthMiniGateway.Benchmark
