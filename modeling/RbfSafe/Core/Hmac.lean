/-
Digests of files and keyed digests.

A file is read in pieces of 64 KiB, each passed to `update`; the last one
is shorter, and may be empty. A keyed digest is two digests over two pads
of the key block. `finish` is not called twice on one state, so the parts
of a state that it leaves behind are not modelled.
-/
import RbfSafe.Core.Sha256

namespace RbfSafe

/-- The buffer of `sha256_file`. -/
def kFileBufferBytes : Nat := 64 * 1024

/-- A file that has been opened: the bytes it gives, and whether the
device fails where they end. -/
structure InputFile where
  content : Bytes
  broken : Bool

/-- The loop of `sha256_file`: a read that finds fewer bytes than it asks
for is the last one. -/
def hashReads (state : Sha256) (rest : Bytes) : Sha256 :=
  if rest.length < kFileBufferBytes then
    if rest.length > 0 then state.update rest else state
  else
    hashReads (state.update (rest.take kFileBufferBytes))
      (rest.drop kFileBufferBytes)
termination_by rest.length
decreasing_by
  rw [List.length_drop, kFileBufferBytes] at *
  omega

/-- `sha256_file`. -/
def sha256File (path : Bytes) (file : Option InputFile) : Result Bytes :=
  match file with
  | none => failure .ioError "failed to open file for hashing" path
  | some input =>
      let state := hashReads {} input.content
      if input.broken then failure .ioError "failed while hashing file" path
      else .ok (encodeHex state.finish)

/-- `block_size`. -/
def kHmacBlockBytes : Nat := 64

/-- `key_block`: zeros where the key, or its digest, ends. -/
def hmacKeyBlock (key : Bytes) : Bytes :=
  if key.length > kHmacBlockBytes then
    let digest := (Sha256.update {} key).finish
    digest ++ List.replicate (kHmacBlockBytes - digest.length) 0
  else key ++ List.replicate (kHmacBlockBytes - key.length) 0

/-- `hmac_sha256`. -/
def hmacSha256 (key message : Bytes) : Bytes :=
  let innerPad := (hmacKeyBlock key).map (· ^^^ 0x36)
  let outerPad := (hmacKeyBlock key).map (· ^^^ 0x5c)
  let innerDigest := ((Sha256.update {} innerPad).update message).finish
  encodeHex ((Sha256.update {} outerPad).update innerDigest).finish

end RbfSafe
