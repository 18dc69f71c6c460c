import ShopRelay.Digest.Sha256
import ShopRelay.Text.Hex

/-!
Keyed hashes: HMAC with SHA-256.
-/

namespace ShopRelay.Digest

open Text (Bytes)

def blockSize : Nat := 64

/-- The key filled up to a block with zeros; a longer key is hashed first. -/
def blockKey (key : Bytes) : Bytes :=
  let short := if key.length ≤ blockSize then key else sha256 key
  short ++ List.replicate (blockSize - short.length) 0

def hmac (key message : Bytes) : Bytes :=
  let block := blockKey key
  sha256 (block.map (· ^^^ 0x5c) ++ sha256 (block.map (· ^^^ 0x36) ++ message))

end ShopRelay.Digest
