import IdentityToken.Crypto.Sha256
/-!
# Message authentication with SHA-256

The hash of a message is keyed twice, with two paddings of the key to a whole block.
-/

namespace IdentityToken.Crypto

def hashBlock : Nat := 64

/-- A key that fits into a block: a longer one is hashed. -/
def shortKey (key : Bytes) : Bytes := if key.length ≤ hashBlock then key else sha256 key

/-- A key as one block: behind a shorter one stand zeros. -/
def blockKey (key : Bytes) : Bytes :=
  shortKey key ++ List.replicate (hashBlock - (shortKey key).length) 0

def hmacSha256 (key message : Bytes) : Bytes :=
  let block := blockKey key
  sha256 (block.map (· ^^^ 0x5c) ++ sha256 (block.map (· ^^^ 0x36) ++ message))

@[simp] theorem length_hmacSha256 (key message : Bytes) : (hmacSha256 key message).length = 32 :=
  length_sha256 _

end IdentityToken.Crypto
