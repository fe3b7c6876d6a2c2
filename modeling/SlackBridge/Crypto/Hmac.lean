import SlackBridge.Crypto.Sha256

/-!
HMAC with SHA-256. Every byte string is a key: one longer than a block is hashed first.
-/

namespace SlackBridge.Crypto.Hmac

/-- The key as one block of 64 bytes. -/
def blockKey (key : Bytes) : Bytes :=
  let short := if key.length > 64 then Sha256.digest key else key
  short ++ List.replicate (64 - short.length) 0

/-- The authentication code of a message under a key. -/
def tag (key message : Bytes) : Bytes :=
  let k := blockKey key
  let inner := Sha256.digest (k.map (· ^^^ 0x36) ++ message)
  Sha256.digest (k.map (· ^^^ 0x5c) ++ inner)

theorem length_tag (key message : Bytes) : (tag key message).length = 32 :=
  Sha256.length_digest _

end SlackBridge.Crypto.Hmac
