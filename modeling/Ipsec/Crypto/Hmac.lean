import Ipsec.Crypto.Sha256

/-!
# Keyed message authentication

The code of a message is the hash of an outer key block and of the hash of an inner key block and
the message. The two blocks are the key, filled with zeros, plus a constant byte.
-/

namespace Ipsec.Hmac

/-- A key of at most sixty-four bytes as a whole hash block, with `pad` added to every byte. -/
def keyBlock (pad : UInt8) (key : Bytes) : Bytes :=
  (key ++ List.replicate (64 - key.length) 0).map (· ^^^ pad)

/-- The authentication code of a message under a key of at most sixty-four bytes. -/
def code (key message : Bytes) : Bytes :=
  Sha256.digest (keyBlock 0x5c key ++ Sha256.digest (keyBlock 0x36 key ++ message))

@[simp] theorem length_code (key message : Bytes) : (code key message).length = 32 :=
  Sha256.length_digest _

end Ipsec.Hmac
