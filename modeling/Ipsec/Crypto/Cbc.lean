import Ipsec.Crypto.Aes

/-!
# Cipher block chaining

Each block is added to the ciphertext of the block before it and then enciphered; the first is
added to the initialisation vector. The mode takes the block function as an argument.
-/

namespace Ipsec.Cbc

open Ipsec.Aes (Block)

/-- The ciphertext of a list of blocks under the block function `f`, chained from `iv`. -/
def encrypt (f : Block → Block) (iv : Block) : List Block → List Block
  | [] => []
  | a :: rest =>
    let made := f (a.xor iv)
    made :: encrypt f made rest

/-- The plaintext of a list of blocks under the block function `f`, chained from `iv`. -/
def decrypt (f : Block → Block) (iv : Block) : List Block → List Block
  | [] => []
  | a :: rest => (f a).xor iv :: decrypt f a rest

@[simp] theorem length_encrypt (f : Block → Block) (iv : Block) (l : List Block) :
    (encrypt f iv l).length = l.length := by
  induction l generalizing iv with
  | nil => rfl
  | cons a rest ih => simp [encrypt, ih]

@[simp] theorem length_decrypt (f : Block → Block) (iv : Block) (l : List Block) :
    (decrypt f iv l).length = l.length := by
  induction l generalizing iv with
  | nil => rfl
  | cons a rest ih => simp [decrypt, ih]

end Ipsec.Cbc
