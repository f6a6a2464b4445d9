import WorkloadIdentity.Cipher.Aes

/-!
# Authenticated encryption: AES-256 in Galois counter mode

Encryption adds a keystream to the text and appends a tag of sixteen bytes; decryption checks the tag
before it gives out anything.  Keys have thirty-two bytes and nonces twelve.

* `decrypt?_encrypt`: what was encrypted is decrypted under the same key and nonce.
* `eq_encrypt_of_decrypt?`: nothing else is decrypted.
-/

namespace WorkloadIdentity
namespace Gcm

def nonceSize : Nat := 12

def tagSize : Nat := 16

/-- The product of two elements of the field of `2 ^ 128` elements, whose bits are in reverse
order. -/
def multiply (a b : BitVec 128) : BitVec 128 :=
  ((List.range 128).foldl (fun (total, power) i =>
    (if a.getMsbD i then total ^^^ power else total,
      if power.getLsbD 0 then (power >>> 1) ^^^ (0xE1#128 <<< 120) else power >>> 1))
    (0#128, b)).1

/-- The field element that a block spells, padded with zeros behind. -/
def element (block : Bytes) : BitVec 128 :=
  BitVec.ofNat 128 (Bytes.toNat (block ++ List.replicate (16 - block.length) 0))

/-- The authentication hash of a list of field elements. -/
def hash (key : BitVec 128) (elements : List (BitVec 128)) : BitVec 128 :=
  elements.foldl (fun total e => multiply (total ^^^ e) key) 0#128

/-- The counter block of a nonce. -/
def counterBlock (nonce : Bytes) (counter : Nat) : Bytes :=
  nonce ++ Bytes.fixed 4 counter

/-- The first `size` bytes of the keystream of a nonce. -/
def keystream (keys : List Bytes) (nonce : Bytes) (size : Nat) : Bytes :=
  let blocks := (List.range ((size + 15) / 16)).map fun i =>
    Aes.encryptBlock keys (counterBlock nonce (i + 2))
  let stream := blocks.flatten.take size
  stream ++ List.replicate (size - stream.length) 0

def tag (keys : List Bytes) (nonce body : Bytes) : Bytes :=
  let key := element (Aes.encryptBlock keys (List.replicate 16 0))
  let lengths := BitVec.ofNat 128 (body.length * 8)
  let digest := hash key ((Bytes.chunks 16 body).map element ++ [lengths])
  Bytes.fixed tagSize
    (digest ^^^ element (Aes.encryptBlock keys (counterBlock nonce 1))).toNat

/-- The text encrypted under a key and a nonce, followed by its tag. -/
def encrypt (key nonce text : Bytes) : Bytes :=
  let keys := Aes.roundKeys key
  let body := Bytes.xor text (keystream keys nonce text.length)
  body ++ tag keys nonce body

/-- The text of an encrypted message, if its tag is the right one. -/
def decrypt? (key nonce message : Bytes) : Option Bytes :=
  if message.length < tagSize then none
  else
    let keys := Aes.roundKeys key
    let body := message.take (message.length - tagSize)
    if message.drop (message.length - tagSize) = tag keys nonce body then
      some (Bytes.xor body (keystream keys nonce body.length))
    else none

@[simp] theorem length_keystream
    (keys : List Bytes) (nonce : Bytes) (size : Nat) :
    (keystream keys nonce size).length = size := by
  simp only [keystream, List.length_append, List.length_replicate, List.length_take]
  omega

@[simp] theorem length_tag
    (keys : List Bytes) (nonce body : Bytes) :
    (tag keys nonce body).length = tagSize := by
  simp [tag]

theorem xor_xor
    {a b : Bytes}
    (h : a.length ≤ b.length) :
    Bytes.xor (Bytes.xor a b) b = a := by
  induction a generalizing b with
  | nil =>
      simp [Bytes.xor]
  | cons x a ih =>
      cases b with
      | nil => simp at h
      | cons y b =>
        simp only [Bytes.xor, List.zipWith_cons_cons] at ih ⊢
        rw [ih (by simpa using h), UInt8.xor_assoc, UInt8.xor_self, UInt8.xor_zero]

theorem length_xor
    {a b : Bytes}
    (h : a.length = b.length) :
    (Bytes.xor a b).length = a.length := by
  simp [Bytes.xor, h]

theorem decrypt?_encrypt
    (key nonce text : Bytes) :
    decrypt? key nonce (encrypt key nonce text) = some text := by
  have hlen : (Bytes.xor text (keystream (Aes.roundKeys key) nonce text.length)).length
      = text.length := length_xor (by simp)
  simp only [decrypt?, encrypt, List.length_append, length_tag, Nat.add_sub_cancel]
  rw [if_neg (by omega), List.take_left, List.drop_left, if_pos rfl, hlen, xor_xor (by simp)]

theorem eq_encrypt_of_decrypt?
    {key nonce message text : Bytes}
    (h : decrypt? key nonce message = some text) :
    message = encrypt key nonce text := by
  simp only [decrypt?] at h
  split at h
  · cases h
  · next hlen =>
    split at h
    · next htag =>
      simp only [Option.some.injEq] at h
      subst h
      have hbody : (message.take (message.length - tagSize)).length
          = message.length - tagSize := by
        simp
      simp only [encrypt]
      rw [length_xor (by simp), xor_xor (by simp), ← htag, List.take_append_drop]
    · cases h

end Gcm
end WorkloadIdentity
