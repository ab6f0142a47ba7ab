import Mathlib.Data.List.Basic
import Mathlib.Data.List.Infix

/-!
# Stream ciphers with a tag

A key and a nonce give a stream of bytes that masks the text, and a tag over the associated data
and the masked text.  Opening compares as many bytes of the tag as are supplied, where their
number is one it accepts.
-/

namespace UniverEscrow.Lib

/-- Why a text was not opened. -/
inductive Rejection where
  | tagLength
  | tagMismatch
deriving DecidableEq

/-- Masking twice with one byte of the stream gives the byte of the text back. -/
structure TaggedCipher (κ ν α β : Type*) where
  keystream : κ → ν → ℕ → β
  mask : β → β → β
  mask_mask : ∀ stream text, mask stream (mask stream text) = text
  tag : κ → ν → α → List β → List β
  acceptsTagLength : ℕ → Bool

namespace TaggedCipher

variable {κ ν α β : Type*} (cipher : TaggedCipher κ ν α β)

def crypt (key : κ) (nonce : ν) (text : List β) : List β :=
  text.mapIdx fun i x => cipher.mask (cipher.keystream key nonce i) x

/-- The masked text and its whole tag. -/
def encrypt (key : κ) (nonce : ν) (assoc : α) (text : List β) : List β × List β :=
  (cipher.crypt key nonce text, cipher.tag key nonce assoc (cipher.crypt key nonce text))

def decrypt [DecidableEq β] (key : κ) (nonce : ν) (assoc : α) (masked tag : List β) :
    Except Rejection (List β) :=
  if !cipher.acceptsTagLength tag.length then .error .tagLength
  else if tag <+: cipher.tag key nonce assoc masked then .ok (cipher.crypt key nonce masked)
  else .error .tagMismatch

/-- Ideally no tag is made up: what opens is a text that has been encrypted. -/
def Unforged [DecidableEq β] (encrypted : List (κ × ν × α × List β)) (key : κ) (nonce : ν)
    (assoc : α) (masked tag : List β) : Prop :=
  ∀ text, cipher.decrypt key nonce assoc masked tag = .ok text →
    (key, nonce, assoc, masked) ∈ encrypted

theorem crypt_crypt (key : κ) (nonce : ν) (text : List β) :
    cipher.crypt key nonce (cipher.crypt key nonce text) = text := by
  apply List.ext_getElem
  · simp [crypt]
  · intro i hi hi'
    simp [crypt, cipher.mask_mask]

variable {cipher} [DecidableEq β] {key key' : κ} {nonce nonce' : ν} {assoc assoc' : α}
  {masked tag text text' : List β}

theorem decrypt_eq_ok_iff :
    cipher.decrypt key nonce assoc masked tag = .ok text ↔
      cipher.acceptsTagLength tag.length = true ∧ tag <+: cipher.tag key nonce assoc masked ∧
        cipher.crypt key nonce masked = text := by
  rw [decrypt]
  cases haccepts : cipher.acceptsTagLength tag.length with
  | false => simp
  | true =>
      by_cases htag : tag <+: cipher.tag key nonce assoc masked
      · simp [htag]
      · simp [htag]

/-- What was encrypted is decrypted, where whole tags have a length that is accepted. -/
theorem decrypt_encrypt
    (hlength : ∀ masked, cipher.acceptsTagLength (cipher.tag key nonce assoc masked).length) :
    cipher.decrypt key nonce assoc (cipher.encrypt key nonce assoc text).1
      (cipher.encrypt key nonce assoc text).2 = .ok text := by
  rw [decrypt_eq_ok_iff]
  exact ⟨hlength _, List.prefix_rfl, cipher.crypt_crypt key nonce text⟩

/-- A part of the tag opens the text where its length is accepted. -/
theorem decrypt_encrypt_of_prefix (haccepts : cipher.acceptsTagLength tag.length = true)
    (htag : tag <+: (cipher.encrypt key nonce assoc text).2) :
    cipher.decrypt key nonce assoc (cipher.encrypt key nonce assoc text).1 tag = .ok text := by
  rw [decrypt_eq_ok_iff]
  exact ⟨haccepts, htag, cipher.crypt_crypt key nonce text⟩

/-- What opens a text under another key, nonce or associated data has its whole tag there. -/
theorem tag_eq_of_decrypt_encrypt
    (hlength : (cipher.tag key' nonce' assoc' (cipher.encrypt key nonce assoc text).1).length =
      (cipher.encrypt key nonce assoc text).2.length)
    (h : cipher.decrypt key' nonce' assoc' (cipher.encrypt key nonce assoc text).1
      (cipher.encrypt key nonce assoc text).2 = .ok text') :
    cipher.tag key' nonce' assoc' (cipher.encrypt key nonce assoc text).1 =
      (cipher.encrypt key nonce assoc text).2 := by
  obtain ⟨-, htag, -⟩ := decrypt_eq_ok_iff.1 h
  exact (htag.eq_of_length hlength.symm).symm

end TaggedCipher

end UniverEscrow.Lib
