import Folio.Password.Hasher
import Folio.Proofs.Password.Phc

/-!
# Passwords and their hashes

A hash string is made so that the password it was made from passes the check against it, and another
password passes exactly when it has the same tag (`hash_then_verify`).
-/

namespace Folio.Password

theorem length_littleEndian (count value : Nat) : (littleEndian count value).length = count := by
  induction count generalizing value with
  | zero => rfl
  | succ count ih => rw [littleEndian, List.length_cons, ih]

namespace Blake2b

theorem length_digest {size : Nat} (small : size ≤ 64) (bytes : List UInt8) :
    (digest size bytes).length = size := by
  have words : ∀ words : List UInt64,
      (words.flatMap fun word => littleEndian 8 word.toNat).length = 8 * words.length := by
    intro words
    induction words with
    | nil => rfl
    | cons word rest ih =>
      rw [List.flatMap_cons, List.length_append, length_littleEndian, ih, List.length_cons]
      omega
  unfold digest
  rw [List.length_take, words, Vector.length_toList]
  omega

theorem length_chain {size : Nat} (small : size ≤ 64) (count : Nat) (bytes : List UInt8) :
    (chain size count bytes).length = 32 * count + size := by
  induction count generalizing bytes with
  | zero => rw [chain, length_digest small, Nat.mul_zero, Nat.zero_add]
  | succ count ih =>
    rw [chain, List.length_append, List.length_take, length_digest (by decide), ih]
    omega

theorem length_stretch (size : Nat) (bytes : List UInt8) : (stretch size bytes).length = size := by
  unfold stretch
  dsimp only
  split
  · rename_i small
    exact length_digest small _
  · rw [length_chain (by omega)]
    omega

end Blake2b

/-- A tag has the size that the parameters ask for. -/
def Sized (tag : TagFunction) : Prop :=
  ∀ p password salt, (tag p password salt).length = p.size

theorem sized_tag : Sized Argon2.tag :=
  fun p _ _ => Blake2b.length_stretch p.size _

namespace Hasher

open Argon2

variable {tag : TagFunction} {salt : List UInt8}

theorem saltBytes_encode (long : 8 ≤ salt.length) :
    saltBytes? (Base64.encode salt) = some salt := by
  unfold saltBytes?
  rw [Base64.decode_encode, Option.bind_some, if_pos long]

theorem ofPhc_hashPhc (tag : TagFunction) (salt : List UInt8) (password : String) :
    Params.ofPhc? (hashPhc tag salt password) 32 = some defaults := by
  rfl

theorem isName_argon2id : Phc.IsName "argon2id".toList :=
  ⟨by decide, by decide, List.all_eq_true.mp (by decide)⟩

theorem isParam_toDigits {c : Char} {n : Nat} (letter : Phc.isNameChar c = true)
    (small : n < 4294967296) : Phc.IsParam ([c], Nat.toDigits 10 n) where
  name := ⟨by simp, by simp, by simpa using letter⟩
  value := Phc.isValue_toDigits small

/-- The parameters of a new hash string: the costs that `defaults` has. -/
theorem params_hashPhc (tag : TagFunction) (salt : List UInt8) (password : String) :
    (hashPhc tag salt password).params =
      [(['m'], Nat.toDigits 10 19456), (['t'], Nat.toDigits 10 2), (['p'], Nat.toDigits 10 1)] :=
  rfl

theorem regular_hashPhc (sized : Sized tag) (long : 8 ≤ salt.length) (short : salt.length ≤ 48)
    (password : String) : (hashPhc tag salt password).Regular where
  algorithm := isName_argon2id
  version := by
    intro n version
    cases version
    decide
  params := by
    intro p member
    rw [params_hashPhc] at member
    simp only [List.mem_cons, List.not_mem_nil, or_false] at member
    rcases member with rfl | rfl | rfl
    · exact isParam_toDigits (by decide) (by decide)
    · exact isParam_toDigits (by decide) (by decide)
    · exact isParam_toDigits (by decide) (by decide)
  fits := by
    rw [params_hashPhc]
    decide
  versioned := by
    intro none
    cases none
  salt := by
    intro s made
    cases made
    have length := Base64.length_encode salt
    exact ⟨by omega, by omega, fun c member =>
      Phc.isValueChar_of_isSymbol (Base64.encode_symbols salt c member)⟩
  hash := by
    intro made same
    cases same
    rw [sized]
    decide
  salted := by
    intro none
    cases none

/-- A string in the format passes for a password when the parameters, the salt and the tag in it
are those of the password. -/
theorem verifyPhc_hashPhc (sized : Sized tag) (long : 8 ≤ salt.length) (password other : String) :
    verifyPhc tag other (hashPhc tag salt password) =
      (tag defaults (Text.utf8 other) salt == tag defaults (Text.utf8 password) salt) := by
  -- The size of the tag is not in the text: it is that of the hash that stands there.
  have size : (tag defaults (Text.utf8 password) salt).length = 32 := sized defaults _ _
  have salted : (hashPhc tag salt password).salt = some (Base64.encode salt) := rfl
  have hashed : (hashPhc tag salt password).hash =
      some (tag defaults (Text.utf8 password) salt) := rfl
  unfold verifyPhc
  simp only [salted, hashed, Option.bind_eq_bind, Option.bind_some]
  rw [size, ofPhc_hashPhc, Option.bind_some, saltBytes_encode long]
  rfl

theorem verify_hash (sized : Sized tag) (long : 8 ≤ salt.length) (short : salt.length ≤ 48)
    (password other : String) :
    (argon2 tag).verify other ⟨(hashPhc tag salt password).render⟩ =
      .ok (tag defaults (Text.utf8 other) salt == tag defaults (Text.utf8 password) salt) := by
  unfold argon2
  dsimp only
  rw [Phc.parse_render (regular_hashPhc sized long short password)]
  dsimp only
  rw [verifyPhc_hashPhc sized long]

/-- A password under a salt (a fresh one has 16 bytes) gets a string in the format. The password
passes against it, and one with another tag does not; neither check finds the string malformed. -/
theorem hash_then_verify (sized : Sized tag) (long : 8 ≤ salt.length) (short : salt.length ≤ 48)
    (password : String) :
    ∃ hash, (argon2 tag).hash salt password = .ok hash ∧
      Phc.parse hash.encoded = .ok (hashPhc tag salt password) ∧
      (argon2 tag).verify password hash = .ok true ∧
      ∀ other, tag defaults (Text.utf8 other) salt ≠ tag defaults (Text.utf8 password) salt →
        (argon2 tag).verify other hash = .ok false := by
  refine ⟨⟨(hashPhc tag salt password).render⟩, rfl,
    Phc.parse_render (regular_hashPhc sized long short password), ?_, ?_⟩
  · rw [verify_hash sized long short, beq_self_eq_true]
  · intro other differs
    rw [verify_hash sized long short, beq_false_of_ne differs]

theorem hash_then_verify_standard :
    Sized Argon2.tag ∧ 8 ≤ (List.replicate 16 (7 : UInt8)).length ∧
      (List.replicate 16 (7 : UInt8)).length ≤ 48 ∧
      ∃ hash, standard.hash (List.replicate 16 7) "correct horse" = .ok hash ∧
        Phc.parse hash.encoded =
          .ok (hashPhc Argon2.tag (List.replicate 16 7) "correct horse") ∧
        standard.verify "correct horse" hash = .ok true ∧
        ∀ other, Argon2.tag defaults (Text.utf8 other) (List.replicate 16 7) ≠
            Argon2.tag defaults (Text.utf8 "correct horse") (List.replicate 16 7) →
          standard.verify other hash = .ok false :=
  ⟨sized_tag, by decide, by decide,
    hash_then_verify sized_tag (by decide) (by decide) "correct horse"⟩

end Hasher

end Folio.Password
