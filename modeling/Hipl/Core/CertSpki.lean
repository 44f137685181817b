import Hipl.Wire.Message

/-!
# Verifying an SPKI certificate

`hip_cert_spki_lib_verify` tells the algorithm from the certificate's public key (a DSA rule is
tried first, then an RSA rule), extracts the key, hashes the certificate's cert sequence with
SHA-1, compares the hash with the one in the signature field, extracts the signature and hands
it to the algorithm's primitive. It returns 0 for a verified certificate, and sets the
certificate's `success` field to 0 or -1 once a primitive has answered.

The RSA branch follows `RSA_verify`, which returns 1 for a valid signature
(`hipCertSpkiLibVerify_rsa`). The DSA branch maps `DSA_do_verify`'s answer through
`err = DSA_do_verify(...) == 0 ? 1 : 0` and then treats `err == 1` as success, so the answer
is inverted: 0, an invalid signature, is success, and 1, a valid one, is failure, as is -1, an
error (`hipCertSpkiLibVerify_dsa`).

Scope. The regular expressions, the base-64 decoding and the key construction are a parameter
(`SpkiCrypto`) that either yields the key, the signature hash and the signature or fails, as do
SHA-1 and the two primitives. The memory allocations are taken to succeed.
-/

set_option autoImplicit false
set_option relaxedAutoImplicit false

namespace Hipl.Core

open Hipl.Wire

/-- The fields of `struct hip_cert_spki_info` the verification reads and writes: the public key,
the cert sequence and the signature, as text, and the verdict. -/
structure HipCertSpkiInfo where
  publicKey : String
  cert : String
  signature : String
  success : Int
  deriving DecidableEq, Repr

/-- The algorithms `hip_cert_spki_lib_verify` tells apart. -/
inductive SpkiAlgo
  | dsa | rsa | unknown
  deriving DecidableEq, Repr

/-- What the verification calls outside the sources: the two algorithm rules, the key
extraction of each algorithm, the extraction of the signature hash and of the signature
(`hip_cert_regex` and `EVP_DecodeBlock`; `none` when a rule does not match), SHA-1 of the cert
sequence, `RSA_verify` (1 for a valid signature, 0 otherwise) and `DSA_do_verify` (1 valid,
0 invalid, -1 error). -/
structure SpkiCrypto where
  isDsaKey : String → Bool
  isRsaKey : String → Bool
  rsaPublicKey : String → Option Bytes
  dsaPublicKey : String → Option Bytes
  signatureHash : String → Option Bytes
  signatureValue : String → Option Bytes
  sha1 : String → Bytes
  rsaVerify : Bytes → Bytes → Bytes → Int
  dsaDoVerify : Bytes → Bytes → Bytes → Int

/-- The algorithm of a public key: the DSA rule first, then the RSA rule. -/
def spkiAlgo (c : SpkiCrypto) (publicKey : String) : SpkiAlgo :=
  if c.isDsaKey publicKey then .dsa else if c.isRsaKey publicKey then .rsa else .unknown

/-- The public key of the algorithm, extracted from the certificate. -/
def spkiPublicKey (c : SpkiCrypto) (publicKey : String) : SpkiAlgo → Option Bytes
  | .rsa => c.rsaPublicKey publicKey
  | .dsa => c.dsaPublicKey publicKey
  | .unknown => none

/-- The primitive's answer as the code reads it: the return value and the new `success`. -/
def spkiVerdict (c : SpkiCrypto) (digest signature key : Bytes) : SpkiAlgo → Int × Int
  | .rsa =>
    let err := c.rsaVerify digest signature key
    (if err = 1 then 0 else -1, if err = 1 then 0 else -1)
  | .dsa =>
    let err : Int := if c.dsaDoVerify digest signature key = 0 then 1 else 0
    (if err = 1 then 0 else -1, if err = 1 then 0 else -1)
  | .unknown => (-1, -1)

/-- `hip_cert_spki_lib_verify(cert)`: the return value and the certificate after the call. -/
def hipCertSpkiLibVerify (c : SpkiCrypto) (cert : HipCertSpkiInfo) : Int × HipCertSpkiInfo :=
  let algo := spkiAlgo c cert.publicKey
  match spkiPublicKey c cert.publicKey algo with
  | none => (-1, cert)
  | some key =>
    let digest := c.sha1 cert.cert
    match c.signatureHash cert.signature with
    | none => (-1, cert)
    | some signatureHash =>
      if signatureHash.take 20 ≠ digest then (-1, cert) else
      match c.signatureValue cert.signature with
      | none => (-1, cert)
      | some signature =>
        match algo with
        | .unknown => (-1, cert)
        | algo =>
          let (err, success) := spkiVerdict c digest signature key algo
          (err, { cert with success := success })

section Verdict

variable {c : SpkiCrypto} {cert : HipCertSpkiInfo} {key signatureHash signature : Bytes}
  (hhash : c.signatureHash cert.signature = some signatureHash)
  (hmatch : signatureHash.take 20 = c.sha1 cert.cert)
  (hsig : c.signatureValue cert.signature = some signature)
include hhash hmatch hsig

/-- A DSA certificate whose signature hash matches is verified exactly when `DSA_do_verify`
answers 0, the answer for an invalid signature. -/
theorem hipCertSpkiLibVerify_dsa (hdsa : c.isDsaKey cert.publicKey = true)
    (hkey : c.dsaPublicKey cert.publicKey = some key) :
    hipCertSpkiLibVerify c cert =
      if c.dsaDoVerify (c.sha1 cert.cert) signature key = 0 then (0, { cert with success := 0 })
      else (-1, { cert with success := -1 }) := by
  simp only [hipCertSpkiLibVerify, spkiAlgo, hdsa, if_true, spkiPublicKey, hkey, hhash, hmatch,
    ne_eq, not_true_eq_false, if_false, hsig, spkiVerdict]
  split <;> simp_all

/-- An RSA certificate whose signature hash matches is verified exactly when `RSA_verify`
answers 1, the answer for a valid signature. -/
theorem hipCertSpkiLibVerify_rsa (hdsa : c.isDsaKey cert.publicKey = false)
    (hrsa : c.isRsaKey cert.publicKey = true) (hkey : c.rsaPublicKey cert.publicKey = some key) :
    hipCertSpkiLibVerify c cert =
      if c.rsaVerify (c.sha1 cert.cert) signature key = 1 then (0, { cert with success := 0 })
      else (-1, { cert with success := -1 }) := by
  simp only [hipCertSpkiLibVerify, spkiAlgo, hdsa, hrsa, if_true, Bool.false_eq_true, if_false,
    spkiPublicKey, hkey, hhash, hmatch, ne_eq, not_true_eq_false, hsig, spkiVerdict]
  split <;> simp_all

end Verdict

end Hipl.Core
