import Presentment.Der.Registry.Branch

/-!
# Names of algorithms

Paths that name keys, curves, signatures, digests and ciphers.
-/

namespace Presentment.Der.Registry

/-! ### Signatures and keys -/

/-- Signatures over finite fields. -/
def finiteFieldSignatures : Branch :=
  ⟨[1, 2, 840, 10040, 4],
    [(1, "id-dsa"), (3, "dsa-with-sha1")]⟩

/-- Keys on curves. -/
def curveKeys : Branch :=
  ⟨[1, 2, 840, 10045, 2],
    [(1, "id-ecPublicKey")]⟩

/-- Curves over prime fields. -/
def primeCurves : Branch :=
  ⟨[1, 2, 840, 10045, 3, 1],
    [(1, "secp192r1"), (7, "secp256r1")]⟩

/-- Signatures on curves. -/
def curveSignatures : Branch :=
  ⟨[1, 2, 840, 10045, 4],
    [(1, "ecdsa-with-SHA1")]⟩

/-- Signatures on curves, of digests of two hundred bits and more. -/
def curveSignaturesOfDigests : Branch :=
  ⟨[1, 2, 840, 10045, 4, 3],
    [(1, "ecdsa-with-SHA224"), (2, "ecdsa-with-SHA256"), (3, "ecdsa-with-SHA384"),
     (4, "ecdsa-with-SHA512")]⟩

/-- Keys for key agreement. -/
def agreementKeys : Branch :=
  ⟨[1, 2, 840, 10046, 2],
    [(1, "dhpublicnumber")]⟩

/-- Further curves. -/
def furtherCurves : Branch :=
  ⟨[1, 3, 132, 0],
    [(1, "sect163k1"), (15, "sect163r2"), (16, "sect283k1"), (17, "sect283r1"),
     (26, "sect233k1"), (27, "sect233r1"), (33, "secp224r1"), (34, "secp384r1"),
     (35, "secp521r1"), (36, "sect409k1"), (37, "sect409r1"), (38, "sect571k1"),
     (39, "sect571r1")]⟩

/-- Key agreement on curves. -/
def curveAgreements : Branch :=
  ⟨[1, 3, 132, 1],
    [(12, "id-ecDH"), (13, "id-ecMQV")]⟩

/-- Algorithms on Edwards and Montgomery curves. -/
def edwardsCurves : Branch :=
  ⟨[1, 3, 101],
    [(110, "id-X25519"), (111, "id-X448"), (112, "id-Ed25519"), (113, "id-Ed448")]⟩

/-- Families of standards. -/
def rsaFamily : Branch :=
  ⟨[1, 2, 840],
    [(113549, "rsadsi")]⟩

/-- Standards of a family. -/
def rsaStandards : Branch :=
  ⟨[1, 2, 840, 113549, 1],
    [(1, "pkcs-1"), (9, "pkcs-9")]⟩

/-- Algorithms with moduli of two primes. -/
def rsaAlgorithms : Branch :=
  ⟨[1, 2, 840, 113549, 1, 1],
    [(1, "rsaEncryption"), (2, "md2WithRSAEncryption"), (4, "md5WithRSAEncryption"),
     (5, "sha1WithRSAEncryption"), (7, "id-RSAES-OAEP"), (8, "id-mgf1"), (9, "id-pSpecified"),
     (10, "id-RSASSA-PSS"), (11, "sha256WithRSAEncryption"), (12, "sha384WithRSAEncryption"),
     (13, "sha512WithRSAEncryption"), (14, "sha224WithRSAEncryption")]⟩

/-- Keys from passwords. -/
def passwordKeys : Branch :=
  ⟨[1, 2, 840, 113549, 1, 5],
    [(12, "id-PBKDF2")]⟩

/-- Codes from passwords and agreed keys. -/
def passwordMacs : Branch :=
  ⟨[1, 2, 840, 113533, 7, 66],
    [(13, "id-PasswordBasedMac"), (30, "id-DHBasedMac")]⟩

/-! ### Digests and ciphers -/

/-- Digests of a family. -/
def digestFamily : Branch :=
  ⟨[1, 2, 840, 113549],
    [(2, "digestAlgorithm")]⟩

/-- Digests, and codes from them. -/
def digests : Branch :=
  ⟨[1, 2, 840, 113549, 2],
    [(2, "id-md2"), (5, "id-md5"), (8, "id-hmacWithSHA224"), (9, "id-hmacWithSHA256"),
     (10, "id-hmacWithSHA384"), (11, "id-hmacWithSHA512")]⟩

/-- Ciphers of blocks of sixty-four bits. -/
def ciphers : Branch :=
  ⟨[1, 2, 840, 113549, 3],
    [(2, "rc2-cbc"), (7, "des-ede3-cbc")]⟩

/-- Digests of one hundred and sixty bits. -/
def firstDigests : Branch :=
  ⟨[1, 3, 14, 3, 2],
    [(26, "id-sha1")]⟩

/-- Codes from digests of one hundred and sixty bits. -/
def firstCodes : Branch :=
  ⟨[1, 3, 6, 1, 5, 5, 8, 1],
    [(2, "hMAC-SHA1")]⟩

/-- Key exchange. -/
def keyExchanges : Branch :=
  ⟨[2, 16, 840, 1, 101, 2, 1, 1],
    [(22, "id-keyExchangeAlgorithm")]⟩

/-- Ciphers of blocks. -/
def blockCiphers : Branch :=
  ⟨[2, 16, 840, 1, 101, 3, 4],
    [(1, "aes")]⟩

/-- Modes of a cipher of blocks. -/
def blockCipherModes : Branch :=
  ⟨[2, 16, 840, 1, 101, 3, 4, 1],
    [(2, "id-aes128-CBC"), (5, "id-aes128-wrap"), (6, "id-aes128-GCM"), (7, "id-aes128-CCM"),
     (22, "id-aes192-CBC"), (25, "id-aes192-wrap"), (26, "id-aes192-GCM"),
     (27, "id-aes192-CCM"), (42, "id-aes256-CBC"), (45, "id-aes256-wrap"),
     (46, "id-aes256-GCM"), (47, "id-aes256-CCM")]⟩

/-- Digests of two hundred bits and more. -/
def secureDigests : Branch :=
  ⟨[2, 16, 840, 1, 101, 3, 4, 2],
    [(1, "id-sha256"), (2, "id-sha384"), (3, "id-sha512"), (4, "id-sha224"), (7, "id-sha3-224"),
     (8, "id-sha3-256"), (9, "id-sha3-384"), (10, "id-sha3-512"), (11, "id-shake128"),
     (12, "id-shake256")]⟩

/-- Signatures over finite fields, of digests of two hundred bits and more. -/
def finiteFieldSignaturesOfDigests : Branch :=
  ⟨[2, 16, 840, 1, 101, 3, 4, 3],
    [(1, "dsa-with-sha224"), (2, "dsa-with-sha256")]⟩

/-! ### All of them -/

/-- Branches of algorithms. -/
def algorithms : List Branch :=
  [finiteFieldSignatures, curveKeys, primeCurves, curveSignatures, curveSignaturesOfDigests,
   agreementKeys, furtherCurves, curveAgreements, edwardsCurves, rsaFamily, rsaStandards,
   rsaAlgorithms, passwordKeys, passwordMacs, digestFamily, digests, ciphers, firstDigests,
   firstCodes, keyExchanges, blockCiphers, blockCipherModes, secureDigests,
   finiteFieldSignaturesOfDigests]

end Presentment.Der.Registry
