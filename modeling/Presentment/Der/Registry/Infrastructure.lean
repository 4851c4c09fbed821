import Presentment.Der.Registry.Branch

/-!
# Names of the public key infrastructure

Paths that name extensions of certificates, messages about certificates, and protected messages.
-/

namespace Presentment.Der.Registry

/-! ### Certificates -/

/-- Extensions of certificates and of lists of revoked ones. -/
def extensions : Branch :=
  ⟨[2, 5, 29],
    [(9, "id-ce-subjectDirectoryAttributes"), (14, "id-ce-subjectKeyIdentifier"),
     (15, "id-ce-keyUsage"), (16, "id-ce-privateKeyUsagePeriod"), (17, "id-ce-subjectAltName"),
     (18, "id-ce-issuerAltName"), (19, "id-ce-basicConstraints"), (20, "id-ce-cRLNumber"),
     (21, "id-ce-cRLReasons"), (23, "id-ce-holdInstructionCode"), (24, "id-ce-invalidityDate"),
     (27, "id-ce-deltaCRLIndicator"), (28, "id-ce-issuingDistributionPoint"),
     (29, "id-ce-certificateIssuer"), (30, "id-ce-nameConstraints"),
     (31, "id-ce-cRLDistributionPoints"), (32, "id-ce-certificatePolicies"),
     (33, "id-ce-policyMappings"), (35, "id-ce-authorityKeyIdentifier"),
     (36, "id-ce-policyConstraints"), (37, "id-ce-extKeyUsage"), (46, "id-ce-freshestCRL"),
     (54, "id-ce-inhibitAnyPolicy"), (55, "id-ce-targetInformation"), (56, "id-ce-noRevAvail")]⟩

/-- Policies of certificates. -/
def policies : Branch :=
  ⟨[2, 5, 29, 32],
    [(0, "anyPolicy")]⟩

/-- Purposes of keys. -/
def keyPurposes : Branch :=
  ⟨[2, 5, 29, 37],
    [(0, "anyExtendedKeyUsage")]⟩

/-- Certificates on hold. -/
def holds : Branch :=
  ⟨[1, 2, 840, 10040],
    [(2, "holdInstruction")]⟩

/-- What is done about a certificate on hold. -/
def holdInstructions : Branch :=
  ⟨[1, 2, 840, 10040, 2],
    [(1, "id-holdinstruction-none"), (2, "id-holdinstruction-callissuer"),
     (3, "id-holdinstruction-reject")]⟩

/-- Logs of certificates. -/
def transparency : Branch :=
  ⟨[1, 3, 6, 1, 4, 1, 11129, 2, 4],
    [(2, "ct-precert-scts"), (3, "ct-precert-poison"), (4, "ct-precert-signing-cert")]⟩

/-! ### Public key infrastructure -/

/-- Infrastructures and archives. -/
def infrastructures : Branch :=
  ⟨[1, 3, 6, 1, 5, 5],
    [(7, "id-pkix"), (11, "ltans")]⟩

/-- Areas of the infrastructure. -/
def areas : Branch :=
  ⟨[1, 3, 6, 1, 5, 5, 7],
    [(0, "id-mod"), (1, "id-pe"), (2, "id-qt"), (3, "id-kp"), (4, "id-it"), (5, "id-pkip"),
     (6, "id-alg"), (7, "id-cmc"), (8, "id-on"), (9, "id-pda"), (10, "id-aca"), (11, "id-qcs"),
     (12, "id-cct"), (13, "id-TEST"), (14, "id-cp"), (15, "id-cet"), (16, "id-ri"),
     (17, "id-stc"), (18, "id-swb"), (19, "id-svp"), (48, "id-ad")]⟩

/-- Further extensions of certificates. -/
def privateExtensions : Branch :=
  ⟨[1, 3, 6, 1, 5, 5, 7, 1],
    [(1, "id-pe-authorityInfoAccess"), (4, "id-pe-ac-auditIdentity"), (6, "id-pe-aaControls"),
     (7, "id-pe-ipAddrBlocks"), (8, "id-pe-autonomousSysIds"), (10, "id-pe-ac-proxying"),
     (11, "id-pe-subjectInfoAccess"), (13, "id-pe-wlanSSID")]⟩

/-- Qualifiers of policies. -/
def policyQualifiers : Branch :=
  ⟨[1, 3, 6, 1, 5, 5, 7, 2],
    [(1, "id-qt-cps"), (2, "id-qt-unotice")]⟩

/-- Further purposes of keys. -/
def furtherKeyPurposes : Branch :=
  ⟨[1, 3, 6, 1, 5, 5, 7, 3],
    [(1, "id-kp-serverAuth"), (2, "id-kp-clientAuth"), (3, "id-kp-codeSigning"),
     (4, "id-kp-emailProtection"), (8, "id-kp-timeStamping"), (9, "id-kp-OCSPSigning"),
     (13, "id-kp-eapOverPPP"), (14, "id-kp-eapOverLAN"), (15, "id-kp-scvpServer"),
     (16, "id-kp-scvpClient")]⟩

/-- Types of information in messages about keys. -/
def managementTypes : Branch :=
  ⟨[1, 3, 6, 1, 5, 5, 7, 4],
    [(1, "id-it-caProtEncCert"), (2, "id-it-signKeyPairTypes"), (3, "id-it-encKeyPairTypes"),
     (4, "id-it-preferredSymmAlg"), (5, "id-it-caKeyUpdateInfo"), (6, "id-it-currentCRL"),
     (7, "id-it-unsupportedOIDs"), (10, "id-it-keyPairParamReq"), (11, "id-it-keyPairParamRep"),
     (12, "id-it-revPassphrase"), (13, "id-it-implicitConfirm"), (14, "id-it-confirmWaitTime"),
     (15, "id-it-origPKIMessage"), (16, "id-it-suppLangTags")]⟩

/-- Registration of keys. -/
def registration : Branch :=
  ⟨[1, 3, 6, 1, 5, 5, 7, 5],
    [(1, "id-regCtrl"), (2, "id-regInfo")]⟩

/-- Controls of the registration of keys. -/
def registrationControls : Branch :=
  ⟨[1, 3, 6, 1, 5, 5, 7, 5, 1],
    [(1, "id-regCtrl-regToken"), (2, "id-regCtrl-authenticator"),
     (3, "id-regCtrl-pkiPublicationInfo"), (4, "id-regCtrl-pkiArchiveOptions"),
     (5, "id-regCtrl-oldCertID"), (6, "id-regCtrl-protocolEncrKey")]⟩

/-- Information in the registration of keys. -/
def registrationInfo : Branch :=
  ⟨[1, 3, 6, 1, 5, 5, 7, 5, 2],
    [(1, "id-regInfo-utf8Pairs"), (2, "id-regInfo-certReq")]⟩

/-- The absence of a signature. -/
def signatureAbsence : Branch :=
  ⟨[1, 3, 6, 1, 5, 5, 7, 6],
    [(2, "id-alg-noSignature")]⟩

/-- Controls in messages about certificates. -/
def managementControls : Branch :=
  ⟨[1, 3, 6, 1, 5, 5, 7, 7],
    [(1, "id-cmc-statusInfo"), (2, "id-cmc-identification"), (3, "id-cmc-identityProof"),
     (4, "id-cmc-dataReturn"), (5, "id-cmc-transactionId"), (6, "id-cmc-senderNonce"),
     (7, "id-cmc-recipientNonce"), (8, "id-cmc-addExtensions"), (9, "id-cmc-encryptedPOP"),
     (10, "id-cmc-decryptedPOP"), (11, "id-cmc-lraPOPWitness"), (15, "id-cmc-getCert"),
     (16, "id-cmc-getCRL"), (17, "id-cmc-revokeRequest"), (18, "id-cmc-regInfo"),
     (19, "id-cmc-responseInfo"), (21, "id-cmc-queryPending"), (22, "id-cmc-popLinkRandom"),
     (23, "id-cmc-popLinkWitness"), (24, "id-cmc-confirmCertAcceptance"),
     (25, "id-cmc-statusInfoV2"), (26, "id-cmc-trustedAnchors"), (27, "id-cmc-authData"),
     (28, "id-cmc-batchRequests"), (29, "id-cmc-batchResponses"), (30, "id-cmc-publishCert"),
     (31, "id-cmc-modCertTemplate"), (32, "id-cmc-controlProcessed"),
     (33, "id-cmc-popLinkWitnessV2"), (34, "id-cmc-identityProofV2"), (99, "id-cmc-glaRR")]⟩

/-- Controls in messages about keys of groups. -/
def groupKeyControls : Branch :=
  ⟨[1, 3, 6, 1, 5, 5, 7, 7, 99],
    [(1, "id-cmc-gla-skdAlgRequest"), (2, "id-cmc-gla-skdAlgResponse")]⟩

/-- Forms of names. -/
def otherNames : Branch :=
  ⟨[1, 3, 6, 1, 5, 5, 7, 8],
    [(4, "id-on-hardwareModuleName")]⟩

/-- Attributes that grant access. -/
def authorizationAttributes : Branch :=
  ⟨[1, 3, 6, 1, 5, 5, 7, 10],
    [(1, "id-aca-authenticationInfo"), (2, "id-aca-accessIdentity"),
     (3, "id-aca-chargingIdentity"), (4, "id-aca-group"), (6, "id-aca-encAttrs"),
     (7, "id-aca-wlanSSID")]⟩

/-- Contents of messages about certificates. -/
def managementContents : Branch :=
  ⟨[1, 3, 6, 1, 5, 5, 7, 12],
    [(2, "id-cct-PKIData"), (3, "id-cct-PKIResponse")]⟩

/-- Failures in messages about keys of groups. -/
def managementFailures : Branch :=
  ⟨[1, 3, 6, 1, 5, 5, 7, 15],
    [(1, "id-cet-skdFailInfo")]⟩

/-- Checks of paths of certificates. -/
def pathChecks : Branch :=
  ⟨[1, 3, 6, 1, 5, 5, 7, 17],
    [(1, "id-stc-build-pkc-path"), (2, "id-stc-build-valid-pkc-path"),
     (3, "id-stc-build-status-checked-pkc-path"), (4, "id-stc-build-aa-path"),
     (5, "id-stc-build-valid-aa-path"), (6, "id-stc-build-status-checked-aa-path"),
     (7, "id-stc-status-check-ac-and-build-status-checked-aa-path")]⟩

/-- Answers about paths of certificates. -/
def pathAnswers : Branch :=
  ⟨[1, 3, 6, 1, 5, 5, 7, 18],
    [(1, "id-swb-pkc-best-cert-path"), (2, "id-swb-pkc-cert"), (3, "id-swb-ac-cert"),
     (4, "id-swb-pkc-revocation-info"), (5, "id-swb-pkc-public-key-info"),
     (6, "id-swb-aa-cert-path"), (7, "id-swb-aa-revocation-info"),
     (8, "id-swb-ac-revocation-info"), (9, "id-swb-relayed-responses"),
     (10, "id-swb-pkc-cert-status"), (11, "id-swb-ac-cert-status"),
     (12, "id-swb-pkc-all-cert-paths"), (13, "id-swb-pkc-ee-revocation-info"),
     (14, "id-swb-pkc-CAs-revocation-info")]⟩

/-- Policies by which paths are checked. -/
def validationPolicies : Branch :=
  ⟨[1, 3, 6, 1, 5, 5, 7, 19],
    [(1, "id-svp-defaultValPolicy"), (2, "id-nvae"), (3, "id-bvae"), (4, "id-nva-dnCompAlg")]⟩

/-- Ways to reach an authority. -/
def accessMethods : Branch :=
  ⟨[1, 3, 6, 1, 5, 5, 7, 48],
    [(1, "id-ad-ocsp"), (2, "id-ad-caIssuers"), (3, "id-ad-timeStamping"),
     (5, "id-ad-caRepository")]⟩

/-- Answers about the state of a certificate. -/
def statusProtocol : Branch :=
  ⟨[1, 3, 6, 1, 5, 5, 7, 48, 1],
    [(1, "id-pkix-ocsp-basic"), (2, "id-pkix-ocsp-nonce"), (3, "id-pkix-ocsp-crl"),
     (4, "id-pkix-ocsp-response"), (5, "id-pkix-ocsp-nocheck"),
     (6, "id-pkix-ocsp-archive-cutoff"), (7, "id-pkix-ocsp-service-locator"),
     (8, "id-pkix-ocsp-pref-sig-algs"), (9, "id-pkix-ocsp-extended-revoke")]⟩

/-! ### Protected messages -/

/-- Contents of protected messages. -/
def messageContents : Branch :=
  ⟨[1, 2, 840, 113549, 1, 7],
    [(1, "id-data"), (2, "id-signedData"), (3, "id-envelopedData"), (5, "id-digestedData"),
     (6, "id-encryptedData")]⟩

/-- Attributes of protected messages, and of requests for certificates. -/
def messageAttributes : Branch :=
  ⟨[1, 2, 840, 113549, 1, 9],
    [(1, "email"), (3, "id-contentType"), (4, "id-messageDigest"), (5, "id-signingTime"),
     (6, "id-countersignature"), (14, "id-ExtensionReq"), (15, "smimeCapabilities"),
     (16, "id-smime")]⟩

/-- Areas of protected mail. -/
def mailAreas : Branch :=
  ⟨[1, 2, 840, 113549, 1, 9, 16],
    [(0, "id-mod"), (1, "id-ct"), (2, "id-aa"), (3, "id-alg"), (4, "id-cd"), (5, "id-spq"),
     (6, "id-cti"), (7, "id-tsp"), (8, "id-skd"), (9, "id-sti"), (10, "id-eit"), (11, "id-cap"),
     (12, "id-pskc")]⟩

/-- Contents of protected mail. -/
def mailContents : Branch :=
  ⟨[1, 2, 840, 113549, 1, 9, 16, 1],
    [(1, "id-ct-receipt"), (2, "id-ct-authData"), (6, "id-ct-contentInfo"),
     (9, "id-ct-compressedData"), (10, "id-ct-scvp-certValRequest"),
     (11, "id-ct-scvp-certValResponse"), (12, "id-ct-scvp-valPolRequest"),
     (13, "id-ct-scvp-valPolResponse"), (16, "id-ct-firmwarePackage"),
     (17, "id-ct-firmwareLoadReceipt"), (18, "id-ct-firmwareLoadError"),
     (19, "id-ct-contentCollection"), (20, "id-ct-contentWithAttrs"),
     (21, "id-ct-encKeyWithID"), (23, "id-ct-authEnvelopedData")]⟩

/-- Attributes of protected mail. -/
def mailAttributes : Branch :=
  ⟨[1, 2, 840, 113549, 1, 9, 16, 2],
    [(1, "id-aa-receiptRequest"), (2, "id-aa-securityLabel"), (3, "id-aa-mlExpandHistory"),
     (4, "id-aa-contentHint"), (5, "id-aa-msgSigDigest"), (7, "id-aa-contentIdentifier"),
     (9, "id-aa-equivalentLabels"), (10, "id-aa-contentReference"), (11, "id-aa-encrypKeyPref"),
     (12, "id-aa-signingCertificate"), (34, "id-aa-cmc-unsignedData"),
     (35, "id-aa-firmwarePackageID"), (36, "id-aa-targetHardwareIDs"),
     (37, "id-aa-decryptKeyID"), (38, "id-aa-implCryptoAlgs"), (39, "id-aa-wrappedFirmwareKey"),
     (40, "id-aa-communityIdentifiers"), (41, "id-aa-fwPkgMessageDigest"),
     (42, "id-aa-firmwarePackageInfo"), (43, "id-aa-implCompressAlgs"),
     (46, "id-aa-binarySigningTime"), (47, "id-aa-signingCertificateV2"),
     (49, "id-aa-er-internal"), (50, "id-aa-er-external"), (51, "id-aa-multipleSignatures")]⟩

/-- Algorithms of protected mail. -/
def mailAlgorithms : Branch :=
  ⟨[1, 2, 840, 113549, 1, 9, 16, 3],
    [(5, "id-alg-ESDH"), (6, "id-alg-CMS3DESwrap"), (7, "id-alg-CMSRC2wrap"),
     (8, "id-alg-zlibCompress"), (10, "id-alg-SSDH")]⟩

/-- Keys of groups. -/
def groupKeys : Branch :=
  ⟨[1, 2, 840, 113549, 1, 9, 16, 8],
    [(1, "id-skd-glUseKEK"), (2, "id-skd-glDelete"), (3, "id-skd-glAddMember"),
     (4, "id-skd-glDeleteMember"), (5, "id-skd-glRekey"), (6, "id-skd-glAddOwner"),
     (7, "id-skd-glRemoveOwner"), (8, "id-skd-glkCompromise"), (9, "id-skd-glkRefresh"),
     (11, "id-skd-glaQueryRequest"), (12, "id-skd-glaQueryResponse"),
     (13, "id-skd-glProvideCert"), (14, "id-skd-glManageCert"), (15, "id-skd-glKey")]⟩

/-- What a reader of protected mail prefers. -/
def mailCapabilities : Branch :=
  ⟨[1, 2, 840, 113549, 1, 9, 16, 11],
    [(1, "id-cap-preferBinaryInside")]⟩

/-! ### All of them -/

/-- Branches of the public key infrastructure. -/
def infrastructure : List Branch :=
  [extensions, policies, keyPurposes, holds, holdInstructions, transparency, infrastructures,
   areas, privateExtensions, policyQualifiers, furtherKeyPurposes, managementTypes,
   registration, registrationControls, registrationInfo, signatureAbsence, managementControls,
   groupKeyControls, otherNames, authorizationAttributes, managementContents,
   managementFailures, pathChecks, pathAnswers, validationPolicies, accessMethods,
   statusProtocol, messageContents, messageAttributes, mailAreas, mailContents, mailAttributes,
   mailAlgorithms, groupKeys, mailCapabilities]

end Presentment.Der.Registry
