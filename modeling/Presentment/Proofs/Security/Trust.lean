import Mathlib.Data.List.Nodup
import Presentment.Proofs.Except
import Presentment.Security.Trust

/-!
# Trust in certificates

A certificate is accepted if it is current and the first trust anchor with the name of its
issuer made its signature.  So the order of the anchors does not matter as long as all those
with this name agree on the signature.  It does matter after a root was renewed under its old
name: what the new key has signed is accepted only if the new root comes before the old one.
-/

namespace Presentment

open Der (ObjectIdentifier)

variable {suite : CipherSuite} {now : Nat} {leaf anchor : Certificate}

/-! ### The checks -/

namespace Certificate

/-- The validity period contains a time. -/
def IsCurrent (c : Certificate) (now : Nat) : Prop :=
  c.body.notBefore.seconds ≤ now ∧ now ≤ c.body.notAfter.seconds

/-- The key of `issuer` made the signature of a certificate. -/
def IsSignedBy (suite : CipherSuite) (subject issuer : Certificate) : Prop :=
  ∃ key signature, suite.ofPoint? issuer.body.key.bytes = some key
    ∧ Ecdsa.Signature.ofElement? subject.signature.bytes = some signature
    ∧ suite.verify key subject.body.encode signature.toBytes

theorem checkValidity_eq_ok_iff :
  leaf.checkValidity now = .ok () ↔ leaf.IsCurrent now
  := by
  rw [checkValidity, IsCurrent]
  by_cases expired : leaf.body.notAfter.seconds < now
  · rw [if_pos expired]
    constructor
    · intro accepted
      cases accepted
    · rintro ⟨-, current⟩
      exact (Nat.not_lt.mpr current expired).elim
  · by_cases early : leaf.body.notBefore.seconds > now
    · rw [if_neg expired, if_pos early]
      constructor
      · intro accepted
        cases accepted
      · rintro ⟨current, -⟩
        exact (Nat.not_lt.mpr current early).elim
    · rw [if_neg expired, if_neg early]
      exact iff_of_true rfl ⟨Nat.not_lt.mp early, Nat.not_lt.mp expired⟩

theorem publicKey_eq_ok_iff {key : Cose.Key} :
  anchor.publicKey suite = .ok key ↔ suite.ofPoint? anchor.body.key.bytes = some key
  := by
  rw [publicKey]
  cases suite.ofPoint? anchor.body.key.bytes with
  | none => simp
  | some key' => simp

theorem checkSignedBy_eq_ok_iff :
  checkSignedBy suite leaf anchor = .ok () ↔ leaf.IsSignedBy suite anchor
  := by
  rw [checkSignedBy, Except.bind_eq_ok_iff]
  apply exists_congr
  intro key
  rw [publicKey_eq_ok_iff, exists_and_left]
  apply and_congr_right'
  cases Ecdsa.Signature.ofElement? leaf.signature.bytes with
  | none =>
    constructor
    · intro accepted
      cases accepted
    · rintro ⟨signature, signature_eq, -⟩
      cases signature_eq
  | some signature =>
    cases verified : suite.verify key leaf.body.encode signature.toBytes with
    | false => simp [verified, throw, throwThe, MonadExceptOf.throw]
    | true => simp [verified, pure, Except.pure]

end Certificate

/-! ### The anchors -/

namespace TrustAnchors

variable {anchors anchors' : TrustAnchors}

/-- A certificate is accepted. -/
def Accepts (suite : CipherSuite) (now : Nat) (anchors : TrustAnchors) (leaf : Certificate) :
    Prop :=
  ∃ anchor, anchors.verify suite now leaf = .ok anchor

/-- Some anchor has the name of the issuer of a certificate and made its signature. -/
def Vouch (suite : CipherSuite) (anchors : TrustAnchors) (leaf : Certificate) : Prop :=
  ∃ anchor ∈ anchors.certificates,
    anchor.body.subject = leaf.body.issuer ∧ leaf.IsSignedBy suite anchor

/-- The anchors with the name of the issuer of a certificate all made its signature, or none of
them did. -/
def Agree (suite : CipherSuite) (anchors : TrustAnchors) (leaf : Certificate) : Prop :=
  ∀ anchor ∈ anchors.certificates, ∀ anchor' ∈ anchors.certificates,
    anchor.body.subject = leaf.body.issuer → anchor'.body.subject = leaf.body.issuer →
      leaf.IsSignedBy suite anchor → leaf.IsSignedBy suite anchor'

theorem verify_eq_ok_iff :
  anchors.verify suite now leaf = .ok anchor
    ↔ leaf.IsCurrent now
      ∧ anchors.certificates.find? (fun c => c.body.subject = leaf.body.issuer) = some anchor
      ∧ leaf.IsSignedBy suite anchor
  := by
  rw [verify, Except.bind_eq_ok_iff]
  constructor
  · rintro ⟨⟨⟩, current, accepted⟩
    use Certificate.checkValidity_eq_ok_iff.mp current
    cases found : anchors.certificates.find? (fun c => c.body.subject = leaf.body.issuer) with
    | none =>
      rw [found] at accepted
      cases accepted
    | some first =>
      rw [found] at accepted
      obtain ⟨⟨⟩, signed, accepted⟩ := Except.bind_eq_ok_iff.mp accepted
      cases accepted
      exact ⟨rfl, Certificate.checkSignedBy_eq_ok_iff.mp signed⟩
  · rintro ⟨current, found, signed⟩
    use (), Certificate.checkValidity_eq_ok_iff.mpr current
    rw [found]
    exact Except.bind_eq_ok_iff.mpr ⟨(), Certificate.checkSignedBy_eq_ok_iff.mpr signed, rfl⟩

theorem Accepts.isCurrent (accepted : anchors.Accepts suite now leaf) :
  leaf.IsCurrent now
  := by
  obtain ⟨anchor, h⟩ := accepted
  exact (verify_eq_ok_iff.mp h).1

/-- Nothing is accepted that no anchor has signed. -/
theorem Accepts.vouch (accepted : anchors.Accepts suite now leaf) :
  anchors.Vouch suite leaf
  := by
  obtain ⟨anchor, h⟩ := accepted
  obtain ⟨-, found, signed⟩ := verify_eq_ok_iff.mp h
  have named := List.find?_some found
  exact ⟨anchor, List.mem_of_find?_eq_some found, of_decide_eq_true named, signed⟩

theorem Vouch.accepts (vouched : anchors.Vouch suite leaf) (agree : anchors.Agree suite leaf)
    (current : leaf.IsCurrent now) :
  anchors.Accepts suite now leaf
  := by
  obtain ⟨anchor, hanchor, named, signed⟩ := vouched
  have found : (anchors.certificates.find?
      (fun c => c.body.subject = leaf.body.issuer)).isSome := by
    rw [List.find?_isSome]
    exact ⟨anchor, hanchor, decide_eq_true named⟩
  obtain ⟨first, found⟩ := Option.isSome_iff_exists.mp found
  have named' := List.find?_some found
  use first
  rw [verify_eq_ok_iff]
  -- the first anchor with the name need not be the one that signed, but it agrees with it
  exact ⟨current, found, agree anchor hanchor first (List.mem_of_find?_eq_some found) named
    (of_decide_eq_true named') signed⟩

theorem Vouch.mono (vouched : anchors.Vouch suite leaf)
    (included : anchors.certificates ⊆ anchors'.certificates) :
  anchors'.Vouch suite leaf
  := by
  obtain ⟨anchor, hanchor, h⟩ := vouched
  exact ⟨anchor, included hanchor, h⟩

theorem Agree.mono (agree : anchors'.Agree suite leaf)
    (included : anchors.certificates ⊆ anchors'.certificates) :
  anchors.Agree suite leaf
  := fun anchor hanchor anchor' hanchor' =>
    agree anchor (included hanchor) anchor' (included hanchor')

/-- What is accepted stays so when anchors are added at the end. -/
theorem Accepts.append (accepted : anchors.Accepts suite now leaf) (later : List Certificate) :
  Accepts suite now ⟨anchors.certificates ++ later⟩ leaf
  := by
  obtain ⟨anchor, h⟩ := accepted
  obtain ⟨current, found, signed⟩ := verify_eq_ok_iff.mp h
  use anchor
  rw [verify_eq_ok_iff, List.find?_append, found]
  exact ⟨current, rfl, signed⟩

/-- Anchors with different names agree on everything. -/
theorem agree_of_nodup (distinct : (anchors.certificates.map (·.body.subject)).Nodup) :
  anchors.Agree suite leaf
  := by
  intro anchor hanchor anchor' hanchor' named named' signed
  rw [← List.inj_on_of_nodup_map distinct hanchor hanchor' (named.trans named'.symm)]
  exact signed

/-- What is accepted stays so when anchors are added, as long as they agree. -/
theorem Accepts.mono (accepted : anchors.Accepts suite now leaf)
    (included : anchors.certificates ⊆ anchors'.certificates) (agree : anchors'.Agree suite leaf) :
  anchors'.Accepts suite now leaf
  := (accepted.vouch.mono included).accepts agree accepted.isCurrent

/-- If the anchors with the name of the issuer agree on the signature of a certificate, then it
is accepted exactly if it is current and some anchor has signed it.  It stays accepted whatever
the order of the anchors is, and whichever others that agree are added. -/
theorem accepts_iff_vouch (agree : anchors.Agree suite leaf) (now : Nat) :
  (anchors.Accepts suite now leaf ↔ leaf.IsCurrent now ∧ anchors.Vouch suite leaf)
    ∧ (∀ anchors' : TrustAnchors, anchors'.certificates.Perm anchors.certificates →
      (anchors'.Accepts suite now leaf ↔ anchors.Accepts suite now leaf))
    ∧ ∀ anchors' : TrustAnchors, anchors.certificates ⊆ anchors'.certificates →
      anchors'.Agree suite leaf →
        anchors.Accepts suite now leaf → anchors'.Accepts suite now leaf
  := by
  refine ⟨?_, ?_, ?_⟩
  · constructor
    · intro accepted
      exact ⟨accepted.isCurrent, accepted.vouch⟩
    · rintro ⟨current, vouched⟩
      exact vouched.accepts agree current
  · intro anchors' perm
    constructor
    · intro accepted
      exact accepted.mono perm.subset agree
    · intro accepted
      exact accepted.mono perm.symm.subset (agree.mono perm.subset)
  · intro anchors' included agree' accepted
    exact accepted.mono included agree'

/-- Agreement is all that is needed: the anchors agree on a certificate that is current if and
only if it is accepted in every order of the anchors as soon as one of them has signed it. -/
theorem agree_iff_forall_perm (current : leaf.IsCurrent now) :
  anchors.Agree suite leaf
    ↔ ∀ anchors' : TrustAnchors, anchors'.certificates.Perm anchors.certificates →
      anchors.Vouch suite leaf → anchors'.Accepts suite now leaf
  := by
  constructor
  · intro agree anchors' perm vouched
    exact (vouched.mono perm.symm.subset).accepts (agree.mono perm.subset) current
  · intro accepted anchor hanchor anchor' hanchor' named named' signed
    -- in the order that starts with one of the anchors, it is the one that decides
    obtain ⟨first, h⟩ := accepted ⟨anchor' :: anchors.certificates.erase anchor'⟩
      (List.perm_cons_erase hanchor').symm ⟨anchor, hanchor, named, signed⟩
    obtain ⟨-, found, signed'⟩ := verify_eq_ok_iff.mp h
    have first_eq : List.find? (fun c : Certificate => c.body.subject = leaf.body.issuer)
        (anchor' :: anchors.certificates.erase anchor') = some anchor' := by
      rw [List.find?_cons, decide_eq_true named']
    cases first_eq.symm.trans found
    exact signed'

end TrustAnchors

/-! ### A root that is renewed -/

namespace Certificate

/-- The algorithm of signatures and keys on the curve. -/
def curveAlgorithm : Algorithm :=
  ⟨ObjectIdentifier.ofArcs [1, 2, 840, 10045, 4, 3, 2], none⟩

/-- A name with a single part. -/
def commonName (text : String) : Name :=
  ⟨[[⟨ObjectIdentifier.ofArcs [2, 5, 4, 3], ⟨Der.Tag.utf8String, Bytes.ofText text⟩⟩]]⟩

/-- A certificate for a key on the curve, which is valid for eighty years. -/
def onCurve (issuer subject : String) (key : PrivateKey) (signature : Bytes) : Certificate where
  body :=
    { version := 0
      serialNumber := [1]
      signatureAlgorithm := curveAlgorithm
      issuer := commonName issuer
      notBefore := ⟨⟨Der.Tag.utcTime, Bytes.ofText "700101000000Z"⟩, 0⟩
      notAfter := ⟨⟨Der.Tag.utcTime, Bytes.ofText "491231235959Z"⟩, 2524607999⟩
      subject := commonName subject
      keyAlgorithm := curveAlgorithm
      key := ⟨0, key.publicKey.toPoint⟩
      issuerId := none
      subjectId := none
      extensions := none }
  algorithm := curveAlgorithm
  signature := ⟨0, signature⟩

/-- A root, whose own signature nothing looks at. -/
def rootOf (name : String) (key : PrivateKey) : Certificate :=
  onCurve name name key []

/-- A root. -/
def oldRoot : Certificate :=
  rootOf "root" default

/-- The same root with another key. -/
def newRoot : Certificate :=
  rootOf "root" ⟨2, by decide, by decide⟩

/-- A certificate of a reader that was signed with the new key. -/
def renewedLeaf : Certificate :=
  onCurve "root" "reader" ⟨3, by decide, by decide⟩
    (Der.encode Der.Tag.sequence
      (Der.encode Der.Tag.integer (Bytes.ofNat 33
          65657247331204145013209832832729260421584612895251237597016535358724233009261)
        ++ Der.encode Der.Tag.integer (Bytes.ofNat 32
          51575624725873811824959485228796727307272077940853459039866790806738544358308)))

end Certificate

namespace TrustAnchors

open Certificate (oldRoot newRoot renewedLeaf rootOf)

/-- Whether the anchors accept a certificate in the year 2023, with P-256. -/
def acceptsOnCurve (anchors : List Certificate) (leaf : Certificate) : Bool :=
  (verify .p256 1700000000 ⟨anchors⟩ leaf).toOption.isSome

theorem acceptsOnCurve_iff {certificates : List Certificate} :
  acceptsOnCurve certificates leaf ↔ Accepts .p256 1700000000 ⟨certificates⟩ leaf
  := by
  rw [acceptsOnCurve, Option.isSome_iff_exists, Accepts]
  apply exists_congr
  intro anchor
  exact Except.toOption_eq_some_iff

/-- The new key has signed the certificate. -/
theorem accepts_newRoot :
  Accepts .p256 1700000000 ⟨[newRoot]⟩ renewedLeaf
  := by
  rw [← acceptsOnCurve_iff]
  decide +kernel

/-- The certificate that the new key has signed stays accepted when a root with another name is
added in front. -/
theorem accepts_iff_vouch_renewed :
  Agree .p256 ⟨[rootOf "other" default, newRoot]⟩ renewedLeaf
    ∧ Vouch .p256 ⟨[rootOf "other" default, newRoot]⟩ renewedLeaf
    ∧ Accepts .p256 1700000000 ⟨[rootOf "other" default, newRoot]⟩ renewedLeaf
  := by
  have agree : Agree .p256 ⟨[rootOf "other" default, newRoot]⟩ renewedLeaf :=
    agree_of_nodup (by decide +kernel)
  have vouched : Vouch .p256 ⟨[rootOf "other" default, newRoot]⟩ renewedLeaf :=
    accepts_newRoot.vouch.mono (List.subset_cons_self _ _)
  have accepted := (accepts_iff_vouch agree 1700000000).1.mpr ⟨accepts_newRoot.isCurrent, vouched⟩
  exact ⟨agree, vouched, accepted⟩

/-- After the root was renewed, a certificate that the new key has signed is accepted if the new
root is the only one or comes first, but not if it comes after the old one. -/
theorem not_accepts_renewed :
  renewedLeaf.IsCurrent 1700000000
    ∧ Vouch .p256 ⟨[oldRoot, newRoot]⟩ renewedLeaf
    ∧ Accepts .p256 1700000000 ⟨[newRoot]⟩ renewedLeaf
    ∧ Accepts .p256 1700000000 ⟨[newRoot, oldRoot]⟩ renewedLeaf
    ∧ ¬ Accepts .p256 1700000000 ⟨[oldRoot, newRoot]⟩ renewedLeaf
  := by
  have rejected : acceptsOnCurve [oldRoot, newRoot] renewedLeaf = false := by
    decide +kernel
  refine ⟨accepts_newRoot.isCurrent, ?_, accepts_newRoot, accepts_newRoot.append [oldRoot], ?_⟩
  · exact accepts_newRoot.vouch.mono (List.subset_cons_self oldRoot [newRoot])
  · rw [← acceptsOnCurve_iff, rejected]
    exact Bool.false_ne_true

end TrustAnchors

end Presentment
