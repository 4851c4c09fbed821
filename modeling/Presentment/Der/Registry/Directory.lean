import Presentment.Der.Registry.Branch

/-!
# Names of a directory

Paths that name the attributes, classes and rules of a directory of persons and organisations.
-/

namespace Presentment.Der.Registry

/-! ### Entries of a directory -/

/-- Attributes of an entry. -/
def attributeTypes : Branch :=
  ⟨[2, 5, 4],
    [(0, "objectClass"), (1, "aliasedObjectName"), (2, "knowledgeInformation"), (3, "cn"),
     (4, "sn"), (5, "serialNumber"), (6, "c"), (7, "l"), (8, "st"), (9, "street"), (10, "o"),
     (11, "ou"), (12, "title"), (13, "description"), (14, "searchGuide"),
     (15, "businessCategory"), (16, "postalAddress"), (17, "postalCode"), (18, "postOfficeBox"),
     (19, "physicalDeliveryOfficeName"), (20, "telephoneNumber"), (21, "telexNumber"),
     (22, "teletexTerminalIdentifier"), (23, "facsimileTelephoneNumber"), (24, "x121Address"),
     (25, "internationalISDNNumber"), (26, "registeredAddress"), (27, "destinationIndicator"),
     (28, "preferredDeliveryMethod"), (29, "presentationAddress"),
     (30, "supportedApplicationContext"), (31, "member"), (32, "owner"), (33, "roleOccupant"),
     (34, "seeAlso"), (35, "userPassword"), (36, "userCertificate"), (37, "cACertificate"),
     (38, "authorityRevocationList"), (39, "certificateRevocationList"),
     (40, "crossCertificatePair"), (41, "name"), (42, "givenName"), (43, "initials"),
     (44, "generationQualifier"), (45, "x500UniqueIdentifier"), (46, "dnQualifier"),
     (47, "enhancedSearchGuide"), (48, "protocolInformation"), (49, "distinguishedName"),
     (50, "uniqueMember"), (51, "houseIdentifier"), (52, "supportedAlgorithms"),
     (53, "deltaRevocationList"), (54, "dmdName"), (55, "id-at-clearance"), (65, "pseudonym"),
     (72, "id-at-role")]⟩

/-- Classes of entries. -/
def objectClasses : Branch :=
  ⟨[2, 5, 6],
    [(0, "top"), (1, "alias"), (2, "country"), (3, "locality"), (4, "organization"),
     (5, "organizationalUnit"), (6, "person"), (7, "organizationalPerson"),
     (8, "organizationalRole"), (9, "groupOfNames"), (10, "residentialPerson"),
     (11, "applicationProcess"), (12, "applicationEntity"), (13, "dSA"), (14, "device"),
     (15, "strongAuthenticationUser"), (16, "certificationAuthority"),
     (17, "groupOfUniqueNames"), (18, "userSecurityInformation"), (19, "cRLDistributionPoint"),
     (20, "dmd"), (21, "pkiUser"), (22, "pkiCA"), (23, "deltaCRL")]⟩

/-- Later versions of the class of authorities. -/
def laterAuthorities : Branch :=
  ⟨[2, 5, 6, 16],
    [(2, "certificationAuthority-V2")]⟩

/-- Rules by which values are compared. -/
def matchingRules : Branch :=
  ⟨[2, 5, 13],
    [(0, "objectIdentifierMatch"), (1, "distinguishedNameMatch"), (2, "caseIgnoreMatch"),
     (3, "caseIgnoreOrderingMatch"), (4, "caseIgnoreSubstringsMatch"), (5, "caseExactMatch"),
     (6, "caseExactOrderingMatch"), (7, "caseExactSubstringsMatch"), (8, "numericStringMatch"),
     (9, "numericStringOrderingMatch"), (10, "numericStringSubstringsMatch"),
     (11, "caseIgnoreListMatch"), (12, "caseIgnoreListSubstringsMatch"), (13, "booleanMatch"),
     (14, "integerMatch"), (15, "integerOrderingMatch"), (16, "bitStringMatch"),
     (17, "octetStringMatch"), (18, "octetStringOrderingMatch"), (20, "telephoneNumberMatch"),
     (21, "telephoneNumberSubstringsMatch"), (22, "presentationAddressMatch"),
     (23, "uniqueMemberMatch"), (24, "protocolInformationMatch"), (27, "generalizedTimeMatch"),
     (28, "generalizedTimeOrderingMatch"), (29, "integerFirstComponentMatch"),
     (30, "objectIdentifierFirstComponentMatch"), (31, "directoryStringFirstComponentMatch"),
     (32, "wordMatch"), (33, "keywordMatch"), (34, "certificateExactMatch"),
     (35, "certificateMatch"), (36, "certificatePairExactMatch"), (37, "certificatePairMatch"),
     (38, "certificateListExactMatch"), (39, "certificateListMatch"),
     (40, "algorithmIdentifierMatch"), (41, "storedPrefixMatch")]⟩

/-- Rules that compare the components of values. -/
def componentRules : Branch :=
  ⟨[1, 2, 36, 79672281, 1, 13],
    [(2, "componentFilterMatch"), (3, "rdnMatch"), (5, "presentMatch"),
     (6, "allComponentsMatch"), (7, "directoryComponentsMatch")]⟩

/-! ### Attributes that entries share -/

/-- Localities that entries share. -/
def sharedLocalities : Branch :=
  ⟨[2, 5, 4, 7],
    [(1, "c-l")]⟩

/-- States that entries share. -/
def sharedStates : Branch :=
  ⟨[2, 5, 4, 8],
    [(1, "c-st")]⟩

/-- Streets that entries share. -/
def sharedStreets : Branch :=
  ⟨[2, 5, 4, 9],
    [(1, "c-street")]⟩

/-- Organizations that entries share. -/
def sharedOrganizations : Branch :=
  ⟨[2, 5, 4, 10],
    [(1, "c-o")]⟩

/-- Units that entries share. -/
def sharedUnits : Branch :=
  ⟨[2, 5, 4, 11],
    [(1, "c-ou")]⟩

/-- Postal addresses that entries share. -/
def sharedPostalAddresses : Branch :=
  ⟨[2, 5, 4, 16],
    [(1, "c-PostalAddress")]⟩

/-- Postal codes that entries share. -/
def sharedPostalCodes : Branch :=
  ⟨[2, 5, 4, 17],
    [(1, "c-PostalCode")]⟩

/-- Post office boxes that entries share. -/
def sharedPostOfficeBoxes : Branch :=
  ⟨[2, 5, 4, 18],
    [(1, "c-PostOfficeBox")]⟩

/-- Delivery offices that entries share. -/
def sharedDeliveryOffices : Branch :=
  ⟨[2, 5, 4, 19],
    [(1, "c-PhysicalDeliveryOffice")]⟩

/-- Telephone numbers that entries share. -/
def sharedTelephoneNumbers : Branch :=
  ⟨[2, 5, 4, 20],
    [(1, "c-TelephoneNumber")]⟩

/-- Telex numbers that entries share. -/
def sharedTelexNumbers : Branch :=
  ⟨[2, 5, 4, 21],
    [(1, "c-TelexNumber")]⟩

/-- Facsimile numbers that entries share. -/
def sharedFacsimileNumbers : Branch :=
  ⟨[2, 5, 4, 23],
    [(1, "c-FacsimileTelephoneNumber")]⟩

/-- Network numbers that entries share. -/
def sharedNetworkNumbers : Branch :=
  ⟨[2, 5, 4, 25],
    [(1, "c-InternationalISDNNumber")]⟩

/-! ### Administration of a directory -/

/-- Classes of administrative entries. -/
def subentries : Branch :=
  ⟨[2, 5, 17],
    [(0, "subentry"), (2, "collectiveAttributeSubentry")]⟩

/-- Attributes that the directory keeps. -/
def operationalAttributes : Branch :=
  ⟨[2, 5, 18],
    [(1, "createTimestamp"), (2, "modifyTimestamp"), (3, "creatorsName"), (4, "modifiersName"),
     (5, "administrativeRole"), (6, "subtreeSpecification"), (7, "collectiveExclusions"),
     (10, "subschemaSubentry"), (12, "collectiveAttributeSubentries")]⟩

/-- Classes of schemas. -/
def schemaClasses : Branch :=
  ⟨[2, 5, 20],
    [(1, "subschema")]⟩

/-- Attributes of schemas. -/
def schemaAttributes : Branch :=
  ⟨[2, 5, 21],
    [(1, "dITStructureRules"), (2, "dITContentRules"), (4, "matchingRules"),
     (5, "attributeTypes"), (6, "objectClasses"), (7, "nameForms"), (8, "matchingRuleUse"),
     (9, "structuralObjectClass"), (10, "governingStructureRule")]⟩

/-- Roles of areas. -/
def administrativeRoles : Branch :=
  ⟨[2, 5, 23],
    [(1, "autonomousArea"), (2, "accessControlSpecificArea"), (3, "accessControlInnerArea"),
     (4, "subschemaAdminSpecificArea"), (5, "collectiveAttributeSpecificArea"),
     (6, "collectiveAttributeInnerArea")]⟩

/-- Domain components. -/
def directoryForms : Branch :=
  ⟨[1, 3, 6, 1, 4, 1, 1466],
    [(344, "dcObject"), (345, "domainNameForm")]⟩

/-- Entries that expire. -/
def directoryEntries : Branch :=
  ⟨[1, 3, 6, 1, 4, 1, 1466, 101, 119],
    [(2, "dynamicObject"), (3, "entryTtl"), (4, "dynamicSubtrees")]⟩

/-- What a directory supports. -/
def directoryFeatures : Branch :=
  ⟨[1, 3, 6, 1, 4, 1, 1466, 101, 120],
    [(5, "namingContexts"), (6, "altServer"), (7, "supportedExtension"),
     (13, "supportedControl"), (14, "supportedSASLMechanisms"), (15, "supportedLDAPVersion"),
     (16, "ldapSyntaxes"), (111, "extensibleObject")]⟩

/-- Rules by which texts of ASCII characters are compared. -/
def asciiRules : Branch :=
  ⟨[1, 3, 6, 1, 4, 1, 1466, 109, 114],
    [(1, "caseExactIA5Match"), (2, "caseIgnoreIA5Match"), (3, "caseIgnoreIA5SubstringsMatch")]⟩

/-- Rules by which passwords are compared. -/
def passwordRules : Branch :=
  ⟨[1, 3, 6, 1, 4, 1, 4203, 1, 2],
    [(2, "authPasswordExactMatch"), (3, "authPasswordMatch")]⟩

/-- Passwords, and features of a directory. -/
def passwordAttributes : Branch :=
  ⟨[1, 3, 6, 1, 4, 1, 4203, 1, 3],
    [(3, "supportedAuthPasswordSchemes"), (4, "authPassword"), (5, "supportedFeatures")]⟩

/-- Entries with passwords. -/
def passwordClasses : Branch :=
  ⟨[1, 3, 6, 1, 4, 1, 4203, 1, 4],
    [(7, "authPasswordObject")]⟩

/-- Vendors, and the names of entries. -/
def vendors : Branch :=
  ⟨[1, 3, 6, 1, 1],
    [(4, "vendorName"), (5, "vendorVersion"), (20, "entryDN")]⟩

/-- Entries with a user identity. -/
def userIdentities : Branch :=
  ⟨[1, 3, 6, 1, 1, 3],
    [(1, "uidObject")]⟩

/-- Identities of entries. -/
def entryIdentities : Branch :=
  ⟨[1, 3, 6, 1, 1, 16],
    [(2, "UUIDMatch"), (3, "UUIDOrderingMatch"), (4, "entryUUID")]⟩

/-- Addresses for messages. -/
def messagingAddresses : Branch :=
  ⟨[1, 3, 6, 1, 1, 23],
    [(1, "JIDObject"), (2, "jid")]⟩

/-! ### Persons and organisations -/

/-- Attributes of persons, documents and domains. -/
def pilotAttributes : Branch :=
  ⟨[0, 9, 2342, 19200300, 100, 1],
    [(1, "uid"), (2, "textEncodedORAddress"), (3, "mail"), (4, "info"), (5, "drink"),
     (6, "roomNumber"), (7, "photo"), (8, "userClass"), (9, "host"), (10, "manager"),
     (11, "documentIdentifier"), (12, "documentTitle"), (13, "documentVersion"),
     (14, "documentAuthor"), (15, "documentLocation"), (20, "homePhone"), (21, "secretary"),
     (22, "otherMailbox"), (23, "lastModifiedTime"), (24, "lastModifiedBy"), (25, "dc"),
     (26, "aRecord"), (27, "mDRecord"), (28, "mXRecord"), (29, "nSRecord"), (30, "sOARecord"),
     (31, "cNAMERecord"), (37, "associatedDomain"), (38, "associatedName"),
     (39, "homePostalAddress"), (40, "personalTitle"), (41, "mobile"), (42, "pager"),
     (43, "co"), (44, "uniqueIdentifier"), (45, "organizationalStatus"), (46, "janetMailbox"),
     (47, "mailPreferenceOption"), (48, "buildingName"), (49, "dSAQuality"),
     (50, "singleLevelQuality"), (51, "subtreeMinimumQuality"), (52, "subtreeMaximumQuality"),
     (53, "personalSignature"), (54, "dITRedirect"), (55, "audio"), (56, "documentPublisher"),
     (60, "jpegPhoto")]⟩

/-- Classes of persons, documents and domains. -/
def pilotClasses : Branch :=
  ⟨[0, 9, 2342, 19200300, 100, 4],
    [(3, "pilotObject"), (4, "pilotPerson"), (5, "account"), (6, "document"), (7, "room"),
     (9, "documentSeries"), (13, "domain"), (14, "rFC822LocalPart"), (15, "dNSDomain"),
     (17, "domainRelatedObject"), (18, "friendlyCountry"), (19, "simpleSecurityObject"),
     (20, "pilotOrganization"), (21, "pilotDSA"), (22, "qualityLabelledData")]⟩

/-- Attributes of persons in an organisation. -/
def personAttributes : Branch :=
  ⟨[2, 16, 840, 1, 113730, 3, 1],
    [(1, "carLicense"), (2, "departmentNumber"), (3, "employeeNumber"), (4, "employeeType"),
     (34, "ref"), (39, "preferredLanguage"), (40, "userSMIMECertificate"), (216, "userPKCS12"),
     (241, "displayName")]⟩

/-- Classes of persons in an organisation, and referrals. -/
def personClasses : Branch :=
  ⟨[2, 16, 840, 1, 113730, 3, 2],
    [(2, "inetOrgPerson"), (6, "referral")]⟩

/-- Labelled addresses of documents. -/
def labels : Branch :=
  ⟨[1, 3, 6, 1, 4, 1, 250, 1],
    [(57, "labeledURI")]⟩

/-- Entries with labelled addresses. -/
def labelClasses : Branch :=
  ⟨[1, 3, 6, 1, 4, 1, 250, 3],
    [(15, "labeledURIObject")]⟩

/-! ### All of them -/

/-- Branches of a directory. -/
def directory : List Branch :=
  [attributeTypes, objectClasses, laterAuthorities, matchingRules, componentRules,
   sharedLocalities, sharedStates, sharedStreets, sharedOrganizations, sharedUnits,
   sharedPostalAddresses, sharedPostalCodes, sharedPostOfficeBoxes, sharedDeliveryOffices,
   sharedTelephoneNumbers, sharedTelexNumbers, sharedFacsimileNumbers, sharedNetworkNumbers,
   subentries, operationalAttributes, schemaClasses, schemaAttributes, administrativeRoles,
   directoryForms, directoryEntries, directoryFeatures, asciiRules, passwordRules,
   passwordAttributes, passwordClasses, vendors, userIdentities, entryIdentities,
   messagingAddresses, pilotAttributes, pilotClasses, personAttributes, personClasses, labels,
   labelClasses]

end Presentment.Der.Registry
