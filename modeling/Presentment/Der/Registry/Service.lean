import Presentment.Der.Registry.Branch

/-!
# Names of services

Paths that name what services keep in a directory: about mail, hosts, policies, businesses and
printers.
-/

namespace Presentment.Der.Registry

/-! ### Calendars and mail -/

/-- Entries with calendars. -/
def calendarClasses : Branch :=
  ⟨[1, 2, 840, 113556, 1, 5],
    [(87, "calEntry")]⟩

/-- Addresses of calendars. -/
def calendarAttributes : Branch :=
  ⟨[1, 2, 840, 113556, 1, 4],
    [(478, "calCalURI"), (479, "calFBURL"), (480, "calCAPURI"), (481, "calCalAdrURI"),
     (482, "calOtherCalURIs"), (483, "calOtherFBURLs"), (484, "calOtherCAPURIs"),
     (485, "calOtherCalAdrURIs")]⟩

/-- Tables by which addresses are mapped. -/
def mappingClasses : Branch :=
  ⟨[1, 3, 6, 1, 4, 1, 453, 7, 1],
    [(1, "subtree"), (2, "table"), (3, "tableEntry"), (4, "mixerGateway"),
     (5, "distinguishedNameTableEntry")]⟩

/-- Attributes of tables of addresses. -/
def mappingAttributes : Branch :=
  ⟨[1, 3, 6, 1, 4, 1, 453, 7, 2],
    [(1, "textTableKey"), (2, "textTableValue"), (3, "associatedX400Gateway"),
     (6, "associatedORAddress"), (7, "oRAddressComponentType"),
     (8, "associatedInternetGateway"), (9, "mcgamTables")]⟩

/-- Providers of certified mail. -/
def certifiedMailClasses : Branch :=
  ⟨[1, 3, 6, 1, 4, 1, 16572, 2, 1],
    [(1, "LDIFLocationURLObject"), (2, "provider")]⟩

/-- Attributes of providers of certified mail. -/
def certifiedMailAttributes : Branch :=
  ⟨[1, 3, 6, 1, 4, 1, 16572, 2, 2],
    [(1, "providerCertificateHash"), (2, "providerCertificate"), (3, "providerName"),
     (4, "mailReceipt"), (5, "managedDomains"), (6, "LDIFLocationURL"), (7, "providerUnit")]⟩

/-- Users of voice mail. -/
def voiceMailClasses : Branch :=
  ⟨[1, 3, 6, 1, 1, 11, 1],
    [(1, "vPIMUser")]⟩

/-- Attributes of users of voice mail. -/
def voiceMailAttributes : Branch :=
  ⟨[1, 3, 6, 1, 1, 11, 2],
    [(1, "vPIMTelephoneNumber"), (2, "vPIMRfc822Mailbox"), (3, "vPIMSpokenName"),
     (4, "vPIMSupportedUABehaviors"), (5, "vPIMSupportedAudioMediaTypes"),
     (6, "vPIMSupportedMessageContext"), (7, "vPIMTextName"), (8, "vPIMExtendedAbsenceStatus"),
     (9, "vPIMMaxMessageSize"), (10, "vPIMSubMailboxes")]⟩

/-! ### Users, hosts and networks -/

/-- Attributes of users, hosts and networks. -/
def hostAttributes : Branch :=
  ⟨[1, 3, 6, 1, 1, 1, 1],
    [(0, "uidNumber"), (1, "gidNumber"), (2, "gecos"), (3, "homeDirectory"), (4, "loginShell"),
     (5, "shadowLastChange"), (6, "shadowMin"), (7, "shadowMax"), (8, "shadowWarning"),
     (9, "shadowInactive"), (10, "shadowExpire"), (11, "shadowFlag"), (12, "memberUid"),
     (13, "memberNisNetgroup"), (14, "nisNetgroupTriple"), (15, "ipServicePort"),
     (16, "ipServiceProtocol"), (17, "ipProtocolNumber"), (18, "oncRpcNumber"),
     (19, "ipHostNumber"), (20, "ipNetworkNumber"), (21, "ipNetmaskNumber"), (22, "macAddress"),
     (23, "bootParameter"), (24, "bootFile"), (26, "nisMapName"), (27, "nisMapEntry")]⟩

/-- Classes of users, hosts and networks. -/
def hostClasses : Branch :=
  ⟨[1, 3, 6, 1, 1, 1, 2],
    [(0, "posixAccount"), (1, "shadowAccount"), (2, "posixGroup"), (3, "ipService"),
     (4, "ipProtocol"), (5, "oncRpc"), (6, "ipHost"), (7, "ipNetwork"), (8, "nisNetgroup"),
     (9, "nisMap"), (10, "nisObject"), (11, "ieee802Device"), (12, "bootableDevice")]⟩

/-- How a host uses a directory. -/
def agentAttributes : Branch :=
  ⟨[1, 3, 6, 1, 4, 1, 11, 1, 3, 1, 1],
    [(0, "defaultServerList"), (1, "defaultSearchBase"), (2, "preferredServerList"),
     (3, "searchTimeLimit"), (4, "bindTimeLimit"), (5, "followReferrals"),
     (6, "authenticationMethod"), (7, "profileTTL"), (9, "attributeMap"),
     (10, "credentialLevel"), (11, "objectclassMap"), (12, "defaultSearchScope"),
     (13, "serviceCredentialLevel"), (14, "serviceSearchDescriptor"),
     (15, "serviceAuthenticationMethod"), (16, "dereferenceAliases")]⟩

/-- Entries that say how a host uses a directory. -/
def agentClasses : Branch :=
  ⟨[1, 3, 6, 1, 4, 1, 11, 1, 3, 1, 2],
    [(5, "DUAConfigProfile")]⟩

/-- Names of files across servers. -/
def fileSystems : Branch :=
  ⟨[1, 3, 6, 1, 4, 1, 31103, 1],
    [(1, "fedfsUuid"), (4, "fedfsFsnUuid"), (5, "fedfsNsdbName"), (6, "fedfsNsdbPort"),
     (7, "fedfsNcePrefix"), (8, "fedfsFslUuid"), (9, "fedfsFslHost"), (10, "fedfsFslPort"),
     (11, "fedfsFslTTL"), (12, "fedfsAnnotation"), (13, "fedfsDescr"), (14, "fedfsNceDN"),
     (15, "fedfsFsnTTL"), (100, "fedfsNfsPath"), (101, "fedfsNfsMajorVer"),
     (102, "fedfsNfsMinorVer"), (103, "fedfsNfsCurrency"), (104, "fedfsNfsGenFlagWritable"),
     (105, "fedfsNfsGenFlagGoing"), (106, "fedfsNfsGenFlagSplit"),
     (107, "fedfsNfsTransFlagRdma"), (108, "fedfsNfsClassSimul"), (109, "fedfsNfsClassHandle"),
     (110, "fedfsNfsClassFileid"), (111, "fedfsNfsClassWritever"), (112, "fedfsNfsClassChange"),
     (113, "fedfsNfsClassReaddir"), (114, "fedfsNfsReadRank"), (115, "fedfsNfsReadOrder"),
     (116, "fedfsNfsWriteRank"), (117, "fedfsNfsWriteOrder"), (118, "fedfsNfsVarSub"),
     (119, "fedfsNfsValidFor"), (120, "fedfsNfsURI"), (1001, "fedfsNsdbContainerInfo"),
     (1002, "fedfsFsn"), (1003, "fedfsFsl"), (1004, "fedfsNfsFsl")]⟩

/-- Attributes of advertised services. -/
def serviceAttributes : Branch :=
  ⟨[1, 3, 6, 1, 4, 1, 6252, 2, 27, 6, 1],
    [(1, "template-major-version-number"), (2, "template-minor-version-number"),
     (3, "template-url-syntax"), (4, "service-advert-service-type"),
     (5, "service-advert-scopes"), (6, "service-advert-url-authenticator"),
     (7, "service-advert-attribute-authenticator")]⟩

/-- Advertised services. -/
def serviceClasses : Branch :=
  ⟨[1, 3, 6, 1, 4, 1, 6252, 2, 27, 6, 2],
    [(1, "slpService")]⟩

/-- Attributes of remote objects. -/
def remoteObjectAttributes : Branch :=
  ⟨[1, 3, 6, 1, 4, 1, 42, 2, 27, 4, 1],
    [(6, "javaClassName"), (7, "javaCodebase"), (8, "javaSerializedData"), (10, "javaFactory"),
     (11, "javaReferenceAddress"), (12, "javaDoc"), (13, "javaClassNames"), (14, "corbaIor"),
     (15, "corbaRepositoryId")]⟩

/-- Classes of remote objects. -/
def remoteObjectClasses : Branch :=
  ⟨[1, 3, 6, 1, 4, 1, 42, 2, 27, 4, 2],
    [(1, "javaContainer"), (4, "javaObject"), (5, "javaSerializedObject"),
     (7, "javaNamingReference"), (8, "javaMarshalledObject"), (9, "corbaObject"),
     (10, "corbaContainer"), (11, "corbaObjectReference")]⟩

/-! ### Policies -/

/-- Classes of policies. -/
def policyClasses : Branch :=
  ⟨[1, 3, 6, 1, 1, 6, 1],
    [(1, "pcimPolicy"), (2, "pcimGroup"), (3, "pcimGroupAuxClass"), (4, "pcimGroupInstance"),
     (5, "pcimRule"), (6, "pcimRuleAuxClass"), (7, "pcimRuleInstance"),
     (8, "pcimRuleConditionAssociation"), (9, "pcimRuleValidityAssociation"),
     (10, "pcimRuleActionAssociation"), (11, "pcimConditionAuxClass"), (12, "pcimTPCAuxClass"),
     (13, "pcimConditionVendorAuxClass"), (14, "pcimActionAuxClass"),
     (15, "pcimActionVendorAuxClass"), (16, "pcimPolicyInstance"), (17, "pcimElementAuxClass"),
     (18, "pcimRepository"), (19, "pcimRepositoryAuxClass"), (20, "pcimRepositoryInstance"),
     (21, "pcimSubtreesPtrAuxClass"), (22, "pcimGroupContainmentAuxClass"),
     (23, "pcimRuleContainmentAuxClass")]⟩

/-- Attributes of policies. -/
def policyAttributes : Branch :=
  ⟨[1, 3, 6, 1, 1, 6, 2],
    [(3, "pcimKeywords"), (4, "pcimGroupName"), (5, "pcimRuleName"), (6, "pcimRuleEnabled"),
     (7, "pcimRuleConditionListType"), (8, "pcimRuleConditionList"), (9, "pcimRuleActionList"),
     (10, "pcimRuleValidityPeriodList"), (11, "pcimRuleUsage"), (12, "pcimRulePriority"),
     (13, "pcimRuleMandatory"), (14, "pcimRuleSequencedActions"), (15, "pcimRoles"),
     (16, "pcimConditionGroupNumber"), (17, "pcimConditionNegated"), (18, "pcimConditionName"),
     (19, "pcimConditionDN"), (20, "pcimValidityConditionName"),
     (21, "pcimTimePeriodConditionDN"), (22, "pcimActionName"), (23, "pcimActionOrder"),
     (24, "pcimActionDN"), (25, "pcimTPCTime"), (26, "pcimTPCMonthOfYearMask"),
     (27, "pcimTPCDayOfMonthMask"), (28, "pcimTPCDayOfWeekMask"), (29, "pcimTPCTimeOfDayMask"),
     (30, "pcimTPCLocalOrUtcTime"), (31, "pcimVendorConstraintData"),
     (32, "pcimVendorConstraintEncoding"), (33, "pcimVendorActionData"),
     (34, "pcimVendorActionEncoding"), (35, "pcimPolicyInstanceName"),
     (36, "pcimRepositoryName"), (37, "pcimSubtreesAuxContainedSet"),
     (38, "pcimGroupsAuxContainedSet"), (39, "pcimRulesAuxContainedSet")]⟩

/-- Classes of sets of policies. -/
def policySetClasses : Branch :=
  ⟨[1, 3, 6, 1, 1, 9, 1],
    [(1, "pcelsPolicySet"), (2, "pcelsPolicySetAssociation"), (3, "pcelsGroup"),
     (4, "pcelsGroupAuxClass"), (5, "pcelsGroupInstance"), (6, "pcelsRule"),
     (7, "pcelsRuleAuxClass"), (8, "pcelsRuleInstance"), (9, "pcelsConditionAssociation"),
     (10, "pcelsActionAssociation"), (11, "pcelsSimpleConditionAuxClass"),
     (12, "pcelsCompoundConditionAuxClass"), (13, "pcelsCompoundFilterConditionAuxClass"),
     (14, "pcelsSimpleActionAuxClass"), (15, "pcelsCompoundActionAuxClass"),
     (16, "pcelsVariable"), (17, "pcelsExplicitVariableAuxClass"),
     (18, "pcelsImplicitVariableAuxClass"), (19, "pcelsSourceIPv4VariableAuxClass"),
     (20, "pcelsSourceIPv6VariableAuxClass"), (21, "pcelsDestinationIPv4VariableAuxClass"),
     (22, "pcelsDestinationIPv6VariableAuxClass"), (23, "pcelsSourcePortVariableAuxClass"),
     (24, "pcelsDestinationPortVariableAuxClass"), (25, "pcelsIPProtocolVariableAuxClass"),
     (26, "pcelsIPVersionVariableAuxClass"), (27, "pcelsIPToSVariableAuxClass"),
     (28, "pcelsDSCPVariableAuxClass"), (29, "pcelsFlowIdVariableAuxClass"),
     (30, "pcelsSourceMACVariableAuxClass"), (31, "pcelsDestinationMACVariableAuxClass"),
     (32, "pcelsVLANVariableAuxClass"), (33, "pcelsCoSVariableAuxClass"),
     (34, "pcelsEthertypeVariableAuxClass"), (35, "pcelsSourceSAPVariableAuxClass"),
     (36, "pcelsDestinationSAPVariableAuxClass"), (37, "pcelsSNAPOUIVariableAuxClass"),
     (38, "pcelsSNAPTypeVariableAuxClass"), (39, "pcelsFlowDirectionVariableAuxClass"),
     (40, "pcelsValueAuxClass"), (41, "pcelsIPv4AddrValueAuxClass"),
     (42, "pcelsIPv6AddrValueAuxClass"), (43, "pcelsMACAddrValueAuxClass"),
     (44, "pcelsStringValueAuxClass"), (45, "pcelsBitStringValueAuxClass"),
     (46, "pcelsIntegerValueAuxClass"), (47, "pcelsBooleanValueAuxClass"),
     (48, "pcelsReusableContainer"), (49, "pcelsReusableContainerAuxClass"),
     (50, "pcelsReusableContainerInstance"), (51, "pcelsRoleCollection"),
     (52, "pcelsFilterEntryBase"), (53, "pcelsIPHeadersFilter"), (54, "pcels8021Filter"),
     (55, "pcelsFilterListAuxClass"), (56, "pcelsVendorVariableAuxClass"),
     (57, "pcelsVendorValueAuxClass")]⟩

/-- Attributes of sets of policies. -/
def policySetAttributes : Branch :=
  ⟨[1, 3, 6, 1, 1, 9, 2],
    [(1, "pcelsPolicySetName"), (2, "pcelsDecisionStrategy"), (3, "pcelsPolicySetList"),
     (4, "pcelsPriority"), (5, "pcelsPolicySetDN"), (6, "pcelsConditionListType"),
     (7, "pcelsConditionList"), (8, "pcelsActionList"), (9, "pcelsSequencedActions"),
     (10, "pcelsExecutionStrategy"), (11, "pcelsVariableDN"), (12, "pcelsValueDN"),
     (13, "pcelsIsMirrored"), (14, "pcelsVariableName"), (15, "pcelsExpectedValueList"),
     (16, "pcelsVariableModelClass"), (17, "pcelsVariableModelProperty"),
     (18, "pcelsExpectedValueTypes"), (19, "pcelsValueName"), (20, "pcelsIPv4AddrList"),
     (21, "pcelsIPv6AddrList"), (22, "pcelsMACAddrList"), (23, "pcelsStringList"),
     (24, "pcelsBitStringList"), (25, "pcelsIntegerList"), (26, "pcelsBoolean"),
     (27, "pcelsReusableContainerName"), (28, "pcelsReusableContainerList"), (29, "pcelsRole"),
     (30, "pcelsRoleCollectionName"), (31, "pcelsElementList"), (32, "pcelsFilterName"),
     (33, "pcelsFilterIsNegated"), (34, "pcelsIPHdrVersion"), (35, "pcelsIPHdrSourceAddress"),
     (36, "pcelsIPHdrSourceAddressEndOfRange"), (37, "pcelsIPHdrSourceMask"),
     (38, "pcelsIPHdrDestAddress"), (39, "pcelsIPHdrDestAddressEndOfRange"),
     (40, "pcelsIPHdrDestMask"), (41, "pcelsIPHdrProtocolID"),
     (42, "pcelsIPHdrSourcePortStart"), (43, "pcelsIPHdrSourcePortEnd"),
     (44, "pcelsIPHdrDestPortStart"), (45, "pcelsIPHdrDestPortEnd"), (46, "pcelsIPHdrDSCPList"),
     (47, "pcelsIPHdrFlowLabel"), (48, "pcels8021HdrSourceMACAddress"),
     (49, "pcels8021HdrSourceMACMask"), (50, "pcels8021HdrDestMACAddress"),
     (51, "pcels8021HdrDestMACMask"), (52, "pcels8021HdrProtocolID"),
     (53, "pcels8021HdrPriority"), (54, "pcels8021HdrVLANID"), (55, "pcelsFilterListName"),
     (56, "pcelsFilterDirection"), (57, "pcelsFilterEntryList"),
     (58, "pcelsVendorVariableData"), (59, "pcelsVendorVariableEncoding"),
     (60, "pcelsVendorValueData"), (61, "pcelsVendorValueEncoding"),
     (62, "pcelsRuleValidityPeriodList")]⟩

/-! ### Businesses and printers -/

/-- Attributes of businesses and what they offer. -/
def businessAttributes : Branch :=
  ⟨[1, 3, 6, 1, 1, 10, 4],
    [(1, "uddiBusinessKey"), (2, "uddiAuthorizedName"), (3, "uddiOperator"), (4, "uddiName"),
     (5, "uddiDescription"), (6, "uddiDiscoveryURLs"), (7, "uddiUseType"),
     (8, "uddiPersonName"), (9, "uddiPhone"), (10, "uddiEMail"), (11, "uddiSortCode"),
     (12, "uddiTModelKey"), (13, "uddiAddressLine"), (14, "uddiIdentifierBag"),
     (15, "uddiCategoryBag"), (16, "uddiKeyedReference"), (17, "uddiServiceKey"),
     (18, "uddiBindingKey"), (19, "uddiAccessPoint"), (20, "uddiHostingRedirector"),
     (21, "uddiInstanceDescription"), (22, "uddiInstanceParms"),
     (23, "uddiOverviewDescription"), (24, "uddiOverviewURL"), (25, "uddiFromKey"),
     (26, "uddiToKey"), (27, "uddiUUID"), (28, "uddiIsHidden"), (29, "uddiIsProjection"),
     (30, "uddiLang"), (31, "uddiv3BusinessKey"), (32, "uddiv3ServiceKey"),
     (33, "uddiv3BindingKey"), (34, "uddiv3TmodelKey"), (35, "uddiv3DigitalSignature"),
     (36, "uddiv3NodeId"), (37, "uddiv3EntityModificationTime"), (38, "uddiv3SubscriptionKey"),
     (39, "uddiv3SubscriptionFilter"), (40, "uddiv3NotificationInterval"),
     (41, "uddiv3MaxEntities"), (42, "uddiv3ExpiresAfter"), (43, "uddiv3BriefResponse"),
     (44, "uddiv3EntityKey"), (45, "uddiv3EntityCreationTime"),
     (46, "uddiv3EntityDeletionTime")]⟩

/-- Classes of businesses and what they offer. -/
def businessClasses : Branch :=
  ⟨[1, 3, 6, 1, 1, 10, 6],
    [(1, "uddiBusinessEntity"), (2, "uddiContact"), (3, "uddiAddress"),
     (4, "uddiBusinessService"), (5, "uddiBindingTemplate"), (6, "uddiTModelInstanceInfo"),
     (7, "uddiTModel"), (8, "uddiPublisherAssertion"), (9, "uddiv3Subscription"),
     (10, "uddiv3EntityObituary")]⟩

/-- Forms of the names of businesses and what they offer. -/
def businessForms : Branch :=
  ⟨[1, 3, 6, 1, 1, 10, 15],
    [(1, "uddiBusinessEntityNameForm"), (2, "uddiContactNameForm"), (3, "uddiAddressNameForm"),
     (4, "uddiBusinessServiceNameForm"), (5, "uddiBindingTemplateNameForm"),
     (6, "uddiTModelInstanceInfoNameForm"), (7, "uddiTModelNameForm"),
     (8, "uddiPublisherAssertionNameForm"), (9, "uddiv3SubscriptionNameForm"),
     (10, "uddiv3EntityObituaryNameForm")]⟩

/-- Attributes of printers. -/
def printerAttributes : Branch :=
  ⟨[1, 3, 18, 0, 2, 4],
    [(1107, "printer-xri-supported"), (1108, "printer-aliases"),
     (1109, "printer-charset-configured"), (1110, "printer-job-priority-supported"),
     (1111, "printer-job-k-octets-supported"), (1112, "printer-current-operator"),
     (1113, "printer-service-person"), (1114, "printer-delivery-orientation-supported"),
     (1115, "printer-stacking-order-supported"), (1116, "printer-output-features-supported"),
     (1117, "printer-media-local-supported"), (1118, "printer-copies-supported"),
     (1119, "printer-natural-language-configured"), (1120, "printer-print-quality-supported"),
     (1121, "printer-resolution-supported"), (1122, "printer-media-supported"),
     (1123, "printer-sides-supported"), (1124, "printer-number-up-supported"),
     (1125, "printer-finishings-supported"), (1126, "printer-pages-per-minute-color"),
     (1127, "printer-pages-per-minute"), (1128, "printer-compression-supported"),
     (1129, "printer-color-supported"), (1130, "printer-document-format-supported"),
     (1131, "printer-charset-supported"), (1132, "printer-multiple-document-jobs-supported"),
     (1133, "printer-ipp-versions-supported"), (1134, "printer-more-info"),
     (1135, "printer-name"), (1136, "printer-location"),
     (1137, "printer-generated-natural-language-supported"), (1138, "printer-make-and-model"),
     (1139, "printer-info"), (1140, "printer-uri")]⟩

/-- Classes of printers. -/
def printerClasses : Branch :=
  ⟨[1, 3, 18, 0, 2, 6],
    [(253, "printerLPR"), (254, "slpServicePrinter"), (255, "printerService"),
     (256, "printerIPP"), (257, "printerServiceAuxClass"), (258, "printerAbstract")]⟩

/-- Attributes of the devices of printers. -/
def printerDevices : Branch :=
  ⟨[1, 3, 18, 0, 2, 24, 46, 1],
    [(101, "printer-device-id"), (102, "printer-device-service-count"), (104, "printer-uuid"),
     (105, "printer-charge-info"), (106, "printer-charge-info-uri"),
     (107, "printer-geo-location"), (108, "printer-ipp-features-supported")]⟩

/-! ### All of them -/

/-- Branches of services. -/
def services : List Branch :=
  [calendarClasses, calendarAttributes, mappingClasses, mappingAttributes, certifiedMailClasses,
   certifiedMailAttributes, voiceMailClasses, voiceMailAttributes, hostAttributes, hostClasses,
   agentAttributes, agentClasses, fileSystems, serviceAttributes, serviceClasses,
   remoteObjectAttributes, remoteObjectClasses, policyClasses, policyAttributes,
   policySetClasses, policySetAttributes, businessAttributes, businessClasses, businessForms,
   printerAttributes, printerClasses, printerDevices]

end Presentment.Der.Registry
