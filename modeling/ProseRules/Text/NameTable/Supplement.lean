namespace ProseRules.Text

/-!
# Names of the characters from 0x10000 on

The names of the characters of each run, packed as `codeInRun?` reads them.
-/

/-- Runs of characters with their packed names. -/
def supplementNames : List (Nat × List String) :=
  [
    (0x10000, ["LINEAR B SYLLABLE B008 Au38 Eu28 Iu61 Ou10 Uu01 DAu45 DEu07 DIu14 DOu51 DUv7 JAu46",
      " JE"]),
    (0x1000D, ["LINEAR B SYLLABLE B036 JOu65 JUu77 KAu44 KEu67 KIu70 KOu81 KUv0 MAu13 MEu73 MIu15 ",
      "MOu23 MUu06 NAu24 NEu30 NIu52 NOv5 NUu03 PAu72 PEu39 PIu11 POu50 PUu16 QAu78 QEu21 QIu32 Q",
      "O"]),
    (0x10028, ["LINEAR B SYLLABLE B060 RAu27 REu53 RIu02 ROu26 RUu31 SAu09 SEu41 SIu12 SOu58 SUv9 ",
      "TAu04 TEu37 TIu05 TOu69 TUu54 WAu75 WEu40 WIv2 WO"]),
    (0x1003C, ["LINEAR B SYLLABLE B017 ZAu74 ZE"]),
    (0x1003F, ["LINEAR B SYLLABLE B020 ZOv5 A2u43 A3u85 AUu71 DWEu90 DWOu48 NWAu29 PU2u62 PTEu76 R",
      "A2u33 RA3u68 RO2v6 TA2u87 TWEu91 TWO"]),
    (0x10050, ["LINEAR B SYMBOL B018t9s22s34s47t9s56s63t4s79s82t3t6t9"]),
    (0x10080, ["LINEAR B IDEOGRAM B100 MANv2 WOMANv4 DEERv5 EQUIDwF MAREwM STALLIONv6F EWEwM RAMv7",
      "F SHE-GOATwM HE-GOATv8F SOWwM BOARv9F COWwM BULLu20 WHEATv1 BARLEYv2 OLIVEv3 SPICEv5 CYPERU",
      "SjMONOGRAM B127 KAPOv8 KANAKOjIDEOGRAM B130 OILv1 WINEv2jMONOGRAM B133 AREPAv5 MERIjIDEOGRA",
      "M B140 BRONZEv1 GOLDv2v5 WOOLv6u50v1 HORNv2v3v4jMONOGRAM B156 TURO2jIDEOGRAM B157v8v9 CLOTH",
      "u60v1v2 GARMENTv3 ARMOURv4v5v6v7v8v9u70v1v2v3 MONTHv4v6 TREEv7v8v9u80v1v2v3v4v5v9u90v1 HELM",
      "ETt220 FOOTSTOOLv5 BATHTUBu30 SPEARv1 ARROWv2v3 SWORDv4v6u40 WHEELED CHARIOTv1 CHARIOTv2 CH",
      "ARIOT FRAMEv3 WHEELv5v6jMONOGRAM B247 DIPTEjIDEOGRAM B248v9u51v2v3v4 DARTv5v6v7v8v9sVESSEL ",
      "B155α200γ1γ2γ3γ4γ5γ6γ7γ8γ9β10γ1γ2γ3γ4γ5γ6γ7γ8γ9β21γ2γ6γ7γ8γ9β50α305"]),
    (0x10100, ["AEGEAN WORD SEPARATOR LINEwDOThCHECK MARK"]),
    (0x10107, ["AEGEAN NUMBER ONEoTWOpHREEoFOURpIVEoSIXpEVENoEIGHToNINEoTENpWENTYpHIRTYoFORTYpIFTY",
      "oSIXTYpEVENTYoEIGHTYoNINETYoONE HUNDREDoTWO HUNDREDpHREE HUNDREDoFOUR HUNDREDpIVE HUNDREDoS",
      "IX HUNDREDpEVEN HUNDREDoEIGHT HUNDREDoNINE HUNDREDoONE THOUSANDoTWO THOUSANDpHREE THOUSANDo",
      "FOUR THOUSANDpIVE THOUSANDoSIX THOUSANDpEVEN THOUSANDoEIGHT THOUSANDoNINE THOUSANDoTEN THOU",
      "SANDpWENTY THOUSANDpHIRTY THOUSANDoFORTY THOUSANDpIFTY THOUSANDoSIXTY THOUSANDpEVENTY THOUS",
      "ANDoEIGHTY THOUSANDoNINETY THOUSAND"]),
    (0x10137, ["AEGEAN WEIGHT BASE UNIToFIRST SUBUNIToSECOND SUBUNIToTHIRD SUBUNIToFOURTH SUBUNITh",
      "DRY MEASURE FIRST SUBUNIThLIQUID MEASURE FIRST SUBUNIThMEASURE SECOND SUBUNITpTHIRD SUBUNIT",
      "aGREEK ACROPHONIC ATTIC ONE QUARTERβHALFβDRACHMAxFIVEzFTYzVE HUNDREDγTHOUSANDzFTY THOUSANDz",
      "VE TALENTSxTEN TALENTSxFIFTY TALENTSxONE HUNDRED TALENTSxFIVE HUNDRED TALENTSxONE THOUSAND ",
      "TALENTSxFIVE THOUSAND TALENTSγSTATERSxTEN STATERSxFIFTY STATERSxONE HUNDRED STATERSxFIVE HU",
      "NDRED STATERSxONE THOUSAND STATERSxTEN THOUSAND STATERSxFIFTY THOUSAND STATERSxTEN MNASrHER",
      "AEUM ONE PLETHRONrTHESPIAN ONErHERMIONIAN ONErEPIDAUREAN TWOrTHESPIAN TWOrCYRENAIC TWO DRAC",
      "HMASrEPIDAUREAN TWO DRACHMASrTROEZENIAN FIVEγTENζ ALTERNATE FORMrHERMIONIAN TENrMESSENIAN T",
      "ENrTHESPIAN TENβHIRTYsROEZENIAN FIFTYθ ALTERNATE FORMrHERMIONIAN FIFTYrTHESPIAN FIFTYαONE H",
      "UNDREDαTHREE HUNDREDrEPIDAUREAN FIVE HUNDREDrTROEZENIAN FIVE HUNDREDsHESPIAN FIVE HUNDREDrC",
      "ARYSTIAN FIVE HUNDREDrNAXIAN FIVE HUNDREDrTHESPIAN ONE THOUSANDαFIVE THOUSANDrDELPHIC FIVE ",
      "MNASrSTRATIAN FIFTY MNASgONE HALF SIGNt ALTERNATE FORMgTWO THIRDS SIGNhHREE QUARTERS SIGNgY",
      "EAR SIGNgTALENT SIGNgDRACHMA SIGNgOBOL SIGNgTWO OBOLS SIGNhHREE OBOLS SIGNgFOUR OBOLS SIGNh",
      "IVE OBOLS SIGNgMETRETES SIGNgKYATHOS BASE SIGNgLITRA SIGNgOUNKIA SIGNgXESTES SIGNgARTABE SI",
      "GNiOURA SIGNgGRAMMA SIGNgTRYBLION BASE SIGNgZERO SIGNgONE QUARTER SIGNgSINUSOID SIGNgINDICT",
      "ION SIGNaNOMISMA SIGN"]),
    (0x10190, ["ROMAN SEXTANS SIGNgUNCIA SIGNgSEMUNCIA SIGNiXTULA SIGNgDIMIDIA SEXTULA SIGNgSILIQU",
      "A SIGNgDENARIUS SIGNgQUINARIUS SIGNgSESTERTIUS SIGNgDUPONDIUS SIGNgAS SIGNgCENTURIAL SIGNaA",
      "SCIA SYMBOL"]),
    (0x101A0, ["GREEK SYMBOL TAU RHO"]),
    (0x101D0, ["PHAISTOS DISC SIGN PEDESTRIANuLUMED HEADtTATTOOED HEADtCAPTIVEuHILDtWOMANtHELMETtG",
      "AUNTLETtTIARAtARROWtBOWtSHIELDtCLUBtMANACLESvTTOCKtSAWtLIDtBOOMERANGtCARPENTRY PLANEtDOLIUM",
      "tCOMBtSLINGtCOLUMNtBEEHIVEtSHIPtHORNuIDEtBULLS LEGtCATtRAMtEAGLEtDOVEtTUNNYtBEEtPLANE TREEt",
      "VINEtPAPYRUStROSETTEtLILYtOX BACKtFLUTEtGRATERtSTRAINERuMALL AXEtWAVY BANDtCOMBINING OBLIQU",
      "E STROKE"]),
    (0x10280, ["LYCIAN LETTER AoEoBpHoGoDoIoWoZoTHoJoKoQoLoMoNoMMoNNoUoPoKKoRoSoTpToANoENoHoX"]),
    (0x102A0, ["CARIAN LETTER AoP2oDoLoUUUoRoLDoA2oQoBoMoOoD2oToSHq2poC-18oUoNNoXoNoTT2oPoSSoIoEoU",
      "UUUoKp2oNDoUUoGp2oSTq2oNGoIIoC-39oTToUUU2oRRoMBq2q3q4oLD2oE2oUUU3"]),
    (0x102E0, ["COPTIC EPACT THOUSANDS MARKnDIGIT ONEtTWOuHREEtFOURuIVEtSIXuEVENtEIGHTtNINEnNUMBER",
      " TENvWENTYvHIRTYuFORTYvIFTYuSIXTYvEVENTYuEIGHTYuNINETYuONE HUNDREDuTWO HUNDREDvHREE HUNDRED",
      "uFOUR HUNDREDvIVE HUNDREDuSIX HUNDREDvEVEN HUNDREDuEIGHT HUNDREDuNINE HUNDRED"]),
    (0x10300, ["OLD ITALIC LETTER AsBEsKEsDEsEsVEsZEsHEsTHEsIsKAsELtMtNtSHsOsPEsSHEsKUsERtSsTEsUsE",
      "KSsPHEsKHEsEFtRSsCHEsIIsUUsESSlNUMERAL ONEtFIVEtTENtFIFTY"]),
    (0x1032D, ["OLD ITALIC LETTER YEsNORTHERN TSEsSOUTHERN TSEaGOTHIC LETTER AHSAoBAIRKANoGIBAoDAG",
      "SoAIHVUSoQAIRTHRAoIUJAoHAGLoTHIUTHoEISoKUSMAoLAGUSoMANNAoNAUTHSoJERoURUSoPAIRTHRAoNINETYoRA",
      "IDAoSAUILoTEIWSoWINJAoFAIHUoIGGWSoHWAIRoOTHALoNINE HUNDRED"]),
    (0x10350, ["OLD PERMIC LETTER ANsBURsGAIsDOIsEsZHOIsDZHOIsZATAsDZITAsIsKOKEsLEIsMENOEsNENOEsVO",
      "OIsPEEIsREIsSIIsTAIsUsCHERYsSHOOIuCHOOIsYRYtERUsOtOsEFsHAsTSIUsVERsYERvItATsIEsYUtAsIAaCOMB",
      "INING OLD PERMIC LETTER ANγDOIγZATAγNENOEγSII"]),
    (0x10380, ["UGARITIC LETTER ALPAqBETAqGAMLAqKHAqDELTAqHOqWOqZETAqHOTAqTETqYODqKAFqSHINqLAMDAqM",
      "EMqDHALqNUNqZUqSAMKAqAINqPUqSADEqQOPAqRASHAqTHANNAqGHAINqTOqIqUqSSU"]),
    (0x1039F, ["UGARITIC WORD DIVIDERaOLD PERSIAN SIGN ArIrUrKAsUrGAsUrXArCArJAsIrTAsUrDAsIsUrTHAr",
      "PArBArFArNAsUrMAsIsUrYArVAsIrRAsUrLArSArZArSHAsSArHA"]),
    (0x103C8, ["OLD PERSIAN SIGN AURAMAZDAAβ-2βHArXSHAAYATHIYArDAHYAAUSHα-2rBAGAsUUMISHmWORD DIVID",
      "ERmNUMBER ONEtTWOuENuWENTYtHUNDRED"]),
    (0x10400, ["DESERET CAPITAL LETTER LONG IγEγAδHγOδOxSHORT IδEδAεHδOεOxAYxOWxWUxYEExHxPEExBEExT",
      "EExDEExCHEExJEExKAYxGAYxEFxVEExETHxTHEExESxZEExESHxZHEExERyLyMyNzGxOIxEWiSMALL LETTER LONG ",
      "IαEαAβHαOβOvSHORT IβEβAγHβOγOvAYvOWvWUvYEEvHvPEEvBEEvTEEvDEEvCHEEvJEEvKAYvGAYvEFvVEEvETHvTH",
      "EEvESvZEEvESHvZHEEvERwLwMwNxGvOIvEWaSHAVIAN LETTER PEEPpTOTpKICKpFEEpTHIGHpSOqUREpCHURCHpYE",
      "ApHUNGpBIBpDEADpGAGpVOWpTHEYpZOOpMEASUREpJUDGEpWOEpHA-HApLOLLpMIMEpIFpEGGpASHqDOpONpWOOLpOU",
      "TpAHpROARpNUNpEATpAGEpICEpUPpOAKqOZEqILpAWEqREpORpAIRpERRpARRAYpEARpIANpYEWaOSMANYA LETTER ",
      "ALEFpBApTApJApXApKHApDEELpRApSAqHIINpDHApCAYNpGApFApQAAFpKAAFpLAANpMIINpNUUNpWAWpHApYApApEp",
      "IpOpUpAApEEpOO"]),
    (0x104A0, ["OSMANYA DIGIT ZEROoONEoTWOpHREEoFOURpIVEoSIXpEVENoEIGHToNINE"]),
    (0x104B0, ["OSAGE CAPITAL LETTER AwIxNwHvBRAvCHAvEHCHAwwINvHAwYAvIvKAvEHKAvKYAvLAvMAvNAvOwINvP",
      "AvEHPAvSAwHAvTAvEHTAvTSAvEHTSAvTSHAvDHAvUvWAvKHAvGHAvZAwHA"]),
    (0x104D8, ["OSAGE SMALL LETTER AuIvNuHtBRAtCHAtEHCHAuuINtHAuYAtItKAtEHKAtKYAtLAtMAtNAtOuINtPAt",
      "EHPAtSAuHAtTAtEHTAtTSAtEHTSAtTSHAtDHAtUtWAtKHAtGHAtZAuHA"]),
    (0x10500, ["ELBASAN LETTER ApBEpCEqHEpDEpNDEpDHEpEIqpFEpGEqJEpHEpIpJEpKEpLEqLEpMEpNEqAqJEpOpPE",
      "pQEpREqREpSEqHEpTEqHEpUpVEpXEpYpZEqHEpGHErAMMApKHE"]),
    (0x10530, ["CAUCASIAN ALBANIAN LETTER ALTαBETαGIMαDATαEBαZARLαEYNαZHILαTASαCHAαYOWDαZHAαIRBαSH",
      "AαLANαINYAαXEYNαDYANαCARαJHOXαKARαLYITαHEYTαQAYαAORαCHOYγIβYAYαMAQαQARαNOWCαDZYAYαSHAKαJAYN",
      "αONαTYAYαFAMαDZAYαCHATαPENαGHEYSαRATαSEYKαVEYZαTIWRαSHOYαIWNαCYAWβAYNαYAYDαPIWRαKIW"]),
    (0x1056F, ["CAUCASIAN ALBANIAN CITATION MARKaVITHKUQI CAPITAL LETTER AyBBEzEyCEzHEyDEzHEyEIzyF",
      "EyGA"]),
    (0x1057C, ["VITHKUQI CAPITAL LETTER HAzHAyIzJEyJEyKAyLAzLAyMEyNEzJEyOyPEyQAyRE"]),
    (0x1058C, ["VITHKUQI CAPITAL LETTER SEzHEyTEzHEyUyVEyXE"]),
    (0x10594, ["VITHKUQI CAPITAL LETTER YyZE"]),
    (0x10597, ["VITHKUQI SMALL LETTER AwBBExEwCExHEwDExHEwEIxwFEwGA"]),
    (0x105A3, ["VITHKUQI SMALL LETTER HAxHAwIxJEwJEwKAwLAxLAwMEwNExJEwOwPEwQAwRE"]),
    (0x105B3, ["VITHKUQI SMALL LETTER SExHEwTExHEwUwVEwXE"]),
    (0x105BB, ["VITHKUQI SMALL LETTER YwZE"]),
    (0x10600, ["LINEAR A SIGN AB001s2s3s4s5s6s7s8s9r10s1s3s6s7r20s1tFtMs2tFtMs3tMs4s6s7s8p028BpB02",
      "9r30s1s4s7s8s9r40s1s4s5s6s7s8s9r50s1s3s4s5s6s7s8s9r60s1s5s6s7s9r70s3s4s6s7s8s9r80s1s2s5s6s7",
      "p100-102pB118r20p120BpB122s3r31AtBp131CpB164r71r80s8r91p301r2r3r4r5r6r7r8r9AsBsCq10r1r2r3As",
      "BsCr4r5r6r7r8r9q20r1r2r3r4r5r6r7r8r9q30r1r2r3r4r5r6r7r8r9q40r1r2r3r4r5r6r7r8r9q50r1r2r3r4r5",
      "r6r7r8r9q60r1r2r3r4r5r6r7r8r9q70r1p400-VASr1-VASr2-VASr3-VASr4-VASr5-VASr6-VASr7-VASr8-VASr",
      "9-VASq10-VASr1-VASr2-VASr3-VASr4-VASr5-VASr6-VASr7-VASr8-VASp501r2r3r4r5r6r8r9q10r1r2r3r5r6",
      "q20r1r3r4r5r6r7r8r9q30r1r2r4r5r6r7r8r9q40r1r2r5r7r8r9q50r1r2r3r4r5r6r7r9q63r4r5r6r8r9q70r1r",
      "2r3r4r5r6r7r8r9q80r1r2r3r4r5r6r7r8r9q91r2r4r5r6r8p600r1r2r3r4r6r8r9q10r1r2r3r4r5r6r7r8r9q20",
      "r1r2r3r4r6r7r8r9q34r7r8q40r2r3r4r5r6r8r9q51r2r3r4r5r6r7r8r9q60r1r2r3r4"]),
    (0x10740, ["LINEAR A SIGN A701 Ar2 Br3 Dr4 Er5 Fr6 Hr7 Jr8 Kr9 Ls-2 L2t3 L3t4 L4t6 L6q10 Wr1 X",
      "r2 Yr3 OMEGAr4 ABBr5 BBr7 DDq26 EYYYq32 JE"]),
    (0x10760, ["LINEAR A SIGN A800r1r2r3r4r5r6r7"]),
    (0x10780, ["MODIFIER LETTER SMALL CAPITAL AArUPERSCRIPT TRIANGULAR COLONγHALF TRIANGULAR COLON",
      "rMALL AEwCAPITAL BwB WITH HOOK"]),
    (0x10787, ["MODIFIER LETTER SMALL DZ DIGRAPHη WITH RETROFLEX HOOKνCURLxEZH DIGRAPHx WITH TAILδ",
      "HOOKθ AND TAILwREVERSED EwCLOSED REVERSED OPEN EwFENG DIGRAPHwRAMS HORNwCAPITAL GwG WITH HO",
      "OKwCAPITAL G WITH HOOKwH WITH STROKEwCAPITAL HwHENG WITH HOOKwDOTLESS J WITH STROKE AND HOO",
      "KwLS DIGRAPHxZ DIGRAPHx WITH BELTwCAPITAL L WITH BELTwL WITH RETROFLEX HOOK AND BELTxEZHα W",
      "ITH RETROFLEX HOOKwTURNED Yε WITH BELTwO WITH STROKEwCAPITAL OExLOSED OMEGAwQwTURNED R WITH",
      " LONG LEGσ AND RETROFLEX HOOKwR WITH TAILδFISHHOOKwCAPITAL RwTC DIGRAPH WITH CURLxS DIGRAPH",
      "η WITH RETROFLEX HOOKxESH DIGRAPHx WITH RETROFLEX HOOKwV WITH RIGHT HOOK"]),
    (0x107B2, ["MODIFIER LETTER SMALL CAPITAL YqGLOTTAL STOP WITH STROKEqREVERSED GLOTTAL STOP WIT",
      "H STROKEqBILABIAL CLICKqDENTAL CLICKqLATERAL CLICKqALVEOLAR CLICKqRETROFLEX CLICK WITH RETR",
      "OFLEX HOOKqSMALL S WITH CURL"]),
    (0x10800, ["CYPRIOT SYLLABLE ArErIrOrUrJA"]), (0x10808, ["CYPRIOT SYLLABLE JO"]),
    (0x1080A, ["CYPRIOT SYLLABLE KAsEsIsOsUrLAsEsIsOsUrMAsEsIsOsUrNAsEsIsOsUrPAsEsIsOsUrRAsEsIsOsU",
      "rSAsEsIsOsUrTAsEsIsOsUrWAsEsIsO"]),
    (0x10837, ["CYPRIOT SYLLABLE XAsE"]), (0x1083C, ["CYPRIOT SYLLABLE ZA"]),
    (0x1083F, ["CYPRIOT SYLLABLE ZOaIMPERIAL ARAMAIC LETTER ALEPHyBETHyGIMELyDALETHyHEyWAWyZAYINyH",
      "ETHyTETHyYODHyKAPHyLAMEDHyMEMyNUNySAMEKHyAYINyPEySADHEyQOPHyRESHySHINyTAW"]),
    (0x10857, ["IMPERIAL ARAMAIC SECTION SIGNrNUMBER ONEyTWOzHREEzENzWENTYyONE HUNDREDγTHOUSANDyTE",
      "N THOUSANDaPALMYRENE LETTER ALEPHrBETHrGIMELrDALETHrHErWAWrZAYINrHETHrTETHrYODHrKAPHrLAMEDH",
      "rMEMrFINAL NUNrNUNrSAMEKHrAYINrPErSADHErQOPHrRESHrSHINrTAWmFT-POINTING FLEURONkRIGHT-POINTI",
      "NG FLEURONkNUMBER ONErTWOsHREErFOURsIVErTENsWENTYaNABATAEAN LETTER FINAL ALEPHrALEPHrFINAL ",
      "BETHrBETHrGIMELrDALETHrFINAL HErHErWAWrZAYINrHETHrTETHrFINAL YODHrYODHrFINAL KAPHrKAPHrFINA",
      "L LAMEDHrLAMEDHrFINAL MEMrMEMrFINAL NUNrNUNrSAMEKHrAYINrPErSADHErQOPHrRESHrFINAL SHINrSHINr",
      "TAW"]),
    (0x108A7, ["NABATAEAN NUMBER ONErTWOsHREErFOURkCRUCIFORM NUMBER FOURkNUMBER FIVErTENsWENTYrONE",
      " HUNDRED"]),
    (0x108E0, ["HATRAN LETTER ALEPHoBETHoGIMELoDALETH-RESHoHEoWAWoZAYNoHETHoTETHoYODHoKAPHoLAMEDHo",
      "MEMoNUNoSAMEKHoAYNoPEoSADHEoQOPH"]),
    (0x108F4, ["HATRAN LETTER SHINoTAW"]),
    (0x108FB, ["HATRAN NUMBER ONEoFIVEoTENpWENTYoONE HUNDREDaPHOENICIAN LETTER ALFsBETsGAMLsDELTsH",
      "EsWAUsZAIsHETsTETsYODsKAFsLAMDsMEMsNUNsSEMKsAINsPEsSADEsQOFsROSHsSHINsTAUlNUMBER ONEsTENtWE",
      "NTYsONE HUNDREDsTWOtHREE"]),
    (0x1091F, ["PHOENICIAN WORD SEPARATORaLYDIAN LETTER AoBoGoDoEoVoIoYoKoLoMoNoOoRoSSoToUoFoQoSoT",
      "ToANoENoLYoNNoC"]),
    (0x1093F, ["LYDIAN TRIANGULAR MARK"]),
    (0x10980, ["MEROITIC HIEROGLYPHIC LETTER AδEδIδOδYAδWAδBAζ-2δPAδMAδNAζ-2εEζ-2δRAζ-2δLAδKHAδHHA",
      "δSAζ-2εEδKAδQAδTAζ-2εEζ-2εOδDAwSYMBOL VIDJθ-2jCURSIVE LETTER AyEyIyOyYAyWAyBAyPAyMAyNAzEyRA",
      "yLAyKHAyHHAySAyARCHAIC SAySEyKAyQAyTAzEzOyDA"]),
    (0x109BC, ["MEROITIC CURSIVE FRACTION ELEVEN TWELFTHSαONE HALFrLOGOGRAM RMTαIMNrNUMBER ONEyTWO",
      "zHREEyFOURzIVEySIXzEVENyEIGHTyNINEyTENzWENTYzHIRTYyFORTYzIFTYySIXTYzEVENTY"]),
    (0x109D2, ["MEROITIC CURSIVE NUMBER ONE HUNDREDyTWO HUNDREDzHREE HUNDREDyFOUR HUNDREDzIVE HUND",
      "REDySIX HUNDREDzEVEN HUNDREDyEIGHT HUNDREDyNINE HUNDREDyONE THOUSANDyTWO THOUSANDzHREE THOU",
      "SANDyFOUR THOUSANDzIVE THOUSANDySIX THOUSANDzEVEN THOUSANDyEIGHT THOUSANDyNINE THOUSANDyTEN",
      " THOUSANDzWENTY THOUSANDzHIRTY THOUSANDyFORTY THOUSANDzIFTY THOUSANDySIXTY THOUSANDzEVENTY ",
      "THOUSANDyEIGHTY THOUSANDyNINETY THOUSANDyONE HUNDRED THOUSANDyTWO HUNDRED THOUSANDzHREE HUN",
      "DRED THOUSANDyFOUR HUNDRED THOUSANDzIVE HUNDRED THOUSANDySIX HUNDRED THOUSANDzEVEN HUNDRED ",
      "THOUSANDyEIGHT HUNDRED THOUSANDyNINE HUNDRED THOUSANDrFRACTION ONE TWELFTHαTWO TWELFTHSβHRE",
      "E TWELFTHSαFOUR TWELFTHSβIVE TWELFTHSαSIX TWELFTHSβEVEN TWELFTHSαEIGHT TWELFTHSαNINE TWELFT",
      "HSαTEN TWELFTHSaKHAROSHTHI LETTER AlVOWEL SIGN IwUwVOCALIC R"]),
    (0x10A05, ["KHAROSHTHI VOWEL SIGN EwO"]),
    (0x10A0C, ["KHAROSHTHI VOWEL LENGTH MARKlSIGN DOUBLE RING BELOWqANUSVARAqVISARGAlLETTER KAtHAs",
      "GAtHA"]),
    (0x10A15, ["KHAROSHTHI LETTER CAtHAsJA"]),
    (0x10A19, ["KHAROSHTHI LETTER NYAsTTAuHAsDDAuHAsNNAsTAtHAsDAtHAsNAsPAtHAsBAtHAsMAsYAsRAsLAsVAs",
      "SHAtSAtAsZAsHAsKKAsTTTHAvAsVHA"]),
    (0x10A38, ["KHAROSHTHI SIGN BAR ABOVEqCAUDAqDOT BELOW"]),
    (0x10A3F, ["KHAROSHTHI VIRAMAlDIGIT ONErTWOsHREErFOURlNUMBER TENtWENTYsONE HUNDREDwTHOUSANDlFR",
      "ACTION ONE HALF"]),
    (0x10A50, ["KHAROSHTHI PUNCTUATION DOTxSMALL CIRCLExCIRCLEyRESCENT BARxMANGALAMxLOTUSxDANDAyOU",
      "BLE DANDAxLINES"]),
    (0x10A60, ["OLD SOUTH ARABIAN LETTER HEzLAMEDHzHETHzMEMzQOPHzWAWzSHINzRESHzBETHzTAWzSATzKAPHzN",
      "UNzKHETHzSADHEβMEKHzFEzALEFαYNzDHADHEzGIMELzDALETHzGHAYNzTETHzZAYNzDHALETHzYODHzTHAWβETHsNU",
      "MBER ONEzFIFTYvERIC INDICATOReNORTH ARABIAN LETTER HEHzLAMzHAHzMEEMzQAFzWAWzES-2zREHzBEHzTE",
      "HzES-1zKAFzNOONzKHAHzSADzES-3zFEHzALEFαINzDADzGEEMzDALzGHAINzTAHzZAINzTHALzYEHzTHEHzZAHsNUM",
      "BER ONEzTENαWENTY"]),
    (0x10AC0, ["MANICHAEAN LETTER ALEPHsBETHtHETHsGIMELtHIMELsDALETHsHEsWAWlSIGN UDlLETTER ZAYINtH",
      "AYINsJAYINtHAYINsHETHsTETHsYODHsKAPHsXAPHsKHAPHsLAMEDHsDHAMEDHsTHAMEDHsMEMsNUNsSAMEKHsAYINt",
      "AYINsPEsFEsSADHEsQOPHsXOPHsQHOPHsRESHsSHINtSHINsTAWlABBREVIATION MARK ABOVEδBELOW"]),
    (0x10AEB, ["MANICHAEAN NUMBER ONEsFIVEsTENtWENTYsONE HUNDREDlPUNCTUATION STARxFLEURONxDOUBLE D",
      "OT WITHIN DOTzT WITHIN DOTαxTWO DOTSxLINE FILLER"]),
    (0x10B00, ["AVESTAN LETTER AqAqOqAOqNqANqErEpEqEpOqOpIqIpUqUpKEpXEqYEqVEpGEqGEqHEpCEpJEpTEqHEp",
      "DEqHEpTTEpPEpFEpBEqHEpNGErYErVEqEqYEqNEpMEpHMEpYYEqEpVEpREpLEpSEpZEpSHEpZHEpSHYEqSHEpHE"]),
    (0x10B39, ["AVESTAN ABBREVIATION MARKaTINY TWO DOTS OVER ONE DOT PUNCTUATIONaSMALL TWO DOTS OV",
      "ER ONE DOT PUNCTUATIONaLARGE TWO DOTS OVER ONE DOT PUNCTUATIONgONE DOT OVER TWO DOTS PUNCTU",
      "ATIONgTWO RINGS OVER ONE RING PUNCTUATIONgONE RING OVER TWO RINGS PUNCTUATIONaINSCRIPTIONAL",
      " PARTHIAN LETTER ALEPHεBETHεGIMELεDALETHεHEεWAWεZAYINεHETHεTETHεYODHεKAPHεLAMEDHεMEMεNUNεSA",
      "MEKHεAYINεPEεSADHEεQOPHεRESHεSHINεTAW"]),
    (0x10B58, ["INSCRIPTIONAL PARTHIAN NUMBER ONEεTWOζHREEεFOURεTENζWENTYεONE HUNDREDιTHOUSANDqHLA",
      "VI LETTER ALEPHδBETHδGIMELδDALETHδHEδWAW-AYIN-RESHδZAYINδHETHδTETHδYODHδKAPHδLAMEDHδMEM-QOP",
      "HδNUNδSAMEKHδPEδSADHEεHINδTAW"]),
    (0x10B78, ["INSCRIPTIONAL PAHLAVI NUMBER ONEδTWOεHREEδFOURδTENεWENTYδONE HUNDREDθTHOUSANDaPSAL",
      "TER PAHLAVI LETTER ALEPHxBETHxGIMELxDALETHxHExWAW-AYIN-RESHxZAYINxHETHxYODHxKAPHxLAMEDHxMEM",
      "-QOPHxNUNxSAMEKHxPExSADHEyHINxTAW"]),
    (0x10B99, ["PSALTER PAHLAVI SECTION MARKqTURNED SECTION MARKqFOUR DOTS WITH CROSSζDOT"]),
    (0x10BA9, ["PSALTER PAHLAVI NUMBER ONExTWOyHREExFOURxTENyWENTYxONE HUNDRED"]),
    (0x10C00, ["OLD TURKIC LETTER ORKHON AsYENISEI AβEsORKHON IsYENISEI IαEsORKHON OαEsYENISEI OEs",
      "ORKHON ABsYENISEI ABsORKHON AEBsYENISEI AEBsORKHON AGsYENISEI AGsORKHON AEGsYENISEI AEGsORK",
      "HON ADsYENISEI ADsORKHON AEDzEZsYENISEI EZsORKHON AYsYENISEI AYsORKHON AEYsYENISEI AEYsORKH",
      "ON AEKsYENISEI AEKsORKHON OEKsYENISEI OEKsORKHON ALsYENISEI ALsORKHON AELzELTαMzANαENsYENIS",
      "EI AENsORKHON ENTsYENISEI ENTsORKHON ENCsYENISEI ENCsORKHON ENYsYENISEI ENYαANGsORKHON ENGs",
      "YENISEI AENGsORKHON EPzOPzICzECsYENISEI ECsORKHON AQsYENISEI AQsORKHON IQsYENISEI IQsORKHON",
      " OQsYENISEI OQsORKHON ARsYENISEI ARsORKHON AERαSαESαSHsYENISEI ASHsORKHON ESHsYENISEI ESHsO",
      "RKHON ATsYENISEI ATsORKHON AETsYENISEI AETsORKHON OTzBASH"]),
    (0x10C80, ["OLD HUNGARIAN CAPITAL LETTER AεAδEBδAMBδECεNCεCSεDδANDδEδCLOSE EδEEεFεGζYεHδIεIδEJ",
      "εKδAKδUNKδELζYεMεNζYδOεOδNIKOLSBURG OEδRUDIMENTA OEδOEEδEPεMPεRδSHORT ERδESζZεTεNTεTYεCHδUε",
      "UδNIKOLSBURG UEδRUDIMENTA UEδEVεZζSεNT-SHAPED SIGNδUS"]),
    (0x10CC0, ["OLD HUNGARIAN SMALL LETTER AγAβEBβAMBβECγNCγCSγDβANDβEβCLOSE EβEEγFγGδYγHβIγIβEJγK",
      "βAKβUNKβELδYγMγNδYβOγOβNIKOLSBURG OEβRUDIMENTA OEβOEEβEPγMPγRβSHORT ERβESδZγTγNTγTYγCHβUγUβ",
      "NIKOLSBURG UEβRUDIMENTA UEβEVγZδSγNT-SHAPED SIGNβUS"]),
    (0x10CFA, ["OLD HUNGARIAN NUMBER ONEvFIVEvTENvFIFTYvONE HUNDREDzTHOUSANDaHANIFI ROHINGYA LETTE",
      "R AxBAxPAxTAyTAxJAxCAxHAxKHAxFAxDAyDAxRAyRAxZAxSAyHAxKAxGAxLAxMAxNAxWAxKINNA WAxYAxKINNA YA",
      "xNGAyYAxVAqVOWEL AwIwUwEwOqMARK SAKINvNA KHONNAqSIGN HARBAHAYvTAHALAxNAxSSI"]),
    (0x10D30, ["HANIFI ROHINGYA DIGIT ZEROwONEwTWOxHREEwFOURxIVEwSIXxEVENwEIGHTwNINE"]),
    (0x10E60, ["RUMI DIGIT ONElTWOmHREElFOURmIVElSIXmEVENlEIGHTlNINEfNUMBER TENnWENTYnHIRTYmFORTYn",
      "IFTYmSIXTYnEVENTYmEIGHTYmNINETYmONE HUNDREDmTWO HUNDREDnHREE HUNDREDmFOUR HUNDREDnIVE HUNDR",
      "EDmSIX HUNDREDnEVEN HUNDREDmEIGHT HUNDREDmNINE HUNDREDfFRACTION ONE HALFsQUARTERsTHIRDoTWO ",
      "THIRDS"]),
    (0x10E80, ["YEZIDI LETTER ELIFoBEoPEpHEoTHEoSEoCIMpHIMqHIMoHHAoXAoDALoZALoRApHAoZAoJAoSINpHINp",
      "ADoDADoTAoZEoEYNoXHEYNoFAoVAq ALTERNATE FORMoQAFoKAFpHAFoGAFoLAMoMIMoNUNoUMoWAWoOWoEWoHAYoY",
      "OToET"]),
    (0x10EAB, ["YEZIDI COMBINING HAMZA MARKrMADDA MARKhHYPHENATION MARK"]),
    (0x10EB0, ["YEZIDI LETTER LAM WITH DOT ABOVEoYOT WITH CIRCUMFLEX ABOVE"]),
    (0x10F00, ["OLD SOGDIAN LETTER ALEPHtFINAL ALEPHtBETHtFINAL BETHtGIMELtHEtFINAL HEtWAWtZAYINtH",
      "ETHtYODHtKAPHtLAMEDHtMEMtNUNtFINAL NUNγ WITH VERTICAL TAILtSAMEKHtAYINuLTERNATE AYINtPEtSAD",
      "HEtFINAL SADHEε WITH VERTICAL TAILtRESH-AYIN-DALETHtSHINtTAWtFINAL TAWγ WITH VERTICAL TAILm",
      "NUMBER ONEtTWOuHREEtFOURuIVEtTENuWENTYuHIRTYtONE HUNDREDmFRACTION ONE HALFmLIGATURE AYIN-DA",
      "LETH"]),
    (0x10F30, ["SOGDIAN LETTER ALEPHpBETHpGIMELpHEpWAWpZAYINpHETHpYODHpKAPHpLAMEDHpMEMpNUNpSAMEKHp",
      "AYINpPEpSADHEpRESH-AYINpSHINpTAWpFETHpLESHiINDEPENDENT SHINiCOMBINING DOT BELOWsTWO DOTS BE",
      "LOWsDOT ABOVEsTWO DOTS ABOVEsCURVE ABOVEyBELOWsHOOK ABOVExBELOWsLONG HOOK BELOWsRESH BELOWs",
      "STROKE BELOWiNUMBER ONEpTENqWENTYpONE HUNDREDiPUNCTUATION TWO VERTICAL BARSμ WITH DOTSuCIRC",
      "LE WITH DOTuTWO CIRCLES WITH DOTSuHALF CIRCLE WITH DOT"]),
    (0x10F70, ["OLD UYGHUR LETTER ALEPHsBETHsGIMEL-HETHsWAWsZAYINsFINAL HETHsYODHsKAPHsLAMEDHsMEMs",
      "NUNsSAMEKHsPEsSADHEsRESHsSHINsTAWsLESHlCOMBINING DOT ABOVEzBELOWvTWO DOTS ABOVEεBELOWlPUNCT",
      "UATION BARxTWO BARSβDOTSxFOUR DOTS"]),
    (0x10FB0, ["CHORASMIAN LETTER ALEPHsSMALL ALEPHsBETHsGIMELsDALETHsHEsWAWsCURLED WAWsZAYINsHETH",
      "sYODHsKAPHsLAMEDHsMEMsNUNsSAMEKHsAYINsPEsRESHsSHINsTAWlNUMBER ONEsTWOtHREEsFOURsTENtWENTYsO",
      "NE HUNDRED"]),
    (0x10FE0, ["ELYMAIC LETTER ALEPHpBETHpGIMELpDALETHpHEpWAWpZAYINpHETHpTETHpYODHpKAPHpLAMEDHpMEM",
      "pNUNpSAMEKHpAYINpPEpSADHEpQOPHpRESHpSHINpTAWjIGATURE ZAYIN-YODH"]),
    (0x11000, ["BRAHMI SIGN CANDRABINDUmANUSVARAmVISARGAmJIHVAMULIYAmUPADHMANIYAhLETTER ApAoIpIoUp",
      "UoVOCALIC RxRwLxLoEoAIoOoAUoKApHAoGApHAoNGAoCApHAoJApHAoNYAoTTAqHAoDDAqHAoNNAoTApHAoDApHAoN",
      "AoPApHAoBApHAoMAoYAoRAoLAoVAoSHApSApAoHAoLLAoOLD TAMIL LLLAyRRAyNNNAhVOWEL SIGN AAsBHATTIPR",
      "OLU AAsItIsUtUsVOCALIC RβRαLβLsEsAIsOsAUiIRAMAhDANDAiOUBLE DANDAhPUNCTUATION DOTvUBLE DOTtL",
      "INEtCRESCENT BARtLOTUS"]),
    (0x11052, ["BRAHMI NUMBER ONEoTWOpHREEoFOURpIVEoSIXpEVENoEIGHToNINEoTENpWENTYpHIRTYoFORTYpIFTY",
      "oSIXTYpEVENTYoEIGHTYoNINETYoONE HUNDREDsTHOUSANDhDIGIT ZEROnONEnTWOoHREEnFOURoIVEnSIXoEVENn",
      "EIGHTnNINEhSIGN OLD TAMIL VIRAMAhLETTER OLD TAMIL SHORT EεOhVOWEL SIGN OLD TAMIL SHORT EιOh",
      "LETTER OLD TAMIL LLA"]),
    (0x1107F, ["BRAHMI NUMBER JOINERaKAITHI SIGN CANDRABINDUmANUSVARAmVISARGAhLETTER ApAoIpIoUpUoE",
      "oAIoOoAUoKApHAoGApHAoNGAoCApHAoJApHAoNYAoTTAqHAoDDAqDHAqHAoRHAoNNAoTApHAoDApHAoNAoPApHAoBAp",
      "HAoMAoYAoRAoLAoVAoSHApSApAoHAhVOWEL SIGN AAsItIsUtUsEsAIsOsAUhSIGN VIRAMAmNUKTAhABBREVIATIO",
      "N SIGNhENUMERATION SIGNhNUMBER SIGNhSECTION MARKhDOUBLE SECTION MARKiANDAiOUBLE DANDAhVOWEL",
      " SIGN VOCALIC R"]),
    (0x110CD, ["KAITHI NUMBER SIGN ABOVE"]),
    (0x110D0, ["SORA SOMPENG LETTER SAHuTAHuBAHuCAHuDAHuGAHuMAHuNGAHuLAHuNAHuVAHuPAHuYAHuRAHuHAHuK",
      "AHuJAHuNYAHuAHuEEHuIHuUHuOHuEHuMAE"]),
    (0x110F0, ["SORA SOMPENG DIGIT ZEROtONEtTWOuHREEtFOURuIVEtSIXuEVENtEIGHTtNINE"]),
    (0x11100, ["CHAKMA SIGN CANDRABINDUmANUSVARAmVISARGAhLETTER AAoIoUoEoKAApHAAoGAApHAAoNGAAoCAAp",
      "HAAoJAApHAAoNYAAoTTAAqHAAoDDAAqHAAoNNAAoTAApHAAoDAApHAAoNAAoPAApHAAoBAApHAAoMAAoYYAApAAoRAA",
      "oLAAoWAAoSAAoHAAhVOWEL SIGN AsItIsUtUsEsAIsOsAUsOIhO MARKhAU MARKhVIRAMAhMAAYYAA"]),
    (0x11136, ["CHAKMA DIGIT ZEROnONEnTWOoHREEnFOURoIVEnSIXoEVENnEIGHTnNINEhSECTION MARKhDANDAiOUB",
      "LE DANDAhQUESTION MARKhLETTER LHAAhVOWEL SIGN AAsEIhLETTER VAA"]),
    (0x11150, ["MAHAJANI LETTER AqIqUqEqOqKArHAqGArHAqCArHAqJArHAqNYAqTTAsHAqDDAsHAqNNAqTArHAqDArH",
      "AqNAqPArHAqBArHAqMAqRAqLAqVAqSAqHAqRRAjSIGN NUKTAjABBREVIATION SIGNjSECTION MARKjLIGATURE S",
      "HRI"]),
    (0x11180, ["SHARADA SIGN CANDRABINDUnANUSVARAnVISARGAiLETTER AqApIqIpUqUpVOCALIC RyRxLyLpEpAIp",
      "OpAUpKAqHApGAqHApNGApCAqHApJAqHApNYApTTArHApDDArHApNNApTAqHApDAqHApNApPAqHApBAqHApMApYApRAp",
      "LAqLApVApSHAqSAqApHAiVOWEL SIGN AAtIuItUuUtVOCALIC RγRβLγLtEtAItOtAUiSIGN VIRAMAnAVAGRAHAnJ",
      "IHVAMULIYAnUPADHMANIYAiOMiDANDAjOUBLE DANDAiABBREVIATION SIGNiSEPARATORjANDHI MARKjIGN NUKT",
      "AiVOWEL MODIFIER MARKiEXTRA SHORT VOWEL MARKiSUTRA MARKiVOWEL SIGN PRISHTHAMATRA EiSIGN INV",
      "ERTED CANDRABINDUiDIGIT ZEROoONEoTWOpHREEoFOURpIVEoSIXpEVENoEIGHToNINEiEKAMiSIGN SIDDHAMiHE",
      "ADSTROKEiCONTINUATION SIGNiSECTION MARK-1v2"]),
    (0x111E1, ["SINHALA ARCHAIC DIGIT ONEwTWOxHREEwFOURxIVEwSIXxEVENwEIGHTwNINEqNUMBER TENyWENTYyH",
      "IRTYxFORTYyIFTYxSIXTYyEVENTYxEIGHTYxNINETYxONE HUNDREDβTHOUSAND"]),
    (0x11200, ["KHOJKI LETTER ApAoIoUoEoAIoOoAUoKApHAoGApGApHAoNGAoCApHAoJApJA"]),
    (0x11213, ["KHOJKI LETTER NYAoTTAqHAoDDAqHAoNNAoTApHAoDApDDApHAoNAoPApHAoBApBApHAoMAoYAoRAoLAo",
      "VAoSAoHAoLLAhVOWEL SIGN AAsItIsUsEsAIsOsAUhSIGN ANUSVARAmVIRAMAmNUKTAmSHADDAhDANDAiOUBLE DA",
      "NDAhWORD SEPARATORhSECTION MARKhDOUBLE SECTION MARKhABBREVIATION SIGNhSIGN SUKUN"]),
    (0x11280, ["MULTANI LETTER ApIpUpEpKAqHApGA"]), (0x11288, ["MULTANI LETTER GHA"]),
    (0x1128A, ["MULTANI LETTER CAqHApJAqJA"]),
    (0x1128F, ["MULTANI LETTER NYApTTArHApDDArDArHApNNApTAqHApDAqHApNApPAqHApBA"]),
    (0x1129F, ["MULTANI LETTER BHApMApYApRApLApVApSApHApRRAqHAiSECTION MARK"]),
    (0x112B0, ["KHUDAWADI LETTER AsArIsIrUsUrErAIrOrAUrKAsHArGAsGAsHArNGArCAsHArJAsJAsHArNYArTTAtH",
      "ArDDAtDArRRArDDHArNNArTAsHArDAsHArNArPAsHArBAsBAsHArMArYArRArLArVArSHAsArHAkSIGN ANUSVARAkV",
      "OWEL SIGN AAvIwIvUwUvEvAIvOvAUkSIGN NUKTApVIRAMA"]),
    (0x112F0, ["KHUDAWADI DIGIT ZEROqONEqTWOrHREEqFOURrIVEqSIXrEVENqEIGHTqNINE"]),
    (0x11300, ["GRANTHA SIGN COMBINING ANUSVARA ABOVEoANDRABINDUnANUSVARAnVISARGA"]),
    (0x11305, ["GRANTHA LETTER AqApIqIpUqUpVOCALIC RxL"]), (0x1130F, ["GRANTHA LETTER EEpAI"]),
    (0x11313, ["GRANTHA LETTER OOpAUpKAqHApGAqHApNGApCAqHApJAqHApNYApTTArHApDDArHApNNApTAqHApDAqHA",
      "pNA"]),
    (0x1132A, ["GRANTHA LETTER PAqHApBAqHApMApYApRA"]), (0x11332, ["GRANTHA LETTER LAqLA"]),
    (0x11335, ["GRANTHA LETTER VApSHAqSAqApHA"]),
    (0x1133B, ["COMBINING BINDU BELOWaGRANTHA SIGN NUKTAnAVAGRAHAiVOWEL SIGN AAtIuItUuUtVOCALIC Rγ",
      "R"]),
    (0x11347, ["GRANTHA VOWEL SIGN EEtAI"]), (0x1134B, ["GRANTHA VOWEL SIGN OOtAUiSIGN VIRAMA"]),
    (0x11350, ["GRANTHA OM"]), (0x11357, ["GRANTHA AU LENGTH MARK"]),
    (0x1135D, ["GRANTHA SIGN PLUTAiLETTER VEDIC ANUSVARAvDOUBLE ANUSVARAqOCALIC RRxLLiVOWEL SIGN V",
      "OCALIC LγL"]),
    (0x11366, ["COMBINING GRANTHA DIGIT ZEROyONEyTWOzHREEyFOURzIVEySIX"]),
    (0x11370, ["COMBINING GRANTHA LETTER AzKAzNAzVIzPA"]),
    (0x11400, ["NEWA LETTER AnAmInImUnUmVOCALIC RvRuLvLmEmAImOmAUmKAnHAmGAnHAmNGAoHAmCAnHAmJAnHAmN",
      "YAoHAmTTAoHAmDDAoHAmNNAmTAnHAmDAnHAmNAnHAmPAnHAmBAnHAmMAnHAmYAmRAnHAmLAnHAmWAmSHAnSAnAmHAfV",
      "OWEL SIGN AAqIrIqUrUqVOCALIC RzRyLzLqEqAIqOqAUfSIGN VIRAMAkCANDRABINDUkANUSVARAkVISARGAkNUK",
      "TAkAVAGRAHAkFINAL ANUSVARAfOMfSIDDHIfDANDAgOUBLE DANDAfCOMMAfGAP FILLERfABBREVIATION SIGNfD",
      "IGIT ZEROlONElTWOmHREElFOURmIVElSIXmEVENlEIGHTlNINEgOUBLE COMMAfPLACEHOLDER MARK"]),
    (0x1145D, ["NEWA INSERTION SIGNfSANDHI MARKfLETTER VEDIC ANUSVARAfSIGN JIHVAMULIYAkUPADHMANIY",
      "A"]),
    (0x11480, ["TIRHUTA ANJIiLETTER AqApIqIpUqUpVOCALIC RyRxLyLpEpAIpOpAUpKAqHApGAqHApNGApCAqHApJA",
      "qHApNYApTTArHApDDArHApNNApTAqHApDAqHApNApPAqHApBAqHApMApYApRApLApVApSHAqSAqApHAiVOWEL SIGN ",
      "AAtIuItUuUtVOCALIC RγRβLγLtEtSHORT EtAItOtSHORT OtAUiSIGN CANDRABINDUnANUSVARAnVISARGApRAMA",
      "nNUKTAnAVAGRAHAiGVANGiABBREVIATION SIGNiOM"]),
    (0x114D0, ["TIRHUTA DIGIT ZEROoONEoTWOpHREEoFOURpIVEoSIXpEVENoEIGHToNINE"]),
    (0x11580, ["SIDDHAM LETTER AqApIqIpUqUpVOCALIC RyRxLyLpEpAIpOpAUpKAqHApGAqHApNGApCAqHApJAqHApN",
      "YApTTArHApDDArHApNNApTAqHApDAqHApNApPAqHApBAqHApMApYApRApLApVApSHAqSAqApHAiVOWEL SIGN AAtIu",
      "ItUuUtVOCALIC RγR"]),
    (0x115B8, ["SIDDHAM VOWEL SIGN EtAItOtAUiSIGN CANDRABINDUnANUSVARAnVISARGApRAMAnNUKTAnSIDDHAMi",
      "DANDAjOUBLE DANDAiSEPARATOR DOTsBARiREPETITION MARK-1y2y3iEND OF TEXT MARKiSECTION MARK WIT",
      "H TRIDENT AND U-SHAPED ORNAMENTSνDOTTED CRESCENTSαRAYS AND DOTTED CRESCENTSρDOUBLE CRESCENT",
      "SρTRIPLE CRESCENTSvDOUBLE RINGη WITH RAYSvWITH DOUBLE CRESCENTSαTRIPLE CRESCENTSαQUADRUPLE ",
      "CRESCENTSαSEPTUPLE CRESCENTSαCIRCLES AND RAYSνTWO ENCLOSURESνFOUR ENCLOSURESiLETTER THREE-C",
      "IRCLE ALTERNATE IqWO-CIRCLE ALTERNATE IμIpALTERNATE UiVOWEL SIGN ALTERNATE UεU"]),
    (0x11600, ["MODI LETTER AnAmInImUnUmVOCALIC RvRuLvLmEmAImOmAUmKAnHAmGAnHAmNGAmCAnHAmJAnHAmNYAm",
      "TTAoHAmDDAoHAmNNAmTAnHAmDAnHAmNAmPAnHAmBAnHAmMAmYAmRAmLAmVAmSHAnSAnAmHAmLLAfVOWEL SIGN AAqI",
      "rIqUrUqVOCALIC RzRyLzLqEqAIqOqAUfSIGN ANUSVARAkVISARGAmRAMAkARDHACANDRAfDANDAgOUBLE DANDAfA",
      "BBREVIATION SIGNfSIGN HUVA"]),
    (0x11650, ["MODI DIGIT ZEROlONElTWOmHREElFOURmIVElSIXmEVENlEIGHTlNINE"]),
    (0x11660, ["MONGOLIAN BIRGA WITH ORNAMENTkROTATED BIRGAkDOUBLE BIRGA WITH ORNAMENTkTRIPLE BIRG",
      "A WITH ORNAMENTkBIRGA WITH DOUBLE ORNAMENTkROTATED BIRGA WITH ORNAMENTδDOUBLE ORNAMENTkINVE",
      "RTED BIRGAy WITH DOUBLE ORNAMENTkSWIRL BIRGAv WITH ORNAMENTβDOUBLE ORNAMENTkTURNED SWIRL BI",
      "RGA WITH DOUBLE ORNAMENT"]),
    (0x11680, ["TAKRI LETTER AoAnIoInUoUnEnAInOnAUnKAoHAnGAoHAnNGAnCAoHAnJAoHAnNYAnTTApHAnDDApHAnN",
      "NAnTAoHAnDAoHAnNAnPAoHAnBAoHAnMAnYAnRAnLAnVAnSHAoAnHAnRRAgSIGN ANUSVARAlVISARGAgVOWEL SIGN ",
      "AArIsIrUsUrErAIrOrAUgSIGN VIRAMAlNUKTAgLETTER ARCHAIC KHAgABBREVIATION SIGN"]),
    (0x116C0, ["TAKRI DIGIT ZEROmONEmTWOnHREEmFOURnIVEmSIXnEVENmEIGHTmNINE"]),
    (0x11700, ["AHOM LETTER KAnHAmNGAnAmTAmALTERNATE TAmPAnHAmBAmMAmJAmCHAmTHAmRAmLAmSAmNYAmHAmAmD",
      "AnHAmGAmALTERNATE GAmGHAmBHAmJHAmALTERNATE BA"]),
    (0x1171D, ["AHOM CONSONANT SIGN MEDIAL LAβRAβLIGATING RAfVOWEL SIGN ArAqIrIqUrUqEqAWqOqAIrMfSI",
      "GN KILLER"]),
    (0x11730, ["AHOM DIGIT ZEROlONElTWOmHREElFOURmIVElSIXmEVENlEIGHTlNINEfNUMBER TENnWENTYfSIGN SM",
      "ALL SECTIONlECTIONkRULAIgYMBOL VIfLETTER CAmTTAoHAmDDAoHAmNNAmLLA"]),
    (0x11800, ["DOGRA LETTER AoAnIoInUoUnEnAInOnAUnKAoHAnGAoHAnNGAnCAoHAnJAoHAnNYAnTTApHAnDDApHAnN",
      "NAnTAoHAnDAoHAnNAnPAoHAnBAoHAnMAnYAnRAnLAnVAnSHAoSAoAnHAnRRAgVOWEL SIGN AArIsIrUsUrVOCALIC ",
      "RαRrErAIrOrAUgSIGN ANUSVARAlVISARGAnRAMAlNUKTAgABBREVIATION SIGN"]),
    (0x118A0, ["WARANG CITI CAPITAL LETTER NGAAβAβWIβYUγAγOβIIβUUβEβOβANGβGAβKOβENYβYUJβUCβENNβODD",
      "βTTEβNUNGβDAβATγMβBUβPUβHIYOγOLOδRRγARβSSUUγIIβVIYOmSMALL LETTER NGAAzAzWIzYUαAαOzIIzUUzEzO",
      "zANGzGAzKOzENYzYUJzUCzENNzODDzTTEzNUNGzDAzATαMzBUzPUzHIYOαOLOβRRαARzSSUUαIIzVIYOmDIGIT ZERO",
      "sONEsTWOtHREEsFOURtIVEsSIXtEVENsEIGHTsNINEmNUMBER TENuWENTYuHIRTYtFORTYuIFTYtSIXTYuEVENTYtE",
      "IGHTYtNINETY"]),
    (0x118FF, ["WARANG CITI OMaDIVES AKURU LETTER AuAtIuItUuUtE"]),
    (0x11909, ["DIVES AKURU LETTER O"]), (0x1190C, ["DIVES AKURU LETTER KAuHAtGAuHAtNGAtCAuHAtJA"]),
    (0x11915, ["DIVES AKURU LETTER NYAtTTA"]),
    (0x11918, ["DIVES AKURU LETTER DDAvHAtNNAtTAuHAtDAuHAtNAtPAuHAtBAuHAtMAtYAuYAtRAtLAtVAtSHAuSAu",
      "AtHAtLLAtZAmVOWEL SIGN AAxIyIxUyUxE"]),
    (0x11937, ["DIVES AKURU VOWEL SIGN AIxO"]),
    (0x1193B, ["DIVES AKURU SIGN ANUSVARArCANDRABINDUrHALANTAmVIRAMAmPREFIXED NASAL SIGNmMEDIAL YA",
      "mINITIAL RAmMEDIAL RAmSIGN NUKTAmDOUBLE DANDAmGAP FILLERmEND OF TEXT MARK"]),
    (0x11950, ["DIVES AKURU DIGIT ZEROsONEsTWOtHREEsFOURtIVEsSIXtEVENsEIGHTsNINE"]),
    (0x119A0, ["NANDINAGARI LETTER AuAtIuItUuUtVOCALIC RγR"]),
    (0x119AA, ["NANDINAGARI LETTER EtAItOtAUtKAuHAtGAuHAtNGAtCAuHAtJAuHAtNYAtTTAvHAtDDAvHAtNNAtTAu",
      "HAtDAuHAtNAtPAuHAtBAuHAtMAtYAtRAtLAtVAtSHAuSAuAtHAtLLAtRRAmVOWEL SIGN AAxIyIxUyUxVOCALIC Rη",
      "R"]),
    (0x119DA, ["NANDINAGARI VOWEL SIGN ExAIxOxAUmSIGN ANUSVARArVISARGAtRAMArAVAGRAHArSIDDHAMmHEADS",
      "TROKEmVOWEL SIGN PRISHTHAMATRA E"]),
    (0x11A00, ["ZANABAZAR SQUARE LETTER ArVOWEL SIGN IγUEδγEγOEδγAIδUγREVERSED IxLENGTH MARKrLETTE",
      "R KAzHAyGAzHAyNGAyCAzHAyJAyNYAyTTAαHAyDDAαHAyNNAyTAzHAyDAzHAyNAyPAzHAyBAzHAyMAyTSAαHAyDZAαH",
      "AyZHAzAy-AyYAyRAyLAyVAySHAzSAzAyHAyKSSArFINAL CONSONANT MARKrSIGN VIRAMAwCANDRABINDUθ WITH ",
      "ORNAMENTγ WITH ORNAMENTwANUSVARAwVISARGArCLUSTER-INITIAL LETTER RAzFINAL LETTER YAνRAνLAνVA",
      "rINITIAL HEAD MARKrCLOSING HEAD MARKrMARK TSHEGwSHADwDOUBLE SHADwLONG TSHEGrINITIAL DOUBLE-",
      "LINED HEAD MARKrCLOSING DOUBLE-LINED HEAD MARKrSUBJOINER"]),
    (0x11A50, ["SOYOMBO LETTER AiVOWEL SIGN ItUEutEtOuEtAIuUtVOCALIC RβLoLENGTH MARKiLETTER KAqHAp",
      "GAqHApNGApCAqHApJAqHApNYApTTArHApDDArHApNNApTAqHApDAqHApNApPAqHApBAqHApMApTSArHApDZApZHAqAp",
      "-ApYApRApLApVApSHAqSAqApHApKSSAiSIGN JIHVAMULIYAnUPADHMANIYAiCLUSTER-INITIAL LETTER RAζLAζS",
      "HAηAiFINAL CONSONANT SIGN GδKδNGδDδNδBδMδRδLδSHεδ-AiSIGN ANUSVARAnVISARGAiGEMINATION MARKiS",
      "UBJOINERiMARK TSHEGnSHADnDOUBLE SHADnPLUTAiHEAD MARK WITH MOON AND SUN AND TRIPLE FLAMEοFLA",
      "MEκiTERMINAL MARK-1w2"]),
    (0x11AB0, ["CANADIAN SYLLABICS NATTILIK HIεIδOεOδAεAγSHRIηIζOηOζAηAtSPEvIvOvAaPAU CIN HAU LETT",
      "ER PAtKAtLAtMAtDAtZAtVAtNGAtHAtGAtKHAtSAtBAtCAtTAuHAtNAtPHAtRAtFAtCHAtAtEtItOtUuAtIAtFINAL ",
      "PzKzTzMzNzLzWzNGzYmRISING TONE LONGxmSANDHI GLOTTAL STOPmRISING TONE LONG FINALyFINALmSANDH",
      "I GLOTTAL STOP FINALtTONE LONGxx LONG FINALyFINALmMID-LEVEL TONEmGLOTTAL STOP VARIANTmMID-L",
      "EVEL TONE LONG FINALβFINALmLOW-FALLING TONE LONGγmGLOTTAL STOPmLOW-FALLING TONE LONG FINALδ",
      "FINALmGLOTTAL STOP FINAL"]),
    (0x11C00, ["BHAIKSUKI LETTER AsArIsIrUsUrVOCALIC RαRzL"]),
    (0x11C0A, ["BHAIKSUKI LETTER ErAIrOrAUrKAsHArGAsHArNGArCAsHArJAsHArNYArTTAtHArDDAtHArNNArTAsHA",
      "rDAsHArNArPAsHArBAsHArMArYArRArLArVArSHAsSAsArHAkVOWEL SIGN AAvIwIvUwUvVOCALIC RεRδL"]),
    (0x11C38, ["BHAIKSUKI VOWEL SIGN EvAIvOvAUkSIGN CANDRABINDUpANUSVARApVISARGArRAMApAVAGRAHAkDAN",
      "DAlOUBLE DANDAkWORD SEPARATORkGAP FILLER-1v2"]),
    (0x11C50, ["BHAIKSUKI DIGIT ZEROqONEqTWOrHREEqFOURrIVEqSIXrEVENqEIGHTqNINEkNUMBER ONErTWOsHREE",
      "rFOURsIVErSIXsEVENrEIGHTrNINErTENsWENTYsHIRTYrFORTYsIFTYrSIXTYsEVENTYrEIGHTYrNINETYkHUNDRED",
      "S UNIT MARK"]),
    (0x11C70, ["MARCHEN HEAD MARKiMARK SHADiLETTER KAqHApGApNGApCAqHApJApNYApTAqHApDApNApPAqHApBAp",
      "MApTSArHApDZApWApZHAqAp-ApYApRApLApSHAqApHApA"]),
    (0x11C92, ["MARCHEN SUBJOINED LETTER KAαHAzGAzNGAzCAαHAzJAzNYAzTAαHAzDAzNAzPAαHAzBAzMAzTSAβHAz",
      "DZAzWAzZHAαA"]),
    (0x11CA9, ["MARCHEN SUBJOINED LETTER YAzRAzLAzSHAαAzHAzAiVOWEL SIGN AAtItUtEtOiSIGN ANUSVARAnC",
      "ANDRABINDU"]),
    (0x11D00, ["MASARAM GONDI LETTER AwAvIwIvUwUvE"]), (0x11D08, ["MASARAM GONDI LETTER AIvO"]),
    (0x11D0B, ["MASARAM GONDI LETTER AUvKAwHAvGAwHAvNGAvCAwHAvJAwHAvNYAvTTAxHAvDDAxHAvNNAvTAwHAvDA",
      "wHAvNAvPAwHAvBAwHAvMAvYAvRAvLAvVAvSHAwSAwAvHAvLLAvKSSAvJNYAvTRAoVOWEL SIGN AAzIαIzUαUzVOCAL",
      "IC R"]),
    (0x11D3A, ["MASARAM GONDI VOWEL SIGN E"]), (0x11D3C, ["MASARAM GONDI VOWEL SIGN AIzO"]),
    (0x11D3F, ["MASARAM GONDI VOWEL SIGN AUoSIGN ANUSVARAtVISARGAtNUKTAtCANDRAtHALANTAoVIRAMAoREPH",
      "ApA-KARA"]),
    (0x11D50, ["MASARAM GONDI DIGIT ZEROuONEuTWOvHREEuFOURvIVEuSIXvEVENuEIGHTuNINE"]),
    (0x11D60, ["GUNJALA GONDI LETTER AwAvIwIvUwU"]), (0x11D67, ["GUNJALA GONDI LETTER EEvAI"]),
    (0x11D6A, ["GUNJALA GONDI LETTER OOvAUvYAvVAvBAwHAvMAvKAwHAvTAwHAvLAvGAwHAvDAwHAvNAvCAwHAvTTAx",
      "HAvLLAvJAwHAvDDAxHAvNGAvPAwHAvHAvRAvSAoVOWEL SIGN AAzIαIzUαU"]),
    (0x11D90, ["GUNJALA GONDI VOWEL SIGN EEzAI"]),
    (0x11D93, ["GUNJALA GONDI VOWEL SIGN OOzAUoSIGN ANUSVARAtVISARGAoVIRAMAoOM"]),
    (0x11DA0, ["GUNJALA GONDI DIGIT ZEROuONEuTWOvHREEuFOURvIVEuSIXvEVENuEIGHTuNINE"]),
    (0x11EE0, ["MAKASAR LETTER KApGApNGApPApBApMApTApDApNApCApJApNYApYApRApLApVApSApAiANGKAiVOWEL ",
      "SIGN ItUtEtOiPASSIMBANGiEND OF SECTION"]),
    (0x11FB0, ["LISU LETTER YHA"]),
    (0x11FC0, ["TAMIL FRACTION ONE THREE-HUNDRED-AND-TWENTIETHtONE-HUNDRED-AND-SIXTIETHtEIGHTIETHt",
      "SIXTY-FOURTHtFORTIETHtTHIRTY-SECONDpTHREE EIGHTIETHSvSIXTY-FOURTHSpONE TWENTIETHtSIXTEENTH-",
      "1δ2tTENTHtEIGHTHpTHREE TWENTIETHSvSIXTEENTHSpONE FIFTHtQUARTERtHALF-1y2pTHREE QUARTERSpDOWN",
      "SCALING FACTOR KIIZHgSIGN NELlCEVITUlAAZHAAKKUlUZHAKKUlMUUVUZHAKKUlKURUNIlPATHAKKUlMUKKURUN",
      "IlKAACUlPANAMmONlVARAAKANlPAARAMlKUZHIlVELIgWET CULTIVATION SIGNgDRY CULTIVATION SIGNgLAND ",
      "SIGNgSALT PAN SIGNgTRADITIONAL CREDIT SIGNsNUMBER SIGNgCURRENT SIGNgAND ODD SIGNgSPENT SIGN",
      "gTOTAL SIGNgIN POSSESSION SIGNgSTARTING FROM SIGNhIGN MUTHALIYAlVAKAIYARAA"]),
    (0x11FFF, ["TAMIL PUNCTUATION END OF TEXTaCUNEIFORM SIGN Aq TIMES AxBADxGAN2 TENUxHAxIGIxLAGAR",
      " GUNUxMUSHxSAGq2qBr TIMES ASH2yDUN3 GUNUyGALαN2 TENUyHAyIGI GUNUzMINyLAGABySHESHyU PLUS U P",
      "LUS UsGUNUr2s TIMES BALAGzGAN2 TENUzME PLUS ENzSHA3zTAK4qDqKr TIMES ERIN2ySHITA PLUS GISHqL",
      "r TIMES ALyDIM2yGISHyHAyKAD3zIySHEyUSHrANrEPHqMARt TIMES SHEqNr OVER ANsTHREE TIMESsPLUS NA",
      "GA OPPOSING AN PLUS NAGAγSQUAREDrSHEqPINqRADt TIMES KURrKABqSAL2rHs ZIDA TENUtKABA TENUtOVE",
      "R ASH TUG2 OVER TUG2 TUG2 OVER TUG2 PAPγOVER ASHλ CROSSING ASH OVER ASH OVER ASHs2sGABpBArD",
      "rG3rHAR2rLs OVER BALsAGrRsA2qIr TIMES AyGARyIGI GUNUqUr OVER BU ABαUNsCROSSING BUrLUGu OVER",
      " BULUGrRs2pDArGs KISIM5 TIMES A PLUS MASHθMARηBALAGθIηGAι PLUS MASHθIιR2θUDηHAηIRι PLUS LUη",
      "KAKηLAθUι PLUS MASH2ιMηNEηPAP PLUS PAPηSIηTAK4ηU2 PLUS GIR2θSHrMrRsA3t4qIrBrMs TIMES SHEs2r",
      "Ns KASKAL U GUNU DISHrSHqUr OVER DUsGUNUsSHESHIGrBs TIMES ESH2s2rGsUDrHrNs3t GUNUy GUNUs4rR",
      "2pEq TIMES PAPrOVER E NUN OVER NUNq2r TIMES A PLUS HA PLUS DAyGARyMIySALzHEyUqDINqGIRqLqNr ",
      "TIMES GAN2γ TENUyMEsCROSSING ENsOPPOSING ENsSQUAREDqRENrIN2qSH2qZENt TIMES Aβ PLUS LALλ TIM",
      "ES LALβNαBADαDUN3 GUNUκ GUNUαHAγ GUNUαIGI GUNUαKASKALη SQUAREDβU3αLAγL TIMES LALβIβUαU2βDpG",
      "Ar GUNUr2s TIMES A PLUS DA PLUS HAηHAηIGIαB2 TENU PLUS TABαNαSHγ2 PLUS GALzBADβR PLUS RAαUR",
      "γ PLUS RAzDAαIβM TIMES SHEαUBzELβ PLUS LAαNβ TIMES GAN2 TENUzGAN2 TENUβRαIβ4γ PLUS AβR2 PLU",
      "S SUzHA PLUS LU PLUS ESH2βLγ PLUS LAαI PLUS LIαUB2zIGI GUNUαSH PLUS HU PLUS ASHzKAKβSKALαID",
      "γ PLUS LALαU3 PLUS ANzLAzME PLUS ENαIzNUNγ OVER NUNzPAzSALβRαHEγ PLUS TURβIDαUMzTAK4zUαDβ P",
      "LUS DUtOVER GA2rBAt CROSSING GABArDs OVER GAD GAR OVER GARrLs GAD OVER GAD GAR OVER GARsAMr",
      "MrNs2t TENUuOVER GAN2uCROSSING GAN2rRs3rSHANqESHTINw TIMES KURqIr TIMES EyUsCROSSING GIr4s ",
      "OVER GI4tCROSSING GI4rDIMrR2t GUNUs3t TIMES A PLUS IGIαGAN2 TENUαIGIαLU PLUS IGIαPArSALsHt ",
      "CROSSING GISHuTIMES BADαTAK4vENUqUr CROSSING GUr2s TIMES KAKγ TIMES IGI GUNUzNUNzSAL PLUS T",
      "UG2tGUNUrDs TIMES A PLUS KURzKURtOVER GUD LUGALrLrMs TIMES SHErRs7sUNtSHpHAr TENUsGUNUrLqIr",
      " TIMES ASHβ2yBADyDISHyGADyKINyNUNySHEyUqUrB2t TIMES ANαHALαKASKALαLISHαUDrL2pIq AqBqDIMt OV",
      "ER IDIM BURεSQUAREDqGrIs DIBtRItOVER IGI SHIR OVER SHIR UD OVER UDtGUNUqLr TIMES GAN2 TENUr",
      "2qMr TIMES TAK4sCROSSING IMsOPPOSING IMsSQUAREDrINqNqRqSHpKAr TIMES AzDα PLUS KU3zSH2yBADαL",
      "AGαRzIyERIN2zSH2yGAαLαN2 TENUαRβ PLUS SHA3 PLUS AzIαR2αSH PLUS SARδCROSSING GISHzUαR7yIGIzM",
      "yKAKzIαDyLIzUyMEα PLUS DUηGIηTEzIα PLUS NUNUZyNEzUNyPIyRUySAαRzHAαEαIDαUzIGzUHURyTARyUz2zDz",
      "MUM TIMES PAzSHyZIr2s CROSSING KA2rBrD2s3s4s5t OVER KAD5rKs TIMES IGI GUNUrLs TIMES BADtCRO",
      "SSING KALrM2s4rSKALv LAGAB TIMES U OVER LAGAB TIMES UwOVER KASKAL LAGAB TIMES U OVER LAGAB ",
      "TIMES UqESH2qIr TIMES BADyUzDrDrNrSALsHsIM5v OVER KISIM5qUr OVER HI TIMES ASH2 KU OVER HI T",
      "IMES ASH2r3r4s VARIANT FORMr7rLs GUNUrNrRs OPPOSING KURrSHU2qWU318pLArGABu TIMES Aγ PLUS DA",
      " PLUS HAιGARιLALγLγNγSH ZIDA TENUβBADγIβDARβENβGAδRγUDε PLUS GUDβHAδLγI TIMES NUNβIGI GUNUγ",
      "Mδ PLUS HAκLUβKIδNγU3δLε PLUS HI PLUS AβLAGABγISHγUδLβMEδ PLUS ENγUSHβNEβSHE PLUS SUMδITA P",
      "LUS GISH PLUS ERIN2ςTENUδU2ζ PLUS SHU2γUMβTAGδK4γE PLUS A PLUS SU PLUS NAβUγ PLUS AιU PLUS ",
      "Uγ2 PLUS ASHγDγSHvSQUAREDtRu TIMES SHEε PLUS SUMvGUNUz OVER LAGAR GUNU SHErHSHUrLs TIMES LA",
      "LrMs TIMES KURγ PLUS RUqIrLrMMU2rSHqUr TIMES BADr2s TIMES ALzBADzESH2δ TENUzGAN2 TENUzHI TI",
      "MES BADzIMzKAD2γ3δ PLUS ASHαIzLA PLUS ASHβGABzME PLUS ENzNEαUzSI PLUS ASHβK2 PLUS BUzTUG2uE",
      "NUtCROSSING LU2tOPPOSING LU2tSQUAREDuHESHIGr3rGALu OVER LUGALwPPOSING LUGALvSHESHIGrHrLrMs ",
      "OVER LUMβ GAR OVER GARpMAr TIMES TAK4sGUNUr2rHrRrSHt2qErSqIrNqUr OVER MUrGs GUNUrNSUBrRGU2r",
      "SHt TIMES AαKURαZAuOVER MUSHδ TIMES A PLUS NAuCROSSING MUSHt3u TIMES Aγ PLUS DIβDIvGUNUpNAr",
      "2rGAt INVERTEDuTIMES SHU TENUuOPPOSING NAGAtRrM NUTILLUss2qEr TIMES AyUDsSHESHIGqIr TIMES E",
      "r2rMs TIMES GAN2 TENUβR PLUS GAN2 TENUrNDA2v TIMES ANδSHζ PLUS ASHγGUDγME PLUS GAN2 TENUγNE",
      "δUNγSHEζ PLUS A ANνSHο PLUS ASHγU2 PLUS ASHδSHrSAGqUr11rNs LAGAR TIMES GARζMASHζSALι OVER N",
      "UN LAGAR TIMES SALζUSHtTENUtOVER NUNtCROSSING NUNζ LAGAR OVER LAGARsUZu AB2 TIMES ASHGABζBI",
      "ζDUGζGUDζIGI GUNUζKAD3ζLAζNEζSILA3ζU2vKISIM5 TIMES BIλ UpPArDrNrPqESH2qIr TIMES AzByBIzUyEy",
      "IzByUz2sCROSSING PIrRIGu TIMES KALβUDβZAvOPPOSING PIRIGpRArBqIqUpSArG NUTILLUss TIMES AzDUβ",
      "BzHAzKAKαURzLUMzMIzNUNzSALαHIDzTABzU2αBαMαRαSHtOVER SAGtGUNUrLs LAGAB TIMES ASH2rNGA2rRqHAs",
      "3t TIMES AαBADαGISHαNEαSHU2αTURαUβ PLUS As6sB6sR2rEs HUtOVER SHE GAD OVER GAD GAR OVER GARγ",
      "TAB OVER TAB GAR OVER GARsG9sNsSHu2uLAMrIDt TIMES AαIMsMt TIMES AαBALβULUGαDINαGARαIGIδ GUN",
      "UαKUSHU2αLULαMUGαSALsNIGsRt TENUuOVER SHIR BUR OVER BURsTArUs OVER INVERTED SHUs2sBURqIr GU",
      "NUrGs4t OVER SIG4 SHU2rK2rLA3qUr OVER SUrDs2rHURrMsASHrRs9pTAr ASTERISKsTIMES HIyMIsGUNUrBs",
      " OVER TAB NI OVER NI DISH OVER DISHtSQUAREDrGs TIMES BIzGUDzSHEβUzTUG2zUDrK4rRqEr GUNUqIr T",
      "ENUrLrRs TIMES TAK4tOVER TIRβ GAD OVER GAD GAR OVER GARqUrG2rKrMrRs OVER TUR ZA OVER ZApUq ",
      "GUDrU UrOVER U PA OVER PA GAR OVER GARySUR OVER SURyU REVERSED OVER U REVERSEDq2qBqDr KUSHU",
      "2sTIMES BADyMIyU PLUS U PLUS Uξ GUNUsGUNUsSHESHIGz TIMES BADrUGqMr TIMES LAGAByME PLUS DAyS",
      "HA3yUrBINrUMt TIMES KASKALαPAqNr GUNUqRr CROSSING URsSHESHIGr2s TIMES A PLUS HAηNAαLzHAzNUN",
      "zU2β PLUS ASHθBIr4rIs3rUs TIMES AαSHGABzBARzDUNzGAβLβN2 TENUβRαUzHAzIGIαMαSHzKIzLUMzMINzPAz",
      "SHEαIG4zTUzU PLUS GUDαDαRUDAsDAu TIMES UqSHs TIMES AzKUβRzTAK4sXs2sUMXqTUKIqZ3s TIMES KASKA",
      "LrUpZAr TENUsSQUARED TIMES KURrGrMXqE2qIr OVER ZIr3rBs KABA TENUrGrZ2qUr5s TIMES ArBURrMpKA",
      "P ELAMITEpAB TIMES NUNr2 TIMES AqMAR TIMES KUGpDAG KISIM5 TIMES U2 PLUS MASHs3qISH PLUS SHU",
      "qUB TIMES SHEpEZEN TIMES GUDαSHEpGA2 TIMES AN PLUS KAK PLUS AαSH2qE22qIGpHUSHpKA TIMES ANSH",
      "EzSH3yGISHzUDyHI TIMES ASH2yLUMyPAySHULyTUyUR2pLAGAB TIMES GIqU2 SHESHIG TIMES BADtTIMES ES",
      "H2 PLUS LALzSHUpMESHqUSH3 TIMES ZApNA4qINs9sDA2 TIMES BALγGIqU11 ROTATED NINETY DEGREESpPES",
      "H2 ASTERISKqIR2pSAG TIMES IGI GUNUpTI2pUM TIMES MEq U"]),
    (0x12400, ["CUNEIFORM NUMERIC SIGN TWO ASHyHREE ASHxFOUR ASHyIVE ASHxSIX ASHyEVEN ASHxEIGHT AS",
      "HxNINE ASHxTHREE DISHxFOUR DISHyIVE DISHxSIX DISHyEVEN DISHxEIGHT DISHxNINE DISHxFOUR UyIVE",
      " UxSIX UyEVEN UxEIGHT UxNINE UxONE GESH2xTWO GESH2yHREE GESH2xFOUR GESH2yIVE GESH2xSIX GESH",
      "2yEVEN GESH2xEIGHT GESH2xNINE GESH2xONE GESHUxTWO GESHUyHREE GESHUxFOUR GESHUyIVE GESHUxTWO",
      " SHAR2yHREE SHAR2ι VARIANT FORMxFOUR SHAR2yIVE SHAR2xSIX SHAR2yEVEN SHAR2xEIGHT SHAR2xNINE ",
      "SHAR2xONE SHARUxTWO SHARUyHREE SHARUι VARIANT FORMxFOUR SHARUyIVE SHARUxSHAR2 TIMES GAL PLU",
      "S DISHσMINxONE BURUxTWO BURUyHREE BURUθ VARIANT FORMxFOUR BURUyIVE BURUxTHREE VARIANT FORM ",
      "ESH16τ21xFOUR VARIANT FORM LIMMUυ4υ AφBxSIX VARIANT FORM ASH9yEVEN VARIANT FORM IMIN3υ AφBx",
      "EIGHT VARIANT FORM USSUυ3xNINE VARIANT FORM ILIMMUφ3φ4φ AxTWO ASH TENUyHREE ASH TENUxFOUR A",
      "SH TENUyIVE ASH TENUxSIX ASH TENUxONE BAN2xTWO BAN2yHREE BAN2xFOUR BAN2η VARIANT FORMyIVE B",
      "AN2η VARIANT FORMxNIGIDAMINδESHxONE ESHE3xTWO ESHE3xONE THIRD DISHxTWO THIRDS DISHxFIVE SIX",
      "THS DISHxONE THIRD VARIANT FORM AxTWO THIRDS VARIANT FORM AxONE EIGHTH ASHβQUARTER ASHyLD A",
      "SSYRIAN ONE SIXTHοQUARTERyNE QUARTER GURβHALF GURxELAMITE ONE THIRDζTWO THIRDSζFORTYηIFTYxF",
      "OUR U VARIANT FORMyIVE U VARIANT FORMxSIX U VARIANT FORMyEVEN U VARIANT FORMxEIGHT U VARIAN",
      "T FORMxNINE U VARIANT FORM"]),
    (0x12470, ["CUNEIFORM PUNCTUATION SIGN OLD ASSYRIAN WORD DIVIDERβVERTICAL COLONβDIAGONAL COLON",
      "λTRICOLONλQUADCOLON"]),
    (0x12480, ["CUNEIFORM SIGN AB TIMES NUN TENUySHU2qD TIMES ESH2pBAD TIMES DISH TENUrHAR2 TIMES ",
      "AB2γNIγZAqU OVER BU TIMES NA2pDA TIMES TAK4rG TIMES KURqIM TIMES IGIzU U Us2 TIMES UDqUG TI",
      "MES ANSHEαSHγ AT LEFTzDINαUNzERIN2zGAαIβR2 GUNUβSHzHAαIzIGI GUNUzKASKALαURβSHU2ζ PLUS KASKA",
      "LzLAK-020βMγ TIMES KURαUH PLUS GISHzMASHαESαIzNIzPIzSHEαI GUNUpE2 TIMES KURyPAPqRIN2 XqSH2 ",
      "CROSSING ESH2qZEN SHESHIG TIMES ASHιHIιIGI GUNUιLAλLιMEλSιSUuTIMES SUpGA2 TIMES BAHAR2zDIM ",
      "GUNUαUG TIMES IGI GUNUκKASKALzERENzGAβR PLUS DIιNEzHA PLUS AzKUSHU2 PLUS KASKALzLAMγ TIMES ",
      "KURαUHzMUSHzNEβ PLUS E2θGIzSHIMzZIZ2rBA ROTATED NINETY DEGREESqESHTIN TIMES UqISH TIMES GIS",
      "H CROSSING GISHqU2 TIMES IGI GUNUrD PLUS GISH TIMES TAK4pHA TENU GUNUqI TIMES ASH OVER HI T",
      "IMES ASHpKA TIMES BUyKAyU U UzRpLAGAB TIMES ZU OVER ZUrK-003u21v5u30u50v1u62u79 OVER LAK-07",
      "9 GUNUu80v1 OVER LAK-081u92t130u42t210v9u20v5v8u38u65v6t343v7v8u83v4u90t441v9w TIMES GUδIGI",
      "δPAP PLUS LU3νPAP PLUS LU3δU2 PLUS BAu50v7u70u83u90v2v3v5t550t608u17w TIMES ASHδBADδDUN3 GU",
      "NU GUNUδKU3δLAδTARεEδU2εDεRUDAu36u48w TIMES DUBδGAδIGIη GUNUδNIδPAP PLUS PAP PLUS LU3δSHESH",
      " PLUS KIδUDεRUDAt724u49qU2 GUNU TIMES ASHtTIMES DISHzHALzPAPγ PLUS PAP PLUS LU3zTAK4pMI PLU",
      "S ZA7qUSH OVER MUSH TIMES GAλKAKpNINDA2 TIMES DIM GUNUγGISHδULγHIγKESH2γLAK-050γMASHγPAP PL",
      "US PAPγUδ PLUS UδRUDApSAG GUNU TIMES HAtTIMES ENzSHE AT LEFTzTAK4qHA6 TENUrE OVER SHEtPLUS ",
      "HUB2yNAM2ySARrU2 PLUS DUG TIMES NIzE2 TIMES ANqI TIMES TAK4pTAK4 PLUS SAGqUM TIMES GAN2 TEN",
      "UzTHREE DISHpUR2 INVERTEDtTIMES UDrU TIMES DARA3zLAK-668αU3pZA7qU OVER ZU PLUS SARr5 TIMES ",
      "THREE DISH TENU"]),
    (0x12F90, ["CYPRO-MINOAN SIGN CM001w2w4w5w6w7w8w9v10w1w2xBw3w5w7w9v21w3w4w5w6w7w8w9v30w3w4w5w6",
      "w7w8w9v40w1w4w6w7w9v50w1w2w3w4w5w6w8w9v60w1w2w3w4w6w7w8w9v70w1w2w3w4w5xBw6w8w9v80w1w2w3w4w5",
      "w6w7w8w9v90w1w2w4w5w6w7w8w9u100w1w2w3w4w5w7w8w9v10w2w4u301w2"]),
    (0x13000, ["EGYPTIAN HIEROGLYPH A001x2x3x4x5yAx6yAyBx7x8x9w10x1x2x3x4yAx5x6x7yAx8x9w20x1x2x3x4",
      "x5x6x7x8x9w30x1x2yAx3x4x5x6x7x8x9w40yAx1x2yAx3yAx4x5yAx6x7x8x9w50x1x2x3x4x5x6x7x8x9w60x1x2x",
      "3x4x5x6x7x8x9w70uB001x2x3x4x5yAx6x7x8x9uC001x2yAyByCx3x4x5x6x7x8x9w10yAx1x2x3x4x5x6x7x8x9w2",
      "0x1x2x3x4uD001x2x3x4x5x6x7x8yAx9w10x1x2x3x4x5x6x7x8x9w20x1x2x3x4x5x6x7yAx8x9w30x1yAx2x3x4yA",
      "x5x6x7x8x9w40x1x2x3x4x5x6yAx7x8yAx9w50yAyByCyDyEyFyGyHyIx1x2yAx3x4yAx5x6x7x8x9w60x1x2x3x4x5",
      "x6x7yAyByCyDyEyFyGyHuE001x2x3x4x5x6x7x8yAx9yAw10x1x2x3x4x5x6yAx7yAx8x9w20yAx1x2x3x4x5x6x7x8",
      "yAx9w30x1x2x3x4yAx6x7x8uF001yAx2x3x4x5x6x7x8x9w10x1x2x3yAx4x5x6x7x8x9w20x1yAx2x3x4x5x6x7x8x",
      "9w30x1yAx2x3x4x5x6x7yAx8yAx9w40x1x2x3x4x5yAx6yAx7yAx8x9w50x1yAyByCx2x3uG001x2x3x4x5x6yAx7yA",
      "yBx8x9w10x1yAx2x3x4x5x6x7x8x9w20yAx1x2x3x4x5x6yAx7x8x9w30x1x2x3x4x5x6yAx7yAx8x9w40x1x2x3yAx",
      "4x5yAx6x7x8x9w50x1x2x3x4uH001x2x3x4x5x6yAx7x8uI001x2x3x4x5yAx6x7x8x9yAw10yAx1yAx2x3x4x5uK00",
      "1x2x3x4x5x6x7x8uL001x2yAx3x4x5x6yAx7x8uM001yAyBx2x3yAx4x5x6x7x8x9w10yAx1x2yAyByCyDyEyFyGyHx",
      "3x4x5yAx6yAx7yAx8x9w20x1x2yAx3x4yAx5x6x7x8yAx9w30x1yAx2x3yAyBx4x5x6x7x8x9w40yAx1x2x3x4uN001",
      "x2x3x4x5x6x7x8x9w10x1x2x3x4x5x6x7x8yAyBx9w20x1x2x3x4x5yAx6x7x8x9w30x1x2x3yAx4yAx5yAx6x7yAx8",
      "x9w40x1x2vL001y2y3y4y5zAy6y7y8y9x10y1y2y3y4y5y6y7zAy8y9x20vU001y2y3y4y5y6y7y8y9x10zAy1zAy2y",
      "3y4y5y6y7y8zAy9x20y1y2zAuO001yAx2x3x4x5yAx6yAyByCyDyEyFx7x8x9w10yAyByCx1x2x3x4x5x6x7x8x9yAw",
      "20yAx1x2x3x4yAx5yAx6x7x8x9yAw30yAx1x2x3yAx4x5x6yAyByCyDx7x8x9w40x1x2x3x4x5x6x7x8x9w50yAyBx1",
      "uP001yAx2x3yAx4x5x6x7x8x9w10x1uQ001x2x3x4x5x6x7uR001x2yAx3yAyBx4x5x6x7x8x9w10yAx1x2x3x4x5x6",
      "yAx7x8x9w20x1x2x3x4x5x6x7x8x9uS001x2yAx3x4x5x6yAx7x8x9w10x1x2x3x4yAyBx5x6x7yAx8x9w20x1x2x3x",
      "4x5x6yAyBx7x8x9w30x1x2x3x4x5yAx6x7x8x9w40x1x2x3x4x5x6uT001x2x3yAx4x5x6x7yAx8yAx9yAw10x1yAx2",
      "x3x4x5x6yAx7x8x9w20x1x2x3x4x5x6x7x8x9w30x1x2yAx3yAx4x5x6uU001x2x3x4x5x6yAyBx7x8x9w10x1x2x3x",
      "4x5x6x7x8x9w20x1x2x3yAx4x5x6x7x8x9yAw30x1x2yAx3x4x5x6x7x8x9w40x1x2uV001yAyByCyDyEyFyGyHyIx2",
      "yAx3x4x5x6x7yAyBx8x9w10x1yAyByCx2yAyBx3x4x5x6x7x8x9w20yAyByCyDyEyFyGyHyIyJyKyLx1x2x3yAx4x5x",
      "6x7x8yAx9yAw30yAx1yAx2x3yAx4x5x6x7yAx8x9w40yAuW001x2x3yAx4x5x6x7x8x9yAw10yAx1x2x3x4yAx5x6x7",
      "yAx8yAx9w20x1x2x3x4yAx5uX001x2x3x4yAyBx5x6yAx7x8yAuY001yAx2x3x4x5x6x7x8uZ001x2yAyByCyDx3yAy",
      "Bx4yAx5yAx6x7x8x9w10x1x2x3x4x5yAyByCyDyEyFyGyHyIx6yAyByCyDyEyFyGyHuAA001y2y3y4y5y6y7zAzBy8y",
      "9x10y1y2y3y4y5y6y7y8y9x20y1y2y3y4y5y6y7y8y9x30y1y2"]),
    (0x13430, ["EGYPTIAN HIEROGLYPH VERTICAL JOINERuHORIZONTAL JOINERuINSERT AT TOP STARTεBOTTOM S",
      "TARTεTOP ENDεBOTTOM ENDuOVERLAY MIDDLEuBEGIN SEGMENTuEND SEGMENT"]),
    (0x14400, ["ANATOLIAN HIEROGLYPH A001y2y3y4y5y6y7y8y9x10zAy1y2y3y4y5y6y7y8y9x20y1y2y3y4y5y6zAy",
      "7y8y9x30y1y2y3y4y5y6y7y8y9zAx40y1zAy2y3y4y5zAy6zAzBy7y8y9x50y1y2y3y4y5y6y7y8y9x60y1y2y3y4y5",
      "y6zAzBzCy7y8y9x70y1y2y3y4y5y6y7y8y9x80y1y2y3y4y5y6y7y8y9x90y1y2y3y4y5y6y7zAy8zAy9w100zAy1zA",
      "y2zAy3y4zAzBzCy5zAzBy6y7zAzBzCy8y9x10zAzBy1y2y3y4y5zAy6y7y8y9x20y1y2y3y4y5zAy6y7y8y9x30y1y2",
      "y3y4y5zAy6y7y8y9x40y1y2y3y4y5y6y7y8y9x50y1y2y3y4y5y6y7y8y9x60y1y2y3y4y5y6y7y8y9x70y1y2y3y4y",
      "5y6y7y8y9x80y1y2y3y4y5y6y7y8y9x90y1y2y3y4y5y6y7y8y9w200y1y2zAzBy3y4y5y6y7zAy8y9zAx10y1y2y3y",
      "4y5zAy6zAy7y8y9x20y1y2y3y4y5y6y7zAy8y9x30y1y2y3y4y5y6y7y8y9x40y1y2y3y4y5y6y7y8y9x50y1y2y3y4",
      "y5y6y7y8y9x60y1y2y3y4y5y6y7zAy8y9x70y1y2y3y4y5y6y7y8y9x80y1y2y3y4y5y6y7y8y9zAx90y1y2y3y4zAy",
      "5y6y7y8y9zAw300y1y2y3y4y5y6y7y8y9zAx10y1y2y3y4y5y6y7y8y9x20y1y2y3y4y5y6y7y8y9zAx30y1y2AzBzC",
      "y3y4y5y6zAzBzCy7y8y9x40y1y2y3y4y5y6y7y8y9x50y1y2y3y4y5y6y7y8y9zAx60y1y2y3y4zAy5y6y7y8zAy9x7",
      "0y1zAy2y3y4y5y6y7y8y9x80y1zAy2y3 RA OR RIzAy4y5y6zAy7y8y9x90y1y2y3 EIGHTy4y5y6y7y8y9w400y1y",
      "2y3y4y5y6y7y8y9x10 BEGIN LOGOGRAM MARKzA END LOGOGRAM MARKy1y2y3y4y5y6y7y8y9x20y1y2y3y4y5y6",
      "y7y8y9x30y1y2y3y4y5y6y7y8y9x40y1y2y3y4y5y6y7y8y9x50zAy1y2y3y4y5y6y7zAy8y9x60y1y2y3y4y5y6y7y",
      "8y9x70y1y2y3y4y5y6y7y8y9x80y1y2y3y4y5y6y7y8y9x90y1y2y3y4y5y6y7w501y2y3y4y5y6y7y8y9x10y1y2y3",
      "y4y5y6y7y8y9x20y1y2y3y4y5y6y7y8y9x30"]),
    (0x16800, ["BAMUM LETTER PHASE-A NGKUE MFONvGBIEE FONvPON MFON PIPAEMGBIEEλBAvNAA MFONvSHUENSH",
      "UETvTITA MFONvNZA MFONvSHINDA PA NJIvPON PA NJI PIPAEMGBIEEνBAvMAEMBGBIEEvTU MAEMBAvNGANGUv",
      "MAEMVEUXxNSUAEwVEUAENGAMvSEUNYAMvNTOQPENvKEUKEUTNDAvNKINDIvSUUvNGKUENZEUMvLAPAQwET KUTvNTAP",
      " MFAAvMAEKEUPvPASHAEvGHEUAERAEvPAMSHAEvMON NGGEUAETvNZUN MEUTvU YUQ NAEvGHEUAEGHEUAEvNTAP N",
      "TAAvSISAvMGBASAwEUNJOMNDEUQwOOMPUQvKAFAvPA LEERAEWAvNDA LEERAEWAvPETvMAEMKPENvNIKAvPUPvTUAE",
      "PvLUAEPvSONJAMvTEUTEUWENvMAENYIvKETvNDAANGGEUAETvKUOQvMOOMEUTvSHUMvLOMMAEvFIRIvROMvKPOQvSOQ",
      "vMAP PIEETvSHIRAEvNTAPvSHOQ NSHUT YUMvNYIT MONGKEUAEQvPAARAEvNKAARAEvUNKNOWNvNGGENvMAESIvNJ",
      "AMvMBANYIvNYETvTEUAENvSOTvPAAMvNSHIEEvMAEMvNYIvKAQvNSHAvVEEvLUvNENwAQvMBAQtB NSHUETvTU MAEM",
      "GBIEEvSIEEwET TUvLOM NTEUMvMBA MAELEEvKIEEMvYEURAEvMBAARAEvKAMvPEESHIvYAFU LEERAEWAvLAM NSH",
      "UT NYAMvNTIEE SHEUOQwDU NJAAvGHEUGHEUAEMvPITvTU NSIEEvSHET NJAQyUAEQTUvMFON TEUAEQwBIT MBAA",
      "KETvNYI NTEUMvKEUPUQvGHEUGHENvKEUYEUXvLAANAEvPARUMvVEUMvNGKINDI MVOPxGEU MBUvWUAETvSAKEUAEv",
      "TAAMvMEUQvNGGUOQβ LARGEvMFIYAQvSUEvMBEURIwONTIEENvNYAEMAEvPUNGAAMvMEUT NGGEETvFEUXvMBUOQvFE",
      "EvKEUAEMvMA NJEUAENAαUQAvLETvNGGAAMwSENvMAvKIQvNGOMtC NGKUE MAEMBAwZAvYUMvWANGKUOQvNGGENwDE",
      "UAEREEwGKAQvGHARAEvMBEEKEETvGBAYIvNYIR MKPARAQ MEUNwTU MBITvMBEUMvPIRIEENvNDOMBUvMBAA CABBA",
      "GE-TREEvKEUSHEUAEPvGHAPvKEUKAQvYU MUOMAEvNZEUMvMBUEvNSEUAENvMBITvYEUQvKPARAQwAAvSEUXvNDIDAv",
      "TAASHAEvNJUEQvTITA YUEvSUAETvNGGUAEN NYAMvVEUXvNANSANAQvMA KEUAERIvNTAAwGGUONvLAPvMBIRIEENw",
      "GBASAQvNTEUNGBAvTEUTEUXvNGGUMvFUEvNDEUTwSAxHAQvBUNGvVEUAEPENvMBERAEvRUvNJAEMvLAMvTITUAEPvNS",
      "UOT NGOMwJEEEEvKETvNGGUvMAESIwBUAEMvLUvKUTvNJAMwGOMvWUPvNGGUEETwSOMwTENvKUOP NKAARAEvNSUNwD",
      "AMvMA NSIEEvYAAvNDAPvSHUEQwETFONvMBIwAEMBAwBANYIvKEUSEUXvMBEUXvKEUMvMBAA PICKETvYUWOQvNJEUX",
      "vMIEEwUAEvSHIQvKEN LAWzFATIGUEvNGAQwAQvLIQvPINwENvTETtD MBUOvWAPvNJIvMFONvNJIEEvLIEEvNJEUTw",
      "SHEEwGGAAMAEwYAMvWUAENvNGKUNvSHEEvNGKAPvKEUAETMEUNvTEUTvSHEUAEvNJAPvSUEvKETvYAEMMAEvKUOMvSA",
      "PvMFEUTvNDEUXvMALEERIwEUTvSEUAEQvYENvNJEUAEMvKEUOT MBUAEvNGKEURIvTUvGHAAvNGKYEEvFEUFEUAETvN",
      "DEEvMGBOFUMvLEUAEPvNDONvMONIwGBEUNvPUUTvMGBIEEwFOvLUMvNSIEEPvMBAAvKWAETvNYETvTEUAENvSOTvYUW",
      "OQvKEUMvRAEMvTEEEEvNGKEUAEQvMFEUAEvNSIEETvKEUPvPIPwEUTAEvNYUEvLETvNGGAAMvMFIEEvNGGWAENvYUOM",
      "vPAPvYUOPvNDAMwTEUMvSUAEvKUNvNGGEUXxKIEEvTUOTvMEUNvKUQvNSUMvTEUNvMAENJETvNGGAPvLEUMvNGGUOMw",
      "SHUTwJUEQvGHEUAEvKUvREN OLDvTAEwOQvNYIvRIIvLEEEEvMEEEEwvSUUvMUvSHIIxEUXvKYEEvNUvSHUvNTEEvPE",
      "EvNIvSHOQvPUQvMVOPvLOQvREN MUCHvTIvNTUUvMBAA SEVENvSAQvFAAtE NDAPvTOONvMBEUMvLAPvVOMvLOONvP",
      "AAvSOMvRAQvNSHUOPwDUNvPUAEvTAMvNGKAvKPEUXvWUOvSEEvNGGEUAETvPAAMvTOOvKUOPvLOMvNSHIEEwGOPvMAE",
      "MvNGKEUXxOQwSHUEvRIMGBAvNJEUXvPEEMvSAAvNGGURAEvMGBAvGHEUXvNGKEUAEMwJAEMLIvMAPvLOOTvNGGEEEEw",
      "DIQvTAEN NTEUMvSETvPUMvNDAA SOFTNESSwGGUAESHAE NYAMvYIEEvGHEUNvTUAEvYEUAEvPOvTUMAEvKEUAEvSU",
      "AENvTEUAEQvVEUAEvWEUXvLAAMvPUvTAAQvGHAAMAEvNGEUREUTvSHEUAEQvMGBENwBEEvNZAQwKOMvGBETvTUMvKUE",
      "TvYAPvNYI CLEAVERvYITvMFEUQvNDIAQvPIEEQvYUEQvLEUAEMvFUEvGBEUXvNGKUPvKETvMAEvNGKAAMIvGHETvFA",
      "vNTUMvPEUTvYEUMvNGGEUAEwYI BETWEENwZUQvPOONvMIEEvFUETvNAEvMUAEvGHEUAEvFU IvMVIvPUAQvNGKUMvK",
      "UTvPIETvNTAPvYEUAETvNGGUPvPA PEOPLEvFU CALLwOMvNJEEvAvTOQvOvIvLAQvPA PLURALvTAAxQvNDAA MY H",
      "OUSEvSHIQvYEUXvNGUAEvYUAENwOQ SWIMMINGzCOVERwUQxNvKEUXvPEUXvNJEE EPOCHvPUEvWUEvFEEvVEEvLUvM",
      "IvREUXwAEvNGUAETxAvSHOyQvFU REMEDYvNAvPIvLOQvKOvMENwAxQvTEUvKIvMONvTENvFAQvGHOMtF KAvUvKUvE",
      "EvREEvTAEvNYIvLAvRIIxEEvMEEEEvTAAvNDAAwJAEMvMvSUUwHIIwIwEUXvKYEEwETvNUAExwJUAEvYOQvSHUvYAvN",
      "SHAvPEUXvNTEEvWUEvPEEvRUvNIvREUXvKENvNGKWAENxGAvSHOvPUAEvFOMvWAvLIwOQvKOvMBENvRENvMAwOwBAAv",
      "TETvKPAvSAMBAvVUEQ"]),
    (0x16A40, ["MRO LETTER TAlNGIlYOlMIMlBAlDAlAlPHIlKHAIlHAOlDAIlCHUlKEAAElOLlMAEMlNINlPAlOOmlROl",
      "SHIlTHEAlEAlWAlElKOlLANnlHAIlRIlTEK"]),
    (0x16A60, ["MRO DIGIT ZEROkONEkTWOlHREEkFOURlIVEkSIXlEVENkEIGHTkNINE"]),
    (0x16A6E, ["MRO DANDAfOUBLE DANDAaTANGSA LETTER OZpCpQpXoAZpCpQpXoVZpCpQpXoEZpCpQpXoIZpCpQpXoU",
      "ZpCpQpXoAWZqCqQqXoUIZqCqQqXoFINAL NGoLONG UEXoSHORT UEZuAWXoUECqZqQqXpIUZrCrQrXoMZpCpQpXoKA",
      "pHAoGAoNGAoSAoYAoWAoPAoNYAoPHAoBAoMAoNAoHAoLAoHTAoTAoDAoRAoNHAoSHAoCAoTSAoGHAoHTTAoTHAoXAoF",
      "AoDHAoCHAoZA"]),
    (0x16AC0, ["TANGSA DIGIT ZEROnONEnTWOoHREEnFOURoIVEnSIXoEVENnEIGHTnNINE"]),
    (0x16AD0, ["BASSA VAH LETTER ENNIrKArSErFArMBErYIErGAHrDHIIrKPAHrJOrHWAHrWArZOrGBUrDOrCErUWUrT",
      "OrBArVUrYEINrPArWADDArArOsOrUrEEsrI"]),
    (0x16AF0, ["BASSA VAH COMBINING HIGH TONEuLOW TONEuMID TONEuLOW-MID TONEuHIGH-LOW TONEkFULL ST",
      "OP"]),
    (0x16B00, ["PAHAWH HMONG VOWEL KEEBwVuIBvVuAUBwVuUBvVuEBvVuAIBwVuOOBwVuAWBwVuUABwVuOBvVuIABwVu",
      "ABvVuWBvVuAABwVnCONSONANT VAUxNTSAUxLAUxHAUxNLAUxRAUxNKAUxQHAUxYAUxHLAUxMAUxCHAUxNCHAUxHNAU",
      "xPLHAUxNTHAUyAUxAUxXAUxCAUnMARK CIM TUBwSOwKESxHAVwSUAMwHOMwTAUMnSIGN VOS THOMxSHAB CEEBsCI",
      "M CHEEMsVOS THIABwFEEMsXYEEM NTXIVyRHOyTOVyFAIBsVOS SEEVsMEEJ SUABsVOS NRUAsIB YAMsXAUSsCIM",
      " TSOV ROG"]),
    (0x16B50, ["PAHAWH HMONG DIGIT ZEROtONEtTWOuHREEtFOURuIVEtSIXuEVENtEIGHTtNINE"]),
    (0x16B5B, ["PAHAWH HMONG NUMBER TENSuHUNDREDSuTEN THOUSANDSuMILLIONSuHUNDRED MILLIONSuTEN BILL",
      "IONSvRILLIONS"]),
    (0x16B63, ["PAHAWH HMONG SIGN VOS LUBsXYOOsHLIsTHIRD-STAGE HLIsZWJ THAJsHNUBsNQIGsXIABsNTUJsAV",
      "sTXHEEJ CEEVsMEEJ TSEEBsTAUsLOSsMUSsCIM HAIS LUS NTOG NTOGwCUAM TSHOOJwTXWVα CHWVwPUB DAWBw",
      "NRES TOS"]),
    (0x16B7D, ["PAHAWH HMONG CLAN SIGN TSHEEJxYEEGxLISyAUJxXYOOJxKOOxHAWJxMUASxTHOJySABxPHABxKHABx",
      "HAMxVAJxFAJxYAJxTSWBxKWMxVWJ"]),
    (0x16E40, ["MEDEFAIDRIN CAPITAL LETTER MβSβVβWβATIUβZβKPβPβTβGβFβIβKβAβJβEβBβCβUβYUβLβQβHPβNYβ",
      "XβDβOEβNβRβOβAIβYmSMALL LETTER MzSzVzWzATIUzZzKPzPzTzGzFzIzKzAzJzEzBzCzUzYUzLzQzHPzNYzXzDzO",
      "EzNzRzOzAIzYmDIGIT ZEROsONEsTWOtHREEsFOURtIVEsSIXtEVENsEIGHTsNINEmNUMBER TENtELEVENtTWELVEu",
      "HIRTEENtFOURTEENuIFTEENtSIXTEENuEVENTEENtEIGHTEENtNINETEENmDIGIT ONE ALTERNATE FORMsTWO ALT",
      "ERNATE FORMtHREE ALTERNATE FORMmCOMMAmFULL STOPmSYMBOL AIVAmEXCLAMATION OH"]),
    (0x16F00, ["MIAO LETTER PAmBAmYI PAmPLAmMAnHAmARCHAIC MAmFAmVAnFAmTAmDAmYI TTAqAmTTAmDDAmNAnHA",
      "mYI NNAmARCHAIC NAmNNAoHAmLAnYAnHAoYAmTLHAmDLHAmTLHYAmDLHYAmKAmGAmYI KAmQAnGAmNGAoHAmARCHAI",
      "C NGAmHAmXAmGHAoHAmTSSAmDZZAmNYAoHAmTSHAmDZHAmYI TSHApDZHAmREFORMED TSHAmSHAnSAmZHAnSHAmTSA",
      "mDZAmYI TSAmSAmZAnSAnZAoSAmARCHAIC ZZAmZZYAoSYAmWAmAHmHHAmBRImSYImDZYImTEnSEmRTE"]),
    (0x16F4F, ["MIAO SIGN CONSONANT MODIFIER BARfLETTER NASALIZATIONfSIGN ASPIRATIONkREFORMED VOIC",
      "INGtASPIRATIONfVOWEL SIGN ArArHHrNsGqOrOqWOrqErNsGqOEYqIrAsNtGrOrErIrUrNGqUrAsNtGrUrEIrNGqY",
      "rIqAEsEqERRqROUNDED ERRqERqROUNDED ERqAIqEIqAUqOUqNrGqUOGqYUIqOGrERqVWqIGqEAqIONGqUI"]),
    (0x16F8F, ["MIAO TONE RIGHTkTOP RIGHTkABOVEkBELOWfLETTER TONE-2r3r4r5r6r7r8mREFORMED TONE-1α2α",
      "4α5α6α8"]),
    (0x16FE0, ["TANGUT ITERATION MARKaNUSHU ITERATION MARKaOLD CHINESE HOOK MARKmITERATION MARKaKH",
      "ITAN SMALL SCRIPT FILLER"]),
    (0x16FF0, ["VIETNAMESE ALTERNATE READING MARK CAιNHAY"]),
    (0x18800, ["TANGUT COMPONENT-001t2t3t4t5t6t7t8t9s10t1t2t3t4t5t6t7t8t9s20t1t2t3t4t5t6t7t8t9s30t",
      "1t2t3t4t5t6t7t8t9s40t1t2t3t4t5t6t7t8t9s50t1t2t3t4t5t6t7t8t9s60t1t2t3t4t5t6t7t8t9s70t1t2t3t4",
      "t5t6t7t8t9s80t1t2t3t4t5t6t7t8t9s90t1t2t3t4t5t6t7t8t9r100t1t2t3t4t5t6t7t8t9s10t1t2t3t4t5t6t7",
      "t8t9s20t1t2t3t4t5t6t7t8t9s30t1t2t3t4t5t6t7t8t9s40t1t2t3t4t5t6t7t8t9s50t1t2t3t4t5t6t7t8t9s60",
      "t1t2t3t4t5t6t7t8t9s70t1t2t3t4t5t6t7t8t9s80t1t2t3t4t5t6t7t8t9s90t1t2t3t4t5t6t7t8t9r200t1t2t3",
      "t4t5t6t7t8t9s10t1t2t3t4t5t6t7t8t9s20t1t2t3t4t5t6t7t8t9s30t1t2t3t4t5t6t7t8t9s40t1t2t3t4t5t6t",
      "7t8t9s50t1t2t3t4t5t6t7t8t9s60t1t2t3t4t5t6t7t8t9s70t1t2t3t4t5t6t7t8t9s80t1t2t3t4t5t6t7t8t9s9",
      "0t1t2t3t4t5t6t7t8t9r300t1t2t3t4t5t6t7t8t9s10t1t2t3t4t5t6t7t8t9s20t1t2t3t4t5t6t7t8t9s30t1t2t",
      "3t4t5t6t7t8t9s40t1t2t3t4t5t6t7t8t9s50t1t2t3t4t5t6t7t8t9s60t1t2t3t4t5t6t7t8t9s70t1t2t3t4t5t6",
      "t7t8t9s80t1t2t3t4t5t6t7t8t9s90t1t2t3t4t5t6t7t8t9r400t1t2t3t4t5t6t7t8t9s10t1t2t3t4t5t6t7t8t9",
      "s20t1t2t3t4t5t6t7t8t9s30t1t2t3t4t5t6t7t8t9s40t1t2t3t4t5t6t7t8t9s50t1t2t3t4t5t6t7t8t9s60t1t2",
      "t3t4t5t6t7t8t9s70t1t2t3t4t5t6t7t8t9s80t1t2t3t4t5t6t7t8t9s90t1t2t3t4t5t6t7t8t9r500t1t2t3t4t5",
      "t6t7t8t9s10t1t2t3t4t5t6t7t8t9s20t1t2t3t4t5t6t7t8t9s30t1t2t3t4t5t6t7t8t9s40t1t2t3t4t5t6t7t8t",
      "9s50t1t2t3t4t5t6t7t8t9s60t1t2t3t4t5t6t7t8t9s70t1t2t3t4t5t6t7t8t9s80t1t2t3t4t5t6t7t8t9s90t1t",
      "2t3t4t5t6t7t8t9r600t1t2t3t4t5t6t7t8t9s10t1t2t3t4t5t6t7t8t9s20t1t2t3t4t5t6t7t8t9s30t1t2t3t4t",
      "5t6t7t8t9s40t1t2t3t4t5t6t7t8t9s50t1t2t3t4t5t6t7t8t9s60t1t2t3t4t5t6t7t8t9s70t1t2t3t4t5t6t7t8",
      "t9s80t1t2t3t4t5t6t7t8t9s90t1t2t3t4t5t6t7t8t9r700t1t2t3t4t5t6t7t8t9s10t1t2t3t4t5t6t7t8t9s20t",
      "1t2t3t4t5t6t7t8t9s30t1t2t3t4t5t6t7t8t9s40t1t2t3t4t5t6t7t8t9s50t1t2t3t4t5t6t7t8t9s60t1t2t3t4",
      "t5t6t7t8aKHITAN SMALL SCRIPT CHARACTER-18B00ι1ι2ι3ι4ι5ι6ι7ι8ι9ιAιBιCιDιEιFθ10ι1ι2ι3ι4ι5ι6ι7",
      "ι8ι9ιAιBιCιDιEιFθ20ι1ι2ι3ι4ι5ι6ι7ι8ι9ιAιBιCιDιEιFθ30ι1ι2ι3ι4ι5ι6ι7ι8ι9ιAιBιCιDιEιFθ40ι1ι2ι3",
      "ι4ι5ι6ι7ι8ι9ιAιBιCιDιEιFθ50ι1ι2ι3ι4ι5ι6ι7ι8ι9ιAιBιCιDιEιFθ60ι1ι2ι3ι4ι5ι6ι7ι8ι9ιAιBιCιDιEιFθ",
      "70ι1ι2ι3ι4ι5ι6ι7ι8ι9ιAιBιCιDιEιFθ80ι1ι2ι3ι4ι5ι6ι7ι8ι9ιAιBιCιDιEιFθ90ι1ι2ι3ι4ι5ι6ι7ι8ι9ιAιBι",
      "CιDιEιFθA0ι1ι2ι3ι4ι5ι6ι7ι8ι9ιAιBιCιDιEιFθB0ι1ι2ι3ι4ι5ι6ι7ι8ι9ιAιBιCιDιEιFθC0ι1ι2ι3ι4ι5ι6ι7ι",
      "8ι9ιAιBιCιDιEιFθD0ι1ι2ι3ι4ι5ι6ι7ι8ι9ιAιBιCιDιEιFθE0ι1ι2ι3ι4ι5ι6ι7ι8ι9ιAιBιCιDιEιFθF0ι1ι2ι3ι",
      "4ι5ι6ι7ι8ι9ιAιBιCιDιEιFηC00ι1ι2ι3ι4ι5ι6ι7ι8ι9ιAιBιCιDιEιFθ10ι1ι2ι3ι4ι5ι6ι7ι8ι9ιAιBιCιDιEιFθ",
      "20ι1ι2ι3ι4ι5ι6ι7ι8ι9ιAιBιCιDιEιFθ30ι1ι2ι3ι4ι5ι6ι7ι8ι9ιAιBιCιDιEιFθ40ι1ι2ι3ι4ι5ι6ι7ι8ι9ιAιBι",
      "CιDιEιFθ50ι1ι2ι3ι4ι5ι6ι7ι8ι9ιAιBιCιDιEιFθ60ι1ι2ι3ι4ι5ι6ι7ι8ι9ιAιBιCιDιEιFθ70ι1ι2ι3ι4ι5ι6ι7ι",
      "8ι9ιAιBιCιDιEιFθ80ι1ι2ι3ι4ι5ι6ι7ι8ι9ιAιBιCιDιEιFθ90ι1ι2ι3ι4ι5ι6ι7ι8ι9ιAιBιCιDιEιFθA0ι1ι2ι3ι",
      "4ι5ι6ι7ι8ι9ιAιBιCιDιEιFθB0ι1ι2ι3ι4ι5ι6ι7ι8ι9ιAιBιCιDιEιFθC0ι1ι2ι3ι4ι5ι6ι7ι8ι9ιAιBιCιDιEιFθD",
      "0ι1ι2ι3ι4ι5"]),
    (0x1AFF0, ["KATAKANA LETTER MINNAN TONE-2γ3γ4γ5"]),
    (0x1AFF5, ["KATAKANA LETTER MINNAN TONE-7γ8xNASALIZED TONE-1ν2ν3ν4ν5"]),
    (0x1AFFD, ["KATAKANA LETTER MINNAN NASALIZED TONE-7ν8"]),
    (0x1B000, ["KATAKANA LETTER ARCHAIC EaHIRAGANA LETTER ARCHAIC YEbENTAIGANA LETTER A-1u2u3uWOsI",
      "-1u2u3u4sU-1u2u3u4u5sE-2u3u4u5u6sO-1u2u3sKA-1v2v3v4v5v6v7v8v9v10w1vKEtI-1v2v3v4v5v6v7v8tU-1",
      "v2v3v4v5v6v7tE-1v2v3v4v5v6tO-1v2v3vKIsSA-1v2v3v4v5v6v7v8tI-1v2v3v4v5v6tU-1v2v3v4v5v6v7v8tE-",
      "1v2v3v4v5tO-1v2v3v4v5v6v7sTA-1v2v3v4tI-1v2v3v4v5v6v7tU-1v2v3v4vTOtE-1v2v3v4v5v6v7v8v9tO-1v2",
      "v3v4v5v6vRAsNA-1v2v3v4v5v6v7v8v9tI-1v2v3v4v5v6v7vTEtU-1v2v3tE-1v2v3v4v5v6vKOtO-1v2v3v4v5sHA",
      "-1v2v3v4v5v6v7v8v9v10w1tI-1v2v3v4v5v6v7tU-1v2v3tE-1v2v3v4v5v6v7tO-1v2v3v4v5v6v7v8sMA-1v2v3v",
      "4v5v6v7tI-1v2v3v4v5v6v7tU-1v2v3v4tE-1v2vMAtO-1v2v3v4v5v6sYA-1v2v3v4v5vYOtU-1v2v3v4tO-1v2v3v",
      "4v5v6sRA-1v2v3v4tI-1v2v3v4v5v6v7tU-1v2v3v4v5v6tE-1v2v3v4tO-1v2v3v4v5v6sWA-1v2v3v4v5tI-1v2v3",
      "v4v5tE-1v2v3v4tO-1v2v3v4v5v6v7sN-MU-MO-1α2bIRAGANA LETTER ARCHAIC WUaKATAKANA LETTER ARCHAI",
      "C YIzEyWU"]),
    (0x1B150, ["HIRAGANA LETTER SMALL WIxExO"]), (0x1B164, ["KATAKANA LETTER SMALL WIxExOwN"]),
    (0x1B170, ["NUSHU CHARACTER-1B170u1u2u3u4u5u6u7u8u9uAuBuCuDuEuFt80u1u2u3u4u5u6u7u8u9uAuBuCuDuE",
      "uFt90u1u2u3u4u5u6u7u8u9uAuBuCuDuEuFtA0u1u2u3u4u5u6u7u8u9uAuBuCuDuEuFtB0u1u2u3u4u5u6u7u8u9uA",
      "uBuCuDuEuFtC0u1u2u3u4u5u6u7u8u9uAuBuCuDuEuFtD0u1u2u3u4u5u6u7u8u9uAuBuCuDuEuFtE0u1u2u3u4u5u6",
      "u7u8u9uAuBuCuDuEuFtF0u1u2u3u4u5u6u7u8u9uAuBuCuDuEuFs200u1u2u3u4u5u6u7u8u9uAuBuCuDuEuFt10u1u",
      "2u3u4u5u6u7u8u9uAuBuCuDuEuFt20u1u2u3u4u5u6u7u8u9uAuBuCuDuEuFt30u1u2u3u4u5u6u7u8u9uAuBuCuDuE",
      "uFt40u1u2u3u4u5u6u7u8u9uAuBuCuDuEuFt50u1u2u3u4u5u6u7u8u9uAuBuCuDuEuFt60u1u2u3u4u5u6u7u8u9uA",
      "uBuCuDuEuFt70u1u2u3u4u5u6u7u8u9uAuBuCuDuEuFt80u1u2u3u4u5u6u7u8u9uAuBuCuDuEuFt90u1u2u3u4u5u6",
      "u7u8u9uAuBuCuDuEuFtA0u1u2u3u4u5u6u7u8u9uAuBuCuDuEuFtB0u1u2u3u4u5u6u7u8u9uAuBuCuDuEuFtC0u1u2",
      "u3u4u5u6u7u8u9uAuBuCuDuEuFtD0u1u2u3u4u5u6u7u8u9uAuBuCuDuEuFtE0u1u2u3u4u5u6u7u8u9uAuBuCuDuEu",
      "FtF0u1u2u3u4u5u6u7u8u9uAuB"]),
    (0x1BC00, ["DUPLOYAN LETTER HqXqPqTqFqKqLqBqDqVqGqRqP NqD SqF NqK MqR SqTHqSLOAN DHqDHqKKqSLOA",
      "N JqHLqLHqRHqMqNqJqSqM NqN MqJ MqS JqM WITH DOTqN WITH DOTqJ WITH DOTαS INSIDE AND ABOVEqS ",
      "WITH DOTα BELOWqM SqN SqJ SqS SqM N SqN M SqJ M SqS J SqJ S WITH DOTsNt SqS Tt RsPt RqT SsR",
      " SqWrHr RqS NsMqK R SqG R SqS Kt RqAqSLOAN OWqOArqAOUqIqEqIEqSHORT IqUIqEEqSLOAN EHqROMANIA",
      "N IqSLOAN EEqLONG IqYEqUqEUqXWqU NqLONG UqROMANIAN UqUHqSLOAN UqOOHrWrUqWArOrIrEIrOWqNASAL ",
      "UwOwIwAqPERNIN ANyMqSLOAN ENwANwONqVOCALIC M"]),
    (0x1BC70, ["DUPLOYAN AFFIX LEFT HORIZONTAL SECANTpMID HORIZONTAL SECANTpRIGHT HORIZONTAL SECAN",
      "TpLOW VERTICAL SECANTpMID VERTICAL SECANTpHIGH VERTICAL SECANTpATTACHED SECANTyLEFT-TO-RIGH",
      "T SECANTyTANGENTαILyE HOOKyI HOOKyTANGENT HOOK"]),
    (0x1BC80, ["DUPLOYAN AFFIX HIGH ACUTEuTIGHT ACUTEuGRAVEuLONG GRAVEuDOTuCIRCLEuLINEuWAVEuVERTIC",
      "AL"]),
    (0x1BC90, ["DUPLOYAN AFFIX LOW ACUTEtTIGHT ACUTEtGRAVEtLONG GRAVEtDOTtCIRCLEtLINEtWAVEtVERTICA",
      "LtARROW"]),
    (0x1BC9C, ["DUPLOYAN SIGN O WITH CROSSjTHICK LETTER SELECTORjDOUBLE MARKjPUNCTUATION CHINOOK F",
      "ULL STOPaSHORTHAND FORMAT LETTER OVERLAPrCONTINUING OVERLAPrDOWN STEPrUP STEP"]),
    (0x1CF00, ["ZNAMENNY COMBINING MARK GORAZDO NIZKO S KRYZHEM ON LEFTyNIZKO S KRYZHEM ON LEFTyTS",
      "ATA ON LEFTyGORAZDO NIZKO ON LEFTyNIZKO ON LEFTySREDNE ON LEFTyMALO POVYSHE ON LEFTyPOVYSHE",
      " ON LEFTyVYSOKO ON LEFTyMALO POVYSHE S KHOKHLOM ON LEFTyPOVYSHE S KHOKHLOM ON LEFTyVYSOKO S",
      " KHOKHLOM ON LEFTyGORAZDO NIZKO S KRYZHEM ON RIGHTyNIZKO S KRYZHEM ON RIGHTyTSATA ON RIGHTy",
      "GORAZDO NIZKO ON RIGHTyNIZKO ON RIGHTySREDNE ON RIGHTyMALO POVYSHE ON RIGHTyPOVYSHE ON RIGH",
      "TyVYSOKO ON RIGHTyMALO POVYSHE S KHOKHLOM ON RIGHTyPOVYSHE S KHOKHLOM ON RIGHTyVYSOKO S KHO",
      "KHLOM ON RIGHTyTSATA S KRYZHEMyMALO POVYSHE S KRYZHEMySTRANNO MALO POVYSHEyPOVYSHE S KRYZHE",
      "MθTRANNOyVYSOKO S KRYZHEMyMALO POVYSHE STRANNOyGORAZDO VYSOKOyZELOyONyRAVNOyTIKHAYAyBORZAYA",
      "yUDARKAyPODVERTKAyLOMKAyKUPNAYAzACHKAyZEVOKySKOBAyRAZSEKAyKRYZH ON LEFT"]),
    (0x1CF30, ["ZNAMENNY COMBINING TONAL RANGE MARK MRACHNOλSVETLOλTRESVETLOtMARK ZADERZHKAyDEMEST",
      "VENNY ZADERZHKAyOTSECHKAyPODCHASHIEι WITH VERTICAL STROKEyCHASHKAζ POLNAYAyOBLACHKOySOROCHY",
      "A NOZHKAyTOCHKAyDVOETOCHIEtATTACHING VERTICAL OMETtMARK CURVED OMETyKRYZHtLOWER TONAL RANGE",
      " INDICATORjPRIZNAK MODIFIER LEVEL-2η3αDIRECTION FLIPαKRYZHαROG"]),
    (0x1CF50, ["ZNAMENNY NEUME KRYUKu TIKHYpPARAKLITpDVA V CHELNUpKLYUCHpZANOZHEKpSTOPITSAx S OCHK",
      "OMpPEREVODKAy NEPOSTOYANNAYApSTOPITSA WITH SOROCHYA NOZHKApCHELYUSTKApPALKApZAPYATAYApGOLUB",
      "CHIK BORZYzTIKHYzMRACHNYzSVETLYzTRESVETLYpVRAKHIYA PROSTAYAyMRACHNAYAySVETLAYAyTRESVETLAYAy",
      "KLYUCHEVAYA PROSTAYAλMRACHNAYAλSVETLAYAλTRESVETLAYApDOUBLE ZAPYATAYApREVERSED CHELYUSTKApDE",
      "RBITSApKHAMILOpCHASHKApPODCHASHIEpSKAMEYTSA MRACHNAYAzSVETLAYAzTRESVETLAYAαIKHAYApDEMESTVEN",
      "NY KLYUCHpSKAMEYTSA KLYUCHEVAYA SVETLAYAηNEPOSTOYANNAYAηVAYA TIKHAYAzDVOECHELNAYA PROSTAYAν",
      "SVETLAYAνNEPOSTOYANNAYAνKLYUCHEVAYAqLOZHITIEy S ZAPYATOYzZAKRYTOEzS KRYZHEMpKRYZHpROGpFITAp",
      "KOBYLApZMEYTSApSTATYAv S ZAPYATOYyKRYZHEMyZAPYATOY I KRYZHEMyKRYZHEM I ZAPYATOYwZAKRYTAYAζ ",
      "S ZAPYATOYwS ROGOMyDVUMYA ZAPYATYMIyZAPYATOY I PODCHASHIEMpPOLKULIZMYpSTATYA NEPOSTOYANNAYA",
      "rRELA PROSTAYAwMRACHNOTIKHAYAwKRYZHEVAYAwPOLUPOVODNAYAyVODNAYAwNEPOSTOYANNAYAwKLYUCHEPOVODN",
      "AYAδNEPOSTOYANNAYAwTIKHAYA PUTNAYAwDVOECHELNAYAζOKRYZHEVAYAηPOVODNAYAζAYA KLYUCHEVAYAζOPOVO",
      "DNAYA KLYUCHEVAYAwGROMNAYA WITH SINGLE ZAPYATAYAαOPOVODNAYA WITH SINGLE ZAPYATAYAαNAYAαOPOV",
      "ODNAYAλ WITH DOUBLE ZAPYATAYAβKRYZHEVAYAμ POVODNAYApMECHIKv POVODNYwKLYUCHEVOYδPOVODNYδNEPO",
      "STOYANNYpSTRELA TRYASOGLASNAYAγPOVODNAYAγSTRELNAYApOSOKAu SVETLAYAvTRESVETLAYAvKRYUKOVAYA S",
      "VETLAYAwLYUCHEVAYA SVETLAYAθNEPOSTOYANNAYApSTRELA KRYUKOVAYAη POVODNAYAθGROMNAYA WITH SINGL",
      "E ZAPYATAYAμOPOVODNAYA WITH SINGLE ZAPYATAYAμNAYAμOPOVODNAYAφ WITH DOUBLE ZAPYATAYAνKRYZHEV",
      "AYAχ POVODNAYAθTRYASKApKUFISMApOBLAKOpDUDApNEMKApPAUK"]),
    (0x1D000, ["BYZANTINE MUSICAL SYMBOL PSILIzDASEIAzPERISPOMENIzOXEIA EKFONITIKONζDIPLIzVAREIA E",
      "KFONITIKONηDIPLIzKATHISTIzSYRMATIKIzPARAKLITIKIzYPOKRISISι DIPLIzKREMASTIzAPESO EKFONITIKON",
      "zEXO EKFONITIKONzTELEIAzKENTIMATAzAPOSTROFOSκ DIPLIzSYNEVMAzTHITAzOLIGON ARCHAIONzGORGON AR",
      "CHAIONzPSILONzCHAMILONzVATHYzISON ARCHAIONzKENTIMA ARCHAIONηTA ARCHAIONzSAXIMATAzPARICHONzS",
      "TAVROS APODEXIAzOXEIAI ARCHAIONzVAREIAI ARCHAIONzAPODERMA ARCHAIONγTHEMAzKLASMAzREVMAzPIASM",
      "A ARCHAIONzTINAGMAzANATRICHISMAzSEISMAαYNAGMA ARCHAIONθMETA STAVROUzOYRANISMA ARCHAIONzTHEM",
      "AzLEMOIzDYOzTRIAαESSERAzKRATIMATAzAPESO EXO NEOzFTHORA ARCHAIONzIMIFTHORAzTROMIKON ARCHAION",
      "zKATAVA TROMIKONzPELASTONαSIFISTONzKONTEVMAzCHOREVMA ARCHAIONzRAPISMAzPARAKALESMA ARCHAIONε",
      "LITIKI ARCHAIONzICHADINzNANAzPETASMAzKONTEVMA ALLOzTROMIKON ALLOzSTRAGGISMATAzGRONTHISMATAz",
      "ISON NEOzOLIGON NEOαXEIA NEOzPETASTIzKOUFISMAzPETASTOKOUFISMAzKRATIMOKOUFISMAzPELASTON NEOz",
      "KENTIMATA NEO ANOη NEO ANOzYPSILIzAPOSTROFOS NEOιI SYNDESMOS NEOzYPORROIzKRATIMOYPORROONzEL",
      "AFRONzCHAMILIzMIKRON ISONzVAREIA NEOzPIASMA NEOαSIFISTON NEOzOMALONzANTIKENOMAzLYGISMAzPARA",
      "KLITIKI NEOεALESMA NEOzETERON PARAKALESMAzKYLISMAzANTIKENOKYLISMAzTROMIKON NEOzEKSTREPTONzS",
      "YNAGMA NEOβRMAzCHOREVMA NEOzEPEGERMAzSEISMA NEOzXIRON KLASMAzTROMIKOPSIFISTONzPSIFISTOLYGIS",
      "MAzTROMIKOLYGISMAηPARAKALESMAzPSIFISTOPARAKALESMAzTROMIKOSYNAGMAzPSIFISTOSYNAGMAzGORGOSYNTH",
      "ETONzARGOSYNTHETONzETERON ARGOSYNTHETONzOYRANISMA NEOzTHEMATISMOS ESOνXOε APLOUNγS KAI APOT",
      "HESzKATAVASMAzENDOFONONzYFEN KATOεANOzSTAVROSzKLASMA ANOzDIPLI ARCHAIONzKRATIMA ARCHAIONιLL",
      "OθNEOzAPODERMA NEOβLIzDIPLIzTRIPLIαETRAPLIzKORONISzLEIMMA ENOS CHRONOUηDYO CHRONONηTRION CH",
      "RONONθESSARON CHRONONηIMISEOS CHRONOUzGORGON NEO ANOηPARESTIGMENON ARISTERAυDEXIAzDIGORGONθ",
      " PARESTIGMENON ARISTERA KATOωISTERA ANOχDEXIAzTRIGORGONzARGONzIMIDIARGONzDIARGONzAGOGI POLI",
      " ARGIζARGOTERIιIζMETRIAθSIζGORGIκOTERIζPOLI GORGIzMARTYRIA PROTOS ICHOSιALLI PROTOS ICHOSιD",
      "EYTEROS ICHOSιALLI DEYTEROS ICHOSιTRITOS ICHOSμFONIASκETARTOS ICHOSςLEGETOS ICHOSιLEGETOS I",
      "CHOSιPLAGIOS ICHOSzISAKIA TELOUS ICHIMATOSzAPOSTROFOI TELOUS ICHIMATOSzFANEROSIS TETRAFONIA",
      "SκMONOFONIASκDIFONIASzMARTYRIA VARYS ICHOSιPROTOVARYS ICHOSκLAGIOS TETARTOS ICHOSzGORTHMIKO",
      "N N APLOUNνDIPLOUNzENARXIS KAI FTHORA VOUzIMIFONONδTHORONzFTHORA ARCHAION DEYTEROU ICHOUηDI",
      "ATONIKI PAρNANAηNAOS ICHOSηDIATONIKI DIηSKLIRON DIATONON DIηDIATONIKI KEρZOρNI KATOτANOηMAL",
      "AKON CHROMA DIFONIASφMONOFONIASαHTORA SKLIRON CHROMA VASISαTHORA SKLIRON CHROMA SYNAFIηNENA",
      "NOzCHROA ZYGOSζKLITONζSPATHIzFTHORA I YFESIS TETARTIMORIONηENARMONIOS ANTIFONIAzYFESIS TRIT",
      "IMORIONzDIESIS TRITIMORIONθETARTIMORIONηAPLI DYO DODEKATAηMONOGRAMMOS TESSERA DODEKATAηDIGR",
      "AMMOS EX DODEKATAηTRIGRAMMOS OKTO DODEKATAzYFESIS APLI DYO DODEKATAηMONOGRAMMOS TESSERA DOD",
      "EKATAηDIGRAMMOS EX DODEKATAηTRIGRAMMOS OKTO DODEKATAzGENIKI DIESISηYFESISzDIASTOLI APLI MIK",
      "RIοEGALIιDIPLIιTHESEOSzSIMANSIS THESEOSπ DISIMOUρTRISIMOUςETRASIMOUιARSEOSο DISIMOUπTRISIMO",
      "UρETRASIMOUzDIGRAMMA GGβFTOGGOS OUzSTIGMAzARKTIKO PAθVOUθGAθDIθKEθZOθNIzKENTIMATA NEO MESOη",
      " NEO MESOηTA NEO KATOη NEO KATOαLASMA KATOzGORGON NEO KATO"]),
    (0x1D100, ["MUSICAL SYMBOL SINGLE BARLINEpDOUBLE BARLINEpFINAL BARLINEpREVERSE FINAL BARLINEpD",
      "ASHED BARLINEpSHORT BARLINEpLEFT REPEAT SIGNpRIGHT REPEAT SIGNqEPEAT DOTSpDAL SEGNOr CAPOpS",
      "EGNOpCODApREPEATED FIGURE-1ζ2ζ3pFERMATAw BELOWpBREATH MARKpCAESURApBRACEtKETpONE-LINE STAFF",
      "pTWO-LINE STAFFqHREE-LINE STAFFpFOUR-LINE STAFFqIVE-LINE STAFFpSIX-LINE STAFFtSTRING FRETBO",
      "ARDpFOUR-STRING FRETBOARDpG CLEFv OTTAVA ALTAδBASSApC CLEFpF CLEFv OTTAVA ALTAδBASSApDRUM C",
      "LEF-1z2"]),
    (0x1D129, ["MUSICAL SYMBOL MULTIPLE MEASURE RESTpDOUBLE SHARPwFLATpFLAT UPuDOWNpNATURAL UPxDOW",
      "NpSHARP UPvDOWNpQUARTER TONE SHARPγFLATpCOMMON TIMEqUT TIMEpOTTAVA ALTAwBASSApQUINDICESIMA ",
      "ALTAγBASSApMULTI RESTpWHOLE RESTpHALF RESTpQUARTER RESTpEIGHTH RESTpSIXTEENTH RESTpTHIRTY-S",
      "ECOND RESTpSIXTY-FOURTH RESTpONE HUNDRED TWENTY-EIGHTH RESTpX NOTEHEADpPLUS NOTEHEADpCIRCLE",
      " X NOTEHEADpSQUARE NOTEHEAD WHITEζBLACKpTRIANGLE NOTEHEAD UP WHITEλBLACKθLEFT WHITEνBLACKθR",
      "IGHT WHITEξBLACKθDOWN WHITEνBLACKθUP RIGHT WHITEρBLACKpMOON NOTEHEAD WHITEδBLACKpTRIANGLE-R",
      "OUND NOTEHEAD DOWN WHITEσBLACKpPARENTHESIS NOTEHEADpVOID NOTEHEADpNOTEHEAD BLACKqULL NOTEHE",
      "ADpCLUSTER NOTEHEAD WHITEηBLACKpBREVEpWHOLE NOTEpHALF NOTEpQUARTER NOTEpEIGHTH NOTEpSIXTEEN",
      "TH NOTEpTHIRTY-SECOND NOTEpSIXTY-FOURTH NOTEpONE HUNDRED TWENTY-EIGHTH NOTEpCOMBINING STEMα",
      "PRECHGESANG STEMzTREMOLO-1θ2θ3pFINGERED TREMOLO-1η2η3pCOMBINING AUGMENTATION DOTzFLAG-1ε2ε3",
      "ε4ε5pBEGIN BEAMpEND BEAMpBEGIN TIEpEND TIEpBEGIN SLURpEND SLURpBEGIN PHRASEpEND PHRASEpCOMB",
      "INING ACCENTzSTACCATOzTENUTOzSTACCATISSIMOzMARCATOη-STACCATOzACCENT-STACCATOzLOUREpARPEGGIA",
      "TO UPαDOWNpCOMBINING DOITzRIPzFLIPzSMEARzBENDzDOUBLE TONGUEzTRIPLE TONGUEpRINFORZANDOpSUBIT",
      "OpZpPIANOpMEZZOpFORTEpCRESCENDOpDECRESCENDOpGRACE NOTE SLASHαNO SLASHpTRqURNpINVERTED TURNp",
      "TURN SLASHuUPpORNAMENT STROKE-1ζ2ζ3ζ4ζ5ζ6ζ7ζ8ζ9ζ10η1pHAUPTSTIMMEpNEBENSTIMMEpEND OF STIMMEp",
      "DEGREE SLASHpCOMBINING DOWN BOWzUP BOWzHARMONICzSNAP PIZZICATOpPEDAL MARKvUP MARKpHALF PEDA",
      "L MARKpGLISSANDO UPzDOWNpWITH FINGERNAILSpDAMPt ALLpMAXIMApLONGApBREVISpSEMIBREVIS WHITEαBL",
      "ACKpMINIMAv BLACKpSEMIMINIMA WHITEαBLACKpFUSA WHITEuBLACKpLONGA PERFECTA RESTvIMPERFECTA RE",
      "STpBREVIS RESTpSEMIBREVIS RESTpMINIMA RESTpSEMIMINIMA RESTpTEMPUS PERFECTUM CUM PROLATIONE ",
      "PERFECTAφIMPERFECTAφPERFECTA DIMINUTION-1wIMPERFECTUM CUM PROLATIONE PERFECTAψIMPERFECTAωMP",
      "ERFECTA DIMINUTION-1ωMPERFECTA DIMINUTION-2ωMPERFECTA DIMINUTION-3pCROIXpGREGORIAN C CLEFzF",
      " CLEFpSQUARE BpVIRGApPODATUSpCLIVISpSCANDICUSpCLIMACUSpTORCULUSpPORRECTUSy FLEXUSpSCANDICUS",
      " FLEXUSpTORCULUS RESUPINUSpPES SUBPUNCTISpKIEVAN C CLEFwEND OF PIECEwFINAL NOTEwRECITATIVE ",
      "MARKwWHOLE NOTEwHALF NOTEwQUARTER NOTE STEM DOWNοUPwEIGHTH NOTE STEM DOWNξUPwFLAT SIGNpSORI",
      "pKORON"]),
    (0x1D200, ["GREEK VOCAL NOTATION SYMBOL-1γ2γ3γ4γ5γ6γ7γ8γ9γ10δ1δ2δ3δ4δ5δ6δ7δ8δ9γ20δ1δ2δ3δ4γ50δ1",
      "δ2δ3δ4gINSTRUMENTAL NOTATION SYMBOL-1κ2κ4κ5κ7κ8κ11λ2λ3λ4λ7λ8λ9κ23λ4λ5λ6λ7λ9κ30λ2λ6λ7λ8λ9κ40",
      "λ2λ3λ5λ7λ8λ9κ50λ1λ2λ3λ4aCOMBINING GREEK MUSICAL TRISEMEzETRASEMEyPENTASEMEaGREEK MUSICAL LE",
      "IMMA"]),
    (0x1D2E0, ["MAYAN NUMERAL ZEROoONEoTWOpHREEoFOURpIVEoSIXpEVENoEIGHToNINEoTENoELEVENoTWELVEpHIR",
      "TEENoFOURTEENpIFTEENoSIXTEENpEVENTEENoEIGHTEENoNINETEEN"]),
    (0x1D300, ["MONOGRAM FOR EARTHaDIGRAM FOR HEAVENLY EARTHmUMAN EARTHlEARTHLY HEAVENuUMANqaTETRA",
      "GRAM FOR CENTREoFULL CIRCLEoMIREDoBARRIERoKEEPING SMALLoCONTRARIETYoASCENToOPPOSITIONoBRANC",
      "HING OUToDEFECTIVENESS OR DISTORTIONpIVERGENCEoYOUTHFULNESSoINCREASEoPENETRATIONoREACHoCONT",
      "ACToHOLDING BACKoWAITINGoFOLLOWINGoADVANCEoRELEASEqSISTANCEoEASEoJOYoCONTENTIONoENDEAVOURoD",
      "UTIESoCHANGEoDECISIVENESSoBOLD RESOLUTIONoPACKINGoLEGIONoCLOSENESSoKINSHIPoGATHERINGoSTRENG",
      "THoPURITYoFULLNESSoRESIDENCEoLAW OR MODELoRESPONSEoGOING TO MEEToENCOUNTERSoSTOVEoGREATNESS",
      "oENLARGEMENToPATTERNoRITUALoFLIGHToVASTNESS OR WASTINGoCONSTANCYoMEASUREoETERNITYoUNITYoDIM",
      "INISHMENToCLOSED MOUTHoGUARDEDNESSpATHERING INoMASSINGoACCUMULATIONoEMBELLISHMENToDOUBToWAT",
      "CHoSINKINGoINNERoDEPARTUREpARKENINGpIMMINGoEXHAUSTIONoSEVERANCEpTOPPAGEoHARDNESSoCOMPLETION",
      "pLOSUREoFAILUREoAGGRAVATIONoCOMPLIANCEoON THE VERGEoDIFFICULTIESoLABOURINGoFOSTERING"]),
    (0x1D360, ["COUNTING ROD UNIT DIGIT ONEyTWOzHREEyFOURzIVEySIXzEVENyEIGHTyNINEnTENS DIGIT ONEyT",
      "WOzHREEyFOURzIVEySIXzEVENyEIGHTyNINEaIDEOGRAPHIC TALLY MARK ONExTWOyHREExFOURyIVEaTALLY MAR",
      "K ONElFIVE"]),
    (0x1D400, ["MATHEMATICAL BOLD CAPITAL AαBαCαDαEαFαGαHαIαJαKαLαMαNαOαPαQαRαSαTαUαVαWαXαYαZsSMAL",
      "L AyByCyDyEyFyGyHyIyJyKyLyMyNyOyPyQyRySyTyUyVyWyXyYyZnITALIC CAPITAL AγBγCγDγEγFγGγHγIγJγKγ",
      "LγMγNγOγPγQγRγSγTγUγVγWγXγYγZuSMALL AαBαCαDαEαFαG"]),
    (0x1D456, ["MATHEMATICAL ITALIC SMALL IαJαKαLαMαNαOαPαQαRαSαTαUαVαWαXαYαZnBOLD ITALIC CAPITAL ",
      "AθBθCθDθEθFθGθHθIθJθKθLθMθNθOθPθQθRθSθTθUθVθWθXθYθZzSMALL AζBζCζDζEζFζGζHζIζJζKζLζMζNζOζPζQ",
      "ζRζSζTζUζVζWζXζYζZnSCRIPT CAPITAL A"]),
    (0x1D49E, ["MATHEMATICAL SCRIPT CAPITAL CγD"]), (0x1D4A2, ["MATHEMATICAL SCRIPT CAPITAL G"]),
    (0x1D4A5, ["MATHEMATICAL SCRIPT CAPITAL JγK"]),
    (0x1D4A9, ["MATHEMATICAL SCRIPT CAPITAL NγOγPγQ"]),
    (0x1D4AE, ["MATHEMATICAL SCRIPT CAPITAL SγTγUγVγWγXγYγZuSMALL AαBαCαD"]),
    (0x1D4BB, ["MATHEMATICAL SCRIPT SMALL F"]),
    (0x1D4BD, ["MATHEMATICAL SCRIPT SMALL HαIαJαKαLαMαN"]),
    (0x1D4C5, ["MATHEMATICAL SCRIPT SMALL PαQαRαSαTαUαVαWαXαYαZnBOLD SCRIPT CAPITAL AθBθCθDθEθFθGθ",
      "HθIθJθKθLθMθNθOθPθQθRθSθTθUθVθWθXθYθZzSMALL AζBζCζDζEζFζGζHζIζJζKζLζMζNζOζPζQζRζSζTζUζVζWζX",
      "ζYζZnFRAKTUR CAPITAL AδB"]),
    (0x1D507, ["MATHEMATICAL FRAKTUR CAPITAL DδEδFδG"]),
    (0x1D50D, ["MATHEMATICAL FRAKTUR CAPITAL JδKδLδMδNδOδPδQ"]),
    (0x1D516, ["MATHEMATICAL FRAKTUR CAPITAL SδTδUδVδWδXδY"]),
    (0x1D51E, ["MATHEMATICAL FRAKTUR SMALL AβBβCβDβEβFβGβHβIβJβKβLβMβNβOβPβQβRβSβTβUβVβWβXβYβZnDOU",
      "BLE-STRUCK CAPITAL AκB"]),
    (0x1D53B, ["MATHEMATICAL DOUBLE-STRUCK CAPITAL DκEκFκG"]),
    (0x1D540, ["MATHEMATICAL DOUBLE-STRUCK CAPITAL IκJκKκLκM"]),
    (0x1D546, ["MATHEMATICAL DOUBLE-STRUCK CAPITAL O"]),
    (0x1D54A, ["MATHEMATICAL DOUBLE-STRUCK CAPITAL SκTκUκVκWκXκY"]),
    (0x1D552, ["MATHEMATICAL DOUBLE-STRUCK SMALL AθBθCθDθEθFθGθHθIθJθKθLθMθNθOθPθQθRθSθTθUθVθWθXθY",
      "θZnBOLD FRAKTUR CAPITAL AιBιCιDιEιFιGιHιIιJιKιLιMιNιOιPιQιRιSιTιUιVιWιXιYιZαSMALL AηBηCηDηE",
      "ηFηGηHηIηJηKηLηMηNηOηPηQηRηSηTηUηVηWηXηYηZnSANS-SERIF CAPITAL AηBηCηDηEηFηGηHηIηJηKηLηMηNηO",
      "ηPηQηRηSηTηUηVηWηXηYηZySMALL AεBεCεDεEεFεGεHεIεJεKεLεMεNεOεPεQεRεSεTεUεVεWεXεYεZyBOLD CAPIT",
      "AL AμBμCμDμEμFμGμHμIμJμKμLμMμNμOμPμQμRμSμTμUμVμWμXμYμZδSMALL AκBκCκDκEκFκGκHκIκJκKκLκMκNκOκ",
      "PκQκRκSκTκUκVκWκXκYκZyITALIC CAPITAL AξBξCξDξEξFξGξHξIξJξKξLξMξNξOξPξQξRξSξTξUξVξWξXξYξZζSM",
      "ALL AμBμCμDμEμFμGμHμIμJμKμLμMμNμOμPμQμRμSμTμUμVμWμXμYμZyBOLD ITALIC CAPITAL AσBσCσDσEσFσGσH",
      "σIσJσKσLσMσNσOσPσQσRσSσTσUσVσWσXσYσZλSMALL AρBρCρDρEρFρGρHρIρJρKρLρMρNρOρPρQρRρSρTρUρVρWρXρ",
      "YρZnMONOSPACE CAPITAL AζBζCζDζEζFζGζHζIζJζKζLζMζNζOζPζQζRζSζTζUζVζWζXζYζZxSMALL AδBδCδDδEδF",
      "δGδHδIδJδKδLδMδNδOδPδQδRδSδTδUδVδWδXδYδZnITALIC SMALL DOTLESS IιJ"]),
    (0x1D6A8, ["MATHEMATICAL BOLD CAPITAL ALPHAαBETAαGAMMAαDELTAαEPSILONαZETAαETAαTHETAαIOTAαKAPPA",
      "αLAMDAαMUαNUαXIαOMICRONαPIαRHOαTHETA SYMBOLαSIGMAαTAUαUPSILONαPHIαCHIαPSIαOMEGAsNABLAsSMALL",
      " ALPHAyBETAyGAMMAyDELTAyEPSILONyZETAyETAyTHETAyIOTAyKAPPAyLAMDAyMUyNUyXIyOMICRONyPIyRHOyFIN",
      "AL SIGMAySIGMAyTAUyUPSILONyPHIyCHIyPSIyOMEGAsPARTIAL DIFFERENTIALsEPSILON SYMBOLsTHETA SYMB",
      "OLsKAPPA SYMBOLsPHI SYMBOLsRHO SYMBOLsPI SYMBOLnITALIC CAPITAL ALPHAγBETAγGAMMAγDELTAγEPSIL",
      "ONγZETAγETAγTHETAγIOTAγKAPPAγLAMDAγMUγNUγXIγOMICRONγPIγRHOγTHETA SYMBOLγSIGMAγTAUγUPSILONγP",
      "HIγCHIγPSIγOMEGAuNABLAuSMALL ALPHAαBETAαGAMMAαDELTAαEPSILONαZETAαETAαTHETAαIOTAαKAPPAαLAMDA",
      "αMUαNUαXIαOMICRONαPIαRHOαFINAL SIGMAαSIGMAαTAUαUPSILONαPHIαCHIαPSIαOMEGAuPARTIAL DIFFERENTI",
      "ALuEPSILON SYMBOLuTHETA SYMBOLuKAPPA SYMBOLuPHI SYMBOLuRHO SYMBOLuPI SYMBOLnBOLD ITALIC CAP",
      "ITAL ALPHAθBETAθGAMMAθDELTAθEPSILONθZETAθETAθTHETAθIOTAθKAPPAθLAMDAθMUθNUθXIθOMICRONθPIθRHO",
      "θTHETA SYMBOLθSIGMAθTAUθUPSILONθPHIθCHIθPSIθOMEGAzNABLAzSMALL ALPHAζBETAζGAMMAζDELTAζEPSILO",
      "NζZETAζETAζTHETAζIOTAζKAPPAζLAMDAζMUζNUζXIζOMICRONζPIζRHOζFINAL SIGMAζSIGMAζTAUζUPSILONζPHI",
      "ζCHIζPSIζOMEGAzPARTIAL DIFFERENTIALzEPSILON SYMBOLzTHETA SYMBOLzKAPPA SYMBOLzPHI SYMBOLzRHO",
      " SYMBOLzPI SYMBOLnSANS-SERIF BOLD CAPITAL ALPHAμBETAμGAMMAμDELTAμEPSILONμZETAμETAμTHETAμIOT",
      "AμKAPPAμLAMDAμMUμNUμXIμOMICRONμPIμRHOμTHETA SYMBOLμSIGMAμTAUμUPSILONμPHIμCHIμPSIμOMEGAδNABL",
      "AδSMALL ALPHAκBETAκGAMMAκDELTAκEPSILONκZETAκETAκTHETAκIOTAκKAPPAκLAMDAκMUκNUκXIκOMICRONκPIκ",
      "RHOκFINAL SIGMAκSIGMAκTAUκUPSILONκPHIκCHIκPSIκOMEGAδPARTIAL DIFFERENTIALδEPSILON SYMBOLδTHE",
      "TA SYMBOLδKAPPA SYMBOLδPHI SYMBOLδRHO SYMBOLδPI SYMBOLδITALIC CAPITAL ALPHAσBETAσGAMMAσDELT",
      "AσEPSILONσZETAσETAσTHETAσIOTAσKAPPAσLAMDAσMUσNUσXIσOMICRONσPIσRHOσTHETA SYMBOLσSIGMAσTAUσUP",
      "SILONσPHIσCHIσPSIσOMEGAλNABLAλSMALL ALPHAρBETAρGAMMAρDELTAρEPSILONρZETAρETAρTHETAρIOTAρKAPP",
      "AρLAMDAρMUρNUρXIρOMICRONρPIρRHOρFINAL SIGMAρSIGMAρTAUρUPSILONρPHIρCHIρPSIρOMEGAλPARTIAL DIF",
      "FERENTIALλEPSILON SYMBOLλTHETA SYMBOLλKAPPA SYMBOLλPHI SYMBOLλRHO SYMBOLλPI SYMBOLnBOLD CAP",
      "ITAL DIGAMMAsSMALL DIGAMMA"]),
    (0x1D7CE, ["MATHEMATICAL BOLD DIGIT ZEROyONEyTWOzHREEyFOURzIVEySIXzEVENyEIGHTyNINEnDOUBLE-STRU",
      "CK DIGIT ZEROθONEθTWOιHREEθFOURιIVEθSIXιEVENθEIGHTθNINEnSANS-SERIF DIGIT ZEROεONEεTWOζHREEε",
      "FOURζIVEεSIXζEVENεEIGHTεNINEyBOLD DIGIT ZEROκONEκTWOλHREEκFOURλIVEκSIXλEVENκEIGHTκNINEnMONO",
      "SPACE DIGIT ZEROδONEδTWOεHREEδFOURεIVEδSIXεEVENδEIGHTδNINEaSIGNWRITING HAND-FIST INDEXrCIRC",
      "LE INDEXsUP INDEXrOVAL INDEXrHINGE INDEXrANGLE INDEXrFIST INDEX BENTrCIRCLE INDEX BENTrFIST",
      " THUMB UNDER INDEX BENTwINDEX RAISED KNUCKLEγCUPPEDγHINGEDι LOWrCIRCLE INDEX HINGErFIST IND",
      "EX MIDDLErCIRCLE INDEX MIDDLErFIST INDEX MIDDLE BENTκRAISED KNUCKLESκHINGEDγUP MIDDLE HINGE",
      "DγHINGED MIDDLE UPγMIDDLE CONJOINEDσ INDEX BENTτMIDDLE BENTτCUPPEDτHINGEDλROSSEDrCIRCLE IND",
      "EX MIDDLE CROSSEDrFIST MIDDLE BENT OVER INDEXwINDEX BENT OVER MIDDLEγMIDDLE THUMBrCIRCLE IN",
      "DEX MIDDLE THUMBrFIST INDEX MIDDLE STRAIGHT THUMB BENTκBENT THUMB STRAIGHTκTHUMB BENTκHINGE",
      "D SPREAD THUMB SIDEγUP MIDDLE HINGED THUMB SIDEω CONJOINEDγHINGED MIDDLE UP THUMB SIDEγMIDD",
      "LE UP SPREAD THUMB FORWARDκTHUMB CUPPEDρIRCLEDπHOOKEDρINGEDwTHUMB BETWEEN INDEX MIDDLE STRA",
      "IGHTwINDEX MIDDLE CONJOINED THUMB SIDEω SIDE CONJOINEDω SIDE BENTwMIDDLE THUMB HOOKED INDEX",
      " UPwINDEX THUMB HOOKED MIDDLE UPγMIDDLE CONJOINED HINGED THUMB SIDEλROSSED THUMB SIDEλONJOI",
      "NED THUMB FORWARDτCUPPED THUMB FORWARDwMIDDLE THUMB CUPPED INDEX UPwINDEX THUMB CUPPED MIDD",
      "LE UPwMIDDLE THUMB CIRCLED INDEX UPψHINGEDwINDEX THUMB ANGLED OUT MIDDLE UPπIN MIDDLE UPιCI",
      "RCLED MIDDLE UPγMIDDLE THUMB CONJOINED HINGEDπANGLED OUTφwMIDDLE THUMB ANGLED OUT INDEX UPω",
      "X CROSSEDρINDEX UPwINDEX THUMB HOOKED MIDDLE HINGEDsLAT FOUR FINGERSι BENTκHINGEDκCONJOINED",
      "σ SPLITrCLAW FOUR FINGERS CONJOINEDrFIST FOUR FINGERS CONJOINED BENTrHINGE FOUR FINGERS CON",
      "JOINEDrFLAT FIVE FINGERS SPREADwHEEL FIVE FINGERS SPREADwFIVE FINGERS SPREAD FOUR BENTwHEEL",
      " FIVE FINGERS SPREAD FOUR BENTwFIVE FINGERS SPREAD BENTwHEEL FIVE FINGERS SPREAD BENTwFIVE ",
      "FINGERS SPREAD THUMB FORWARDrCUP FIVE FINGERS SPREADο OPENrHINGE FIVE FINGERS SPREAD OPENrO",
      "VAL FIVE FINGERS SPREADrFLAT FIVE FINGERS SPREAD HINGEDχ THUMB SIDEψNO THUMBvv BETWEEN PALM",
      " FACINGSwHEELwTHUMB SIDEwHEEL THUMB SIDEwTHUMB BENTγFORWARDwSPLIT INDEX THUMB SIDEγCENTREι ",
      "THUMB SIDEτ BENTγLITTLErCLAWv THUMB SIDEwNO THUMBwTHUMB FORWARDrHOOK CURLICUEvrCUP OPENuu O",
      "PEN THUMB SIDEvTHUMB SIDEvOPEN NO THUMBvNO THUMBvOPEN THUMB FORWARDvTHUMB FORWARDtRLICUE OP",
      "ENzsIRCLErOVALv THUMB SIDEwNO THUMBwTHUMB FORWARDrHINGE OPENβ THUMB FORWARDww SMALLxOPEN TH",
      "UMB SIDExTHUMB SIDExOPEN NO THUMBxNO THUMBxTHUMB SIDE TOUCHING INDEXδBETWEEN MIDDLE RINGrAN",
      "GLErFIST INDEX MIDDLE RINGrCIRCLE INDEX MIDDLE RINGrHINGE INDEX MIDDLE RINGrANGLE INDEX MID",
      "DLE RINGrHINGE LITTLErFIST INDEX MIDDLE RING BENTοCONJOINEDrHINGE INDEX MIDDLE RING CONJOIN",
      "EDrFIST LITTLE DOWNθ RIPPLE STRAIGHTπCURVEDιOTHERS CIRCLEDδUPwTHUMB UNDER LITTLE UPrCIRCLE ",
      "LITTLE UPrOVAL LITTLE UPrANGLE LITTLE UPrFIST LITTLE RAISED KNUCKLEδBENTδTOUCHES THUMBεHUMB",
      "rHINGE LITTLE THUMBrFIST LITTLE INDEX THUMBrHINGE LITTLE INDEX THUMBrANGLE LITTLE INDEX THU",
      "MB INDEX THUMB OUTωUMBrFIST LITTLE INDEXrCIRCLE LITTLE INDEXrHINGE LITTLE INDEXrANGLE LITTL",
      "E INDEXrFIST INDEX MIDDLE LITTLErCIRCLE INDEX MIDDLE LITTLErHINGE INDEX MIDDLE LITTLExRINGr",
      "ANGLE INDEX MIDDLE LITTLErFIST INDEX MIDDLE CROSS LITTLErCIRCLE INDEX MIDDLE CROSS LITTLErF",
      "IST RING DOWNrHINGE RING DOWN INDEX THUMB HOOK MIDDLErANGLE RING DOWN MIDDLE THUMB INDEX CR",
      "OSSrFIST RING UPβRAISED KNUCKLEβLITTLErCIRCLE RING LITTLErOVAL RING LITTLErANGLE RING LITTL",
      "ErFIST RING MIDDLEθ CONJOINEDιRAISED KNUCKLESβINDEXβTHUMBrHOOK RING THUMBrFIST INDEX RING L",
      "ITTLErCIRCLE INDEX RING LITTLEsURLICUE INDEX RING LITTLE ONrHOOK INDEX RING LITTLE OUTοINοU",
      "NDERrCUP INDEX RING LITTLErHINGE INDEX RING LITTLErANGLE INDEX RING LITTLE OUTοrFIST MIDDLE",
      " DOWNrHINGE MIDDLErFIST MIDDLE UPrCIRCLE MIDDLE UPrFIST MIDDLE RAISED KNUCKLEδUP THUMB SIDE",
      "rHOOK MIDDLE THUMBrFIST MIDDLE THUMB LITTLEδLITTLEδRING LITTLErCIRCLE MIDDLE RING LITTLEsUR",
      "LICUE MIDDLE RING LITTLE ONtP MIDDLE RING LITTLErHINGE MIDDLE RING LITTLErANGLE MIDDLE RING",
      " LITTLE OUTρINπrCIRCLE MIDDLE RING LITTLE BENTsLAW MIDDLE RING LITTLE CONJOINEDω SIDErHOOK ",
      "MIDDLE RING LITTLE CONJOINED OUTω INωsINGE INDEX HINGEDrFIST INDEX THUMB SIDErHINGE INDEX T",
      "HUMB SIDErFIST INDEX THUMB SIDE THUMB DIAGONALτCONJOINEDτBENTξINDEX BENTξBOTH BENTξINDEX HI",
      "NGEιFORWARD INDEX STRAIGHTχBENTιHOOKιCURLICUEμVE THUMB INSIDErCLAW INDEX THUMB CURVE THUMB ",
      "INSIDErFIST INDEX THUMB CURVE THUMB UNDERκIRCLErCUP INDEX THUMBη OPENrHINGE INDEX THUMB OPE",
      "NκLARGEιι SMALLrANGLE INDEX THUMB OUTκINιrFIST THUMBβ HEELγSIDE DIAGONALθCONJOINEDθBENTγFOR",
      "WARDγBETWEEN INDEX MIDDLEλMIDDLE RINGλRING LITTLEγUNDER TWO FINGERSγOVER TWO FINGERSγUNDER ",
      "THREE FINGERSιFOUR FINGERSγOVER FOUR RAISED KNUCKLESvv HEELmTOUCH SINGLEsMULTIPLEsBETWEENmG",
      "RASP SINGLEsMULTIPLEsBETWEENmSTRIKE SINGLEtMULTIPLEtBETWEENmBRUSH SINGLEsMULTIPLEsBETWEENmR",
      "UB SINGLEqMULTIPLEqBETWEENmSURFACE SYMBOLSuBETWEENnQUEEZE LARGE SINGLEuSMALL SINGLEuLARGE M",
      "ULTIPLEuSMALL MULTIPLEvEQUENTIALmFLICK LARGE SINGLEsSMALL SINGLEsLARGE MULTIPLEsSMALL MULTI",
      "PLEtEQUENTIALmSQUEEZE FLICK ALTERNATINGmMOVEMENT-HINGE UP DOWN LARGEκSMALLεSEQUENTIALβDOWN ",
      "SEQUENTIALβUP DOWN ALTERNATING LARGEφSMALLβSIDE TO SIDE SCISSORSvWALLPLANE FINGER CONTACTvF",
      "LOORPLANE FINGER CONTACTvWALLPLANE SINGLE STRAIGHT SMALLφMEDIUMφLARGEωGESTνWRIST FLEXζDOUBL",
      "E STRAIGHTνWRIST FLEXνALTERNATINGψ WRIST FLEXζCROSSζTRIPLE STRAIGHT MOVEMENTνWRIST FLEXνALT",
      "ERNATINGψ WRIST FLEXζBEND SMALLλMEDIUMλLARGEζCORNER SMALLνMEDIUMνLARGEνROTATIONηHECK SMALLμ",
      "MEDIUMμLARGEζBOX SMALLκMEDIUMκLARGEζZIGZAG SMALLνMEDIUMνLARGEζPEAKS SMALLμMEDIUMμLARGEmTRAV",
      "EL-WALLPLANE ROTATION-WALLPLANE SINGLEχDOUBLEχALTERNATINGνFLOORPLANE SINGLEψDOUBLEψALTERNAT",
      "INGδSHAKINGδARM SPIRAL SINGLEοDOUBLEοTRIPLEmMOVEMENT-DIAGONAL AWAY SMALLκMEDIUMκLARGEοSTεTO",
      "WARDS SMALLνMEDIUMνLARGEςSTεBETWEEN AWAY SMALLςMEDIUMςLARGEχSTνTOWARDS SMALLυMEDIUMυLARGEωE",
      "STvFLOORPLANE SINGLE STRAIGHT SMALLχMEDIUMχLARGEωRGESTξWRIST FLEXηDOUBLE STRAIGHTξWRIST FLE",
      "XξALTERNATINGω WRIST FLEXηCROSSηTRIPLE STRAIGHT MOVEMENTξWRIST FLEXξALTERNATING MOVEMENTω W",
      "RIST FLEXηBENDηCORNER SMALLξMEDIUMξLARGEθHECKηBOX SMALLλMEDIUMλLARGEηZIGZAG SMALLξMEDIUMξLA",
      "RGEηPEAKS SMALLνMEDIUMνLARGEmTRAVEL-FLOORPLANE ROTATION-FLOORPLANE SINGLEωDOUBLEωALTERNATIN",
      "GξWALLPLANE SINGLEψDOUBLEψALTERNATINGεSHAKINGmMOVEMENT-WALLPLANE CURVE QUARTER SMALLτMEDIUM",
      "τLARGEωSTμHALF-CIRCLE SMALLψMEDIUMψLARGEωARGESTμTHREE-QUARTER CIRCLE SMALLω CIRCLE MEDIUMζH",
      "UMP SMALLλMEDIUMλLARGEζLOOP SMALLλMEDIUMλLARGEλSMALL DOUBLEζWAVE CURVE DOUBLE SMALLψMEDIUMψ",
      "LARGEρTRIPLE SMALLψMEDIUMψLARGEζCURVE THEN STRAIGHTλD CROSS SMALLσMEDIUMmROTATION-WALLPLANE",
      " SINGLEζDOUBLEζALTERNATEmMOVEMENT-WALLPLANE SHAKINGζCURVE HITTING FRONT WALLζHUMP HITTING F",
      "RONT WALLζLOOP HITTING FRONT WALLζWAVE HITTING FRONT WALLmROTATION-WALLPLANE SINGLE HITTING",
      " FRONT WALLζDOUBLE HITTING FRONT WALLζALTERNATING HITTING FRONT WALLmMOVEMENT-WALLPLANE CUR",
      "VE HITTING CHESTζHUMP HITTING CHESTζLOOP HITTING CHESTζWAVE HITTING CHESTmROTATION-WALLPLAN",
      "E SINGLE HITTING CHESTζDOUBLE HITTING CHESTζALTERNATING HITTING CHESTmMOVEMENT-WALLPLANE WA",
      "VE DIAGONAL PATH SMALLωMEDIUMωLARGEvFLOORPLANE CURVE HITTING CEILING SMALLωING LARGEηHUMP H",
      "ITTING CEILING SMALL DOUBLEωNG LARGE DOUBLEωNG SMALL TRIPLEωNG LARGE TRIPLEηLOOP HITTING CE",
      "ILING SMALL SINGLEωNG LARGE SINGLEωNG SMALL DOUBLEωNG LARGE DOUBLEηWAVE HITTING CEILING SMA",
      "LLωNG LARGEmROTATION-FLOORPLANE SINGLE HITTING CEILINGηDOUBLE HITTING CEILINGηALTERNATING H",
      "ITTING CEILINGmMOVEMENT-FLOORPLANE CURVE HITTING FLOOR SMALLωR LARGEηHUMP HITTING FLOOR SMA",
      "LL DOUBLEω LARGE DOUBLEω TRIPLE SMALL TRIPLEω TRIPLE LARGE TRIPLEηLOOP HITTING FLOOR SMALL ",
      "SINGLEω LARGE SINGLEω SMALL DOUBLEω LARGE DOUBLEηWAVE HITTING FLOOR SMALLω LARGEmROTATION-F",
      "LOORPLANE SINGLE HITTING FLOORηDOUBLE HITTING FLOORηALTERNATING HITTING FLOORmMOVEMENT-FLOO",
      "RPLANE CURVE SMALLνMEDIUMνLARGEςSTνCOMBINEDηHUMP SMALLηLOOP SMALLηWAVE SNAKEνMALLμLARGEmROT",
      "ATION-FLOORPLANE SINGLEηDOUBLEηALTERNATINGmMOVEMENT-FLOORPLANE SHAKING PARALLELvWALLPLANE A",
      "RM CIRCLE SMALL SINGLEρMEDIUM SINGLEρSMALL DOUBLEρMEDIUM DOUBLEvFLOORPLANE ARM CIRCLE HITTI",
      "NG WALL SMALL SINGLEω WALL MEDIUM SINGLEω WALL LARGE SINGLEω WALL SMALL DOUBLEω WALL MEDIUM",
      " DOUBLEω WALL LARGE DOUBLEvWALLPLANE WRIST CIRCLE FRONT SINGLEωDOUBLEvFLOORPLANE WRIST CIRC",
      "LE HITTING WALL SINGLEωNG WALL DOUBLEvWALLPLANE FINGER CIRCLES SINGLEυDOUBLEvFLOORPLANE FIN",
      "GER CIRCLES HITTING WALL SINGLEωTING WALL DOUBLEmDYNAMIC ARROWHEAD SMALLεLARGEuFASTuSLOWuTE",
      "NSEuRELAXEDuSIMULTANEOUSη ALTERNATINGuEVERY OTHER TIMEuGRADUALmHEADq RIMrMOVEMENT-WALLPLANE",
      " STRAIGHTλTILTαFLOORPLANE STRAIGHTαWALLPLANE CURVEαFLOORPLANE CURVEz CIRCLEmFACE DIRECTION ",
      "POSITION NOSE FORWARD TILTINGπUP OR DOWNωN TILTINGmEYEBROWS STRAIGHT UPεNEUTRALεDOWNmDREAMY",
      " EYEBROWS NEUTRAL DOWNγDOWN NEUTRALγUP NEUTRALγNEUTRAL UPmFOREHEAD NEUTRALvCONTACTvWRINKLED",
      "mEYES OPENrSQUEEZEDrCLOSEDp BLINK SINGLEwMULTIPLEpS HALF OPENrWIDE OPENrHALF CLOSEDrWIDENIN",
      "G MOVEMENTp WINKpLASHES UPwDOWNwFLUTTERINGpGAZE-WALLPLANE STRAIGHTν DOUBLEξALTERNATINGuFLOO",
      "RPLANE STRAIGHTξ DOUBLEοALTERNATINGuWALLPLANE CURVEDuFLOORPLANE CURVEDuWALLPLANE CIRCLINGmC",
      "HEEKS PUFFEDtNEUTRALtSUCKEDmTENSE CHEEKS HIGHzMIDDLEzLOWmEARSmNOSE NEUTRALrCONTACTrWRINKLES",
      "sIGGLESmAIR BLOWING OUTqSUCKING INqBLOW SMALL ROTATIONSqSUCK SMALL ROTATIONSmBREATH INHALEt",
      "EXHALEmMOUTH CLOSED NEUTRALzFORWARDzCONTACTsSMILEx WRINKLEDyOPENsFROWNx WRINKLEDyOPENsOPEN ",
      "CIRCLExFORWARDxWRINKLEDxOVALβ WRINKLEDγYAWNxRECTANGLEη WRINKLEDθYAWNsKISSw FORWARDxWRINKLED",
      "sTENSEx FORWARDySUCKEDmLIPS PRESSED TOGETHERp LOWER OVER UPPERqUPPER OVER LOWERmMOUTH CORNE",
      "RSsWRINKLES SINGLEβDOUBLEmTONGUE STICKING OUT FARtLICKING LIPStTIP BETWEEN LIPSxTOUCHING IN",
      "SIDE MOUTHtINSIDE MOUTH RELAXEDtMOVES AGAINST CHEEKtCENTRE STICKING OUTαINSIDE MOUTHnEETHr ",
      "MOVEMENTsON TONGUEβ MOVEMENTvLIPSz MOVEMENTsBITE LIPSmMOVEMENT-WALLPLANE JAWvFLOORPLANE JAW",
      "mNECKmHAIRmEXCITEMENTmSHOULDER HIP SPINEzPOSITIONSmWALLPLANE SHOULDER HIP MOVEmFLOORPLANE S",
      "HOULDER HIP MOVEmSHOULDER TILTING FROM WAISTmTORSO-WALLPLANE STRAIGHT STRETCHγCURVED BENDsF",
      "LOORPLANE TWISTINGmUPPER BODY TILTING FROM HIP JOINTSmLIMB COMBINATIONrLENGTH-1y2y3y4y5y6y7",
      "mFINGERmLOCATION-WALLPLANE SPACEvFLOORPLANE SPACEu HEIGHTvWIDTHvDEPTHvHEAD NECKvTORSOvLIMBS",
      " DIGITSmCOMMAmFULL STOPmSEMICOLONmCOLONmPARENTHESIS"]),
    (0x1DA9B, ["SIGNWRITING FILL MODIFIER-2α3α4α5α6"]),
    (0x1DAA1, ["SIGNWRITING ROTATION MODIFIER-2ε3ε4ε5ε6ε7ε8ε9ε10ζ1ζ2ζ3ζ4ζ5ζ6"]),
    (0x1DF00, ["LATIN SMALL LETTER FENG DIGRAPH WITH TRILLtREVERSED SCRIPT GgLETTER SMALL CAPITAL ",
      "TURNED GgSMALL LETTER REVERSED KgLETTER SMALL CAPITAL L WITH BELTgSMALL LETTER LEZH WITH RE",
      "TROFLEX HOOKtTURNED Y WITH BELTtREVERSED ENGtTURNED R WITH LONG LEG AND RETROFLEX HOOKu WIT",
      "H HOOK AND RETROFLEX HOOKgLETTER RETROFLEX CLICK WITH RETROFLEX HOOKgSMALL LETTER ESH WITH ",
      "DOUBLE BARν AND CURLtTURNED T WITH CURLgLETTER INVERTED GLOTTAL STOP WITH CURLnSTRETCHED C ",
      "WITH CURLoMALL CAPITAL TURNED KgSMALL LETTER L WITH FISHHOOKtDEZH DIGRAPH WITH PALATAL HOOK",
      "tL WITH BELT AND PALATAL HOOKtENG WITH PALATAL HOOKtTURNED R WITH PALATAL HOOKtR WITH FISHH",
      "OOK AND PALATAL HOOKtTESH DIGRAPH WITH PALATAL HOOKtEZH WITH PALATAL HOOKtDEZH DIGRAPH WITH",
      " RETROFLEX HOOKtI WITH STROKE AND RETROFLEX HOOKtO WITH RETROFLEX HOOKtTESH DIGRAPH WITH RE",
      "TROFLEX HOOKtC WITH RETROFLEX HOOKtS WITH CURL"]),
    (0x1E000, ["COMBINING GLAGOLITIC LETTER AZUγBUKYγVEDEγGLAGOLIγDOBROγYESTUγZHIVETE"]),
    (0x1E008, ["COMBINING GLAGOLITIC LETTER ZEMLJAγIZHEδNITIAL IZHEδγDJERVIγKAKOγLJUDIJEγMYSLITEγN",
      "ASHIγONUγPOKOJIγRITSIγSLOVOγTVRIDOγUKUγFRITUγHERU"]),
    (0x1E01B, ["COMBINING GLAGOLITIC LETTER SHTAγTSIγCHRIVIγSHAγYERUζIδATI"]),
    (0x1E023, ["COMBINING GLAGOLITIC LETTER YUγSMALL YUS"]),
    (0x1E026, ["COMBINING GLAGOLITIC LETTER YOγIOTATED SMALL YUSγBIG YUSγIOTATED BIG YUSγFITA"]),
    (0x1E100, ["NYIAKENG PUACHUE HMONG LETTER MAεTSAεNTAεTAεHAεNAεXAεNKAεCAεLAεSAεZAεNCAζTSAεKAεDA",
      "εNYAζRAεVAεNTXAεTXAεFAεRAεQAεYAεNQAεPAεXYAεNPAεDLAεNPLAεHAHεMLAεPLAεGAεRRAεAζAεIεUεOζOεEζEε",
      "W"]),
    (0x1E130, ["NYIAKENG PUACHUE HMONG TONE-BγMγJγVγSγGγDxSIGN FOR PERSONηTHINGηLOCATIONηANIMALηIN",
      "VERTEBRATEγXW XWyYLLABLE LENGTHENER"]),
    (0x1E140, ["NYIAKENG PUACHUE HMONG DIGIT ZEROδONEδTWOεHREEδFOURεIVEδSIXεEVENδEIGHTδNINE"]),
    (0x1E14E, ["NYIAKENG PUACHUE HMONG LOGOGRAM NYAJxCIRCLED CA"]),
    (0x1E290, ["TOTO LETTER PAmBAmTAmDAmKAmGAmMAmNAnGAmSAmCHAmYAmWAmJAmHAmRAmLAmImBREATHY ImIUmBRE",
      "ATHY IUmUmEmBREATHY EmEOmBREATHY EOmOmAEmBREATHY AEmAfSIGN RISING TONE"]),
    (0x1E2C0, ["WANCHO LETTER AApoBAoCAoDAoGAoYAoPHAoLAoNAoPAoTApHAoFAoSApHAoJAoZAoWAoVAoKAoOoAUoR",
      "AoMAoKHAoHAoEoIoNGAoUoLLHAoTSApRAoONGoAANGpNGoINGoONoENoAANoNYAoUENoYIHhTONE TUPpNImKOIpNIh",
      "DIGIT ZEROnONEnTWOoHREEnFOURoIVEnSIXoEVENnEIGHTnNINE"]),
    (0x1E2FF, ["WANCHO NGUN SIGN"]), (0x1E7E0, ["ETHIOPIC SYLLABLE HHYAvUvIvAAvEEwvO"]),
    (0x1E7E8, ["ETHIOPIC SYLLABLE GURAGE HHWAsHHWIvEEw"]),
    (0x1E7ED, ["ETHIOPIC SYLLABLE GURAGE MWIβEE"]),
    (0x1E7F0, ["ETHIOPIC SYLLABLE GURAGE QWIβEEγzBWIβEEzKWIβEEγzGWIβEEγzFWIβEEzPWIβEE"]),
    (0x1E800, ["MENDE KIKAKUI SYLLABLE M001 KIα2 KAα3 KUz65 KEEz95 KEz76 KOOz48 KOy179 KUAy004 WIα",
      "5 WAα6 WUy126 WEEz18 WEα4 WOOy045 WOy194 WUIz43 WEIy061 WVIz49 WVAy139 WVEy007 MINα8 MANα9 ",
      "MUNz59 MENz94 MONy154 MUANz89 MUENy010 BIα1 BAα2 BUy150 BEEy097 BEy103 BOOz38 BOy013 Iα4 Aα",
      "5 Uy163 EEz00 Ez65 OOz47 Oz37 EIα1 INα5 INz95 ANz78 ENy019 SIz20 SAα1 SUy162 SEEz16 SEz36 S",
      "OOy079 SOy196 SIAy025 LIα6 LAα7 LUz84 LEEz73 LEz54 LOOy153 LOz10 LONG LEy016 DIα7 DAα8 DUz8",
      "9 DEEy180 DOOα1 DOy022 TIα3 TAα4 TUz91 TEEz55 TEy104 TOOy069 TOz28 JIα9 JAz30 JUy157 JEEz13",
      " JEz60 JOOy063 JOy175 LONG JOy031 YIα2 YAα3 YUy109 YEEy080 YEy141 YOOz21 YOy034 FIα5 FAα6 F",
      "Uz78 FEEα5 FEy133 FOOy088 FOy197 FUAz01 FANy037 NINα8 NANα9 NUNy117 NENz69 NONz76 HIy041 HA",
      "y186 HUy040 HEEz96 HEz42 HOOy140 HOy083 HEEIy128 HOOUy053 HINy130 HANy087 HUNz52 HENy193 HO",
      "Ny046 HUANz90 NGGIz43 NGGAz82 NGGUy115 NGGEEz46 NGGEz56 NGGOOz20 NGGOz59 NGGAAz27 NGGUAy086",
      " LONG NGGEy106 LONG NGGOOz83 LONG NGGOz55 GIz11 GAz68 GUz90 GEEz66 GUEIα7 GUANz84 NGENy057 ",
      "NGONy177 NGUANy068 PIz99 PAz50 PUz81 PEEz51 PEy102 POOy066 POy145 MBIy062 MBAy122 MBUy047 M",
      "BEEy188 MBEEy072 MBEy172 MBOOα4 MBOz87 MBUUz61 LONG MBEz05 LONG MBOOz42 LONG MBOz32 KPIy092",
      " KPAz74 KPUz44 KPEEy108 KPEz12 KPOOz58 KPOz24 GBIy056 GBAy148 GBUy093 GBEEy107 GBEy071 GBOO",
      "α0 GBOy171 RAz23 NDIα9 NDAα5 NDUz91 NDEEz19 NDEy067 NDOOα4 NDOy152 NJAz92 NJUz49 NJEEz34 NJ",
      "OOz82 VIα5 VAz51 VUz73 VEEy085 VEy144 VOOy077 VOy164 NYINy058 NYANy170 NYUNy098 NYENz60 NYO",
      "N"]),
    (0x1E8C7, ["MENDE KIKAKUI DIGIT ONEuTWOvHREEuFOURvIVEuSIXvEVENuEIGHTuNINEoCOMBINING NUMBER TEE",
      "NSθNSζHUNDREDSζTHOUSANDSηEN THOUSANDSζHUNDRED THOUSANDSζMILLIONS"]),
    (0x1E900, ["ADLAM CAPITAL LETTER ALIFvDAALIvLAAMvMIIMvBAvSINNYIIYHEvPEvBHEvRAvEvFAvIvOvDHAvYHE",
      "vWAWvNUNvKAFvYAvUvJIIMvCHIvHAvQAAFvGAvNYAvTUvNHAvVAvKHAvGBEvZALvKPOvSHAgSMALL LETTER ALIFtD",
      "AALItLAAMtMIIMtBAtSINNYIIYHEtPEtBHEtRAtEtFAtItOtDHAtYHEtWAWtNUNtKAFtYAtUtJIIMtCHItHAtQAAFtG",
      "AtNYAtTUtNHAtVAtKHAtGBEtZALtKPOtSHAgALIF LENGTHENERgVOWEL LENGTHENERgGEMINATION MARKgHAMZAg",
      "CONSONANT MODIFIERgGEMINATE CONSONANT MODIFIERgNUKTAhASALIZATION MARK"]),
    (0x1E950, ["ADLAM DIGIT ZEROmONEmTWOnHREEmFOURnIVEmSIXnEVENmEIGHTmNINE"]),
    (0x1E95E, ["ADLAM INITIAL EXCLAMATION MARKoQUESTION MARK"]),
    (0x1EC71, ["INDIC SIYAQ NUMBER ONEtTWOuHREEtFOURuIVEtSIXuEVENtEIGHTtNINEtTENuWENTYuHIRTYtFORTY",
      "uIFTYtSIXTYuEVENTYtEIGHTYtNINETYtONE HUNDREDtTWO HUNDREDuHREE HUNDREDtFOUR HUNDREDuIVE HUND",
      "REDtSIX HUNDREDuEVEN HUNDREDtEIGHT HUNDREDtNINE HUNDREDtONE THOUSANDtTWO THOUSANDuHREE THOU",
      "SANDtFOUR THOUSANDuIVE THOUSANDtSIX THOUSANDuEVEN THOUSANDtEIGHT THOUSANDtNINE THOUSANDtTEN",
      " THOUSANDuWENTY THOUSANDuHIRTY THOUSANDtFORTY THOUSANDuIFTY THOUSANDtSIXTY THOUSANDuEVENTY ",
      "THOUSANDtEIGHTY THOUSANDtNINETY THOUSANDtLAKHxANmLAKH MARKmNUMBER KARORyANtPREFIXED ONEγTWO",
      "δHREEγFOURδIVEγSIXδEVENγEIGHTγNINEmPLACEHOLDERmFRACTION ONE QUARTERzHALFvTHREE QUARTERSmRUP",
      "EE MARKmNUMBER ALTERNATE ONEδTWOεEN THOUSANDmALTERNATE LAKH MARK"]),
    (0x1ED01, ["OTTOMAN SIYAQ NUMBER ONEvTWOwHREEvFOURwIVEvSIXwEVENvEIGHTvNINEvTENwWENTYwHIRTYvFOR",
      "TYwIFTYvSIXTYwEVENTYvEIGHTYvNINETYvONE HUNDREDvTWO HUNDREDwHREE HUNDREDvFOUR HUNDREDwIVE HU",
      "NDREDvSIX HUNDREDwEVEN HUNDREDvEIGHT HUNDREDvNINE HUNDREDvONE THOUSANDvTWO THOUSANDwHREE TH",
      "OUSANDvFOUR THOUSANDwIVE THOUSANDvSIX THOUSANDwEVEN THOUSANDvEIGHT THOUSANDvNINE THOUSANDvT",
      "EN THOUSANDwWENTY THOUSANDwHIRTY THOUSANDvFORTY THOUSANDwIFTY THOUSANDvSIXTY THOUSANDwEVENT",
      "Y THOUSANDvEIGHTY THOUSANDvNINETY THOUSANDoMARRATANoALTERNATE NUMBER TWOηHREEζFOURηIVEζSIXη",
      "EVENζEIGHTζNINEζTENζFOUR HUNDREDζSIX HUNDREDζTWO THOUSANDηEN THOUSANDoFRACTION ONE HALFβSIX",
      "TH"]),
    (0x1EE00, ["ARABIC MATHEMATICAL ALEFuBEHuJEEMuDAL"]),
    (0x1EE05, ["ARABIC MATHEMATICAL WAWuZAINuHAHuTAHuYEHuKAFuLAMuMEEMuNOONuSEENuAINuFEHuSADuQAFuRE",
      "HuSHEENuTEHvHEHuKHAHuTHALuDADuZAHuGHAINuDOTLESS BEHγNOONγFEHγQAF"]),
    (0x1EE21, ["ARABIC MATHEMATICAL INITIAL BEHγJEEM"]),
    (0x1EE24, ["ARABIC MATHEMATICAL INITIAL HEH"]), (0x1EE27, ["ARABIC MATHEMATICAL INITIAL HAH"]),
    (0x1EE29, ["ARABIC MATHEMATICAL INITIAL YEHγKAFγLAMγMEEMγNOONγSEENγAINγFEHγSADγQAF"]),
    (0x1EE34, ["ARABIC MATHEMATICAL INITIAL SHEENγTEHδHEHγKHAH"]),
    (0x1EE39, ["ARABIC MATHEMATICAL INITIAL DAD"]),
    (0x1EE3B, ["ARABIC MATHEMATICAL INITIAL GHAIN"]),
    (0x1EE42, ["ARABIC MATHEMATICAL TAILED JEEM"]), (0x1EE47, ["ARABIC MATHEMATICAL TAILED HAH"]),
    (0x1EE49, ["ARABIC MATHEMATICAL TAILED YEH"]), (0x1EE4B, ["ARABIC MATHEMATICAL TAILED LAM"]),
    (0x1EE4D, ["ARABIC MATHEMATICAL TAILED NOONβSEENβAIN"]),
    (0x1EE51, ["ARABIC MATHEMATICAL TAILED SADβQAF"]),
    (0x1EE54, ["ARABIC MATHEMATICAL TAILED SHEEN"]), (0x1EE57, ["ARABIC MATHEMATICAL TAILED KHAH"]),
    (0x1EE59, ["ARABIC MATHEMATICAL TAILED DAD"]), (0x1EE5B, ["ARABIC MATHEMATICAL TAILED GHAIN"]),
    (0x1EE5D, ["ARABIC MATHEMATICAL TAILED DOTLESS NOON"]),
    (0x1EE5F, ["ARABIC MATHEMATICAL TAILED DOTLESS QAF"]),
    (0x1EE61, ["ARABIC MATHEMATICAL STRETCHED BEHεJEEM"]),
    (0x1EE64, ["ARABIC MATHEMATICAL STRETCHED HEH"]),
    (0x1EE67, ["ARABIC MATHEMATICAL STRETCHED HAHεTAHεYEHεKAF"]),
    (0x1EE6C, ["ARABIC MATHEMATICAL STRETCHED MEEMεNOONεSEENεAINεFEHεSADεQAF"]),
    (0x1EE74, ["ARABIC MATHEMATICAL STRETCHED SHEENεTEHζHEHεKHAH"]),
    (0x1EE79, ["ARABIC MATHEMATICAL STRETCHED DADεZAHεGHAINεDOTLESS BEH"]),
    (0x1EE7E, ["ARABIC MATHEMATICAL STRETCHED DOTLESS FEH"]),
    (0x1EE80, ["ARABIC MATHEMATICAL LOOPED ALEFβBEHβJEEMβDALβHEHβWAWβZAINβHAHβTAHβYEH"]),
    (0x1EE8B, ["ARABIC MATHEMATICAL LOOPED LAMβMEEMβNOONβSEENβAINβFEHβSADβQAFβREHβSHEENβTEHγHEHβKH",
      "AHβTHALβDADβZAHβGHAIN"]),
    (0x1EEA1, ["ARABIC MATHEMATICAL DOUBLE-STRUCK BEHιJEEMιDAL"]),
    (0x1EEA5, ["ARABIC MATHEMATICAL DOUBLE-STRUCK WAWιZAINιHAHιTAHιYEH"]),
    (0x1EEAB, ["ARABIC MATHEMATICAL DOUBLE-STRUCK LAMιMEEMιNOONιSEENιAINιFEHιSADιQAFιREHιSHEENιTEH",
      "κHEHιKHAHιTHALιDADιZAHιGHAIN"]),
    (0x1EEF0, ["ARABIC MATHEMATICAL OPERATOR MEEM WITH HAH WITH TATWEELδHAH WITH DAL"]),
    (0x1F000, ["MAHJONG TILE EAST WINDnSOUTH WINDnWEST WINDnNORTH WINDnRED DRAGONnGREEN DRAGONnWHI",
      "TE DRAGONnONE OF CHARACTERSnTWO OF CHARACTERSoHREE OF CHARACTERSnFOUR OF CHARACTERSoIVE OF ",
      "CHARACTERSnSIX OF CHARACTERSoEVEN OF CHARACTERSnEIGHT OF CHARACTERSnNINE OF CHARACTERSnONE ",
      "OF BAMBOOSnTWO OF BAMBOOSoHREE OF BAMBOOSnFOUR OF BAMBOOSoIVE OF BAMBOOSnSIX OF BAMBOOSoEVE",
      "N OF BAMBOOSnEIGHT OF BAMBOOSnNINE OF BAMBOOSnONE OF CIRCLESnTWO OF CIRCLESoHREE OF CIRCLES",
      "nFOUR OF CIRCLESoIVE OF CIRCLESnSIX OF CIRCLESoEVEN OF CIRCLESnEIGHT OF CIRCLESnNINE OF CIR",
      "CLESnPLUMnORCHIDnBAMBOOnCHRYSANTHEMUMnSPRINGoUMMERnAUTUMNnWINTERnJOKERnBACK"]),
    (0x1F030, ["DOMINO TILE HORIZONTAL BACKw-00-00β1β2β3β4β5β6y1-00β1β2β3β4β5β6y2-00β1β2β3β4β5β6y3",
      "-00β1β2β3β4β5β6y4-00β1β2β3β4β5β6y5-00β1β2β3β4β5β6y6-00β1β2β3β4β5β6mVERTICAL BACKu-00-00z1z2",
      "z3z4z5z6w1-00z1z2z3z4z5z6w2-00z1z2z3z4z5z6w3-00z1z2z3z4z5z6w4-00z1z2z3z4z5z6w5-00z1z2z3z4z5",
      "z6w6-00z1z2z3z4z5z6"]),
    (0x1F0A0, ["PLAYING CARD BACKnACE OF SPADESnTWO OF SPADESoHREE OF SPADESnFOUR OF SPADESoIVE OF",
      " SPADESnSIX OF SPADESoEVEN OF SPADESnEIGHT OF SPADESnNINE OF SPADESnTEN OF SPADESnJACK OF S",
      "PADESnKNIGHT OF SPADESnQUEEN OF SPADESnKING OF SPADES"]),
    (0x1F0B1, ["PLAYING CARD ACE OF HEARTSnTWO OF HEARTSoHREE OF HEARTSnFOUR OF HEARTSoIVE OF HEAR",
      "TSnSIX OF HEARTSoEVEN OF HEARTSnEIGHT OF HEARTSnNINE OF HEARTSnTEN OF HEARTSnJACK OF HEARTS",
      "nKNIGHT OF HEARTSnQUEEN OF HEARTSnKING OF HEARTSnRED JOKER"]),
    (0x1F0C1, ["PLAYING CARD ACE OF DIAMONDSnTWO OF DIAMONDSoHREE OF DIAMONDSnFOUR OF DIAMONDSoIVE",
      " OF DIAMONDSnSIX OF DIAMONDSoEVEN OF DIAMONDSnEIGHT OF DIAMONDSnNINE OF DIAMONDSnTEN OF DIA",
      "MONDSnJACK OF DIAMONDSnKNIGHT OF DIAMONDSnQUEEN OF DIAMONDSnKING OF DIAMONDSnBLACK JOKER"]),
    (0x1F0D1, ["PLAYING CARD ACE OF CLUBSnTWO OF CLUBSoHREE OF CLUBSnFOUR OF CLUBSoIVE OF CLUBSnSI",
      "X OF CLUBSoEVEN OF CLUBSnEIGHT OF CLUBSnNINE OF CLUBSnTEN OF CLUBSnJACK OF CLUBSnKNIGHT OF ",
      "CLUBSnQUEEN OF CLUBSnKING OF CLUBSnWHITE JOKERnFOOLnTRUMP-1t2t3t4t5t6t7t8t9t10u1u2u3u4u5u6u",
      "7u8u9t20u1"]),
    (0x1F100, ["DIGIT ZERO FULL STOPlCOMMAgONE COMMAgTWO COMMAhHREE COMMAgFOUR COMMAhIVE COMMAgSIX",
      " COMMAhEVEN COMMAgEIGHT COMMAgNINE COMMAcNGBAT CIRCLED SANS-SERIF DIGIT ZEROiNEGATIVE CIRCL",
      "ED SANS-SERIF DIGIT ZEROaCIRCLED ZERO WITH SLASHiANTICLOCKWISE ARROWiDOLLAR SIGN WITH OVERL",
      "AID BACKSLASHaPARENTHESIZED LATIN CAPITAL LETTER AκBκCκDκEκFκGκHκIκJκKκLκMκNκOκPκQκRκSκTκUκ",
      "VκWκXκYκZaTORTOISE SHELL BRACKETED LATIN CAPITAL LETTER SaCIRCLED ITALIC LATIN CAPITAL LETT",
      "ER CλRiCDiWZbOPYLEFT SYMBOLaSQUARED LATIN CAPITAL LETTER AδBδCδDδEδFδGδHδIδJδKδLδMδNδOδPδQδ",
      "RδSδTδUδVδWδXδYδZiHViMViSDjSiPPViWCaNEGATIVE CIRCLED LATIN CAPITAL LETTER AνBνCνDνEνFνGνHνI",
      "νJνKνLνMνNνOνPνQνRνSνTνUνVνWνXνYνZaRAISED MC SIGNiD SIGNiR SIGNaCIRCLED CCj WITH OVERLAID B",
      "ACKSLASHiHUMAN FIGUREaNEGATIVE SQUARED LATIN CAPITAL LETTER AνBνCνDνEνFνGνHνIνJνKνLνMνNνOνP",
      "νQνRνSνTνUνVνWνXνYνZaCROSSED NEGATIVE SQUARED LATIN CAPITAL LETTER PaNEGATIVE SQUARED ICrPA",
      "rSArABrWCaSQUARE DJgD CLjOOLiFREEiIDiNEWjGiOKiSOSiUP WITH EXCLAMATION MARKiVSiTHREE DiSECON",
      "D SCREENiTWO KiFOUR KiEIGHT KiFIVE POINT ONEiSEVEN POINT ONEiTWENTY-TWO POINT TWOiSIXTY PiO",
      "NE HUNDRED TWENTY PiLATIN SMALL LETTER DiHCjDRjI-RESiLOSSLESSiSHViUHDiVODaMASK WORK SYMBO",
      "L"]),
    (0x1F1E6, ["REGIONAL INDICATOR SYMBOL LETTER AθBθCθDθEθFθGθHθIθJθKθLθMθNθOθPθQθRθSθTθUθVθWθXθY",
      "θZaSQUARE HIRAGANA HOKAgD KATAKANA KOKOrSA"]),
    (0x1F210, ["SQUARED CJK UNIFIED IDEOGRAPH-624Bε5B57ζ3CCiKATAKANA DEiCJK UNIFIED IDEOGRAPH-4E8C",
      "ε591Aε89E3ε5929ε4EA4ε6620ε7121ε6599ε524DζF8Cζ18Dε65B0ε521Dε7D42ζ51Fε8CA9ε58F0ζ439ε6F14ζ295ζ",
      "355ε4E00θ9ε904Aε5DE6ε4E2Dε53F3ε6307ε8D70ε6253ε7981ζA7Aε5408ε6E80ζ709θ8ε7533ε5272ζ5B6ε914D"]),
    (0x1F240, ["TORTOISE SHELL BRACKETED CJK UNIFIED IDEOGRAPH-672Cφ4E09ψ8Cφ5B89φ70B9φ6253φ76D7φ52",
      "DDφ6557"]),
    (0x1F250, ["CIRCLED IDEOGRAPH ADVANTAGEtCCEPT"]),
    (0x1F260, ["ROUNDED SYMBOL FOR FUtLUtSHOUtXItSHUANGXItCAI"]),
    (0x1F300, ["CYCLONEaFOGGYaCLOSED UMBRELLAaNIGHT WITH STARSaSUNRISE OVER MOUNTAINShaCITYSCAPE A",
      "T DUSKaSUNSET OVER BUILDINGSaRAINBOWaBRIDGE AT NIGHTaWATER WAVEaVOLCANOaMILKY WAYaEARTH GLO",
      "BE EUROPE-AFRICAmAMERICASnSIA-AUSTRALIAaGLOBE WITH MERIDIANSaNEW MOON SYMBOLaWAXING CRESCEN",
      "T MOON SYMBOLaFIRST QUARTER MOON SYMBOLaWAXING GIBBOUS MOON SYMBOLaFULL MOON SYMBOLaWANING ",
      "GIBBOUS MOON SYMBOLaLAST QUARTER MOON SYMBOLaWANING CRESCENT MOON SYMBOLaCRESCENT MOONaNEW ",
      "MOON WITH FACEaFIRST QUARTER MOON WITH FACEaLAST QUARTER MOON WITH FACEaFULL MOON WITH FACE",
      "aSUN WITH FACEaGLOWING STARaSHOOTING STARaTHERMOMETERaBLACK DROPLETaWHITE SUNj WITH SMALL C",
      "LOUDkBEHIND CLOUDw WITH RAINaCLOUD WITH RAINlSNOWlLIGHTNINGlTORNADOaFOGaWIND BLOWING FACEaH",
      "OT DOGaTACOaBURRITOaCHESTNUTaSEEDLINGaEVERGREEN TREEaDECIDUOUS TREEaPALM TREEaCACTUSaHOT PE",
      "PPERaTULIPaCHERRY BLOSSOMaROSEaHIBISCUSaSUNFLOWERaBLOSSOMaEAR OF MAIZEhRICEaHERBaFOUR LEAF ",
      "CLOVERaMAPLE LEAFaFALLEN LEAFaLEAF FLUTTERING IN WINDaMUSHROOMaTOMATOaAUBERGINEaGRAPESaMELO",
      "NaWATERMELONaTANGERINEaLEMONaBANANAaPINEAPPLEaRED APPLEaGREEN APPLEaPEARdCHaCHERRIESaSTRAWB",
      "ERRYaHAMBURGERaSLICE OF PIZZAaMEAT ON BONEaPOULTRY LEGaRICE CRACKERfBALLaCOOKED RICEbURRY A",
      "ND RICEaSTEAMING BOWLbPAGHETTIaBREADaFRENCH FRIESaROASTED SWEET POTATOaDANGOaODENaSUSHIaFRI",
      "ED SHRIMPbISH CAKE WITH SWIRL DESIGNaSOFT ICE CREAMbHAVED ICEaICE CREAMaDOUGHNUTaCOOKIEbHOC",
      "OLATE BARbANDYaLOLLIPOPaCUSTARDaHONEY POTaSHORTCAKEaBENTO BOXaPOT OF FOODaCOOKINGaFORK AND ",
      "KNIFEaTEACUP WITHOUT HANDLEaSAKE BOTTLE AND CUPaWINE GLASSaCOCKTAIL GLASSaTROPICAL DRINKaBE",
      "ER MUGaCLINKING BEER MUGSaBABY BOTTLEaFORK AND KNIFE WITH PLATEaBOTTLE WITH POPPING CORKaPO",
      "PCORNaRIBBONaWRAPPED PRESENTaBIRTHDAY CAKEaJACK-O-LANTERNaCHRISTMAS TREEaFATHER CHRISTMASbI",
      "REWORKSi SPARKLERaBALLOONaPARTY POPPERaCONFETTI BALLaTANABATA TREEaCROSSED FLAGSaPINE DECOR",
      "ATIONaJAPANESE DOLLSaCARP STREAMERaWIND CHIMEaMOON VIEWING CEREMONYaSCHOOL SATCHELaGRADUATI",
      "ON CAPaHEART WITH TIP ON THE LEFTaBOUQUET OF FLOWERSaMILITARY MEDALaREMINDER RIBBONaMUSICAL",
      " KEYBOARD WITH JACKSaSTUDIO MICROPHONEaLEVEL SLIDERaCONTROL KNOBSaBEAMED ASCENDING MUSICAL ",
      "NOTEShDESCENDING MUSICAL NOTESaFILM FRAMESaADMISSION TICKETSaCAROUSEL HORSEaFERRIS WHEELaRO",
      "LLER COASTERaFISHING POLE AND FISHaMICROPHONEbOVIE CAMERAaCINEMAaHEADPHONEaARTIST PALETTEaT",
      "OP HATaCIRCUS TENTaTICKETaCLAPPER BOARDaPERFORMING ARTSaVIDEO GAMEaDIRECT HITaSLOT MACHINEa",
      "BILLIARDSaGAME DIEaBOWLINGaFLOWER PLAYING CARDSaMUSICAL NOTEcLTIPLE MUSICAL NOTESaSAXOPHONE",
      "aGUITARaMUSICAL KEYBOARDaTRUMPETaVIOLINaMUSICAL SCOREaRUNNING SHIRT WITH SASHaTENNIS RACQUE",
      "T AND BALLaSKI AND SKI BOOTaBASKETBALL AND HOOPaCHEQUERED FLAGaSNOWBOARDERaRUNNERaSURFERbPO",
      "RTS MEDALaTROPHYaHORSE RACINGaAMERICAN FOOTBALLaRUGBY FOOTBALLaSWIMMERaWEIGHT LIFTERaGOLFER",
      "aRACING MOTORCYCLEhCARaCRICKET BAT AND BALLaVOLLEYBALLaFIELD HOCKEY STICK AND BALLaICE HOCK",
      "EY STICK AND PUCKaTABLE TENNIS PADDLE AND BALLaSNOW CAPPED MOUNTAINaCAMPINGaBEACH WITH UMBR",
      "ELLAbUILDING CONSTRUCTIONaHOUSE BUILDINGSaCITYSCAPEaDERELICT HOUSE BUILDINGaCLASSICAL BUILD",
      "INGaDESERTg ISLANDaNATIONAL PARKaSTADIUMaHOUSE BUILDINGgWITH GARDENaOFFICE BUILDINGaJAPANES",
      "E POST OFFICEaEUROPEAN POST OFFICEaHOSPITALaBANKaAUTOMATED TELLER MACHINEaHOTELaLOVE HOTELa",
      "CONVENIENCE STOREaSCHOOLaDEPARTMENT STOREaFACTORYaIZAKAYA LANTERNaJAPANESE CASTLEaEUROPEAN ",
      "CASTLEaWHITE PENNANTaBLACK PENNANTaWAVING WHITE FLAGhBLACK FLAGaROSETTEaBLACK ROSETTEaLABEL",
      "aBADMINTON RACQUET AND SHUTTLECOCKbOW AND ARROWaAMPHORAaEMOJI MODIFIER FITZPATRICK TYPE-1-2",
      "η3η4η5η6aRATaMOUSEaOXaWATER BUFFALOaCOWaTIGERaLEOPARDaRABBITaCATaDRAGONaCROCODILEaWHALEaSNA",
      "ILdKEaHORSEaRAMaGOATaSHEEPaMONKEYaROOSTERaCHICKENaDOGaPIGaBOARaELEPHANTaOCTOPUSaSPIRAL SHEL",
      "LaBUGaANTaHONEYBEEaLADY BEETLEaFISHaTROPICAL FISHaBLOWFISHaTURTLEaHATCHING CHICKaBABY CHICK",
      "aFRONT-FACING BABY CHICKaBIRDaPENGUINaKOALAaPOODLEaDROMEDARY CAMELaBACTRIAN CAMELaDOLPHINaM",
      "OUSE FACEaCOW FACEaTIGER FACEaRABBIT FACEaCAT FACEaDRAGON FACEaSPOUTING WHALEaHORSE FACEaMO",
      "NKEY FACEaDOG FACEaPIG FACEaFROG FACEaHAMSTER FACEaWOLF FACEaBEAR FACEaPANDA FACEbIG NOSEbA",
      "W PRINTSaCHIPMUNKaEYESdbARaNOSEaMOUTHaTONGUEaWHITE UP POINTING BACKHAND INDEXgDOWN POINTING",
      " BACKHAND INDEXgLEFT POINTING BACKHAND INDEXgRIGHT POINTING BACKHAND INDEXaFISTED HAND SIGN",
      "aWAVING HAND SIGNaOK HAND SIGNaTHUMBS UP SIGNhDOWN SIGNaCLAPPING HANDS SIGNaOPEN HANDS SIGN",
      "aCROWNaWOMANS HATaEYEGLASSESaNECKTIEaT-SHIRTaJEANSaDRESSaKIMONOaBIKINIaWOMANS CLOTHESaPURSE",
      "aHANDBAGaPOUCHaMANS SHOEaATHLETIC SHOEaHIGH-HEELED SHOEaWOMANS SANDALhBOOTSaFOOTPRINTSaBUST",
      " IN SILHOUETTEeS IN SILHOUETTEbOYaGIRLaMANaWOMANaFAMILYaMAN AND WOMAN HOLDING HANDSaTWO MEN",
      " HOLDING HANDSeWOMEN HOLDING HANDSaPOLICE OFFICERaWOMAN WITH BUNNY EARSaBRIDE WITH VEILaPER",
      "SON WITH BLOND HAIRaMAN WITH GUA PI MAOjTURBANaOLDER MANgWOMANaBABYaCONSTRUCTION WORKERaPRI",
      "NCESSaJAPANESE OGREjGOBLINaGHOSTaBABY ANGELaEXTRATERRESTRIAL ALIENaALIEN MONSTERaIMPaSKULLa",
      "INFORMATION DESK PERSONaGUARDSMANaDANCERaLIPSTICKaNAIL POLISHaFACE MASSAGEaHAIRCUTaBARBER P",
      "OLEaSYRINGEaPILLaKISS MARKaLOVE LETTERaRINGaGEM STONEaKISSaBOUQUETaCOUPLE WITH HEARTaWEDDIN",
      "GaBEATING HEARTbROKEN HEARTaTWO HEARTSaSPARKLING HEARTaGROWING HEARTaHEART WITH ARROWaBLUE ",
      "HEARTaGREEN HEARTaYELLOW HEARTaPURPLE HEARTaHEART WITH RIBBONaREVOLVING HEARTSaHEART DECORA",
      "TIONaDIAMOND SHAPE WITH A DOT INSIDEaELECTRIC LIGHT BULBaANGER SYMBOLaBOMBaSLEEPING SYMBOLa",
      "COLLISION SYMBOLaSPLASHING SWEAT SYMBOLaDROPLETbASH SYMBOLaPILE OF POOaFLEXED BICEPSaDIZZY ",
      "SYMBOLaSPEECH BALLOONaTHOUGHT BALLOONaWHITE FLOWERaHUNDRED POINTS SYMBOLaMONEY BAGaCURRENCY",
      " EXCHANGEaHEAVY DOLLAR SIGNaCREDIT CARDaBANKNOTE WITH YEN SIGNoDOLLAR SIGNoEURO SIGNoPOUND ",
      "SIGNaMONEY WITH WINGSaCHART WITH UPWARDS TREND AND YEN SIGNaSEATaPERSONAL COMPUTERaBRIEFCAS",
      "EaMINIDISCaFLOPPY DISKaOPTICAL DISCaDVDaFILE FOLDERaOPEN FILE FOLDERaPAGE WITH CURLfFACING ",
      "UPaCALENDARaTEAR-OFF CALENDARaCARD INDEXbHART WITH UPWARDS TRENDlDOWNWARDS TRENDaBAR CHARTa",
      "CLIPBOARDaPUSHPINaROUND PUSHPINaPAPERCLIPaSTRAIGHT RULERaTRIANGULAR RULERaBOOKMARK TABSaLED",
      "GERaNOTEBOOKi WITH DECORATIVE COVERaCLOSED BOOKaOPEN BOOKaGREEN BOOKaBLUE BOOKaORANGE BOOKa",
      "BOOKSaNAME BADGEaSCROLLaMEMOaTELEPHONE RECEIVERaPAGERaFAX MACHINEaSATELLITE ANTENNAaPUBLIC ",
      "ADDRESS LOUDSPEAKERaCHEERING MEGAPHONEaOUTBOX TRAYaINBOX TRAYaPACKAGEaE-MAIL SYMBOLaINCOMIN",
      "G ENVELOPEaENVELOPE WITH DOWNWARDS ARROW ABOVEaCLOSED MAILBOX WITH LOWERED FLAGuRAISED FLAG",
      "aOPEN MAILBOX WITH RAISED FLAGsLOWERED FLAGaPOSTBOXeAL HORNaNEWSPAPERaMOBILE PHONEm WITH RI",
      "GHTWARDS ARROW AT LEFTaVIBRATION MODEaMOBILE PHONE OFFaNO MOBILE PHONESaANTENNA WITH BARSaC",
      "AMERAg WITH FLASHaVIDEO CAMERAaTELEVISIONaRADIOaVIDEOCASSETTEaFILM PROJECTORaPORTABLE STERE",
      "ObRAYER BEADSaTWISTED RIGHTWARDS ARROWSaCLOCKWISE RIGHTWARDS AND LEFTWARDS OPEN CIRCLE ARRO",
      "WSωOWS WITH CIRCLED ONE OVERLAYkDOWNWARDS AND UPWARDS OPEN CIRCLE ARROWSaANTICLOCKWISE DOWN",
      "WARDS AND UPWARDS OPEN CIRCLE ARROWSaLOW BRIGHTNESS SYMBOLaHIGH BRIGHTNESS SYMBOLaSPEAKER W",
      "ITH CANCELLATION STROKEhh WITH ONE SOUND WAVEnTHREE SOUND WAVESaBATTERYaELECTRIC PLUGaLEFT-",
      "POINTING MAGNIFYING GLASSaRIGHT-POINTING MAGNIFYING GLASSaLOCK WITH INK PENaCLOSED LOCK WIT",
      "H KEYaKEYaLOCKaOPEN LOCKaBELLe WITH CANCELLATION STROKEbOOKMARKaLINK SYMBOLaRADIO BUTTONaBA",
      "CK WITH LEFTWARDS ARROW ABOVEaEND WITH LEFTWARDS ARROW ABOVEaON WITH EXCLAMATION MARK WITH ",
      "LEFT RIGHT ARROW ABOVEaSOON WITH RIGHTWARDS ARROW ABOVEaTOP WITH UPWARDS ARROW ABOVEaNO ONE",
      " UNDER EIGHTEEN SYMBOLaKEYCAP TENaINPUT SYMBOL FOR LATIN CAPITAL LETTERSxSMALL LETTERSrNUMB",
      "ERSrSYMBOLSrLATIN LETTERSaFIREaELECTRIC TORCHaWRENCHaHAMMERaNUT AND BOLTaHOCHOaPISTOLaMICRO",
      "SCOPEaTELESCOPEaCRYSTAL BALLaSIX POINTED STAR WITH MIDDLE DOTaJAPANESE SYMBOL FOR BEGINNERa",
      "TRIDENT EMBLEMaBLACK SQUARE BUTTONaWHITE SQUARE BUTTONaLARGE RED CIRCLEgBLUE CIRCLEgORANGE ",
      "DIAMONDgBLUE DIAMONDaSMALL ORANGE DIAMONDgBLUE DIAMONDaUP-POINTING RED TRIANGLEaDOWN-POINTI",
      "NG RED TRIANGLEaUP-POINTING SMALL RED TRIANGLEaDOWN-POINTING SMALL RED TRIANGLEaLOWER RIGHT",
      " SHADOWED WHITE CIRCLEaUPPER RIGHT SHADOWED WHITE CIRCLEaCIRCLED CROSS POMMEEbROSS POMMEE W",
      "ITH HALF-CIRCLE BELOWmaNOTCHED LEFT SEMICIRCLE WITH THREE DOTSiRIGHT SEMICIRCLE WITH THREE ",
      "DOTSaSYMBOL FOR MARKS CHAPTERaWHITE LATIN CROSSaHEAVY LATIN CROSSaCELTIC CROSSaOM SYMBOLaDO",
      "VE OF PEACEaKAABAaMOSQUEaSYNAGOGUEaMENORAH WITH NINE BRANCHESaBOWL OF HYGIEIAaCLOCK FACE ON",
      "E OCLOCKlTWO OCLOCKmHREE OCLOCKlFOUR OCLOCKmIVE OCLOCKlSIX OCLOCKmEVEN OCLOCKlEIGHT OCLOCKl",
      "NINE OCLOCKlTEN OCLOCKlELEVEN OCLOCKlTWELVE OCLOCKlONE-THIRTYlTWO-THIRTYmHREE-THIRTYlFOUR-T",
      "HIRTYmIVE-THIRTYlSIX-THIRTYmEVEN-THIRTYlEIGHT-THIRTYlNINE-THIRTYlTEN-THIRTYlELEVEN-THIRTYlT",
      "WELVE-THIRTYaRIGHT SPEAKERn WITH ONE SOUND WAVEtTHREE SOUND WAVESaBULLHORNi WITH SOUND WAVE",
      "SaRINGING BELLaBOOKaCANDLEaMANTELPIECE CLOCKaBLACK SKULL AND CROSSBONESaNO PIRACYaHOLEaMAN ",
      "IN BUSINESS SUIT LEVITATINGaSLEUTH OR SPYaDARK SUNGLASSESaSPIDERg WEBaJOYSTICKaMAN DANCINGa",
      "LEFT HAND TELEPHONE RECEIVERaTELEPHONE RECEIVER WITH PAGEaRIGHT HAND TELEPHONE RECEIVERaWHI",
      "TE TOUCHTONE TELEPHONEaBLACK TOUCHTONE TELEPHONEaTELEPHONE ON TOP OF MODEMaCLAMSHELL MOBILE",
      " PHONEaBACK OF ENVELOPEaSTAMPED ENVELOPEaENVELOPE WITH LIGHTNINGaFLYING ENVELOPEaPEN OVER S",
      "TAMPED ENVELOPEaLINKED PAPERCLIPSaBLACK PUSHPINaLOWER LEFT PENCILlBALLPOINT PENlFOUNTAIN PE",
      "NlPAINTBRUSHlCRAYONbEFT WRITING HANDaTURNED OK HAND SIGNaRAISED HAND WITH FINGERS SPLAYEDbE",
      "VERSED RAISED HAND WITH FINGERS SPLAYEDjTHUMBS UP SIGNqDOWN SIGNjVICTORY HANDjHAND WITH MID",
      "DLE FINGER EXTENDEDbAISED HAND WITH PART BETWEEN MIDDLE AND RING FINGERSaWHITE DOWN POINTIN",
      "G LEFT HAND INDEXaSIDEWAYS WHITE LEFT POINTING INDEXpRIGHT POINTING INDEXjBLACK LEFT POINTI",
      "NG INDEXpRIGHT POINTING INDEXaBLACK LEFT POINTING BACKHAND INDEXgRIGHT POINTING BACKHAND IN",
      "DEXaSIDEWAYS WHITE UP POINTING INDEXpDOWN POINTING INDEXjBLACK UP POINTING INDEXpDOWN POINT",
      "ING INDEXaBLACK UP POINTING BACKHAND INDEXgDOWN POINTING BACKHAND INDEXgHEARTaDESKTOP COMPU",
      "TERaKEYBOARD AND MOUSEaTHREE NETWORKED COMPUTERSaPRINTERbOCKET CALCULATORaBLACK HARD SHELL ",
      "FLOPPY DISKaWHITE HARD SHELL FLOPPY DISKaSOFT SHELL FLOPPY DISKaTAPE CARTRIDGEaWIRED KEYBOA",
      "RDaONE BUTTON MOUSEaTWO BUTTON MOUSEbHREE BUTTON MOUSEbRACKBALLaOLD PERSONAL COMPUTERaHARD ",
      "DISKaSCREENaPRINTER ICONaFAX ICONaOPTICAL DISC ICONaDOCUMENT WITH TEXTs AND PICTUREoPICTURE",
      "aFRAME WITH PICTURElTILESlAN XaBLACK FOLDERaFOLDERaOPEN FOLDERaCARD INDEX DIVIDERSfFILE BOX",
      "aFILE CABINETaEMPTY NOTEk PAGEnDaNOTEe PAGEhDaEMPTY DOCUMENTgPAGEkSaDOCUMENTaPAGEeSaWASTEBA",
      "SKETaSPIRAL NOTE PADhCALENDAR PADaDESKTOP WINDOWaMINIMIZEbAXIMIZEaOVERLAPaCLOCKWISE RIGHT A",
      "ND LEFT SEMICIRCLE ARROWSbANCELLATION XaINCREASE FONT SIZE SYMBOLaDECREASE FONT SIZE SYMBOL",
      "aCOMPRESSIONaOLD KEYaROLLED-UP NEWSPAPERaPAGE WITH CIRCLED TEXTaSTOCK CHARTaDAGGER KNIFEaLI",
      "PSaSPEAKING HEAD IN SILHOUETTEaTHREE RAYS ABOVElBELOWlLEFTlRIGHTaLEFT SPEECH BUBBLEaRIGHT S",
      "PEECH BUBBLEaTWO SPEECH BUBBLESbHREE SPEECH BUBBLESaLEFT THOUGHT BUBBLEaRIGHT THOUGHT BUBBL",
      "EaLEFT ANGER BUBBLEaRIGHT ANGER BUBBLEaMOOD BUBBLEaLIGHTNING MOOD BUBBLEoaBALLOT BOX WITH B",
      "ALLOThSCRIPT XhBOX WITH SCRIPT XjLD SCRIPT XjX WITH BOLD SCRIPT XaLIGHT CHECK MARKaBALLOT B",
      "OX WITH BOLD CHECKaWORLD MAPaMOUNT FUJIaTOKYO TOWERaSTATUE OF LIBERTYbILHOUETTE OF JAPANaMO",
      "YAIaGRINNING FACEn WITH SMILING EYESaFACE WITH TEARS OF JOYaSMILING FACE WITH OPEN MOUTHγ A",
      "ND SMILING EYESθCOLD SWEATθTIGHTLY-CLOSED EYESsHALOtORNSaWINKING FACEaSMILING FACE WITH SMI",
      "LING EYESaFACE SAVOURING DELICIOUS FOODaRELIEVED FACEaSMILING FACE WITH HEART-SHAPED EYESsS",
      "UNGLASSESdRKING FACEaNEUTRAL FACEaEXPRESSIONLESS FACEaUNAMUSED FACEaFACE WITH COLD SWEATaPE",
      "NSIVE FACEaCONFUSED FACEeOUNDED FACEaKISSING FACEaFACE THROWING A KISSaKISSING FACE WITH SM",
      "ILING EYESsCLOSED EYESaFACE WITH STUCK-OUT TONGUEα AND WINKING EYEζTIGHTLY-CLOSED EYESaDISA",
      "PPOINTED FACEaWORRIED FACEaANGRY FACEaPOUTING FACEaCRYING FACEaPERSEVERING FACEaFACE WITH L",
      "OOK OF TRIUMPHaDISAPPOINTED BUT RELIEVED FACEaFROWNING FACE WITH OPEN MOUTHaANGUISHED FACEa",
      "FEARFUL FACEaWEARY FACEaSLEEPY FACEaTIRED FACEaGRIMACING FACEaLOUDLY CRYING FACEaFACE WITH ",
      "OPEN MOUTHaHUSHED FACEaFACE WITH OPEN MOUTH AND COLD SWEATfSCREAMING IN FEARaASTONISHED FAC",
      "EaFLUSHED FACEaSLEEPING FACEaDIZZY FACEaFACE WITHOUT MOUTHj MEDICAL MASKaGRINNING CAT FACE ",
      "WITH SMILING EYESaCAT FACE WITH TEARS OF JOYaSMILING CAT FACE WITH OPEN MOUTHwHEART-SHAPED ",
      "EYESaCAT FACE WITH WRY SMILEaKISSING CAT FACE WITH CLOSED EYESaPOUTING CAT FACEaCRYING CAT ",
      "FACEaWEARY CAT FACEaSLIGHTLY FROWNING FACEjSMILING FACEaUPSIDE-DOWN FACEaFACE WITH ROLLING ",
      "EYESkNO GOOD GESTUREkOK GESTUREaPERSON BOWING DEEPLYaSEE-NO-EVIL MONKEYaHEAR-NO-EVIL MONKEY",
      "aSPEAK-NO-EVIL MONKEYaHAPPY PERSON RAISING ONE HANDaPERSON RAISING BOTH HANDS IN CELEBRATIO",
      "NhFROWNINGhWITH POUTING FACEmFOLDED HANDSaNORTH WEST POINTING LEAFaSOUTH WEST POINTING LEAF",
      "aNORTH EAST POINTING LEAFaSOUTH EAST POINTING LEAFaTURNED NORTH WEST POINTING LEAFhSOUTH WE",
      "ST POINTING LEAFhNORTH EAST POINTING LEAFhSOUTH EAST POINTING LEAFaNORTH WEST POINTING VINE",
      " LEAFaSOUTH WEST POINTING VINE LEAFaNORTH EAST POINTING VINE LEAFaSOUTH EAST POINTING VINE ",
      "LEAFaHEAVY NORTH WEST POINTING VINE LEAFgSOUTH WEST POINTING VINE LEAFgNORTH EAST POINTING ",
      "VINE LEAFgSOUTH EAST POINTING VINE LEAFaNORTH WEST POINTING BUDaSOUTH WEST POINTING BUDaNOR",
      "TH EAST POINTING BUDaSOUTH EAST POINTING BUDaHEAVY NORTH WEST POINTING BUDgSOUTH WEST POINT",
      "ING BUDgNORTH EAST POINTING BUDgSOUTH EAST POINTING BUDbOLLOW QUILT SQUARE ORNAMENTγ IN BLA",
      "CK SQUAREaSOLID QUILT SQUARE ORNAMENTβ IN BLACK SQUAREaLEFTWARDS ROCKETaUPWARDS ROCKETaRIGH",
      "TWARDS ROCKETaDOWNWARDS ROCKETaSCRIPT LIGATURE ET ORNAMENTaHEAVY SCRIPT LIGATURE ET ORNAMEN",
      "TaLIGATURE OPEN ET ORNAMENTaHEAVY LIGATURE OPEN ET ORNAMENTgAMPERSAND ORNAMENTaSWASH AMPERS",
      "AND ORNAMENTbANS-SERIF HEAVY DOUBLE TURNED COMMA QUOTATION MARK ORNAMENTyCOMMA QUOTATION MA",
      "RK ORNAMENTrLOW DOUBLE COMMA QUOTATION MARK ORNAMENTaHEAVY INTERROBANG ORNAMENTaSANS-SERIF ",
      "INTERROBANG ORNAMENTaHEAVY SANS-SERIF INTERROBANG ORNAMENTaVERY HEAVY SOLIDUSlREVERSE SOLID",
      "USaCHECKER BOARDaREVERSE CHECKER BOARDbOCKETaHELICOPTERaSTEAM LOCOMOTIVEaRAILWAY CARaHIGH-S",
      "PEED TRAINq WITH BULLET NOSEaTRAINaMETROaLIGHT RAILaSTATIONaTRAMe CARaBUSaONCOMING BUSaTROL",
      "LEYBUSaBUS STOPaMINIBUSaAMBULANCEaFIRE ENGINEaPOLICE CARaONCOMING POLICE CARaTAXIaONCOMING ",
      "TAXIaAUTOMOBILEaONCOMING AUTOMOBILEaRECREATIONAL VEHICLEaDELIVERY TRUCKaARTICULATED LORRYaT",
      "RACTORaMONORAILcUNTAIN RAILWAYaSUSPENSION RAILWAYaMOUNTAIN CABLEWAYaAERIAL TRAMWAYaSHIPaROW",
      "BOATaSPEEDBOATaHORIZONTAL TRAFFIC LIGHTaVERTICAL TRAFFIC LIGHTaCONSTRUCTION SIGNaPOLICE CAR",
      "S REVOLVING LIGHTaTRIANGULAR FLAG ON POSTaDOORaNO ENTRY SIGNaSMOKING SYMBOLaNO SMOKING SYMB",
      "OLaPUT LITTER IN ITS PLACE SYMBOLaDO NOT LITTER SYMBOLaPOTABLE WATER SYMBOLaNON-POTABLE WAT",
      "ER SYMBOLaBICYCLEaNO BICYCLESaBICYCLISTaMOUNTAIN BICYCLISTaPEDESTRIANaNO PEDESTRIANSaCHILDR",
      "EN CROSSINGaMENS SYMBOLaWOMENS SYMBOLaRESTROOMaBABY SYMBOLaTOILETaWATER CLOSETaSHOWERaBATHe",
      "TUBaPASSPORT CONTROLaCUSTOMSaBAGGAGE CLAIMaLEFT LUGGAGEaTRIANGLE WITH ROUNDED CORNERSaPROHI",
      "BITED SIGNaCIRCLED INFORMATION SOURCEaBOYS SYMBOLaGIRLS SYMBOLaCOUCH AND LAMPaSLEEPING ACCO",
      "MMODATIONbHOPPING BAGSaBELLHOP BELLcDaPLACE OF WORSHIPaOCTAGONAL SIGNaSHOPPING TROLLEYbTUPA",
      "aPAGODAaHINDU TEMPLEbUTaELEVATOR"]),
    (0x1F6DD, ["PLAYGROUND SLIDEaWHEELaRING BUOYaHAMMER AND WRENCHaSHIELDaOIL DRUMaMOTORWAYaRAILWA",
      "Y TRACKaMOTOR BOATaUP-POINTING MILITARY AIRPLANEmAIRPLANEmSMALL AIRPLANEaSMALL AIRPLANEaNOR",
      "THEAST-POINTING AIRPLANEaAIRPLANE DEPARTUREjARRIVING"]),
    (0x1F6F0, ["SATELLITEaONCOMING FIRE ENGINEaDIESEL LOCOMOTIVEaPASSENGER SHIPaSCOOTERaMOTOR SCOO",
      "TERaCANOEaSLEDaFLYING SAUCERaSKATEBOARDaAUTO RICKSHAWaPICKUP TRUCKaROLLER SKATE"]),
    (0x1F700, ["ALCHEMICAL SYMBOL FOR QUINTESSENCEwAIRwFIREwEARTHwWATERwAQUAFORTISα REGIAη-2βVITAE",
      "η-2wVINEGARδ-2ε3wSULFURwPHILOSOPHERS SULFURwBLACK SULFURwMERCURY SUBLIMATEξ-2ο3wCINNABARwSA",
      "LTwNITREwVITRIOLδ-2wROCK SALTζ-2wGOLDwSILVERwIRON OREε-2wCROCUS OF IRONwREGULUS OF IRONwCOP",
      "PER OREwIRON-COPPER OREwSUBLIMATE OF COPPERwCROCUS OF COPPERν-2xOPPER ANTIMONIATEwSALT OF C",
      "OPPER ANTIMONIATExUBLIMATE OF SALT OF COPPERwVERDIGRISwTIN OREwLEAD OREwANTIMONY OREwSUBLIM",
      "ATE OF ANTIMONYxALT OF ANTIMONYxUBLIMATE OF SALT OF ANTIMONYwVINEGAR OF ANTIMONYwREGULUS OF",
      " ANTIMONYπ-2δδ-2ε3ε4wALKALIγ-2wMARCASITEwSAL-AMMONIACwARSENICwREALGARδ-2wAURIPIGMENTwBISMUT",
      "H OREwTARTARγ-2wQUICK LIMEwBORAXβ-2γ3wALUMwOILwSPIRITwTINCTUREwGUMwWAXwPOWDERwCALXwTUTTYwCA",
      "PUT MORTUUMwSCEPTER OF JOVEwCADUCEUSwTRIDENTwSTARRED TRIDENTwLODESTONEwSOAPwURINEwHORSE DUN",
      "GwASHESwPOT ASHESwBRICKwPOWDERED BRICKwAMALGAMwSTRATUM SUPER STRATUMς-2xUBLIMATIONwPRECIPIT",
      "ATEwDISTILLzSOLVEε-2wPURIFYyTREFACTIONwCRUCIBLEε-2ζ3ζ4ζ5wALEMBICwBATH OF MARYεVAPOURSwRETOR",
      "TwHOURwNIGHTwDAY-NIGHTwMONTHwHALF DRAMβOUNCE"]),
    (0x1F780, ["BLACK LEFT-POINTING ISOSCELES RIGHT TRIANGLEgUP-POINTING ISOSCELES RIGHT TRIANGLEg",
      "RIGHT-POINTING ISOSCELES RIGHT TRIANGLEgDOWN-POINTING ISOSCELES RIGHT TRIANGLEgSLIGHTLY SMA",
      "LL CIRCLEaMEDIUM BOLD WHITE CIRCLEaBOLD WHITE CIRCLEaHEAVY WHITE CIRCLEaVERY HEAVY WHITE CI",
      "RCLEaEXTREMELY HEAVY WHITE CIRCLEaWHITE CIRCLE CONTAINING BLACK SMALL CIRCLEaROUND TARGETaB",
      "LACK TINY SQUAREgSLIGHTLY SMALL SQUAREaLIGHT WHITE SQUAREaMEDIUM WHITE SQUAREaBOLD WHITE SQ",
      "UAREaHEAVY WHITE SQUAREaVERY HEAVY WHITE SQUAREaEXTREMELY HEAVY WHITE SQUAREaWHITE SQUARE C",
      "ONTAINING BLACK VERY SMALL SQUAREεMEDIUM SQUAREaSQUARE TARGETaBLACK TINY DIAMONDgVERY SMALL",
      " DIAMONDgMEDIUM SMALL DIAMONDaWHITE DIAMOND CONTAINING BLACK VERY SMALL DIAMONDζMEDIUM DIAM",
      "ONDaDIAMOND TARGETaBLACK TINY LOZENGEgVERY SMALL LOZENGEgMEDIUM SMALL LOZENGEaWHITE LOZENGE",
      " CONTAINING BLACK SMALL LOZENGEaTHIN GREEK CROSSaLIGHT GREEK CROSSaMEDIUM GREEK CROSSaBOLD ",
      "GREEK CROSSaVERY BOLD GREEK CROSSfHEAVY GREEK CROSSaEXTREMELY HEAVY GREEK CROSSaTHIN SALTIR",
      "EaLIGHT SALTIREaMEDIUM SALTIREaBOLD SALTIREaHEAVY SALTIREaVERY HEAVY SALTIREaEXTREMELY HEAV",
      "Y SALTIREaLIGHT FIVE SPOKED ASTERISKaMEDIUM FIVE SPOKED ASTERISKaBOLD FIVE SPOKED ASTERISKa",
      "HEAVY FIVE SPOKED ASTERISKaVERY HEAVY FIVE SPOKED ASTERISKaEXTREMELY HEAVY FIVE SPOKED ASTE",
      "RISKaLIGHT SIX SPOKED ASTERISKaMEDIUM SIX SPOKED ASTERISKaBOLD SIX SPOKED ASTERISKaHEAVY SI",
      "X SPOKED ASTERISKaVERY HEAVY SIX SPOKED ASTERISKaEXTREMELY HEAVY SIX SPOKED ASTERISKaLIGHT ",
      "EIGHT SPOKED ASTERISKaMEDIUM EIGHT SPOKED ASTERISKaBOLD EIGHT SPOKED ASTERISKaHEAVY EIGHT S",
      "POKED ASTERISKaVERY HEAVY EIGHT SPOKED ASTERISKaLIGHT THREE POINTED BLACK STARaMEDIUM THREE",
      " POINTED BLACK STARaTHREE POINTED BLACK STARaMEDIUM THREE POINTED PINWHEEL STARaLIGHT FOUR ",
      "POINTED BLACK STARaMEDIUM FOUR POINTED BLACK STARaFOUR POINTED BLACK STARaMEDIUM FOUR POINT",
      "ED PINWHEEL STARaREVERSE LIGHT FOUR POINTED PINWHEEL STARaLIGHT FIVE POINTED BLACK STARaHEA",
      "VY FIVE POINTED BLACK STARaMEDIUM SIX POINTED BLACK STARaHEAVY SIX POINTED BLACK STARaSIX P",
      "OINTED PINWHEEL STARaMEDIUM EIGHT POINTED BLACK STARaHEAVY EIGHT POINTED BLACK STARaVERY HE",
      "AVY EIGHT POINTED BLACK STARaHEAVY EIGHT POINTED PINWHEEL STARaLIGHT TWELVE POINTED BLACK S",
      "TARaHEAVY TWELVE POINTED BLACK STARvPINWHEEL STARaCIRCLED TRIANGLEaNEGATIVE CIRCLED TRIANGL",
      "EaCIRCLED SQUAREaNEGATIVE CIRCLED SQUARE"]),
    (0x1F7E0, ["LARGE ORANGE CIRCLEgYELLOW CIRCLEgGREEN CIRCLEgPURPLE CIRCLEgBROWN CIRCLEgRED SQUA",
      "REgBLUE SQUAREgORANGE SQUAREgYELLOW SQUAREgGREEN SQUAREgPURPLE SQUAREgBROWN SQUARE"]),
    (0x1F7F0, ["HEAVY EQUALS SIGN"]),
    (0x1F800, ["LEFTWARDS ARROW WITH SMALL TRIANGLE ARROWHEADaUPWARDS ARROW WITH SMALL TRIANGLE AR",
      "ROWHEADaRIGHTWARDS ARROW WITH SMALL TRIANGLE ARROWHEADaDOWNWARDS ARROW WITH SMALL TRIANGLE ",
      "ARROWHEADaLEFTWARDS ARROW WITH MEDIUM TRIANGLE ARROWHEADaUPWARDS ARROW WITH MEDIUM TRIANGLE",
      " ARROWHEADaRIGHTWARDS ARROW WITH MEDIUM TRIANGLE ARROWHEADaDOWNWARDS ARROW WITH MEDIUM TRIA",
      "NGLE ARROWHEADaLEFTWARDS ARROW WITH LARGE TRIANGLE ARROWHEADaUPWARDS ARROW WITH LARGE TRIAN",
      "GLE ARROWHEADaRIGHTWARDS ARROW WITH LARGE TRIANGLE ARROWHEADaDOWNWARDS ARROW WITH LARGE TRI",
      "ANGLE ARROWHEAD"]),
    (0x1F810, ["LEFTWARDS ARROW WITH SMALL EQUILATERAL ARROWHEADaUPWARDS ARROW WITH SMALL EQUILATE",
      "RAL ARROWHEADaRIGHTWARDS ARROW WITH SMALL EQUILATERAL ARROWHEADaDOWNWARDS ARROW WITH SMALL ",
      "EQUILATERAL ARROWHEADaLEFTWARDS ARROW WITH EQUILATERAL ARROWHEADaUPWARDS ARROW WITH EQUILAT",
      "ERAL ARROWHEADaRIGHTWARDS ARROW WITH EQUILATERAL ARROWHEADaDOWNWARDS ARROW WITH EQUILATERAL",
      " ARROWHEADaHEAVY LEFTWARDS ARROW WITH EQUILATERAL ARROWHEADgUPWARDS ARROW WITH EQUILATERAL ",
      "ARROWHEADgRIGHTWARDS ARROW WITH EQUILATERAL ARROWHEADgDOWNWARDS ARROW WITH EQUILATERAL ARRO",
      "WHEADgLEFTWARDS ARROW WITH LARGE EQUILATERAL ARROWHEADgUPWARDS ARROW WITH LARGE EQUILATERAL",
      " ARROWHEADgRIGHTWARDS ARROW WITH LARGE EQUILATERAL ARROWHEADgDOWNWARDS ARROW WITH LARGE EQU",
      "ILATERAL ARROWHEADaLEFTWARDS TRIANGLE-HEADED ARROW WITH NARROW SHAFTaUPWARDS TRIANGLE-HEADE",
      "D ARROW WITH NARROW SHAFTaRIGHTWARDS TRIANGLE-HEADED ARROW WITH NARROW SHAFTaDOWNWARDS TRIA",
      "NGLE-HEADED ARROW WITH NARROW SHAFTaLEFTWARDS TRIANGLE-HEADED ARROW WITH MEDIUM SHAFTaUPWAR",
      "DS TRIANGLE-HEADED ARROW WITH MEDIUM SHAFTaRIGHTWARDS TRIANGLE-HEADED ARROW WITH MEDIUM SHA",
      "FTaDOWNWARDS TRIANGLE-HEADED ARROW WITH MEDIUM SHAFTaLEFTWARDS TRIANGLE-HEADED ARROW WITH B",
      "OLD SHAFTaUPWARDS TRIANGLE-HEADED ARROW WITH BOLD SHAFTaRIGHTWARDS TRIANGLE-HEADED ARROW WI",
      "TH BOLD SHAFTaDOWNWARDS TRIANGLE-HEADED ARROW WITH BOLD SHAFTaLEFTWARDS TRIANGLE-HEADED ARR",
      "OW WITH HEAVY SHAFTaUPWARDS TRIANGLE-HEADED ARROW WITH HEAVY SHAFTaRIGHTWARDS TRIANGLE-HEAD",
      "ED ARROW WITH HEAVY SHAFTaDOWNWARDS TRIANGLE-HEADED ARROW WITH HEAVY SHAFTaLEFTWARDS TRIANG",
      "LE-HEADED ARROW WITH VERY HEAVY SHAFTaUPWARDS TRIANGLE-HEADED ARROW WITH VERY HEAVY SHAFTaR",
      "IGHTWARDS TRIANGLE-HEADED ARROW WITH VERY HEAVY SHAFTaDOWNWARDS TRIANGLE-HEADED ARROW WITH ",
      "VERY HEAVY SHAFTaLEFTWARDS FINGER-POST ARROWaUPWARDS FINGER-POST ARROWaRIGHTWARDS FINGER-PO",
      "ST ARROWaDOWNWARDS FINGER-POST ARROWaLEFTWARDS SQUARED ARROWaUPWARDS SQUARED ARROWaRIGHTWAR",
      "DS SQUARED ARROWaDOWNWARDS SQUARED ARROWaLEFTWARDS COMPRESSED ARROWaUPWARDS COMPRESSED ARRO",
      "WaRIGHTWARDS COMPRESSED ARROWaDOWNWARDS COMPRESSED ARROWaLEFTWARDS HEAVY COMPRESSED ARROWaU",
      "PWARDS HEAVY COMPRESSED ARROWaRIGHTWARDS HEAVY COMPRESSED ARROWaDOWNWARDS HEAVY COMPRESSED ",
      "ARROWaLEFTWARDS HEAVY ARROWaUPWARDS HEAVY ARROWaRIGHTWARDS HEAVY ARROWaDOWNWARDS HEAVY ARRO",
      "W"]),
    (0x1F850, ["LEFTWARDS SANS-SERIF ARROWaUPWARDS SANS-SERIF ARROWaRIGHTWARDS SANS-SERIF ARROWaDO",
      "WNWARDS SANS-SERIF ARROWaNORTH WEST SANS-SERIF ARROWgEAST SANS-SERIF ARROWaSOUTH EAST SANS-",
      "SERIF ARROWgWEST SANS-SERIF ARROWaLEFT RIGHT SANS-SERIF ARROWaUP DOWN SANS-SERIF ARROW"]),
    (0x1F860, ["WIDE-HEADED LEFTWARDS LIGHT BARB ARROWmUPWARDS LIGHT BARB ARROWmRIGHTWARDS LIGHT B",
      "ARB ARROWmDOWNWARDS LIGHT BARB ARROWmNORTH WEST LIGHT BARB ARROWsEAST LIGHT BARB ARROWmSOUT",
      "H EAST LIGHT BARB ARROWsWEST LIGHT BARB ARROWmLEFTWARDS BARB ARROWmUPWARDS BARB ARROWmRIGHT",
      "WARDS BARB ARROWmDOWNWARDS BARB ARROWmNORTH WEST BARB ARROWsEAST BARB ARROWmSOUTH EAST BARB",
      " ARROWsWEST BARB ARROWmLEFTWARDS MEDIUM BARB ARROWmUPWARDS MEDIUM BARB ARROWmRIGHTWARDS MED",
      "IUM BARB ARROWmDOWNWARDS MEDIUM BARB ARROWmNORTH WEST MEDIUM BARB ARROWsEAST MEDIUM BARB AR",
      "ROWmSOUTH EAST MEDIUM BARB ARROWsWEST MEDIUM BARB ARROWmLEFTWARDS HEAVY BARB ARROWmUPWARDS ",
      "HEAVY BARB ARROWmRIGHTWARDS HEAVY BARB ARROWmDOWNWARDS HEAVY BARB ARROWmNORTH WEST HEAVY BA",
      "RB ARROWsEAST HEAVY BARB ARROWmSOUTH EAST HEAVY BARB ARROWsWEST HEAVY BARB ARROWmLEFTWARDS ",
      "VERY HEAVY BARB ARROWmUPWARDS VERY HEAVY BARB ARROWmRIGHTWARDS VERY HEAVY BARB ARROWmDOWNWA",
      "RDS VERY HEAVY BARB ARROWmNORTH WEST VERY HEAVY BARB ARROWsEAST VERY HEAVY BARB ARROWmSOUTH",
      " EAST VERY HEAVY BARB ARROWsWEST VERY HEAVY BARB ARROW"]),
    (0x1F890, ["LEFTWARDS TRIANGLE ARROWHEADaUPWARDS TRIANGLE ARROWHEADaRIGHTWARDS TRIANGLE ARROWH",
      "EADaDOWNWARDS TRIANGLE ARROWHEADaLEFTWARDS WHITE ARROW WITHIN TRIANGLE ARROWHEADaUPWARDS WH",
      "ITE ARROW WITHIN TRIANGLE ARROWHEADaRIGHTWARDS WHITE ARROW WITHIN TRIANGLE ARROWHEADaDOWNWA",
      "RDS WHITE ARROW WITHIN TRIANGLE ARROWHEADaLEFTWARDS ARROW WITH NOTCHED TAILaUPWARDS ARROW W",
      "ITH NOTCHED TAILaRIGHTWARDS ARROW WITH NOTCHED TAILaDOWNWARDS ARROW WITH NOTCHED TAILaHEAVY",
      " ARROW SHAFT WIDTH ONEyTWO THIRDSyONE HALFγTHIRDaLEFTWARDS BOTTOM-SHADED WHITE ARROWaRIGHTW",
      "ARDS BOTTOM SHADED WHITE ARROWaLEFTWARDS TOP SHADED WHITE ARROWaRIGHTWARDS TOP SHADED WHITE",
      " ARROWaLEFTWARDS LEFT-SHADED WHITE ARROWaRIGHTWARDS RIGHT-SHADED WHITE ARROWaLEFTWARDS RIGH",
      "T-SHADED WHITE ARROWaRIGHTWARDS LEFT-SHADED WHITE ARROWaLEFTWARDS BACK-TILTED SHADOWED WHIT",
      "E ARROWaRIGHTWARDS BACK-TILTED SHADOWED WHITE ARROWaLEFTWARDS FRONT-TILTED SHADOWED WHITE A",
      "RROWaRIGHTWARDS FRONT-TILTED SHADOWED WHITE ARROWaWHITE ARROW SHAFT WIDTH ONEyTWO THIRDS"]),
    (0x1F8B0, ["ARROW POINTING UPWARDS THEN NORTH WESTpRIGHTWARDS THEN CURVING SOUTH WEST"]),
    (0x1F900, ["CIRCLED CROSS FORMEE WITH FOUR DOTSαTWO DOTSuaLEFT HALF CIRCLE WITH FOUR DOTSwTHRE",
      "E DOTSxWO DOTSwDOTqaDOWNWARD FACING HOOKqNOTCHED HOOKqHOOK WITH DOTqNOTCHED HOOK WITH DOTaP",
      "INCHED FINGERSaWHITE HEARTaBROWN HEARTaPINCHING HANDaZIPPER-MOUTH FACEaMONEY-MOUTH FACEaFAC",
      "E WITH THERMOMETERaNERD FACEaTHINKING FACEaFACE WITH HEAD-BANDAGEaROBOT FACEaHUGGING FACEaS",
      "IGN OF THE HORNSaCALL ME HANDaRAISED BACK OF HANDaLEFT-FACING FISTaRIGHT-FACING FISTaHANDSH",
      "AKEe WITH INDEX AND MIDDLE FINGERS CROSSEDaI LOVE YOU HAND SIGNaFACE WITH COWBOY HATaCLOWN ",
      "FACEaNAUSEATED FACEaROLLING ON THE FLOOR LAUGHINGaDROOLING FACEaLYING FACEaFACE PALMaSNEEZI",
      "NG FACEaFACE WITH ONE EYEBROW RAISEDaGRINNING FACE WITH STAR EYEStONE LARGE AND ONE SMALL E",
      "YEaFACE WITH FINGER COVERING CLOSED LIPSaSERIOUS FACE WITH SYMBOLS COVERING MOUTHbMILING FA",
      "CE WITH SMILING EYES AND HAND COVERING MOUTHaFACE WITH OPEN MOUTH VOMITINGaSHOCKED FACE WIT",
      "H EXPLODING HEADaPREGNANT WOMANaBREAST-FEEDINGaPALMS UP TOGETHERaSELFIEaPRINCEaMAN IN TUXED",
      "ObOTHER CHRISTMASaSHRUGaPERSON DOING CARTWHEELaJUGGLINGaFENCERaMODERN PENTATHLONaWRESTLERSb",
      "ATER POLOaHANDBALLaDIVING MASKaWILTED FLOWERaDRUM WITH DRUMSTICKSaCLINKING GLASSESaTUMBLER ",
      "GLASSaSPOONaGOAL NETaRIFLEaFIRST PLACE MEDALaSECOND PLACE MEDALaTHIRD PLACE MEDALaBOXING GL",
      "OVEaMARTIAL ARTS UNIFORMaCURLING STONEaLACROSSE STICK AND BALLaSOFTBALLaFLYING DISCaCROISSA",
      "NTaAVOCADOaCUCUMBERaBACONaPOTATOaCARROTaBAGUETTE BREADaGREEN SALADaSHALLOW PAN OF FOODbTUFF",
      "ED FLATBREADaEGGaGLASS OF MILKaPEANUTSaKIWIFRUITaPANCAKESaDUMPLINGaFORTUNE COOKIEaTAKEOUT B",
      "OXaCHOPSTICKSaBOWL WITH SPOONaCUP WITH STRAWbOCONUTaBROCCOLIaPIEbRETZELaCUT OF MEATaSANDWIC",
      "HaCANNED FOODaLEAFY GREENaMANGObOON CAKEaBAGELaSMILING FACE WITH SMILING EYES AND THREE HEA",
      "RTSaYAWNING FACEaSMILING FACE WITH TEARaFACE WITH PARTY HORN AND PARTY HATkUNEVEN EYES AND ",
      "WAVY MOUTHaOVERHEATED FACEaFREEZING FACEaNINJAaDISGUISED FACEaFACE HOLDING BACK TEARSfWITH ",
      "PLEADING EYESaSARIaLAB COATaGOGGLESaHIKING BOOTaFLAT SHOEaCRABaLION FACEaSCORPIONaTURKEYaUN",
      "ICORN FACEaEAGLEaDUCKaBATaSHARKaOWLaFOX FACEaBUTTERFLYaDEERaGORILLAaLIZARDaRHINOCEROSaSHRIM",
      "PbQUIDaGIRAFFE FACEaZEBRA FACEaHEDGEHOGaSAUROPODaT-REXaCRICKETaKANGAROOaLLAMAaPEACOCKaHIPPO",
      "POTAMUSaPARROTaRACCOONaLOBSTERaMOSQUITObICROBEaBADGERaSWANaMAMMOTHaDODOaSLOTHaOTTERbRANGUTA",
      "NaSKUNKaFLAMINGOaOYSTERaBEAVERbISONaSEALaGUIDE DOGaPROBING CANEaEMOJI COMPONENT RED HAIRqCU",
      "RLY HAIRqBALDqWHITE HAIRaBONEaLEGaFOOTaTOOTHaSUPERHEROfVILLAINbAFETY VESTaEAR WITH HEARING ",
      "AIDaMOTORIZED WHEELCHAIRbANUAL WHEELCHAIRbECHANICAL ARMlLEGaCHEESE WEDGEbUPCAKEaSALT SHAKER",
      "aBEVERAGE BOXaGARLICaONIONaFALAFELaWAFFLEaBUTTERaMATE DRINKaICE CUBEaBUBBLE TEAaTROLLaSTAND",
      "ING PERSONaKNEELING PERSONaDEAF PERSONaFACE WITH MONOCLEaADULTaCHILDaOLDER ADULTaBEARDED PE",
      "RSONaPERSON WITH HEADSCARFhIN STEAMY ROOMhCLIMBINGhIN LOTUS POSITIONaMAGEaFAIRYaVAMPIREaMER",
      "PERSONaELFaGENIEaZOMBIEaBRAINaORANGE HEARTaBILLED CAPaSCARFaGLOVESaCOATaSOCKSaRED GIFT ENVE",
      "LOPEaFIRECRACKERaJIGSAW PUZZLE PIECEaTEST TUBEaPETRI DISHaDNA DOUBLE HELIXaCOMPASSaABACUSaF",
      "IRE EXTINGUISHERaTOOLBOXaBRICKaMAGNETaLUGGAGEbOTION BOTTLEaSPOOL OF THREADaBALL OF YARNaSAF",
      "ETY PINaTEDDY BEARaBROOMbASKETaROLL OF PAPERaBAR OF SOAPaSPONGEaRECEIPTaNAZAR AMULETbEUTRAL",
      " CHESS KINGoQUEENoROOKoBISHOPoKNIGHToPAWNaWHITE CHESS KNIGHT ROTATED FORTY-FIVE DEGREESaBLA",
      "CK CHESS KNIGHT ROTATED FORTY-FIVE DEGREESaNEUTRAL CHESS KNIGHT ROTATED FORTY-FIVE DEGREESa",
      "WHITE CHESS KING ROTATED NINETY DEGREESmQUEEN ROTATED NINETY DEGREESmROOK ROTATED NINETY DE",
      "GREESmBISHOP ROTATED NINETY DEGREESmKNIGHT ROTATED NINETY DEGREESmPAWN ROTATED NINETY DEGRE",
      "ESaBLACK CHESS KING ROTATED NINETY DEGREESmQUEEN ROTATED NINETY DEGREESmROOK ROTATED NINETY",
      " DEGREESmBISHOP ROTATED NINETY DEGREESmKNIGHT ROTATED NINETY DEGREESmPAWN ROTATED NINETY DE",
      "GREESaNEUTRAL CHESS KING ROTATED NINETY DEGREESoQUEEN ROTATED NINETY DEGREESoROOK ROTATED N",
      "INETY DEGREESoBISHOP ROTATED NINETY DEGREESoKNIGHT ROTATED NINETY DEGREESoPAWN ROTATED NINE",
      "TY DEGREESaWHITE CHESS KNIGHT ROTATED ONE HUNDRED THIRTY-FIVE DEGREESaBLACK CHESS KNIGHT RO",
      "TATED ONE HUNDRED THIRTY-FIVE DEGREESaNEUTRAL CHESS KNIGHT ROTATED ONE HUNDRED THIRTY-FIVE ",
      "DEGREESaWHITE CHESS TURNED KINGtQUEENtROOKtBISHOPtKNIGHTtPAWNaBLACK CHESS TURNED KINGtQUEEN",
      "tROOKtBISHOPtKNIGHTtPAWNaNEUTRAL CHESS TURNED KINGvQUEENvROOKvBISHOPvKNIGHTvPAWNaWHITE CHES",
      "S KNIGHT ROTATED TWO HUNDRED TWENTY-FIVE DEGREESaBLACK CHESS KNIGHT ROTATED TWO HUNDRED TWE",
      "NTY-FIVE DEGREESaNEUTRAL CHESS KNIGHT ROTATED TWO HUNDRED TWENTY-FIVE DEGREESaWHITE CHESS K",
      "ING ROTATED TWO HUNDRED SEVENTY DEGREESmQUEEN ROTATED TWO HUNDRED SEVENTY DEGREESmROOK ROTA",
      "TED TWO HUNDRED SEVENTY DEGREESmBISHOP ROTATED TWO HUNDRED SEVENTY DEGREESmKNIGHT ROTATED T",
      "WO HUNDRED SEVENTY DEGREESmPAWN ROTATED TWO HUNDRED SEVENTY DEGREESaBLACK CHESS KING ROTATE",
      "D TWO HUNDRED SEVENTY DEGREESmQUEEN ROTATED TWO HUNDRED SEVENTY DEGREESmROOK ROTATED TWO HU",
      "NDRED SEVENTY DEGREESmBISHOP ROTATED TWO HUNDRED SEVENTY DEGREESmKNIGHT ROTATED TWO HUNDRED",
      " SEVENTY DEGREESmPAWN ROTATED TWO HUNDRED SEVENTY DEGREESaNEUTRAL CHESS KING ROTATED TWO HU",
      "NDRED SEVENTY DEGREESoQUEEN ROTATED TWO HUNDRED SEVENTY DEGREESoROOK ROTATED TWO HUNDRED SE",
      "VENTY DEGREESoBISHOP ROTATED TWO HUNDRED SEVENTY DEGREESoKNIGHT ROTATED TWO HUNDRED SEVENTY",
      " DEGREESoPAWN ROTATED TWO HUNDRED SEVENTY DEGREESaWHITE CHESS KNIGHT ROTATED THREE HUNDRED ",
      "FIFTEEN DEGREESaBLACK CHESS KNIGHT ROTATED THREE HUNDRED FIFTEEN DEGREESaNEUTRAL CHESS KNIG",
      "HT ROTATED THREE HUNDRED FIFTEEN DEGREESaWHITE CHESS EQUIHOPPERaBLACK CHESS EQUIHOPPERaNEUT",
      "RAL CHESS EQUIHOPPERaWHITE CHESS EQUIHOPPER ROTATED NINETY DEGREESaBLACK CHESS EQUIHOPPER R",
      "OTATED NINETY DEGREESaNEUTRAL CHESS EQUIHOPPER ROTATED NINETY DEGREESaWHITE CHESS KNIGHT-QU",
      "EENtROOKtBISHOPaBLACK CHESS KNIGHT-QUEENtROOKtBISHOP"]),
    (0x1FA60, ["XIANGQI RED GENERALmMANDARINmELEPHANTmHORSEmCHARIOTnANNONmSOLDIERiBLACK GENERALoMA",
      "NDARINoELEPHANToHORSEoCHARIOTpANNONoSOLDIER"]),
    (0x1FA70, ["BALLET SHOESaONE-PIECE SWIMSUITaBRIEFSaSHORTSaTHONG SANDAL"]),
    (0x1FA78, ["DROP OF BLOODaADHESIVE BANDAGEaSTETHOSCOPEaX-RAYaCRUTCH"]),
    (0x1FA80, ["YO-YOaKITEaPARACHUTEaBOOMERANGaMAGIC WANDaPINATAaNESTING DOLLS"]),
    (0x1FA90, ["RINGED PLANETaCHAIRaRAZORaAXEaDIYA LAMPaBANJOaMILITARY HELMETaACCORDIONaLONG DRUMa",
      "COINbARPENTRY SAWaSCREWDRIVERaLADDERaHOOKaMIRRORaWINDOWaPLUNGERaSEWING NEEDLEaKNOTaBUCKETaM",
      "OUSE TRAPaTOOTHBRUSHaHEADSTONEaPLACARDaROCKaMIRROR BALLaIDENTIFICATION CARDaLOW BATTERYaHAM",
      "SA"]),
    (0x1FAB0, ["FLYaWORMaBEETLEaCOCKROACHaPOTTED PLANTaWOODaFEATHERaLOTUSaCORALaEMPTY NESTaNEST WI",
      "TH EGGS"]),
    (0x1FAC0, ["ANATOMICAL HEARTaLUNGSaPEOPLE HUGGINGbREGNANT MANjPERSONbERSON WITH CROWN"]),
    (0x1FAD0, ["BLUEBERRIESbELL PEPPERaOLIVEaFLATBREADaTAMALEaFONDUEaTEAPOTaPOURING LIQUIDaBEANSaJ",
      "AR"]),
    (0x1FAE0, ["MELTING FACEaSALUTING FACEaFACE WITH OPEN EYES AND HAND OVER MOUTHkPEEKING EYEkDIA",
      "GONAL MOUTHaDOTTED LINE FACEaBITING LIPbUBBLES"]),
    (0x1FAF0, ["HAND WITH INDEX FINGER AND THUMB CROSSEDaRIGHTWARDS HANDaLEFTWARDS HANDaPALM DOWN ",
      "HANDfUP HANDaINDEX POINTING AT THE VIEWERaHEART HANDS"]),
    (0x1FB00, ["BLOCK SEXTANT-1o2o12o3o13o23o123o4o14o24o124o34o134o234o1234o5o15o25o125o35o235o12",
      "35o45o145o245o1245o345o1345o2345o12345o6o16o26o126o36o136o236o1236o46o146p246o346o1346o2346",
      "o12346o56o156o256o1256o356o1356o2356o12356o456o1456o2456o12456o3456o13456o23456aLOWER LEFT ",
      "BLOCK DIAGONAL LOWER MIDDLE LEFT TO LOWER CENTREωER RIGHTαUPPER MIDDLE LEFT TO LOWER CENTRE",
      "ωER RIGHTηLEFT TO LOWER CENTREgRIGHT BLOCK DIAGONAL UPPER MIDDLE LEFT TO UPPER CENTREωPER R",
      "IGHTβLOWER MIDDLE LEFT TO UPPER CENTREωPER RIGHTθLEFT TO UPPER CENTREθMIDDLE LEFT TO UPPER ",
      "MIDDLE RIGHTθCENTRE TO LOWER MIDDLE RIGHTθLEFT TO LOWER MIDDLE RIGHTθCENTRE TO UPPER MIDDLE",
      " RIGHTθLEFT TO UPPER MIDDLE RIGHTθCENTRE TO UPPER RIGHTgLEFT BLOCK DIAGONAL UPPER CENTRE TO",
      " UPPER MIDDLE RIGHTηLEFT TO UPPER MIDDLE RIGHTηCENTRE TO LOWER MIDDLE RIGHTηLEFT TO LOWER M",
      "IDDLE RIGHTηCENTRE TO LOWER RIGHTηMIDDLE LEFT TO LOWER MIDDLE RIGHTaUPPER RIGHT BLOCK DIAGO",
      "NAL LOWER MIDDLE LEFT TO LOWER CENTREωWER RIGHTβUPPER MIDDLE LEFT TO LOWER CENTREωWER RIGHT",
      "θLEFT TO LOWER CENTREgLEFT BLOCK DIAGONAL UPPER MIDDLE LEFT TO UPPER CENTREωER RIGHTαLOWER ",
      "MIDDLE LEFT TO UPPER CENTREωER RIGHTηLEFT TO UPPER CENTREηMIDDLE LEFT TO UPPER MIDDLE RIGHT",
      "ηCENTRE TO LOWER MIDDLE RIGHTηLEFT TO LOWER MIDDLE RIGHTηCENTRE TO UPPER MIDDLE RIGHTηLEFT ",
      "TO UPPER MIDDLE RIGHTηCENTRE TO UPPER RIGHTgRIGHT BLOCK DIAGONAL UPPER CENTRE TO UPPER MIDD",
      "LE RIGHTθLEFT TO UPPER MIDDLE RIGHTθCENTRE TO LOWER MIDDLE RIGHTθLEFT TO LOWER MIDDLE RIGHT",
      "θCENTRE TO LOWER RIGHTθMIDDLE LEFT TO LOWER MIDDLE RIGHTgAND RIGHT AND LOWER TRIANGULAR THR",
      "EE QUARTERS BLOCKaLEFT AND LOWER AND RIGHT TRIANGULAR THREE QUARTERS BLOCKaUPPER AND LEFT A",
      "ND LOWER TRIANGULAR THREE QUARTERS BLOCKaLEFT AND UPPER AND RIGHT TRIANGULAR THREE QUARTERS",
      " BLOCKfTRIANGULAR ONE QUARTER BLOCKaUPPER TRIANGULAR ONE QUARTER BLOCKaRIGHT TRIANGULAR ONE",
      " QUARTER BLOCKaLOWER TRIANGULAR ONE QUARTER BLOCKaVERTICAL ONE EIGHTH BLOCK-2α3α4α5α6α7aHOR",
      "IZONTAL ONE EIGHTH BLOCK-2γ3γ4γ5γ6γ7aLEFT AND LOWER ONE EIGHTH BLOCKjUPPER ONE EIGHTH BLOCK",
      "aRIGHT AND UPPER ONE EIGHTH BLOCKkLOWER ONE EIGHTH BLOCKaUPPER AND LOWER ONE EIGHTH BLOCKaH",
      "ORIZONTAL ONE EIGHTH BLOCK-1358aUPPER ONE QUARTER BLOCKgTHREE EIGHTHS BLOCKgFIVE EIGHTHS BL",
      "OCKgTHREE QUARTERS BLOCKgSEVEN EIGHTHS BLOCKaRIGHT ONE QUARTER BLOCKgTHREE EIGHTHS BLOCKgFI",
      "VE EIGHTHS BLOCKgTHREE QUARTERS BLOCKgSEVEN EIGHTHS BLOCKaLEFT HALF MEDIUM SHADEaRIGHT HALF",
      " MEDIUM SHADEaUPPER HALF MEDIUM SHADEaLOWER HALF MEDIUM SHADEaINVERSE MEDIUM SHADEaUPPER HA",
      "LF BLOCK AND LOWER HALF INVERSE MEDIUM SHADElINVERSE MEDIUM SHADE AND LOWER HALF BLOCK"]),
    (0x1FB94, ["LEFT HALF INVERSE MEDIUM SHADE AND RIGHT HALF BLOCKaCHECKER BOARD FILLaINVERSE CHE",
      "CKER BOARD FILLaHEAVY HORIZONTAL FILLaUPPER LEFT TO LOWER RIGHT FILLgRIGHT TO LOWER LEFT FI",
      "LLgAND LOWER TRIANGULAR HALF BLOCKaLEFT AND RIGHT TRIANGULAR HALF BLOCKaUPPER LEFT TRIANGUL",
      "AR MEDIUM SHADEgRIGHT TRIANGULAR MEDIUM SHADEaLOWER RIGHT TRIANGULAR MEDIUM SHADEgLEFT TRIA",
      "NGULAR MEDIUM SHADEaBOX DRAWINGS LIGHT DIAGONAL UPPER CENTRE TO MIDDLE LEFTω RIGHTγMIDDLE L",
      "EFT TO LOWER CENTREκRIGHT TO LOWER CENTREγUPPER CENTRE TO MIDDLE LEFT TO LOWER CENTREω RIGH",
      "T TO LOWER CENTREγMIDDLE LEFT TO LOWER CENTRE TO MIDDLE RIGHTςUPPER CENTRE TO MIDDLE RIGHTγ",
      "UPPER CENTRE TO MIDDLE LEFT AND MIDDLE RIGHT TO LOWER CENTREω RIGHT AND MIDDLE LEFT TO LOWE",
      "R CENTREω RIGHT TO LOWER CENTRE TO MIDDLE LEFTω LEFT TO LOWER CENTRE TO MIDDLE RIGHTγMIDDLE",
      " LEFT TO UPPER CENTRE TO MIDDLE RIGHT TO LOWER CENTREκRIGHT TO UPPER CENTRE TO MIDDLE LEFT ",
      "TO LOWER CENTREγDIAMONDtHORIZONTAL WITH VERTICAL STROKEaARROWHEAD-SHAPED POINTERaINVERSE CH",
      "ECK MARKaLEFT HALF RUNNING MANaRIGHT HALF RUNNING MANaINVERSE DOWNWARDS ARROW WITH TIP LEFT",
      "WARDSaLEFTWARDS ARROW AND UPPER AND LOWER ONE EIGHTH BLOCKaRIGHTWARDS ARROW AND UPPER AND L",
      "OWER ONE EIGHTH BLOCKaDOWNWARDS ARROW AND RIGHT ONE EIGHTH BLOCKaUPWARDS ARROW AND RIGHT ON",
      "E EIGHTH BLOCKaLEFT HALF FOLDERaRIGHT HALF FOLDERaVOIDED GREEK CROSSaRIGHT OPEN SQUARED DOT",
      "aNEGATIVE DIAGONAL CROSSsMIDDLE RIGHT TO LOWER CENTREsDIAMONDaWHITE HEAVY SALTIRE WITH ROUN",
      "DED CORNERSaLEFT THIRD WHITE RIGHT POINTING INDEXaMIDDLE THIRD WHITE RIGHT POINTING INDEXaR",
      "IGHT THIRD WHITE RIGHT POINTING INDEXaNEGATIVE SQUARED QUESTION MARKaSTICK FIGUREm WITH ARM",
      "S RAISEDnLEANING LEFTvRIGHTnWITH DRESSaWHITE UP-POINTING CHEVRON"]),
    (0x1FBF0, ["SEGMENTED DIGIT ZEROqONEqTWOrHREEqFOURrIVEqSIXrEVENqEIGHTqNINE"]),
    (0x2F800, ["CJK COMPATIBILITY IDEOGRAPH-2F800η1η2η3η4η5η6η7η8η9ηAηBηCηDηEηFζ10η1η2η3η4η5η6η7η8",
      "η9ηAηBηCηDηEηFζ20η1η2η3η4η5η6η7η8η9ηAηBηCηDηEηFζ30η1η2η3η4η5η6η7η8η9ηAηBηCηDηEηFζ40η1η2η3η4",
      "η5η6η7η8η9ηAηBηCηDηEηFζ50η1η2η3η4η5η6η7η8η9ηAηBηCηDηEηFζ60η1η2η3η4η5η6η7η8η9ηAηBηCηDηEηFζ70",
      "η1η2η3η4η5η6η7η8η9ηAηBηCηDηEηFζ80η1η2η3η4η5η6η7η8η9ηAηBηCηDηEηFζ90η1η2η3η4η5η6η7η8η9ηAηBηCη",
      "DηEηFζA0η1η2η3η4η5η6η7η8η9ηAηBηCηDηEηFζB0η1η2η3η4η5η6η7η8η9ηAηBηCηDηEηFζC0η1η2η3η4η5η6η7η8η",
      "9ηAηBηCηDηEηFζD0η1η2η3η4η5η6η7η8η9ηAηBηCηDηEηFζE0η1η2η3η4η5η6η7η8η9ηAηBηCηDηEηFζF0η1η2η3η4η",
      "5η6η7η8η9ηAηBηCηDηEηFε900η1η2η3η4η5η6η7η8η9ηAηBηCηDηEηFζ10η1η2η3η4η5η6η7η8η9ηAηBηCηDηEηFζ20",
      "η1η2η3η4η5η6η7η8η9ηAηBηCηDηEηFζ30η1η2η3η4η5η6η7η8η9ηAηBηCηDηEηFζ40η1η2η3η4η5η6η7η8η9ηAηBηCη",
      "DηEηFζ50η1η2η3η4η5η6η7η8η9ηAηBηCηDηEηFζ60η1η2η3η4η5η6η7η8η9ηAηBηCηDηEηFζ70η1η2η3η4η5η6η7η8η",
      "9ηAηBηCηDηEηFζ80η1η2η3η4η5η6η7η8η9ηAηBηCηDηEηFζ90η1η2η3η4η5η6η7η8η9ηAηBηCηDηEηFζA0η1η2η3η4η",
      "5η6η7η8η9ηAηBηCηDηEηFζB0η1η2η3η4η5η6η7η8η9ηAηBηCηDηEηFζC0η1η2η3η4η5η6η7η8η9ηAηBηCηDηEηFζD0η",
      "1η2η3η4η5η6η7η8η9ηAηBηCηDηEηFζE0η1η2η3η4η5η6η7η8η9ηAηBηCηDηEηFζF0η1η2η3η4η5η6η7η8η9ηAηBηCηD",
      "ηEηFεA00η1η2η3η4η5η6η7η8η9ηAηBηCηDηEηFζ10η1η2η3η4η5η6η7η8η9ηAηBηCηD"]),
    (0xE0001, ["LANGUAGE TAG"]),
    (0xE0020, ["TAG SPACEeEXCLAMATION MARKeQUOTATION MARKeNUMBER SIGNeDOLLAR SIGNePERCENT SIGNeAMP",
      "ERSANDfPOSTROPHEeLEFT PARENTHESISeRIGHT PARENTHESISeASTERISKePLUS SIGNeCOMMAeHYPHEN-MINUSeF",
      "ULL STOPeSOLIDUSeDIGIT ZEROkONEkTWOlHREEkFOURlIVEkSIXlEVENkEIGHTkNINEeCOLONeSEMICOLONeLESS-",
      "THAN SIGNeEQUALS SIGNeGREATER-THAN SIGNeQUESTION MARKeCOMMERCIAL ATeLATIN CAPITAL LETTER Az",
      "BzCzDzEzFzGzHzIzJzKzLzMzNzOzPzQzRzSzTzUzVzWzXzYzZfEFT SQUARE BRACKETeREVERSE SOLIDUSfIGHT S",
      "QUARE BRACKETeCIRCUMFLEX ACCENTeLOW LINEeGRAVE ACCENTeLATIN SMALL LETTER AxBxCxDxExFxGxHxIx",
      "JxKxLxMxNxOxPxQxRxSxTxUxVxWxXxYxZfEFT CURLY BRACKETeVERTICAL LINEeRIGHT CURLY BRACKETeTILDE",
      "aCANCEL TAG"]),
    (0xE0100, ["VARIATION SELECTOR-17u8u9t20u1u2u3u4u5u6u7u8u9t30u1u2u3u4u5u6u7u8u9t40u1u2u3u4u5u6",
      "u7u8u9t50u1u2u3u4u5u6u7u8u9t60u1u2u3u4u5u6u7u8u9t70u1u2u3u4u5u6u7u8u9t80u1u2u3u4u5u6u7u8u9t",
      "90u1u2u3u4u5u6u7u8u9t100v1v2v3v4v5v6v7v8v9u10v1v2v3v4v5v6v7v8v9u20v1v2v3v4v5v6v7v8v9u30v1v2",
      "v3v4v5v6v7v8v9u40v1v2v3v4v5v6v7v8v9u50v1v2v3v4v5v6v7v8v9u60v1v2v3v4v5v6v7v8v9u70v1v2v3v4v5v",
      "6v7v8v9u80v1v2v3v4v5v6v7v8v9u90v1v2v3v4v5v6v7v8v9t200v1v2v3v4v5v6v7v8v9u10v1v2v3v4v5v6v7v8v",
      "9u20v1v2v3v4v5v6v7v8v9u30v1v2v3v4v5v6v7v8v9u40v1v2v3v4v5v6v7v8v9u50v1v2v3v4v5v6"])
  ]

end ProseRules.Text
