namespace ProseRules.Text

/-!
# Names of the characters from 0x2000 to 0xFFFF

The names of the characters of each run, packed as `codeInRun?` reads them.
-/

/-- Runs of characters with their packed names. -/
def symbolNames : List (Nat × List String) :=
  [
    (0x2000, ["EN QUADbM QUADbN SPACEbM SPACEaTHREE-PER-EM SPACEaFOUR-PER-EM SPACEaSIX-PER-EM SPAC",
      "EaFIGURE SPACEaPUNCTUATION SPACEaTHIN SPACEaHAIR SPACEaZERO WIDTH SPACElNON-JOINERlJOINERaL",
      "EFT-TO-RIGHT MARKaRIGHT-TO-LEFT MARKaHYPHENaNON-BREAKING HYPHENaFIGURE DASHaEN DASHbM DASHa",
      "HORIZONTAL BARaDOUBLE VERTICAL LINEhLOW LINEaLEFT SINGLE QUOTATION MARKaRIGHT SINGLE QUOTAT",
      "ION MARKaSINGLE LOW-9 QUOTATION MARKhHIGH-REVERSED-9 QUOTATION MARKaLEFT DOUBLE QUOTATION M",
      "ARKaRIGHT DOUBLE QUOTATION MARKaDOUBLE LOW-9 QUOTATION MARKhHIGH-REVERSED-9 QUOTATION MARKb",
      "AGGERbOUBLE DAGGERaBULLETaTRIANGULAR BULLETaONE DOT LEADERaTWO DOT LEADERaHORIZONTAL ELLIPS",
      "ISbYPHENATION POINTaLINE SEPARATORaPARAGRAPH SEPARATORaLEFT-TO-RIGHT EMBEDDINGaRIGHT-TO-LEF",
      "T EMBEDDINGaPOP DIRECTIONAL FORMATTINGaLEFT-TO-RIGHT OVERRIDEaRIGHT-TO-LEFT OVERRIDEaNARROW",
      " NO-BREAK SPACEaPER MILLE SIGNeTEN THOUSAND SIGNbRIMEaDOUBLE PRIMEaTRIPLE PRIMEaREVERSED PR",
      "IMEjDOUBLE PRIMEjTRIPLE PRIMEaCARETaSINGLE LEFT-POINTING ANGLE QUOTATION MARKhRIGHT-POINTIN",
      "G ANGLE QUOTATION MARKaREFERENCE MARKaDOUBLE EXCLAMATION MARKaINTERROBANGaOVERLINEaUNDERTIE",
      "aCHARACTER TIEbARET INSERTION POINTaASTERISMaHYPHEN BULLETaFRACTION SLASHaLEFT SQUARE BRACK",
      "ET WITH QUILLaRIGHT SQUARE BRACKET WITH QUILLaDOUBLE QUESTION MARKaQUESTION EXCLAMATION MAR",
      "KaEXCLAMATION QUESTION MARKaTIRONIAN SIGN ETaREVERSED PILCROW SIGNaBLACK LEFTWARDS BULLETgR",
      "IGHTWARDS BULLETaLOW ASTERISKaREVERSED SEMICOLONaCLOSE UPaTWO ASTERISKS ALIGNED VERTICALLYa",
      "COMMERCIAL MINUS SIGNaSWUNG DASHaINVERTED UNDERTIEaFLOWER PUNCTUATION MARKaTHREE DOT PUNCTU",
      "ATIONaQUADRUPLE PRIMEaFOUR DOT PUNCTUATIONbIVE DOT PUNCTUATIONaTWO DOT PUNCTUATIONaFOUR DOT",
      " MARKaDOTTED CROSSaTRICOLONaVERTICAL FOUR DOTSaMEDIUM MATHEMATICAL SPACEaWORD JOINERaFUNCTI",
      "ON APPLICATIONaINVISIBLE TIMESkSEPARATORkPLUS"]),
    (0x2066, ["LEFT-TO-RIGHT ISOLATEaRIGHT-TO-LEFT ISOLATEaFIRST STRONG ISOLATEaPOP DIRECTIONAL IS",
      "OLATEaINHIBIT SYMMETRIC SWAPPINGaACTIVATE SYMMETRIC SWAPPINGaINHIBIT ARABIC FORM SHAPINGaAC",
      "TIVATE ARABIC FORM SHAPINGaNATIONAL DIGIT SHAPESbOMINAL DIGIT SHAPESaSUPERSCRIPT ZEROmLATIN",
      " SMALL LETTER I"]),
    (0x2074, ["SUPERSCRIPT FOURnIVEmSIXnEVENmEIGHTmNINEmPLUS SIGNmMINUSmEQUALS SIGNmLEFT PARENTHES",
      "ISmRIGHT PARENTHESISmLATIN SMALL LETTER NcBSCRIPT ZEROkONEkTWOlHREEkFOURlIVEkSIXlEVENkEIGHT",
      "kNINEkPLUS SIGNkMINUSkEQUALS SIGNkLEFT PARENTHESISkRIGHT PARENTHESIS"]),
    (0x2090, ["LATIN SUBSCRIPT SMALL LETTER AδEδOδXδSCHWAδHδKδLδMδNδPδSδT"]),
    (0x20A0, ["EURO-CURRENCY SIGNaCOLON SIGNbRUZEIRO SIGNaFRENCH FRANC SIGNaLIRA SIGNaMILL SIGNaNA",
      "IRA SIGNaPESETA SIGNaRUPEE SIGNaWON SIGNaNEW SHEQEL SIGNaDONG SIGNaEURO SIGNaKIP SIGNaTUGRI",
      "K SIGNaDRACHMA SIGNaGERMAN PENNY SIGNaPESO SIGNaGUARANI SIGNaAUSTRAL SIGNaHRYVNIA SIGNaCEDI",
      " SIGNaLIVRE TOURNOIS SIGNaSPESMILO SIGNaTENGE SIGNaINDIAN RUPEE SIGNaTURKISH LIRA SIGNaNORD",
      "IC MARK SIGNaMANAT SIGNaRUBLE SIGNaLARI SIGNaBITCOIN SIGNaSOM SIGN"]),
    (0x20D0, ["COMBINING LEFT HARPOON ABOVEkRIGHT HARPOON ABOVEkLONG VERTICAL LINE OVERLAYkSHORT V",
      "ERTICAL LINE OVERLAYkANTICLOCKWISE ARROW ABOVEkCLOCKWISE ARROW ABOVEkLEFT ARROW ABOVEkRIGHT",
      " ARROW ABOVEmNG OVERLAYkCLOCKWISE RING OVERLAYkANTICLOCKWISE RING OVERLAYkTHREE DOTS ABOVEk",
      "FOUR DOTS ABOVEkENCLOSING CIRCLEuSQUAREuDIAMONDuCIRCLE BACKSLASHkLEFT RIGHT ARROW ABOVEkENC",
      "LOSING SCREENuKEYCAPuUPWARD POINTING TRIANGLEkREVERSE SOLIDUS OVERLAYkDOUBLE VERTICAL STROK",
      "E OVERLAYkANNUITY SYMBOLkTRIPLE UNDERDOTkWIDE BRIDGE ABOVEkLEFTWARDS ARROW OVERLAYlONG DOUB",
      "LE SOLIDUS OVERLAYkRIGHTWARDS HARPOON WITH BARB DOWNWARDSkLEFTWARDS HARPOON WITH BARB DOWNW",
      "ARDSo ARROW BELOWkRIGHT ARROW BELOWkASTERISK ABOVE"]),
    (0x2100, ["ACCOUNT OFbDDRESSED TO THE SUBJECTaDOUBLE-STRUCK CAPITAL CbEGREE CELSIUSaCENTRE LIN",
      "E SYMBOLbARE OFcDA UNAaEULER CONSTANTaSCRUPLEaDEGREE FAHRENHEITaSCRIPT SMALL GhCAPITAL HaBL",
      "ACK-LETTER CAPITAL HaDOUBLE-STRUCK CAPITAL HaPLANCK CONSTANTp OVER TWO PIaSCRIPT CAPITAL Ia",
      "BLACK-LETTER CAPITAL IaSCRIPT CAPITAL LhSMALL LaL B BAR SYMBOLaDOUBLE-STRUCK CAPITAL NaNUME",
      "RO SIGNaSOUND RECORDING COPYRIGHTbCRIPT CAPITAL PaDOUBLE-STRUCK CAPITAL PwQaSCRIPT CAPITAL ",
      "RaBLACK-LETTER CAPITAL RaDOUBLE-STRUCK CAPITAL RaPRESCRIPTION TAKEaRESPONSEaSERVICE MARKaTE",
      "LEPHONE SIGNbRADE MARK SIGNaVERSICLEaDOUBLE-STRUCK CAPITAL ZaOUNCE SIGNbHM SIGNaINVERTED OH",
      "M SIGNaBLACK-LETTER CAPITAL ZaTURNED GREEK SMALL LETTER IOTAaKELVIN SIGNaANGSTROM SIGNaSCRI",
      "PT CAPITAL BaBLACK-LETTER CAPITAL CaESTIMATED SYMBOLaSCRIPT SMALL EhCAPITAL EpFaTURNED CAPI",
      "TAL FaSCRIPT CAPITAL MhSMALL OaALEF SYMBOLaBET SYMBOLaGIMEL SYMBOLaDALET SYMBOLaINFORMATION",
      " SOURCEaROTATED CAPITAL QaFACSIMILE SIGNaDOUBLE-STRUCK SMALL PIuGAMMAoCAPITAL GAMMAwPIoN-AR",
      "Y SUMMATIONaTURNED SANS-SERIF CAPITAL GαLaREVERSED SANS-SERIF CAPITAL LaTURNED SANS-SERIF C",
      "APITAL YaDOUBLE-STRUCK ITALIC CAPITAL DvSMALL DβEβIβJaPROPERTY LINEaTURNED AMPERSANDaPER SI",
      "GNaAKTIESELSKABaTURNED SMALL FaSYMBOL FOR SAMARITAN SOURCEaVULGAR FRACTION ONE SEVENTHuNINT",
      "HuTENTHvHIRDqTWO THIRDSqONE FIFTHqTWO FIFTHSrHREE FIFTHSqFOUR FIFTHSqONE SIXTHqFIVE SIXTHSq",
      "ONE EIGHTHqTHREE EIGHTHSqFIVE EIGHTHSqSEVEN EIGHTHSaFRACTION NUMERATOR ONEaROMAN NUMERAL ON",
      "EoTWOpHREEoFOURpIVEoSIXpEVENoEIGHToNINEoTENoELEVENoTWELVEoFIFTYoONE HUNDREDoFIVE HUNDREDoON",
      "E THOUSANDaSMALL ROMAN NUMERAL ONEuTWOvHREEuFOURvIVEuSIXvEVENuEIGHTuNINEuTENuELEVENuTWELVEu",
      "FIFTYuONE HUNDREDuFIVE HUNDREDuONE THOUSANDaROMAN NUMERAL ONE THOUSAND C DoFIVE THOUSANDoTE",
      "N THOUSANDoREVERSED ONE HUNDREDaLATIN SMALL LETTER REVERSED CaROMAN NUMERAL SIX LATE FORMoF",
      "IFTY EARLY FORMuTHOUSANDoONE HUNDRED THOUSANDaVULGAR FRACTION ZERO THIRDSaTURNED DIGIT TWOo",
      "HREE"]),
    (0x2190, ["LEFTWARDS ARROWaUPWARDS ARROWaRIGHTWARDS ARROWaDOWNWARDS ARROWaLEFT RIGHT ARROWaUP ",
      "DOWN ARROWaNORTH WEST ARROWgEAST ARROWaSOUTH EAST ARROWgWEST ARROWaLEFTWARDS ARROW WITH STR",
      "OKEaRIGHTWARDS ARROW WITH STROKEaLEFTWARDS WAVE ARROWaRIGHTWARDS WAVE ARROWaLEFTWARDS TWO H",
      "EADED ARROWaUPWARDS TWO HEADED ARROWaRIGHTWARDS TWO HEADED ARROWaDOWNWARDS TWO HEADED ARROW",
      "aLEFTWARDS ARROW WITH TAILaRIGHTWARDS ARROW WITH TAILaLEFTWARDS ARROW FROM BARaUPWARDS ARRO",
      "W FROM BARaRIGHTWARDS ARROW FROM BARaDOWNWARDS ARROW FROM BARaUP DOWN ARROW WITH BASEaLEFTW",
      "ARDS ARROW WITH HOOKaRIGHTWARDS ARROW WITH HOOKaLEFTWARDS ARROW WITH LOOPaRIGHTWARDS ARROW ",
      "WITH LOOPaLEFT RIGHT WAVE ARROWlARROW WITH STROKEaDOWNWARDS ZIGZAG ARROWaUPWARDS ARROW WITH",
      " TIP LEFTWARDSxRIGHTWARDSaDOWNWARDS ARROW WITH TIP LEFTWARDSzRIGHTWARDSaRIGHTWARDS ARROW WI",
      "TH CORNER DOWNWARDSaDOWNWARDS ARROW WITH CORNER LEFTWARDSaANTICLOCKWISE TOP SEMICIRCLE ARRO",
      "WaCLOCKWISE TOP SEMICIRCLE ARROWaNORTH WEST ARROW TO LONG BARaLEFTWARDS ARROW TO BAR OVER R",
      "IGHTWARDS ARROW TO BARaANTICLOCKWISE OPEN CIRCLE ARROWaCLOCKWISE OPEN CIRCLE ARROWaLEFTWARD",
      "S HARPOON WITH BARB UPWARDSγDOWNWARDSaUPWARDS HARPOON WITH BARB RIGHTWARDSαLEFTWARDSaRIGHTW",
      "ARDS HARPOON WITH BARB UPWARDSδDOWNWARDSaDOWNWARDS HARPOON WITH BARB RIGHTWARDSγLEFTWARDSaR",
      "IGHTWARDS ARROW OVER LEFTWARDS ARROWaUPWARDS ARROW LEFTWARDS OF DOWNWARDS ARROWaLEFTWARDS A",
      "RROW OVER RIGHTWARDS ARROWkPAIRED ARROWSaUPWARDS PAIRED ARROWSaRIGHTWARDS PAIRED ARROWSaDOW",
      "NWARDS PAIRED ARROWSaLEFTWARDS HARPOON OVER RIGHTWARDS HARPOONaRIGHTWARDS HARPOON OVER LEFT",
      "WARDS HARPOONaLEFTWARDS DOUBLE ARROW WITH STROKEe RIGHT DOUBLE ARROW WITH STROKEaRIGHTWARDS",
      " DOUBLE ARROW WITH STROKEaLEFTWARDS DOUBLE ARROWaUPWARDS DOUBLE ARROWaRIGHTWARDS DOUBLE ARR",
      "OWaDOWNWARDS DOUBLE ARROWaLEFT RIGHT DOUBLE ARROWaUP DOWN DOUBLE ARROWaNORTH WEST DOUBLE AR",
      "ROWgEAST DOUBLE ARROWaSOUTH EAST DOUBLE ARROWgWEST DOUBLE ARROWaLEFTWARDS TRIPLE ARROWaRIGH",
      "TWARDS TRIPLE ARROWaLEFTWARDS SQUIGGLE ARROWaRIGHTWARDS SQUIGGLE ARROWaUPWARDS ARROW WITH D",
      "OUBLE STROKEaDOWNWARDS ARROW WITH DOUBLE STROKEaLEFTWARDS DASHED ARROWaUPWARDS DASHED ARROW",
      "aRIGHTWARDS DASHED ARROWaDOWNWARDS DASHED ARROWaLEFTWARDS ARROW TO BARaRIGHTWARDS ARROW TO ",
      "BARaLEFTWARDS WHITE ARROWaUPWARDS WHITE ARROWaRIGHTWARDS WHITE ARROWaDOWNWARDS WHITE ARROWa",
      "UPWARDS WHITE ARROW FROM BARuON PEDESTALζ WITH HORIZONTAL BARμVERTICAL BARoDOUBLE ARROWα ON",
      " PEDESTALaRIGHTWARDS WHITE ARROW FROM WALLaNORTH WEST ARROW TO CORNERaSOUTH EAST ARROW TO C",
      "ORNERaUP DOWN WHITE ARROWaRIGHT ARROW WITH SMALL CIRCLEaDOWNWARDS ARROW LEFTWARDS OF UPWARD",
      "S ARROWaTHREE RIGHTWARDS ARROWSaLEFTWARDS ARROW WITH VERTICAL STROKEaRIGHTWARDS ARROW WITH ",
      "VERTICAL STROKEaLEFT RIGHT ARROW WITH VERTICAL STROKEeWARDS ARROW WITH DOUBLE VERTICAL STRO",
      "KEaRIGHTWARDS ARROW WITH DOUBLE VERTICAL STROKEaLEFT RIGHT ARROW WITH DOUBLE VERTICAL STROK",
      "EeWARDS OPEN-HEADED ARROWaRIGHTWARDS OPEN-HEADED ARROWaLEFT RIGHT OPEN-HEADED ARROWaFOR ALL",
      "aCOMPLEMENTaPARTIAL DIFFERENTIALaTHERE EXISTSgDOES NOT EXISTaEMPTY SETaINCREMENTaNABLAaELEM",
      "ENT OFaNOT AN ELEMENT OFaSMALL ELEMENT OFaCONTAINS AS MEMBERaDOES NOT CONTAIN AS MEMBERaSMA",
      "LL CONTAINS AS MEMBERaEND OF PROOFaN-ARY PRODUCTgCOPRODUCTgSUMMATIONaMINUS SIGNf-OR-PLUS SI",
      "GNaDOT PLUSbIVISION SLASHaSET MINUSaASTERISK OPERATORaRING OPERATORaBULLET OPERATORaSQUARE ",
      "ROOTaCUBE ROOTaFOURTH ROOTaPROPORTIONAL TOaINFINITYaRIGHT ANGLEaANGLEaMEASURED ANGLEaSPHERI",
      "CAL ANGLEaDIVIDESbOES NOT DIVIDEaPARALLEL TOaNOT PARALLEL TOaLOGICAL ANDiORaINTERSECTIONaUN",
      "IONaINTEGRALaDOUBLE INTEGRALaTRIPLE INTEGRALaCONTOUR INTEGRALaSURFACE INTEGRALaVOLUME INTEG",
      "RALaCLOCKWISE INTEGRALkCONTOUR INTEGRALaANTICLOCKWISE CONTOUR INTEGRALaTHEREFOREaBECAUSEaRA",
      "TIOaPROPORTIONaDOT MINUSaEXCESSaGEOMETRIC PROPORTIONaHOMOTHETICaTILDE OPERATORaREVERSED TIL",
      "DEaINVERTED LAZY SaSINE WAVEaWREATH PRODUCTaNOT TILDEaMINUS TILDEaASYMPTOTICALLY EQUAL TOaN",
      "OT ASYMPTOTICALLY EQUAL TOaAPPROXIMATELY EQUAL TOoBUT NOT ACTUALLY EQUAL TOaNEITHER APPROXI",
      "MATELY NOR ACTUALLY EQUAL TOaALMOST EQUAL TOaNOT ALMOST EQUAL TOaALMOST EQUAL OR EQUAL TOaT",
      "RIPLE TILDEaALL EQUAL TOaEQUIVALENT TOaGEOMETRICALLY EQUIVALENT TOaDIFFERENCE BETWEENaAPPRO",
      "ACHES THE LIMITaGEOMETRICALLY EQUAL TOaAPPROXIMATELY EQUAL TO OR THE IMAGE OFaIMAGE OF OR A",
      "PPROXIMATELY EQUAL TOaCOLON EQUALSaEQUALS COLONaRING IN EQUAL TOfEQUAL TOaCORRESPONDS TOaES",
      "TIMATESbQUIANGULAR TOaSTAR EQUALSaDELTA EQUAL TOaEQUAL TO BY DEFINITIONaMEASURED BYaQUESTIO",
      "NED EQUAL TOaNOT EQUAL TOaIDENTICAL TOaNOT IDENTICAL TOaSTRICTLY EQUIVALENT TOaLESS-THAN OR",
      " EQUAL TOaGREATER-THAN OR EQUAL TOaLESS-THAN OVER EQUAL TOaGREATER-THAN OVER EQUAL TOaLESS-",
      "THAN BUT NOT EQUAL TOaGREATER-THAN BUT NOT EQUAL TOaMUCH LESS-THANfGREATER-THANaBETWEENaNOT",
      " EQUIVALENT TOeLESS-THANeGREATER-THANbEITHER LESS-THAN NOR EQUAL TOiGREATER-THAN NOR EQUAL ",
      "TOaLESS-THAN OR EQUIVALENT TOaGREATER-THAN OR EQUIVALENT TOaNEITHER LESS-THAN NOR EQUIVALEN",
      "T TOiGREATER-THAN NOR EQUIVALENT TOaLESS-THAN OR GREATER-THANaGREATER-THAN OR LESS-THANaNEI",
      "THER LESS-THAN NOR GREATER-THANiGREATER-THAN NOR LESS-THANaPRECEDESaSUCCEEDSaPRECEDES OR EQ",
      "UAL TOaSUCCEEDS OR EQUAL TOaPRECEDES OR EQUIVALENT TOaSUCCEEDS OR EQUIVALENT TOaDOES NOT PR",
      "ECEDEjSUCCEEDaSUBSET OFcPERSET OFaNOT A SUBSET OFiPERSET OFaSUBSET OF OR EQUAL TOcPERSET OF",
      " OR EQUAL TOaNEITHER A SUBSET OF NOR EQUAL TOmPERSET OF NOR EQUAL TOaSUBSET OF WITH NOT EQU",
      "AL TOcPERSET OF WITH NOT EQUAL TOaMULTISETi MULTIPLICATIONjUNIONaSQUARE IMAGE OFhORIGINAL O",
      "FhIMAGE OF OR EQUAL TOhORIGINAL OF OR EQUAL TOhCAPiUPaCIRCLED PLUSiMINUSiTIMESiDIVISION SLA",
      "SHjOT OPERATORiRING OPERATORiASTERISK OPERATORiEQUALSiDASHaSQUARED PLUSiMINUSiTIMESiDOT OPE",
      "RATORaRIGHT TACKaLEFT TACKaDOWN TACKaUP TACKaASSERTIONaMODELSaTRUEaFORCESaTRIPLE VERTICAL B",
      "AR RIGHT TURNSTILEaDOUBLE VERTICAL BAR DOUBLE RIGHT TURNSTILEcES NOT PROVEaNOT TRUEaDOES NO",
      "T FORCEaNEGATED DOUBLE VERTICAL BAR DOUBLE RIGHT TURNSTILEaPRECEDES UNDER RELATIONaSUCCEEDS",
      " UNDER RELATIONaNORMAL SUBGROUP OFaCONTAINS AS NORMAL SUBGROUPaNORMAL SUBGROUP OF OR EQUAL ",
      "TOaCONTAINS AS NORMAL SUBGROUP OR EQUAL TOaORIGINAL OFaIMAGE OFaMULTIMAPaHERMITIAN CONJUGAT",
      "E MATRIXaINTERCALATEaXORaNANDbORaRIGHT ANGLE WITH ARCgTRIANGLEaN-ARY LOGICAL ANDoORgINTERSE",
      "CTIONgUNIONaDIAMOND OPERATORbOT OPERATORaSTAR OPERATORaDIVISION TIMESaBOWTIEaLEFT NORMAL FA",
      "CTOR SEMIDIRECT PRODUCTaRIGHT NORMAL FACTOR SEMIDIRECT PRODUCTaLEFT SEMIDIRECT PRODUCTaRIGH",
      "T SEMIDIRECT PRODUCTbEVERSED TILDE EQUALSaCURLY LOGICAL ORoANDaDOUBLE SUBSETjPERSEThINTERSE",
      "CTIONhUNIONaPITCHFORKaEQUAL AND PARALLEL TOaLESS-THAN WITH DOTaGREATER-THAN WITH DOTaVERY M",
      "UCH LESS-THANkGREATER-THANaLESS-THAN EQUAL TO OR GREATER-THANaGREATER-THAN EQUAL TO OR LESS",
      "-THANaEQUAL TO OR LESS-THANmGREATER-THANmPRECEDESmSUCCEEDSaDOES NOT PRECEDE OR EQUALjSUCCEE",
      "D OR EQUALaNOT SQUARE IMAGE OF OR EQUAL TOlORIGINAL OF OR EQUAL TOaSQUARE IMAGE OF OR NOT E",
      "QUAL TOhORIGINAL OF OR NOT EQUAL TOaLESS-THAN BUT NOT EQUIVALENT TOaGREATER-THAN BUT NOT EQ",
      "UIVALENT TOaPRECEDES BUT NOT EQUIVALENT TOaSUCCEEDS BUT NOT EQUIVALENT TOaNOT NORMAL SUBGRO",
      "UP OFaDOES NOT CONTAIN AS NORMAL SUBGROUPaNOT NORMAL SUBGROUP OF OR EQUAL TOaDOES NOT CONTA",
      "IN AS NORMAL SUBGROUP OR EQUALaVERTICAL ELLIPSISaMIDLINE HORIZONTAL ELLIPSISaUP RIGHT DIAGO",
      "NAL ELLIPSISaDOWN RIGHT DIAGONAL ELLIPSISaELEMENT OF WITH LONG HORIZONTAL STROKEqVERTICAL B",
      "AR AT END OF HORIZONTAL STROKEaSMALL ELEMENT OF WITH VERTICAL BAR AT END OF HORIZONTAL STRO",
      "KEaELEMENT OF WITH DOT ABOVEqOVERBARaSMALL ELEMENT OF WITH OVERBARaELEMENT OF WITH UNDERBAR",
      "qTWO HORIZONTAL STROKESaCONTAINS WITH LONG HORIZONTAL STROKEoVERTICAL BAR AT END OF HORIZON",
      "TAL STROKEaSMALL CONTAINS WITH VERTICAL BAR AT END OF HORIZONTAL STROKEaCONTAINS WITH OVERB",
      "ARaSMALL CONTAINS WITH OVERBARaZ NOTATION BAG MEMBERSHIPaDIAMETER SIGNaELECTRIC ARROWaHOUSE",
      "aUP ARROWHEADaDOWN ARROWHEADaPROJECTIVEbERSPECTIVEaWAVY LINEaLEFT CEILINGaRIGHT CEILINGaLEF",
      "T FLOORaRIGHT FLOORaBOTTOM RIGHT CROPhLEFT CROPaTOP RIGHT CROPeLEFT CROPaREVERSED NOT SIGNa",
      "SQUARE LOZENGEaARCaSEGMENTcCTORaTELEPHONE RECORDERaPOSITION INDICATORaVIEWDATA SQUAREaPLACE",
      " OF INTEREST SIGNaTURNED NOT SIGNaWATCHaHOURGLASSaTOP LEFT CORNEReRIGHT CORNERaBOTTOM LEFT ",
      "CORNERhRIGHT CORNERaTOP HALF INTEGRALaBOTTOM HALF INTEGRALaFROWNaSMILEaUP ARROWHEAD BETWEEN",
      " TWO HORIZONTAL BARSaOPTION KEYaERASE TO THE RIGHTaX IN A RECTANGLE BOXaKEYBOARDaLEFT-POINT",
      "ING ANGLE BRACKETaRIGHT-POINTING ANGLE BRACKETaERASE TO THE LEFTaBENZENE RINGaCYLINDRICITYa",
      "ALL AROUND-PROFILEaSYMMETRYaTOTAL RUNOUTaDIMENSION ORIGINaCONICAL TAPERaSLOPEaCOUNTERBOREhS",
      "INKaAPL FUNCTIONAL SYMBOL I-BEAMwSQUISH QUADwQUAD EQUALβDIVIDEδAMONDβJOTβCIRCLEwCIRCLE STIL",
      "EδJOTwSLASH BARwBACKSLASH BARwQUAD SLASHβBACKSLASHβLESS-THANβGREATER-THANwLEFTWARDS VANEwRI",
      "GHTWARDS VANEwQUAD LEFTWARDS ARROWβRIGHTWARDS ARROWwCIRCLE BACKSLASHwDOWN TACK UNDERBARxELT",
      "A STILEwQUAD DOWN CARETγELTAwDOWN TACK JOTwUPWARDS VANEwQUAD UPWARDS ARROWwUP TACK OVERBARw",
      "DEL STILEwQUAD UP CARETβDELwUP TACK JOTwDOWNWARDS VANEwQUAD DOWNWARDS ARROWyOTE UNDERBARwDE",
      "LTA UNDERBARxIAMOND UNDERBARwJOT UNDERBARwCIRCLE UNDERBARwUP SHOE JOTwQUOTE QUADwCIRCLE STA",
      "RwQUAD COLONwUP TACK DIAERESISwDEL DIAERESISwSTAR DIAERESISwJOT DIAERESISwCIRCLE DIAERESISw",
      "DOWN SHOE STILEwLEFT SHOE STILEwTILDE DIAERESISwGREATER-THAN DIAERESISwCOMMA BARwDEL TILDEw",
      "ZILDEwSTILE TILDExEMICOLON UNDERBARwQUAD NOT EQUALβQUESTIONwDOWN CARET TILDEwUP CARET TILDE",
      "wIOTAwRHOwOMEGAwALPHA UNDERBARwEPSILON UNDERBARwIOTA UNDERBARwOMEGA UNDERBARwALPHAaNOT CHEC",
      "K MARKaRIGHT ANGLE WITH DOWNWARDS ZIGZAG ARROWaSHOULDERED OPEN BOXaBELL SYMBOLaVERTICAL LIN",
      "E WITH MIDDLE DOTaINSERTION SYMBOLaCONTINUOUS UNDERLINE SYMBOLaDISCONTINUOUS UNDERLINE SYMB",
      "OLaEMPHASIS SYMBOLaCOMPOSITION SYMBOLaWHITE SQUARE WITH CENTRE VERTICAL LINEaENTER SYMBOLaA",
      "LTERNATIVE KEY SYMBOLaHELM SYMBOLaCIRCLED HORIZONTAL BAR WITH NOTCHiTRIANGLE DOWNaBROKEN CI",
      "RCLE WITH NORTHWEST ARROWaUNDO SYMBOLaMONOSTABLE SYMBOLaHYSTERESIS SYMBOLaOPEN-CIRCUIT-OUTP",
      "UT H-TYPE SYMBOLuL-TYPE SYMBOLaPASSIVE-PULL-DOWN-OUTPUT SYMBOLnUP-OUTPUT SYMBOLaDIRECT CURR",
      "ENT SYMBOL FORM TWOaSOFTWARE-FUNCTION SYMBOLaAPL FUNCTIONAL SYMBOL QUADaDECIMAL SEPARATOR K",
      "EY SYMBOLaPREVIOUS PAGEaNEXT PAGEaPRINT SCREEN SYMBOLaCLEAR SCREEN SYMBOLaLEFT PARENTHESIS ",
      "UPPER HOOKrEXTENSIONrLOWER HOOKaRIGHT PARENTHESIS UPPER HOOKsEXTENSIONsLOWER HOOKaLEFT SQUA",
      "RE BRACKET UPPER CORNERuEXTENSIONuLOWER CORNERaRIGHT SQUARE BRACKET UPPER CORNERvEXTENSIONv",
      "LOWER CORNERaLEFT CURLY BRACKET UPPER HOOKtMIDDLE PIECEtLOWER HOOKaCURLY BRACKET EXTENSIONa",
      "RIGHT CURLY BRACKET UPPER HOOKuMIDDLE PIECEuLOWER HOOKaINTEGRAL EXTENSIONaHORIZONTAL LINE E",
      "XTENSIONaUPPER LEFT OR LOWER RIGHT CURLY BRACKET SECTIONgRIGHT OR LOWER LEFT CURLY BRACKET ",
      "SECTIONaSUMMATION TOPkBOTTOMaTOP SQUARE BRACKETaBOTTOM SQUARE BRACKETv OVER TOP SQUARE BRAC",
      "KETaRADICAL SYMBOL BOTTOMaLEFT VERTICAL BOX LINEaRIGHT VERTICAL BOX LINEaHORIZONTAL SCAN LI",
      "NE-1v3v7v9aDENTISTRY SYMBOL LIGHT VERTICAL AND TOP RIGHTλBOTTOM RIGHTηWITH CIRCLExDOWN AND ",
      "HORIZONTAL WITH CIRCLExUP AND HORIZONTAL WITH CIRCLExVERTICAL WITH TRIANGLExDOWN AND HORIZO",
      "NTAL WITH TRIANGLExUP AND HORIZONTAL WITH TRIANGLExVERTICAL AND WAVExDOWN AND HORIZONTAL WI",
      "TH WAVExUP AND HORIZONTAL WITH WAVExDOWN AND HORIZONTALxUP AND HORIZONTALxVERTICAL AND TOP ",
      "LEFTλBOTTOM LEFTaSQUARE FOOTaRETURN SYMBOLaEJECT SYMBOLaVERTICAL LINE EXTENSIONaMETRICAL BR",
      "EVEjLONG OVER SHORTjSHORT OVER LONGjLONG OVER TWO SHORTSjTWO SHORTS OVER LONGuJOINEDkRISEME",
      "kETRASEMEjPENTASEMEaEARTH GROUNDaFUSEaTOP PARENTHESISaBOTTOM PARENTHESISaTOP CURLY BRACKETa",
      "BOTTOM CURLY BRACKETaTOP TORTOISE SHELL BRACKETaBOTTOM TORTOISE SHELL BRACKETaWHITE TRAPEZI",
      "UMaBENZENE RING WITH CIRCLEaSTRAIGHTNESSaFLATNESSaAC CURRENTaELECTRICAL INTERSECTIONaDECIMA",
      "L EXPONENT SYMBOLaBLACK RIGHT-POINTING DOUBLE TRIANGLEgLEFT-POINTING DOUBLE TRIANGLEgUP-POI",
      "NTING DOUBLE TRIANGLEgDOWN-POINTING DOUBLE TRIANGLEgRIGHT-POINTING DOUBLE TRIANGLE WITH VER",
      "TICAL BARgLEFT-POINTING DOUBLE TRIANGLE WITH VERTICAL BARgRIGHT-POINTING TRIANGLE WITH DOUB",
      "LE VERTICAL BARaALARM CLOCKaSTOPWATCHaTIMER CLOCKaHOURGLASS WITH FLOWING SANDaBLACK MEDIUM ",
      "LEFT-POINTING TRIANGLEnRIGHT-POINTING TRIANGLEnUP-POINTING TRIANGLEnDOWN-POINTING TRIANGLEa",
      "DOUBLE VERTICAL BARaBLACK SQUARE FOR STOPgCIRCLE FOR RECORDaPOWER SYMBOLgON-OFF SYMBOLi SYM",
      "BOLgSLEEP SYMBOLaOBSERVER EYE SYMBOLaSYMBOL FOR NULLlSTART OF HEADINGuTEXTlEND OF TEXTtRANS",
      "MISSIONnQUIRYlACKNOWLEDGElBELLmACKSPACElHORIZONTAL TABULATIONlLINE FEEDlVERTICAL TABULATION",
      "lFORM FEEDlCARRIAGE RETURNlSHIFT OUTrINlDATA LINK ESCAPEmEVICE CONTROL ONEαTWOβHREEαFOURlNE",
      "GATIVE ACKNOWLEDGElSYNCHRONOUS IDLElEND OF TRANSMISSION BLOCKlCANCELlEND OF MEDIUMlSUBSTITU",
      "TElESCAPElFILE SEPARATORlGROUP SEPARATORlRECORD SEPARATORlUNIT SEPARATORlSPACElDELETEaBLANK",
      " SYMBOLaOPEN BOXaSYMBOL FOR NEWLINElDELETE FORM TWOlSUBSTITUTE FORM TWO"]),
    (0x2440, ["OCR HOOKeCHAIReFORKeINVERTED FORKeBELT BUCKLEfOW TIEfRANCH BANK IDENTIFICATIONeAMOU",
      "NT OF CHECKeDASHeCUSTOMER ACCOUNT NUMBEReDOUBLE BACKSLASH"]),
    (0x2460, ["CIRCLED DIGIT ONEoTWOpHREEoFOURpIVEoSIXpEVENoEIGHToNINEiNUMBER TENpELEVENpTWELVEqHI",
      "RTEENpFOURTEENqIFTEENpSIXTEENqEVENTEENpEIGHTEENpNINETEENpTWENTYaPARENTHESIZED DIGIT ONEuTWO",
      "vHREEuFOURvIVEuSIXvEVENuEIGHTuNINEoNUMBER TENvELEVENvTWELVEwHIRTEENvFOURTEENwIFTEENvSIXTEEN",
      "wEVENTEENvEIGHTEENvNINETEENvTWENTYaDIGIT ONE FULL STOPgTWO FULL STOPhHREE FULL STOPgFOUR FU",
      "LL STOPhIVE FULL STOPgSIX FULL STOPhEVEN FULL STOPgEIGHT FULL STOPgNINE FULL STOPaNUMBER TE",
      "N FULL STOPhELEVEN FULL STOPhTWELVE FULL STOPiHIRTEEN FULL STOPhFOURTEEN FULL STOPiIFTEEN F",
      "ULL STOPhSIXTEEN FULL STOPiEVENTEEN FULL STOPhEIGHTEEN FULL STOPhNINETEEN FULL STOPhTWENTY ",
      "FULL STOPaPARENTHESIZED LATIN SMALL LETTER AθBθCθDθEθFθGθHθIθJθKθLθMθNθOθPθQθRθSθTθUθVθWθXθ",
      "YθZaCIRCLED LATIN CAPITAL LETTER AδBδCδDδEδFδGδHδIδJδKδLδMδNδOδPδQδRδSδTδUδVδWδXδYδZoSMALL ",
      "LETTER AβBβCβDβEβFβGβHβIβJβKβLβMβNβOβPβQβRβSβTβUβVβWβXβYβZiDIGIT ZEROaNEGATIVE CIRCLED NUMB",
      "ER ELEVENyTWELVEzHIRTEENyFOURTEENzIFTEENySIXTEENzEVENTEENyEIGHTEENyNINETEENyTWENTYaDOUBLE C",
      "IRCLED DIGIT ONEvTWOwHREEvFOURwIVEvSIXwEVENvEIGHTvNINEpNUMBER TENaNEGATIVE CIRCLED DIGIT ZE",
      "ROaBOX DRAWINGS LIGHT HORIZONTALnHEAVY HORIZONTALnLIGHT VERTICALnHEAVY VERTICALnLIGHT TRIPL",
      "E DASH HORIZONTALnHEAVY TRIPLE DASH HORIZONTALnLIGHT TRIPLE DASH VERTICALnHEAVY TRIPLE DASH",
      " VERTICALnLIGHT QUADRUPLE DASH HORIZONTALnHEAVY QUADRUPLE DASH HORIZONTALnLIGHT QUADRUPLE D",
      "ASH VERTICALnHEAVY QUADRUPLE DASH VERTICALnLIGHT DOWN AND RIGHTnDOWN LIGHT AND RIGHT HEAVYs",
      "HEAVY AND RIGHT LIGHTnHEAVY DOWN AND RIGHTnLIGHT DOWN AND LEFTnDOWN LIGHT AND LEFT HEAVYsHE",
      "AVY AND LEFT LIGHTnHEAVY DOWN AND LEFTnLIGHT UP AND RIGHTnUP LIGHT AND RIGHT HEAVYqHEAVY AN",
      "D RIGHT LIGHTnHEAVY UP AND RIGHTnLIGHT UP AND LEFTnUP LIGHT AND LEFT HEAVYqHEAVY AND LEFT L",
      "IGHTnHEAVY UP AND LEFTnLIGHT VERTICAL AND RIGHTnVERTICAL LIGHT AND RIGHT HEAVYnUP HEAVY AND",
      " RIGHT DOWN LIGHTnDOWN HEAVY AND RIGHT UP LIGHTnVERTICAL HEAVY AND RIGHT LIGHTnDOWN LIGHT A",
      "ND RIGHT UP HEAVYnUP LIGHT AND RIGHT DOWN HEAVYnHEAVY VERTICAL AND RIGHTnLIGHT VERTICAL AND",
      " LEFTnVERTICAL LIGHT AND LEFT HEAVYnUP HEAVY AND LEFT DOWN LIGHTnDOWN HEAVY AND LEFT UP LIG",
      "HTnVERTICAL HEAVY AND LEFT LIGHTnDOWN LIGHT AND LEFT UP HEAVYnUP LIGHT AND LEFT DOWN HEAVYn",
      "HEAVY VERTICAL AND LEFTnLIGHT DOWN AND HORIZONTALoEFT HEAVY AND RIGHT DOWN LIGHTnRIGHT HEAV",
      "Y AND LEFT DOWN LIGHTnDOWN LIGHT AND HORIZONTAL HEAVYsHEAVY AND HORIZONTAL LIGHTnRIGHT LIGH",
      "T AND LEFT DOWN HEAVYnLEFT LIGHT AND RIGHT DOWN HEAVYnHEAVY DOWN AND HORIZONTALnLIGHT UP AN",
      "D HORIZONTALoEFT HEAVY AND RIGHT UP LIGHTnRIGHT HEAVY AND LEFT UP LIGHTnUP LIGHT AND HORIZO",
      "NTAL HEAVYqHEAVY AND HORIZONTAL LIGHTnRIGHT LIGHT AND LEFT UP HEAVYnLEFT LIGHT AND RIGHT UP",
      " HEAVYnHEAVY UP AND HORIZONTALnLIGHT VERTICAL AND HORIZONTALoEFT HEAVY AND RIGHT VERTICAL L",
      "IGHTnRIGHT HEAVY AND LEFT VERTICAL LIGHTnVERTICAL LIGHT AND HORIZONTAL HEAVYnUP HEAVY AND D",
      "OWN HORIZONTAL LIGHTnDOWN HEAVY AND UP HORIZONTAL LIGHTnVERTICAL HEAVY AND HORIZONTAL LIGHT",
      "nLEFT UP HEAVY AND RIGHT DOWN LIGHTnRIGHT UP HEAVY AND LEFT DOWN LIGHTnLEFT DOWN HEAVY AND ",
      "RIGHT UP LIGHTnRIGHT DOWN HEAVY AND LEFT UP LIGHTnDOWN LIGHT AND UP HORIZONTAL HEAVYnUP LIG",
      "HT AND DOWN HORIZONTAL HEAVYnRIGHT LIGHT AND LEFT VERTICAL HEAVYnLEFT LIGHT AND RIGHT VERTI",
      "CAL HEAVYnHEAVY VERTICAL AND HORIZONTALnLIGHT DOUBLE DASH HORIZONTALnHEAVY DOUBLE DASH HORI",
      "ZONTALnLIGHT DOUBLE DASH VERTICALnHEAVY DOUBLE DASH VERTICALnDOUBLE HORIZONTALuVERTICALpWN ",
      "SINGLE AND RIGHT DOUBLEsDOUBLE AND RIGHT SINGLEpUBLE DOWN AND RIGHTpWN SINGLE AND LEFT DOUB",
      "LEsDOUBLE AND LEFT SINGLEpUBLE DOWN AND LEFTnUP SINGLE AND RIGHT DOUBLEqDOUBLE AND RIGHT SI",
      "NGLEnDOUBLE UP AND RIGHTnUP SINGLE AND LEFT DOUBLEqDOUBLE AND LEFT SINGLEnDOUBLE UP AND LEF",
      "TnVERTICAL SINGLE AND RIGHT DOUBLEwDOUBLE AND RIGHT SINGLEnDOUBLE VERTICAL AND RIGHTnVERTIC",
      "AL SINGLE AND LEFT DOUBLEwDOUBLE AND LEFT SINGLEnDOUBLE VERTICAL AND LEFTpWN SINGLE AND HOR",
      "IZONTAL DOUBLEsDOUBLE AND HORIZONTAL SINGLEpUBLE DOWN AND HORIZONTALnUP SINGLE AND HORIZONT",
      "AL DOUBLEqDOUBLE AND HORIZONTAL SINGLEnDOUBLE UP AND HORIZONTALnVERTICAL SINGLE AND HORIZON",
      "TAL DOUBLEwDOUBLE AND HORIZONTAL SINGLEnDOUBLE VERTICAL AND HORIZONTALnLIGHT ARC DOWN AND R",
      "IGHTηLEFTxUP AND LEFTεRIGHTtDIAGONAL UPPER RIGHT TO LOWER LEFTιLEFT TO LOWER RIGHTγCROSStLE",
      "FTtUPtRIGHTtDOWNnHEAVY LEFTtUPtRIGHTtDOWNnLIGHT LEFT AND HEAVY RIGHTtUP AND HEAVY DOWNnHEAV",
      "Y LEFT AND LIGHT RIGHTtUP AND LIGHT DOWNaUPPER HALF BLOCKaLOWER ONE EIGHTH BLOCKkQUARTER BL",
      "OCKgTHREE EIGHTHS BLOCKgHALF BLOCKgFIVE EIGHTHS BLOCKgTHREE QUARTERS BLOCKgSEVEN EIGHTHS BL",
      "OCKaFULL BLOCKaLEFT SEVEN EIGHTHS BLOCKfTHREE QUARTERS BLOCKfFIVE EIGHTHS BLOCKfHALF BLOCKf",
      "THREE EIGHTHS BLOCKfONE QUARTER BLOCKjEIGHTH BLOCKaRIGHT HALF BLOCKaLIGHT SHADEaMEDIUM SHAD",
      "EaDARK SHADEaUPPER ONE EIGHTH BLOCKaRIGHT ONE EIGHTH BLOCKaQUADRANT LOWER LEFTpRIGHTjUPPER ",
      "LEFTt AND LOWER LEFT AND LOWER RIGHTεRIGHTyUPPER RIGHT AND LOWER LEFTυRIGHTpRIGHTu AND LOWE",
      "R LEFTκ AND LOWER RIGHTaBLACK SQUAREaWHITE SQUAREm WITH ROUNDED CORNERSnCONTAINING BLACK SM",
      "ALL SQUAREaSQUARE WITH HORIZONTAL FILLmVERTICAL FILLmORTHOGONAL CROSSHATCH FILLmUPPER LEFT ",
      "TO LOWER RIGHT FILLsRIGHT TO LOWER LEFT FILLmDIAGONAL CROSSHATCH FILLaBLACK SMALL SQUAREaWH",
      "ITE SMALL SQUAREaBLACK RECTANGLEaWHITE RECTANGLEaBLACK VERTICAL RECTANGLEaWHITE VERTICAL RE",
      "CTANGLEaBLACK PARALLELOGRAMaWHITE PARALLELOGRAMaBLACK UP-POINTING TRIANGLEaWHITE UP-POINTIN",
      "G TRIANGLEaBLACK UP-POINTING SMALL TRIANGLEaWHITE UP-POINTING SMALL TRIANGLEaBLACK RIGHT-PO",
      "INTING TRIANGLEaWHITE RIGHT-POINTING TRIANGLEaBLACK RIGHT-POINTING SMALL TRIANGLEaWHITE RIG",
      "HT-POINTING SMALL TRIANGLEaBLACK RIGHT-POINTING POINTERaWHITE RIGHT-POINTING POINTERaBLACK ",
      "DOWN-POINTING TRIANGLEaWHITE DOWN-POINTING TRIANGLEaBLACK DOWN-POINTING SMALL TRIANGLEaWHIT",
      "E DOWN-POINTING SMALL TRIANGLEaBLACK LEFT-POINTING TRIANGLEaWHITE LEFT-POINTING TRIANGLEaBL",
      "ACK LEFT-POINTING SMALL TRIANGLEaWHITE LEFT-POINTING SMALL TRIANGLEaBLACK LEFT-POINTING POI",
      "NTERaWHITE LEFT-POINTING POINTERaBLACK DIAMONDaWHITE DIAMONDn CONTAINING BLACK SMALL DIAMON",
      "DaFISHEYEaLOZENGEaWHITE CIRCLEaDOTTED CIRCLEaCIRCLE WITH VERTICAL FILLaBULLSEYEbLACK CIRCLE",
      "aCIRCLE WITH LEFT HALF BLACKmRIGHT HALF BLACKmLOWER HALF BLACKmUPPER HALF BLACKsRIGHT QUADR",
      "ANT BLACKmALL BUT UPPER LEFT QUADRANT BLACKaLEFT HALF BLACK CIRCLEaRIGHT HALF BLACK CIRCLEa",
      "INVERSE BULLETiWHITE CIRCLEaUPPER HALF INVERSE WHITE CIRCLEaLOWER HALF INVERSE WHITE CIRCLE",
      "aUPPER LEFT QUADRANT CIRCULAR ARCgRIGHT QUADRANT CIRCULAR ARCaLOWER RIGHT QUADRANT CIRCULAR",
      " ARCgLEFT QUADRANT CIRCULAR ARCaUPPER HALF CIRCLEaLOWER HALF CIRCLEaBLACK LOWER RIGHT TRIAN",
      "GLEmLEFT TRIANGLEgUPPER LEFT TRIANGLEmRIGHT TRIANGLEaWHITE BULLETaSQUARE WITH LEFT HALF BLA",
      "CKmRIGHT HALF BLACKmUPPER LEFT DIAGONAL HALF BLACKmLOWER RIGHT DIAGONAL HALF BLACKaWHITE SQ",
      "UARE WITH VERTICAL BISECTING LINEgUP-POINTING TRIANGLE WITH DOTaUP-POINTING TRIANGLE WITH L",
      "EFT HALF BLACKαRIGHT HALF BLACKaLARGE CIRCLEaWHITE SQUARE WITH UPPER LEFT QUADRANTsLOWER LE",
      "FT QUADRANTyRIGHT QUADRANTsUPPER RIGHT QUADRANTgCIRCLE WITH UPPER LEFT QUADRANTsLOWER LEFT ",
      "QUADRANTyRIGHT QUADRANTsUPPER RIGHT QUADRANTaUPPER LEFT TRIANGLEgRIGHT TRIANGLEaLOWER LEFT ",
      "TRIANGLEaWHITE MEDIUM SQUAREaBLACK MEDIUM SQUAREaWHITE MEDIUM SMALL SQUAREaBLACK MEDIUM SMA",
      "LL SQUAREaLOWER RIGHT TRIANGLEaBLACK SUN WITH RAYSaCLOUDaUMBRELLAaSNOWMANaCOMETaBLACK STARa",
      "WHITE STARaLIGHTNINGaTHUNDERSTORMaSUNaASCENDING NODEaDESCENDING NODEaCONJUNCTIONaOPPOSITION",
      "aBLACK TELEPHONEaWHITE TELEPHONEaBALLOT BOXk WITH CHECKqXaSALTIREaUMBRELLA WITH RAIN DROPSa",
      "HOT BEVERAGEaWHITE SHOGI PIECEaBLACK SHOGI PIECEaSHAMROCKaREVERSED ROTATED FLORAL HEART BUL",
      "LETaBLACK LEFT POINTING INDEXgRIGHT POINTING INDEXaWHITE LEFT POINTING INDEXgUP POINTING IN",
      "DEXgRIGHT POINTING INDEXgDOWN POINTING INDEXaSKULL AND CROSSBONESaCAUTION SIGNaRADIOACTIVE ",
      "SIGNaBIOHAZARD SIGNaCADUCEUSaANKHaORTHODOX CROSSaCHI RHObROSS OF LORRAINEjJERUSALEMaSTAR AN",
      "D CRESCENTaFARSI SYMBOLaADI SHAKTIaHAMMER AND SICKLEaPEACE SYMBOLaYIN YANGaTRIGRAM FOR HEAV",
      "ENmLAKEmFIREmTHUNDERmWINDnATERmMOUNTAINmEARTHaWHEEL OF DHARMAcITE FROWNING FACEgSMILING FAC",
      "EaBLACK SMILING FACEaWHITE SUN WITH RAYSaFIRST QUARTER MOONaLAST QUARTER MOONaMERCURYaFEMAL",
      "E SIGNaEARTHaMALE SIGNaJUPITERaSATURNaURANUSaNEPTUNEaPLUTOaARIESaTAURUSaGEMINIaCANCERaLEOaV",
      "IRGOaLIBRAaSCORPIUSbAGITTARIUSaCAPRICORNaAQUARIUSaPISCESaWHITE CHESS KINGmQUEENmROOKmBISHOP",
      "mKNIGHTmPAWNaBLACK CHESS KINGmQUEENmROOKmBISHOPmKNIGHTmPAWNgSPADE SUITaWHITE HEART SUITgDIA",
      "MOND SUITaBLACK CLUB SUITaWHITE SPADE SUITaBLACK HEART SUITgDIAMOND SUITaWHITE CLUB SUITaHO",
      "T SPRINGSaQUARTER NOTEaEIGHTH NOTEaBEAMED EIGHTH NOTEShSIXTEENTH NOTESaMUSIC FLAT SIGNgNATU",
      "RAL SIGNgSHARP SIGNaWEST SYRIAC CROSSaEAST SYRIAC CROSSaUNIVERSAL RECYCLING SYMBOLaRECYCLIN",
      "G SYMBOL FOR TYPE-1 PLASTICSα2 PLASTICSα3 PLASTICSα4 PLASTICSα5 PLASTICSα6 PLASTICSα7 PLAST",
      "ICSvGENERIC MATERIALSaBLACK UNIVERSAL RECYCLING SYMBOLaRECYCLED PAPER SYMBOLaPARTIALLY-RECY",
      "CLED PAPER SYMBOLbERMANENT PAPER SIGNaWHEELCHAIR SYMBOLaDIE FACE-1j2j3j4j5j6aWHITE CIRCLE W",
      "ITH DOT RIGHTsTWO DOTSaBLACK CIRCLE WITH WHITE DOT RIGHTsTWO WHITE DOTSaMONOGRAM FOR YANGoI",
      "NaDIGRAM FOR GREATER YANGlLESSER YINtANGlGREATER YINaWHITE FLAGaBLACK FLAGaHAMMER AND PICKa",
      "ANCHORaCROSSED SWORDSaSTAFF OF AESCULAPIUSbCALESaALEMBICaFLOWERaGEARaSTAFF OF HERMESaATOM S",
      "YMBOLaFLEUR-DE-LISaOUTLINED WHITE STARaTHREE LINES CONVERGING RIGHTxLEFTaWARNING SIGNaHIGH ",
      "VOLTAGE SIGNaDOUBLED FEMALE SIGNiMALE SIGNaINTERLOCKED FEMALE AND MALE SIGNaMALE AND FEMALE",
      " SIGNfWITH STROKE SIGNrAND MALE AND FEMALE SIGNaVERTICAL MALE WITH STROKE SIGNaHORIZONTAL M",
      "ALE WITH STROKE SIGNaMEDIUM WHITE CIRCLEhBLACK CIRCLEhSMALL WHITE CIRCLEbARRIAGE SYMBOLaDIV",
      "ORCE SYMBOLaUNMARRIED PARTNERSHIP SYMBOLaCOFFINaFUNERAL URNaNEUTERaCERESaPALLASaJUNOaVESTAa",
      "CHIRONaBLACK MOON LILITHaSEXTILEcMISEXTILEaQUINCUNXaSESQUIQUADRATEbOCCER BALLaBASEBALLaSQUA",
      "RED KEYaWHITE DRAUGHTS MANpKINGaBLACK DRAUGHTS MANpKINGaSNOWMAN WITHOUT SNOWbUN BEHIND CLOU",
      "DaRAINaBLACK SNOWMANaTHUNDER CLOUD AND RAINbURNED WHITE SHOGI PIECEhBLACK SHOGI PIECEaWHITE",
      " DIAMOND IN SQUAREaCROSSING LANESaDISABLED CARaOPHIUCHUSaPICKaCAR SLIDINGaHELMET WITH WHITE",
      " CROSSaCIRCLED CROSSING LANESbHAINSaNO ENTRYaALTERNATE ONE-WAY LEFT WAY TRAFFICaBLACK TWO-W",
      "AY LEFT WAY TRAFFICaWHITE TWO-WAY LEFT WAY TRAFFICaBLACK LEFT LANE MERGEaWHITE LEFT LANE ME",
      "RGEaDRIVE SLOW SIGNaHEAVY WHITE DOWN-POINTING TRIANGLEaLEFT CLOSED ENTRYaSQUARED SALTIREaFA",
      "LLING DIAGONAL IN WHITE CIRCLE IN BLACK SQUAREaBLACK TRUCKaRESTRICTED LEFT ENTRY-1w2aASTRON",
      "OMICAL SYMBOL FOR URANUSaHEAVY CIRCLE WITH STROKE AND TWO DOTS ABOVEaPENTAGRAMaRIGHT-HANDED",
      " INTERLACED PENTAGRAMaLEFT-HANDED INTERLACED PENTAGRAMaINVERTED PENTAGRAMaBLACK CROSS ON SH",
      "IELDaSHINTO SHRINEaCHURCHbASTLEaHISTORIC SITEaGEAR WITHOUT HUBj HANDLESaMAP SYMBOL FOR LIGH",
      "THOUSEbOUNTAINaUMBRELLA ON GROUNDaFOUNTAINbLAG IN HOLEbERRYaSAILBOATbQUARE FOUR CORNERSbKIE",
      "RaICE SKATEaPERSON WITH BALLaTENTaJAPANESE BANK SYMBOLaHEADSTONE GRAVEYARD SYMBOLaFUEL PUMP",
      "aCUP ON BLACK SQUAREaWHITE FLAG WITH HORIZONTAL MIDDLE BLACK STRIPEaBLACK SAFETY SCISSORSaU",
      "PPER BLADE SCISSORSaBLACK SCISSORSaLOWER BLADE SCISSORSaWHITE SCISSORSgHEAVY CHECK MARKaTEL",
      "EPHONE LOCATION SIGNbAPE DRIVEaAIRPLANEaENVELOPEaRAISED FISThHANDaVICTORY HANDaWRITING HAND",
      "aLOWER RIGHT PENCILaPENCILaUPPER RIGHT PENCILaWHITE NIBaBLACK NIBaCHECK MARKaHEAVY CHECK MA",
      "RKaMULTIPLICATION XaHEAVY MULTIPLICATION XaBALLOT XaHEAVY BALLOT XaOUTLINED GREEK CROSSaHEA",
      "VY GREEK CROSSaOPEN CENTRE CROSSaHEAVY OPEN CENTRE CROSSaLATIN CROSSaSHADOWED WHITE LATIN C",
      "ROSSaOUTLINED LATIN CROSSaMALTESE CROSSaSTAR OF DAVIDaFOUR TEARDROP-SPOKED ASTERISKfBALLOON",
      "-SPOKED ASTERISKaHEAVY FOUR BALLOON-SPOKED ASTERISKaFOUR CLUB-SPOKED ASTERISKaBLACK FOUR PO",
      "INTED STARaWHITE FOUR POINTED STARaSPARKLESbTRESS OUTLINED WHITE STARaCIRCLED WHITE STARaOP",
      "EN CENTRE BLACK STARaBLACK CENTRE WHITE STARaOUTLINED BLACK STARaHEAVY OUTLINED BLACK STARa",
      "PINWHEEL STARaSHADOWED WHITE STARaHEAVY ASTERISKaOPEN CENTRE ASTERISKaEIGHT SPOKED ASTERISK",
      "gPOINTED BLACK STARoPINWHEEL STARaSIX POINTED BLACK STARaEIGHT POINTED RECTILINEAR BLACK ST",
      "ARaHEAVY EIGHT POINTED RECTILINEAR BLACK STARaTWELVE POINTED BLACK STARaSIXTEEN POINTED AST",
      "ERISKaTEARDROP-SPOKED ASTERISKaOPEN CENTRE TEARDROP-SPOKED ASTERISKaHEAVY TEARDROP-SPOKED A",
      "STERISKaSIX PETALLED BLACK AND WHITE FLORETTEaBLACK FLORETTEaWHITE FLORETTEaEIGHT PETALLED ",
      "OUTLINED BLACK FLORETTEaCIRCLED OPEN CENTRE EIGHT POINTED STARaHEAVY TEARDROP-SPOKED PINWHE",
      "EL ASTERISKaSNOWFLAKEaTIGHT TRIFOLIATE SNOWFLAKEaHEAVY CHEVRON SNOWFLAKEaSPARKLEaHEAVY SPAR",
      "KLEaBALLOON-SPOKED ASTERISKaEIGHT TEARDROP-SPOKED PROPELLER ASTERISKaHEAVY EIGHT TEARDROP-S",
      "POKED PROPELLER ASTERISKaCROSS MARKaSHADOWED WHITE CIRCLEaNEGATIVE SQUARED CROSS MARKaLOWER",
      " RIGHT DROP-SHADOWED WHITE SQUAREaUPPER RIGHT DROP-SHADOWED WHITE SQUAREaLOWER RIGHT SHADOW",
      "ED WHITE SQUAREaUPPER RIGHT SHADOWED WHITE SQUAREaBLACK QUESTION MARK ORNAMENTaWHITE QUESTI",
      "ON MARK ORNAMENTgEXCLAMATION MARK ORNAMENTaBLACK DIAMOND MINUS WHITE XaHEAVY EXCLAMATION MA",
      "RK SYMBOLaLIGHT VERTICAL BARaMEDIUM VERTICAL BARaHEAVY VERTICAL BARgSINGLE TURNED COMMA QUO",
      "TATION MARK ORNAMENTnCOMMA QUOTATION MARK ORNAMENTgDOUBLE TURNED COMMA QUOTATION MARK ORNAM",
      "ENTnCOMMA QUOTATION MARK ORNAMENTgLOW SINGLE COMMA QUOTATION MARK ORNAMENTkDOUBLE COMMA QUO",
      "TATION MARK ORNAMENTaCURVED STEM PARAGRAPH SIGN ORNAMENTaHEAVY EXCLAMATION MARK ORNAMENTgHE",
      "ART EXCLAMATION MARK ORNAMENTgBLACK HEARTaROTATED HEAVY BLACK HEART BULLETaFLORAL HEARTaROT",
      "ATED FLORAL HEART BULLETaMEDIUM LEFT PARENTHESIS ORNAMENThRIGHT PARENTHESIS ORNAMENThFLATTE",
      "NED LEFT PARENTHESIS ORNAMENTrRIGHT PARENTHESIS ORNAMENThLEFT-POINTING ANGLE BRACKET ORNAME",
      "NThRIGHT-POINTING ANGLE BRACKET ORNAMENTaHEAVY LEFT-POINTING ANGLE QUOTATION MARK ORNAMENTg",
      "RIGHT-POINTING ANGLE QUOTATION MARK ORNAMENTgLEFT-POINTING ANGLE BRACKET ORNAMENTgRIGHT-POI",
      "NTING ANGLE BRACKET ORNAMENTaLIGHT LEFT TORTOISE SHELL BRACKET ORNAMENTgRIGHT TORTOISE SHEL",
      "L BRACKET ORNAMENTaMEDIUM LEFT CURLY BRACKET ORNAMENThRIGHT CURLY BRACKET ORNAMENTaDINGBAT ",
      "NEGATIVE CIRCLED DIGIT ONEζTWOηHREEζFOURηIVEζSIXηEVENζEIGHTζNINEzNUMBER TENiCIRCLED SANS-SE",
      "RIF DIGIT ONEθTWOιHREEθFOURιIVEθSIXιEVENθEIGHTθNINEβNUMBER TENiNEGATIVE CIRCLED SANS-SERIF ",
      "DIGIT ONEρTWOςHREEρFOURςIVEρSIXςEVENρEIGHTρNINEλNUMBER TENaHEAVY WIDE-HEADED RIGHTWARDS ARR",
      "OWgPLUS SIGNgMINUS SIGNgDIVISION SIGNgSOUTH EAST ARROWgRIGHTWARDS ARROWgNORTH EAST ARROWaDR",
      "AFTING POINT RIGHTWARDS ARROWaHEAVY ROUND-TIPPED RIGHTWARDS ARROWaTRIANGLE-HEADED RIGHTWARD",
      "S ARROWaHEAVY TRIANGLE-HEADED RIGHTWARDS ARROWaDASHED TRIANGLE-HEADED RIGHTWARDS ARROWaHEAV",
      "Y DASHED TRIANGLE-HEADED RIGHTWARDS ARROWaBLACK RIGHTWARDS ARROWaTHREE-D TOP-LIGHTED RIGHTW",
      "ARDS ARROWHEADiBOTTOM-LIGHTED RIGHTWARDS ARROWHEADaBLACK RIGHTWARDS ARROWHEADaHEAVY BLACK C",
      "URVED DOWNWARDS AND RIGHTWARDS ARROWtUPWARDS AND RIGHTWARDS ARROWaSQUAT BLACK RIGHTWARDS AR",
      "ROWaHEAVY CONCAVE-POINTED BLACK RIGHTWARDS ARROWaRIGHT-SHADED WHITE RIGHTWARDS ARROWaLEFT-S",
      "HADED WHITE RIGHTWARDS ARROWaBACK-TILTED SHADOWED WHITE RIGHTWARDS ARROWaFRONT-TILTED SHADO",
      "WED WHITE RIGHTWARDS ARROWaHEAVY LOWER RIGHT-SHADOWED WHITE RIGHTWARDS ARROWgUPPER RIGHT-SH",
      "ADOWED WHITE RIGHTWARDS ARROWaNOTCHED LOWER RIGHT-SHADOWED WHITE RIGHTWARDS ARROWaCURLY LOO",
      "PaNOTCHED UPPER RIGHT-SHADOWED WHITE RIGHTWARDS ARROWaCIRCLED HEAVY WHITE RIGHTWARDS ARROWa",
      "WHITE-FEATHERED RIGHTWARDS ARROWaBLACK-FEATHERED SOUTH EAST ARROWqRIGHTWARDS ARROWqNORTH EA",
      "ST ARROWaHEAVY BLACK-FEATHERED SOUTH EAST ARROWwRIGHTWARDS ARROWwNORTH EAST ARROWaTEARDROP-",
      "BARBED RIGHTWARDS ARROWaHEAVY TEARDROP-SHANKED RIGHTWARDS ARROWaWEDGE-TAILED RIGHTWARDS ARR",
      "OWaHEAVY WEDGE-TAILED RIGHTWARDS ARROWaOPEN-OUTLINED RIGHTWARDS ARROWaDOUBLE CURLY LOOPaTHR",
      "EE DIMENSIONAL ANGLEaWHITE TRIANGLE CONTAINING SMALL WHITE TRIANGLEaPERPENDICULARaOPEN SUBS",
      "EThPERSETaLEFT S-SHAPED BAG DELIMITERaRIGHT S-SHAPED BAG DELIMITERaOR WITH DOT INSIDEaREVER",
      "SE SOLIDUS PRECEDING SUBSETaSUPERSET PRECEDING SOLIDUSaVERTICAL BAR WITH HORIZONTAL STROKEa",
      "MATHEMATICAL RISING DIAGONALaLONG DIVISIONaMATHEMATICAL FALLING DIAGONALaSQUARED LOGICAL AN",
      "DqORaWHITE DIAMOND WITH CENTRED DOTaAND WITH DOTaELEMENT OF OPENING UPWARDSaLOWER RIGHT COR",
      "NER WITH DOTaUPPER LEFT CORNER WITH DOTaLEFT OUTER JOINaRIGHT OUTER JOINaFULL OUTER JOINaLA",
      "RGE UP TACKgDOWN TACKbEFT AND RIGHT DOUBLE TURNSTILEpTACKfMULTIMAPbONG RIGHT TACKfLEFT TACK",
      "aUP TACK WITH CIRCLE ABOVEaLOZENGE DIVIDED BY HORIZONTAL RULEaWHITE CONCAVE-SIDED DIAMONDβ ",
      "WITH LEFTWARDS TICKθRIGHTWARDS TICKgSQUARE WITH LEFTWARDS TICKsRIGHTWARDS TICKaMATHEMATICAL",
      " LEFT WHITE SQUARE BRACKETnRIGHT WHITE SQUARE BRACKETnLEFT ANGLE BRACKETnRIGHT ANGLE BRACKE",
      "TnLEFT DOUBLE ANGLE BRACKETnRIGHT DOUBLE ANGLE BRACKETnLEFT WHITE TORTOISE SHELL BRACKETnRI",
      "GHT WHITE TORTOISE SHELL BRACKETnLEFT FLATTENED PARENTHESISnRIGHT FLATTENED PARENTHESISaUPW",
      "ARDS QUADRUPLE ARROWaDOWNWARDS QUADRUPLE ARROWaANTICLOCKWISE GAPPED CIRCLE ARROWaCLOCKWISE ",
      "GAPPED CIRCLE ARROWaRIGHT ARROW WITH CIRCLED PLUSaLONG LEFTWARDS ARROWfRIGHTWARDS ARROWfLEF",
      "T RIGHT ARROWjWARDS DOUBLE ARROWfRIGHTWARDS DOUBLE ARROWfLEFT RIGHT DOUBLE ARROWjWARDS ARRO",
      "W FROM BARfRIGHTWARDS ARROW FROM BARfLEFTWARDS DOUBLE ARROW FROM BARfRIGHTWARDS DOUBLE ARRO",
      "W FROM BARqSQUIGGLE ARROWaBRAILLE PATTERN BLANKqDOTS-1v2v12v3v13v23v123v4v14v24v124v34v134v",
      "234v1234v5v15v25v125v35v135v235v1235v45v145v245v1245v345v1345v2345v12345v6v16v26v126v36v136",
      "v236v1236v46v146v246v1246v346v1346v2346v12346v56v156v256v1256v356v1356v2356v12356v456v1456v",
      "2456v12456v3456v13456v23456v123456v7v17v27v127v37v137v237v1237v47v147v247v1247v347v1347v234",
      "7v12347v57v157v257v1257v357v1357v2357v12357v457v1457v2457v12457v3457v13457v23457v123457v67v",
      "167v267v1267v367v1367v2367v12367v467v1467v2467v12467v3467v13467v23467v123467v567v1567v2567v",
      "12567v3567v13567v23567v123567v4567v14567v24567v124567v34567v134567v234567v1234567v8v18v28v1",
      "28v38v138v238v1238v48v148v248v1248v348v1348v2348v12348v58v158v258v1258v358v1358v2358v12358v",
      "458v1458v2458v12458v3458v13458v23458v123458v68v168v268v1268v368v1368v2368v12368v468v1468v24",
      "68v12468v3468v13468v23468v123468v568v1568v2568v12568v3568v13568v23568v123568v4568v14568v245",
      "68v124568v34568v134568v234568v1234568v78v178v278v1278v378v1378v2378v12378v478v1478v2478v124",
      "78v3478v13478v23478v123478v578v1578v2578v12578v3578v13578v23578v123578v4578v14578v24578v124",
      "578v34578v134578v234578v1234578v678v1678v2678v12678v3678v13678v23678v123678v4678v14678v2467",
      "8v124678v34678v134678v234678v1234678v5678v15678v25678v125678v35678v135678v235678v1235678v45",
      "678v145678v245678v1245678v345678v1345678v2345678v12345678aRIGHTWARDS TWO-HEADED ARROW WITH ",
      "VERTICAL STROKEθDOUBLE VERTICAL STROKEaLEFTWARDS DOUBLE ARROW WITH VERTICAL STROKEaRIGHTWAR",
      "DS DOUBLE ARROW WITH VERTICAL STROKEaLEFT RIGHT DOUBLE ARROW WITH VERTICAL STROKEaRIGHTWARD",
      "S TWO-HEADED ARROW FROM BARaLEFTWARDS DOUBLE ARROW FROM BARaRIGHTWARDS DOUBLE ARROW FROM BA",
      "RaDOWNWARDS ARROW WITH HORIZONTAL STROKEaUPWARDS ARROW WITH HORIZONTAL STROKEiTRIPLE ARROWa",
      "DOWNWARDS TRIPLE ARROWaLEFTWARDS DOUBLE DASH ARROWaRIGHTWARDS DOUBLE DASH ARROWaLEFTWARDS T",
      "RIPLE DASH ARROWaRIGHTWARDS TRIPLE DASH ARROWmWO-HEADED TRIPLE DASH ARROWlARROW WITH DOTTED",
      " STEMaUPWARDS ARROW TO BARaDOWNWARDS ARROW TO BARaRIGHTWARDS ARROW WITH TAIL WITH VERTICAL ",
      "STROKEηDOUBLE VERTICAL STROKElTWO-HEADED ARROW WITH TAILμ WITH VERTICAL STROKEςDOUBLE VERTI",
      "CAL STROKEaLEFTWARDS ARROW-TAILaRIGHTWARDS ARROW-TAILaLEFTWARDS DOUBLE ARROW-TAILaRIGHTWARD",
      "S DOUBLE ARROW-TAILaLEFTWARDS ARROW TO BLACK DIAMONDaRIGHTWARDS ARROW TO BLACK DIAMONDaLEFT",
      "WARDS ARROW FROM BAR TO BLACK DIAMONDaRIGHTWARDS ARROW FROM BAR TO BLACK DIAMONDaNORTH WEST",
      " AND SOUTH EAST ARROWgEAST AND SOUTH WEST ARROWgWEST ARROW WITH HOOKgEAST ARROW WITH HOOKaS",
      "OUTH EAST ARROW WITH HOOKgWEST ARROW WITH HOOKaNORTH WEST ARROW AND NORTH EAST ARROWgEAST A",
      "RROW AND SOUTH EAST ARROWaSOUTH EAST ARROW AND SOUTH WEST ARROWgWEST ARROW AND NORTH WEST A",
      "RROWaRISING DIAGONAL CROSSING FALLING DIAGONALaFALLING DIAGONAL CROSSING RISING DIAGONALaSO",
      "UTH EAST ARROW CROSSING NORTH EAST ARROWaNORTH EAST ARROW CROSSING SOUTH EAST ARROWaFALLING",
      " DIAGONAL CROSSING NORTH EAST ARROWaRISING DIAGONAL CROSSING SOUTH EAST ARROWaNORTH EAST AR",
      "ROW CROSSING NORTH WEST ARROWgWEST ARROW CROSSING NORTH EAST ARROWaWAVE ARROW POINTING DIRE",
      "CTLY RIGHTaARROW POINTING RIGHTWARDS THEN CURVING UPWARDSξDOWNWARDSpDOWNWARDS THEN CURVING ",
      "LEFTWARDSνRIGHTWARDSaRIGHT-SIDE ARC CLOCKWISE ARROWaLEFT-SIDE ARC ANTICLOCKWISE ARROWaTOP A",
      "RC ANTICLOCKWISE ARROWaBOTTOM ARC ANTICLOCKWISE ARROWaTOP ARC CLOCKWISE ARROW WITH MINUSiAN",
      "TICLOCKWISE ARROW WITH PLUSaLOWER RIGHT SEMICIRCULAR CLOCKWISE ARROWgLEFT SEMICIRCULAR ANTI",
      "CLOCKWISE ARROWaANTICLOCKWISE CLOSED CIRCLE ARROWaCLOCKWISE CLOSED CIRCLE ARROWaRIGHTWARDS ",
      "ARROW ABOVE SHORT LEFTWARDS ARROWaLEFTWARDS ARROW ABOVE SHORT RIGHTWARDS ARROWaSHORT RIGHTW",
      "ARDS ARROW ABOVE LEFTWARDS ARROWaRIGHTWARDS ARROW WITH PLUS BELOWaLEFTWARDS ARROW WITH PLUS",
      " BELOWaRIGHTWARDS ARROW THROUGH XaLEFT RIGHT ARROW THROUGH SMALL CIRCLEaUPWARDS TWO-HEADED ",
      "ARROW FROM SMALL CIRCLEaLEFT BARB UP RIGHT BARB DOWN HARPOONkDOWN RIGHT BARB UP HARPOONaUP ",
      "BARB RIGHT DOWN BARB LEFT HARPOONiLEFT DOWN BARB RIGHT HARPOONaLEFT BARB UP RIGHT BARB UP H",
      "ARPOONaUP BARB RIGHT DOWN BARB RIGHT HARPOONaLEFT BARB DOWN RIGHT BARB DOWN HARPOONaUP BARB",
      " LEFT DOWN BARB LEFT HARPOONaLEFTWARDS HARPOON WITH BARB UP TO BARaRIGHTWARDS HARPOON WITH ",
      "BARB UP TO BARaUPWARDS HARPOON WITH BARB RIGHT TO BARaDOWNWARDS HARPOON WITH BARB RIGHT TO ",
      "BARaLEFTWARDS HARPOON WITH BARB DOWN TO BARaRIGHTWARDS HARPOON WITH BARB DOWN TO BARaUPWARD",
      "S HARPOON WITH BARB LEFT TO BARaDOWNWARDS HARPOON WITH BARB LEFT TO BARaLEFTWARDS HARPOON W",
      "ITH BARB UP FROM BARaRIGHTWARDS HARPOON WITH BARB UP FROM BARaUPWARDS HARPOON WITH BARB RIG",
      "HT FROM BARaDOWNWARDS HARPOON WITH BARB RIGHT FROM BARaLEFTWARDS HARPOON WITH BARB DOWN FRO",
      "M BARaRIGHTWARDS HARPOON WITH BARB DOWN FROM BARaUPWARDS HARPOON WITH BARB LEFT FROM BARaDO",
      "WNWARDS HARPOON WITH BARB LEFT FROM BARaLEFTWARDS HARPOON WITH BARB UP ABOVE LEFTWARDS HARP",
      "OON WITH BARB DOWNaUPWARDS HARPOON WITH BARB LEFT BESIDE UPWARDS HARPOON WITH BARB RIGHTaRI",
      "GHTWARDS HARPOON WITH BARB UP ABOVE RIGHTWARDS HARPOON WITH BARB DOWNaDOWNWARDS HARPOON WIT",
      "H BARB LEFT BESIDE DOWNWARDS HARPOON WITH BARB RIGHTaLEFTWARDS HARPOON WITH BARB UP ABOVE R",
      "IGHTWARDS HARPOON WITH BARB UPγDOWN ABOVE RIGHTWARDS HARPOON WITH BARB DOWNaRIGHTWARDS HARP",
      "OON WITH BARB UP ABOVE LEFTWARDS HARPOON WITH BARB UPδDOWN ABOVE LEFTWARDS HARPOON WITH BAR",
      "B DOWNaLEFTWARDS HARPOON WITH BARB UP ABOVE LONG DASHγDOWN BELOW LONG DASHaRIGHTWARDS HARPO",
      "ON WITH BARB UP ABOVE LONG DASHδDOWN BELOW LONG DASHaUPWARDS HARPOON WITH BARB LEFT BESIDE ",
      "DOWNWARDS HARPOON WITH BARB RIGHTaDOWNWARDS HARPOON WITH BARB LEFT BESIDE UPWARDS HARPOON W",
      "ITH BARB RIGHTaRIGHT DOUBLE ARROW WITH ROUNDED HEADaEQUALS SIGN ABOVE RIGHTWARDS ARROWaTILD",
      "E OPERATOR ABOVE RIGHTWARDS ARROWaLEFTWARDS ARROW ABOVE TILDE OPERATORaRIGHTWARDS ARROW ABO",
      "VE TILDE OPERATORxALMOST EQUAL TOaLESS-THAN ABOVE LEFTWARDS ARROWcFTWARDS ARROW THROUGH LES",
      "S-THANaGREATER-THAN ABOVE RIGHTWARDS ARROWaSUBSET ABOVE RIGHTWARDS ARROWaLEFTWARDS ARROW TH",
      "ROUGH SUBSETaSUPERSET ABOVE LEFTWARDS ARROWaLEFT FISH TAILaRIGHT FISH TAILaUP FISH TAILaDOW",
      "N FISH TAILaTRIPLE VERTICAL BAR DELIMITERaZ NOTATION SPOTlTYPE COLONaLEFT WHITE CURLY BRACK",
      "ETaRIGHT WHITE CURLY BRACKETaLEFT WHITE PARENTHESISaRIGHT WHITE PARENTHESISaZ NOTATION LEFT",
      " IMAGE BRACKETlRIGHT IMAGE BRACKETlLEFT BINDING BRACKETlRIGHT BINDING BRACKETaLEFT SQUARE B",
      "RACKET WITH UNDERBARaRIGHT SQUARE BRACKET WITH UNDERBARaLEFT SQUARE BRACKET WITH TICK IN TO",
      "P CORNERaRIGHT SQUARE BRACKET WITH TICK IN BOTTOM CORNERaLEFT SQUARE BRACKET WITH TICK IN B",
      "OTTOM CORNERaRIGHT SQUARE BRACKET WITH TICK IN TOP CORNERaLEFT ANGLE BRACKET WITH DOTaRIGHT",
      " ANGLE BRACKET WITH DOTaLEFT ARC LESS-THAN BRACKETaRIGHT ARC GREATER-THAN BRACKETaDOUBLE LE",
      "FT ARC GREATER-THAN BRACKEThRIGHT ARC LESS-THAN BRACKETaLEFT BLACK TORTOISE SHELL BRACKETaR",
      "IGHT BLACK TORTOISE SHELL BRACKETaDOTTED FENCEaVERTICAL ZIGZAG LINEaMEASURED ANGLE OPENING ",
      "LEFTaRIGHT ANGLE VARIANT WITH SQUAREaMEASURED RIGHT ANGLE WITH DOTaANGLE WITH S INSIDEbCUTE",
      " ANGLEaSPHERICAL ANGLE OPENING LEFTyUPaTURNED ANGLEaREVERSED ANGLEaANGLE WITH UNDERBARaREVE",
      "RSED ANGLE WITH UNDERBARaOBLIQUE ANGLE OPENING UPwDOWNaMEASURED ANGLE WITH OPEN ARM ENDING ",
      "IN ARROW POINTING UP AND RIGHTωING UP AND LEFTωING DOWN AND RIGHTωING DOWN AND LEFTωING RIG",
      "HT AND UPωING LEFT AND UPωING RIGHT AND DOWNωING LEFT AND DOWNaREVERSED EMPTY SETaEMPTY SET",
      " WITH OVERBARpSMALL CIRCLE ABOVEpRIGHT ARROW ABOVEpLEFT ARROW ABOVEaCIRCLE WITH HORIZONTAL ",
      "BARgD VERTICAL BARiPARALLELiREVERSE SOLIDUSiPERPENDICULARg DIVIDED BY HORIZONTAL BAR AND TO",
      "P HALF DIVIDED BY VERTICAL BARhWITH SUPERIMPOSED XgD ANTICLOCKWISE-ROTATED DIVISION SIGNaUP",
      " ARROW THROUGH CIRCLEaCIRCLED WHITE BULLETiBULLETiLESS-THANiGREATER-THANg WITH SMALL CIRCLE",
      " TO THE RIGHTmTWO HORIZONTAL STROKES TO THE RIGHTaSQUARED RISING DIAGONAL SLASHiFALLING DIA",
      "GONAL SLASHiASTERISKiSMALL CIRCLEjQUAREaTWO JOINED SQUARESbRIANGLE WITH DOT ABOVEoUNDERBARa",
      "S IN TRIANGLEaTRIANGLE WITH SERIFS AT BOTTOMaRIGHT TRIANGLE ABOVE LEFT TRIANGLEaLEFT TRIANG",
      "LE BESIDE VERTICAL BARaVERTICAL BAR BESIDE RIGHT TRIANGLEaBOWTIE WITH LEFT HALF BLACKmRIGHT",
      " HALF BLACKbLACK BOWTIEaTIMES WITH LEFT HALF BLACKlRIGHT HALF BLACKaWHITE HOURGLASSaBLACK H",
      "OURGLASSaLEFT WIGGLY FENCEaRIGHT WIGGLY FENCEaLEFT DOUBLE WIGGLY FENCEaRIGHT DOUBLE WIGGLY ",
      "FENCEaINCOMPLETE INFINITYaTIE OVER INFINITYaINFINITY NEGATED WITH VERTICAL BARaDOUBLE-ENDED",
      " MULTIMAPaSQUARE WITH CONTOURED OUTLINEaINCREASES ASaSHUFFLE PRODUCTaEQUALS SIGN AND SLANTE",
      "D PARALLELη WITH TILDE ABOVEaIDENTICAL TO AND SLANTED PARALLELaGLEICH STARKaTHERMODYNAMICaD",
      "OWN-POINTING TRIANGLE WITH LEFT HALF BLACKγRIGHT HALF BLACKaBLACK DIAMOND WITH DOWN ARROWgL",
      "OZENGEaWHITE CIRCLE WITH DOWN ARROWaBLACK CIRCLE WITH DOWN ARROWaERROR-BARRED WHITE SQUAREn",
      "BLACK SQUAREnWHITE DIAMONDnBLACK DIAMONDnWHITE CIRCLEnBLACK CIRCLEaRULE-DELAYEDbEVERSE SOLI",
      "DUS OPERATORaSOLIDUS WITH OVERBARaREVERSE SOLIDUS WITH HORIZONTAL STROKEaBIG SOLIDUSeREVERS",
      "E SOLIDUSaDOUBLE PLUSaTRIPLE PLUSaLEFT-POINTING CURVED ANGLE BRACKETaRIGHT-POINTING CURVED ",
      "ANGLE BRACKETaTINYaMINYaN-ARY CIRCLED DOT OPERATORoPLUS OPERATORoTIMES OPERATORgUNION OPERA",
      "TOR WITH DOTαPLUSgSQUARE INTERSECTION OPERATORnUNION OPERATORaTWO LOGICAL AND OPERATORmOR O",
      "PERATORaN-ARY TIMES OPERATORaMODULO TWO SUMaSUMMATION WITH INTEGRALaQUADRUPLE INTEGRAL OPER",
      "ATORaFINITE PART INTEGRALaINTEGRAL WITH DOUBLE STROKEjAVERAGE WITH SLASHaCIRCULATION FUNCTI",
      "ONaANTICLOCKWISE INTEGRATIONaLINE INTEGRATION WITH RECTANGULAR PATH AROUND POLEwSEMICIRCULA",
      "R PATH AROUND POLErNOT INCLUDING THE POLEaINTEGRAL AROUND A POINT OPERATORaQUATERNION INTEG",
      "RAL OPERATORaINTEGRAL WITH LEFTWARDS ARROW WITH HOOKoTIMES SIGNoINTERSECTIONoUNIONoOVERBARo",
      "UNDERBARaJOINaLARGE LEFT TRIANGLE OPERATORaZ NOTATION SCHEMA COMPOSITIONsPIPINGtROJECTIONaP",
      "LUS SIGN WITH SMALL CIRCLE ABOVEpCIRCUMFLEX ACCENT ABOVEpTILDE ABOVEpDOT BELOWpTILDE BELOWp",
      "SUBSCRIPT TWOpBLACK TRIANGLEaMINUS SIGN WITH COMMA ABOVEqDOT BELOWqFALLING DOTSqRISING DOTS",
      "aPLUS SIGN IN LEFT HALF CIRCLEnRIGHT HALF CIRCLEaVECTOR OR CROSS PRODUCTaMULTIPLICATION SIG",
      "N WITH DOT ABOVEzUNDERBARaSEMIDIRECT PRODUCT WITH BOTTOM CLOSEDbMASH PRODUCTaMULTIPLICATION",
      " SIGN IN LEFT HALF CIRCLExRIGHT HALF CIRCLEaCIRCLED MULTIPLICATION SIGN WITH CIRCUMFLEX ACC",
      "ENTaMULTIPLICATION SIGN IN DOUBLE CIRCLEaCIRCLED DIVISION SIGNaPLUS SIGN IN TRIANGLEaMINUS ",
      "SIGN IN TRIANGLEbULTIPLICATION SIGN IN TRIANGLEaINTERIOR PRODUCTaRIGHTHAND INTERIOR PRODUCT",
      "aZ NOTATION RELATIONAL COMPOSITIONaAMALGAMATION OR COPRODUCTaINTERSECTION WITH DOTaUNION WI",
      "TH MINUS SIGNlOVERBARaINTERSECTION WITH OVERBARsLOGICAL ANDaUNION WITH LOGICAL ORgABOVE INT",
      "ERSECTIONaINTERSECTION ABOVE UNIONaUNION ABOVE BAR ABOVE INTERSECTIONaINTERSECTION ABOVE BA",
      "R ABOVE UNIONaUNION BESIDE AND JOINED WITH UNIONaINTERSECTION BESIDE AND JOINED WITH INTERS",
      "ECTIONaCLOSED UNION WITH SERIFShINTERSECTION WITH SERIFSaDOUBLE SQUARE INTERSECTIONoUNIONaC",
      "LOSED UNION WITH SERIFS AND SMASH PRODUCTaLOGICAL AND WITH DOT ABOVEiOR WITH DOT ABOVEaDOUB",
      "LE LOGICAL ANDpORaTWO INTERSECTING LOGICAL ANDzORaSLOPING LARGE ORoANDaLOGICAL OR OVERLAPPI",
      "NG LOGICAL ANDiAND WITH MIDDLE STEMiOR WITH MIDDLE STEMiAND WITH HORIZONTAL DASHiOR WITH HO",
      "RIZONTAL DASHiAND WITH DOUBLE OVERBARrUNDERBARrDOUBLE UNDERBARaSMALL VEE WITH UNDERBARaLOGI",
      "CAL OR WITH DOUBLE OVERBARxUNDERBARaZ NOTATION DOMAIN ANTIRESTRICTIONlRANGE ANTIRESTRICTION",
      "aEQUALS SIGN WITH DOT BELOWaIDENTICAL WITH DOT ABOVEaTRIPLE HORIZONTAL BAR WITH DOUBLE VERT",
      "ICAL STROKEβTRIPLE VERTICAL STROKEbILDE OPERATOR WITH DOT ABOVEuRISING DOTSaSIMILAR MINUS S",
      "IMILARaCONGRUENT WITH DOT ABOVEaEQUALS WITH ASTERISKaALMOST EQUAL TO WITH CIRCUMFLEX ACCENT",
      "bPPROXIMATELY EQUAL OR EQUAL TOaEQUALS SIGN ABOVE PLUS SIGNaPLUS SIGN ABOVE EQUALS SIGNaEQU",
      "ALS SIGN ABOVE TILDE OPERATORaDOUBLE COLON EQUALaTWO CONSECUTIVE EQUALS SIGNSbHREE CONSECUT",
      "IVE EQUALS SIGNSaEQUALS SIGN WITH TWO DOTS ABOVE AND TWO DOTS BELOWdIVALENT WITH FOUR DOTS ",
      "ABOVEaLESS-THAN WITH CIRCLE INSIDEaGREATER-THAN WITH CIRCLE INSIDEaLESS-THAN WITH QUESTION ",
      "MARK ABOVEaGREATER-THAN WITH QUESTION MARK ABOVEaLESS-THAN OR SLANTED EQUAL TOaGREATER-THAN",
      " OR SLANTED EQUAL TOaLESS-THAN OR SLANTED EQUAL TO WITH DOT INSIDEaGREATER-THAN OR SLANTED ",
      "EQUAL TO WITH DOT INSIDEaLESS-THAN OR SLANTED EQUAL TO WITH DOT ABOVEaGREATER-THAN OR SLANT",
      "ED EQUAL TO WITH DOT ABOVEaLESS-THAN OR SLANTED EQUAL TO WITH DOT ABOVE RIGHTaGREATER-THAN ",
      "OR SLANTED EQUAL TO WITH DOT ABOVE LEFTaLESS-THAN OR APPROXIMATEaGREATER-THAN OR APPROXIMAT",
      "EaLESS-THAN AND SINGLE-LINE NOT EQUAL TOaGREATER-THAN AND SINGLE-LINE NOT EQUAL TOaLESS-THA",
      "N AND NOT APPROXIMATEaGREATER-THAN AND NOT APPROXIMATEaLESS-THAN ABOVE DOUBLE-LINE EQUAL AB",
      "OVE GREATER-THANaGREATER-THAN ABOVE DOUBLE-LINE EQUAL ABOVE LESS-THANaLESS-THAN ABOVE SIMIL",
      "AR OR EQUALaGREATER-THAN ABOVE SIMILAR OR EQUALaLESS-THAN ABOVE SIMILAR ABOVE GREATER-THANa",
      "GREATER-THAN ABOVE SIMILAR ABOVE LESS-THANaLESS-THAN ABOVE GREATER-THAN ABOVE DOUBLE-LINE E",
      "QUALaGREATER-THAN ABOVE LESS-THAN ABOVE DOUBLE-LINE EQUALaLESS-THAN ABOVE SLANTED EQUAL ABO",
      "VE GREATER-THAN ABOVE SLANTED EQUALaGREATER-THAN ABOVE SLANTED EQUAL ABOVE LESS-THAN ABOVE ",
      "SLANTED EQUALaSLANTED EQUAL TO OR LESS-THANuGREATER-THANuLESS-THAN WITH DOT INSIDEuGREATER-",
      "THAN WITH DOT INSIDEaDOUBLE-LINE EQUAL TO OR LESS-THANyGREATER-THANmSLANTED EQUAL TO OR LES",
      "S-THANηGREATER-THANaSIMILAR OR LESS-THANlGREATER-THANiABOVE LESS-THAN ABOVE EQUALS SIGNoGRE",
      "ATER-THAN ABOVE EQUALS SIGNaDOUBLE NESTED LESS-THANoGREATER-THANoLESS-THAN WITH UNDERBARaGR",
      "EATER-THAN OVERLAPPING LESS-THANnBESIDE LESS-THANaLESS-THAN CLOSED BY CURVEaGREATER-THAN CL",
      "OSED BY CURVEaLESS-THAN CLOSED BY CURVE ABOVE SLANTED EQUALaGREATER-THAN CLOSED BY CURVE AB",
      "OVE SLANTED EQUALaSMALLER THANaLARGER THANaSMALLER THAN OR EQUAL TOaLARGER THAN OR EQUAL TO",
      "aEQUALS SIGN WITH BUMPY ABOVEaPRECEDES ABOVE SINGLE-LINE EQUALS SIGNaSUCCEEDS ABOVE SINGLE-",
      "LINE EQUALS SIGNaPRECEDES ABOVE SINGLE-LINE NOT EQUAL TOaSUCCEEDS ABOVE SINGLE-LINE NOT EQU",
      "AL TOaPRECEDES ABOVE EQUALS SIGNaSUCCEEDS ABOVE EQUALS SIGNaPRECEDES ABOVE NOT EQUAL TOaSUC",
      "CEEDS ABOVE NOT EQUAL TOaPRECEDES ABOVE ALMOST EQUAL TOaSUCCEEDS ABOVE ALMOST EQUAL TOaPREC",
      "EDES ABOVE NOT ALMOST EQUAL TOaSUCCEEDS ABOVE NOT ALMOST EQUAL TOaDOUBLE PRECEDEShSUCCEEDSa",
      "SUBSET WITH DOTcPERSET WITH DOTcBSET WITH PLUS SIGN BELOWcPERSET WITH PLUS SIGN BELOWcBSET ",
      "WITH MULTIPLICATION SIGN BELOWcPERSET WITH MULTIPLICATION SIGN BELOWcBSET OF OR EQUAL TO WI",
      "TH DOT ABOVEcPERSET OF OR EQUAL TO WITH DOT ABOVEcBSET OF ABOVE EQUALS SIGNcPERSET OF ABOVE",
      " EQUALS SIGNcBSET OF ABOVE TILDE OPERATORcPERSET OF ABOVE TILDE OPERATORcBSET OF ABOVE ALMO",
      "ST EQUAL TOcPERSET OF ABOVE ALMOST EQUAL TOcBSET OF ABOVE NOT EQUAL TOcPERSET OF ABOVE NOT ",
      "EQUAL TObQUARE LEFT OPEN BOX OPERATORhRIGHT OPEN BOX OPERATORaCLOSED SUBSETjPERSETjBSET OR ",
      "EQUAL TOjPERSET OR EQUAL TOaSUBSET ABOVE SUPERSETcPERSET ABOVE SUBSETcBSET ABOVE SUBSETcPER",
      "SET ABOVE SUPERSETjBESIDE SUBSETqAND JOINED BY DASH WITH SUBSETaELEMENT OF OPENING DOWNWARD",
      "SaPITCHFORK WITH TEE TOPaTRANSVERSAL INTERSECTIONaFORKINGaNONFORKINGaSHORT LEFT TACKgDOWN T",
      "ACKgUP TACKaPERPENDICULAR WITH SaVERTICAL BAR TRIPLE RIGHT TURNSTILEaDOUBLE VERTICAL BAR LE",
      "FT TURNSTILEaVERTICAL BAR DOUBLE LEFT TURNSTILEaDOUBLE VERTICAL BAR DOUBLE LEFT TURNSTILEaL",
      "ONG DASH FROM LEFT MEMBER OF DOUBLE VERTICALaSHORT DOWN TACK WITH OVERBARgUP TACK WITH UNDE",
      "RBARoABOVE SHORT DOWN TACKaDOUBLE DOWN TACKhUP TACKhSTROKE NOT SIGNaREVERSED DOUBLE STROKE ",
      "NOT SIGNaDOES NOT DIVIDE WITH REVERSED NEGATION SLASHaVERTICAL LINE WITH CIRCLE ABOVEαBELOW",
      "aDOWN TACK WITH CIRCLE BELOWaPARALLEL WITH HORIZONTAL STROKEoTILDE OPERATORaTRIPLE VERTICAL",
      " BAR BINARY RELATIONuWITH HORIZONTAL STROKEhCOLON OPERATORhNESTED LESS-THANoGREATER-THANaDO",
      "UBLE-LINE SLANTED LESS-THAN OR EQUAL TOuGREATER-THAN OR EQUAL TOaTRIPLE SOLIDUS BINARY RELA",
      "TIONaLARGE TRIPLE VERTICAL BAR OPERATORaDOUBLE SOLIDUS OPERATORaWHITE VERTICAL BARaN-ARY WH",
      "ITE VERTICAL BARbORTH EAST WHITE ARROWgWEST WHITE ARROWaSOUTH EAST WHITE ARROWgWEST WHITE A",
      "RROWaLEFT RIGHT WHITE ARROWeWARDS BLACK ARROWaUPWARDS BLACK ARROWaDOWNWARDS BLACK ARROWaNOR",
      "TH EAST BLACK ARROWgWEST BLACK ARROWaSOUTH EAST BLACK ARROWgWEST BLACK ARROWaLEFT RIGHT BLA",
      "CK ARROWaUP DOWN BLACK ARROWaRIGHTWARDS ARROW WITH TIP DOWNWARDSαUPWARDSaLEFTWARDS ARROW WI",
      "TH TIP DOWNWARDSzUPWARDSaSQUARE WITH TOP HALF BLACKmBOTTOM HALF BLACKmUPPER RIGHT DIAGONAL ",
      "HALF BLACKmLOWER LEFT DIAGONAL HALF BLACKaDIAMOND WITH LEFT HALF BLACKnRIGHT HALF BLACKnTOP",
      " HALF BLACKnBOTTOM HALF BLACKbOTTED SQUAREaBLACK LARGE SQUAREaWHITE LARGE SQUAREaBLACK VERY",
      " SMALL SQUAREaWHITE VERY SMALL SQUAREaBLACK PENTAGONaWHITE PENTAGONgHEXAGONaBLACK HEXAGONaH",
      "ORIZONTAL BLACK HEXAGONaBLACK LARGE CIRCLEgMEDIUM DIAMONDaWHITE MEDIUM DIAMONDaBLACK MEDIUM",
      " LOZENGEaWHITE MEDIUM LOZENGEaBLACK SMALL DIAMONDmLOZENGEaWHITE SMALL LOZENGEaBLACK HORIZON",
      "TAL ELLIPSEaWHITE HORIZONTAL ELLIPSEaBLACK VERTICAL ELLIPSEaWHITE VERTICAL ELLIPSEaLEFT ARR",
      "OW WITH SMALL CIRCLEaTHREE LEFTWARDS ARROWSaLEFT ARROW WITH CIRCLED PLUSbONG LEFTWARDS SQUI",
      "GGLE ARROWbEFTWARDS TWO-HEADED ARROW WITH VERTICAL STROKEηDOUBLE VERTICAL STROKEβFROM BARvT",
      "RIPLE DASH ARROWkARROW WITH DOTTED STEMvTAIL WITH VERTICAL STROKEζDOUBLE VERTICAL STROKEkTW",
      "O-HEADED ARROW WITH TAILλ WITH VERTICAL STROKEρDOUBLE VERTICAL STROKEkARROW THROUGH XaWAVE ",
      "ARROW POINTING DIRECTLY LEFTaEQUALS SIGN ABOVE LEFTWARDS ARROWaREVERSE TILDE OPERATOR ABOVE",
      " LEFTWARDS ARROWaLEFTWARDS ARROW ABOVE REVERSE ALMOST EQUAL TOaRIGHTWARDS ARROW THROUGH GRE",
      "ATER-THANzSUPERSETaLEFTWARDS QUADRUPLE ARROWaRIGHTWARDS QUADRUPLE ARROWbEVERSE TILDE OPERAT",
      "OR ABOVE RIGHTWARDS ARROWbIGHTWARDS ARROW ABOVE REVERSE ALMOST EQUAL TOaTILDE OPERATOR ABOV",
      "E LEFTWARDS ARROWaLEFTWARDS ARROW ABOVE ALMOST EQUAL TOwREVERSE TILDE OPERATORaRIGHTWARDS A",
      "RROW ABOVE REVERSE TILDE OPERATORaDOWNWARDS TRIANGLE-HEADED ZIGZAG ARROWaSHORT SLANTED NORT",
      "H ARROWgBACKSLANTED SOUTH ARROWaWHITE MEDIUM STARaBLACK SMALL STARaWHITE SMALL STARaBLACK R",
      "IGHT-POINTING PENTAGONaWHITE RIGHT-POINTING PENTAGONaHEAVY LARGE CIRCLEgOVAL WITH OVAL INSI",
      "DEgCIRCLE WITH CIRCLE INSIDEmmD SALTIREaSLANTED NORTH ARROW WITH HOOKED HEADaBACKSLANTED SO",
      "UTH ARROW WITH HOOKED TAILaSLANTED NORTH ARROW WITH HORIZONTAL TAILaBACKSLANTED SOUTH ARROW",
      " WITH HORIZONTAL TAILbENT ARROW POINTING DOWNWARDS THEN NORTH EASTaSHORT BENT ARROW POINTIN",
      "G DOWNWARDS THEN NORTH EASTaLEFTWARDS TRIANGLE-HEADED ARROWaUPWARDS TRIANGLE-HEADED ARROWaR",
      "IGHTWARDS TRIANGLE-HEADED ARROWaDOWNWARDS TRIANGLE-HEADED ARROWaLEFT RIGHT TRIANGLE-HEADED ",
      "ARROWaUP DOWN TRIANGLE-HEADED ARROWaNORTH WEST TRIANGLE-HEADED ARROWgEAST TRIANGLE-HEADED A",
      "RROWaSOUTH EAST TRIANGLE-HEADED ARROWgWEST TRIANGLE-HEADED ARROWaLEFTWARDS TRIANGLE-HEADED ",
      "DASHED ARROWaUPWARDS TRIANGLE-HEADED DASHED ARROWaRIGHTWARDS TRIANGLE-HEADED DASHED ARROWaD",
      "OWNWARDS TRIANGLE-HEADED DASHED ARROWaCLOCKWISE TRIANGLE-HEADED OPEN CIRCLE ARROWaANTICLOCK",
      "WISE TRIANGLE-HEADED OPEN CIRCLE ARROWaLEFTWARDS TRIANGLE-HEADED ARROW TO BARaUPWARDS TRIAN",
      "GLE-HEADED ARROW TO BARaRIGHTWARDS TRIANGLE-HEADED ARROW TO BARaDOWNWARDS TRIANGLE-HEADED A",
      "RROW TO BAR"]),
    (0x2B76, ["NORTH WEST TRIANGLE-HEADED ARROW TO BARgEAST TRIANGLE-HEADED ARROW TO BARaSOUTH EAS",
      "T TRIANGLE-HEADED ARROW TO BARgWEST TRIANGLE-HEADED ARROW TO BARaLEFTWARDS TRIANGLE-HEADED ",
      "ARROW WITH DOUBLE HORIZONTAL STROKEaUPWARDS TRIANGLE-HEADED ARROW WITH DOUBLE HORIZONTAL ST",
      "ROKEaRIGHTWARDS TRIANGLE-HEADED ARROW WITH DOUBLE HORIZONTAL STROKEaDOWNWARDS TRIANGLE-HEAD",
      "ED ARROW WITH DOUBLE HORIZONTAL STROKEaHORIZONTAL TAB KEYaVERTICAL TAB KEYaLEFTWARDS TRIANG",
      "LE-HEADED ARROW OVER RIGHTWARDS TRIANGLE-HEADED ARROWaUPWARDS TRIANGLE-HEADED ARROW LEFTWAR",
      "DS OF DOWNWARDS TRIANGLE-HEADED ARROWaRIGHTWARDS TRIANGLE-HEADED ARROW OVER LEFTWARDS TRIAN",
      "GLE-HEADED ARROWaDOWNWARDS TRIANGLE-HEADED ARROW LEFTWARDS OF UPWARDS TRIANGLE-HEADED ARROW",
      "aLEFTWARDS TRIANGLE-HEADED PAIRED ARROWSaUPWARDS TRIANGLE-HEADED PAIRED ARROWSaRIGHTWARDS T",
      "RIANGLE-HEADED PAIRED ARROWSaDOWNWARDS TRIANGLE-HEADED PAIRED ARROWSaLEFTWARDS BLACK CIRCLE",
      "D WHITE ARROWaUPWARDS BLACK CIRCLED WHITE ARROWaRIGHTWARDS BLACK CIRCLED WHITE ARROWaDOWNWA",
      "RDS BLACK CIRCLED WHITE ARROWaANTICLOCKWISE TRIANGLE-HEADED RIGHT U-SHAPED ARROWεBOTTOM U-S",
      "HAPED ARROWεLEFT U-SHAPED ARROWεTOP U-SHAPED ARROWaRETURN LEFThRIGHTaNEWLINE LEFTiRIGHTaFOU",
      "R CORNER ARROWS CIRCLING ANTICLOCKWISEaRIGHTWARDS BLACK ARROW"]),
    (0x2B97, ["SYMBOL FOR TYPE A ELECTRONICSaTHREE-D TOP-LIGHTED LEFTWARDS EQUILATERAL ARROWHEADiR",
      "IGHT-LIGHTED UPWARDS EQUILATERAL ARROWHEADiTOP-LIGHTED RIGHTWARDS EQUILATERAL ARROWHEADiLEF",
      "T-LIGHTED DOWNWARDS EQUILATERAL ARROWHEADaBLACK LEFTWARDS EQUILATERAL ARROWHEADgUPWARDS EQU",
      "ILATERAL ARROWHEADgRIGHTWARDS EQUILATERAL ARROWHEADgDOWNWARDS EQUILATERAL ARROWHEADaDOWNWAR",
      "DS TRIANGLE-HEADED ARROW WITH LONG TIP LEFTWARDSυRIGHTWARDSaUPWARDS TRIANGLE-HEADED ARROW W",
      "ITH LONG TIP LEFTWARDSσRIGHTWARDSaLEFTWARDS TRIANGLE-HEADED ARROW WITH LONG TIP UPWARDSaRIG",
      "HTWARDS TRIANGLE-HEADED ARROW WITH LONG TIP UPWARDSaLEFTWARDS TRIANGLE-HEADED ARROW WITH LO",
      "NG TIP DOWNWARDSaRIGHTWARDS TRIANGLE-HEADED ARROW WITH LONG TIP DOWNWARDSaBLACK CURVED DOWN",
      "WARDS AND LEFTWARDS ARROWβRIGHTWARDS ARROWnUPWARDS AND LEFTWARDS ARROWzRIGHTWARDS ARROWnLEF",
      "TWARDS AND UPWARDS ARROWnRIGHTWARDS AND UPWARDS ARROWnLEFTWARDS AND DOWNWARDS ARROWnRIGHTWA",
      "RDS AND DOWNWARDS ARROWaRIBBON ARROW DOWN LEFTsRIGHTnUP LEFTqRIGHTnLEFT UPnRIGHT UPnLEFT DO",
      "WNnRIGHT DOWNaUPWARDS WHITE ARROW FROM BAR WITH HORIZONTAL BARc ARROWHEAD IN A RECTANGLE BO",
      "XaOVERLAPPING WHITE SQUARESsAND BLACK SQUARESmBLACK SQUARESaBALLOT BOX WITH LIGHT XaCIRCLED",
      " XiBOLD XaBLACK SQUARE CENTREDgDIAMOND CENTREDaTURNED BLACK PENTAGONaHORIZONTAL BLACK OCTAG",
      "ONaBLACK OCTAGONgMEDIUM UP-POINTING TRIANGLE CENTREDnDOWN-POINTING TRIANGLE CENTREDnLEFT-PO",
      "INTING TRIANGLE CENTREDnRIGHT-POINTING TRIANGLE CENTREDaNEPTUNE FORM TWOaTOP HALF BLACK CIR",
      "CLEaBOTTOM HALF BLACK CIRCLEaLIGHT FOUR POINTED BLACK CUSPaROTATED LIGHT FOUR POINTED BLACK",
      " CUSPaWHITE FOUR POINTED CUSPaROTATED WHITE FOUR POINTED CUSPaSQUARE POSITION INDICATORaUNC",
      "ERTAINTY SIGNaGROUP MARKaPLUTO FORM TWOmHREElFOURmIVEaTRANSPLUTOaPROSERPINAaASTRAEAaHYGIEAa",
      "PHOLUSaNESSUSaWHITE MOON SELENAaBLACK DIAMOND ON CROSSaTRUE LIGHT MOON ARTAaCUPIDOaHADESaZE",
      "USaKRONOSaAPOLLONbDMETOSaVULCANUSaPOSEIDONaLEFT HALF BLACK STARaRIGHT HALF BLACK STARaSTAR ",
      "WITH LEFT HALF BLACKkRIGHT HALF BLACKaLEFTWARDS TWO-HEADED ARROW WITH TRIANGLE ARROWHEADSaU",
      "PWARDS TWO-HEADED ARROW WITH TRIANGLE ARROWHEADSaRIGHTWARDS TWO-HEADED ARROW WITH TRIANGLE ",
      "ARROWHEADSaDOWNWARDS TWO-HEADED ARROW WITH TRIANGLE ARROWHEADSaERIS FORM ONEkTWOaSEDNAaRUSS",
      "IAN ASTROLOGICAL SYMBOL VIGINTILEγNOVILEγQUINTILEγBINOVILEγSENTAGONγTREDECILEaEQUALS SIGN W",
      "ITH INFINITY BELOWaUNITED SYMBOLaSEPARATED SYMBOLaDOUBLED SYMBOLaPASSED SYMBOLaREVERSED RIG",
      "HT ANGLEaHELLSCHREIBER PAUSE SYMBOLaGLAGOLITIC CAPITAL LETTER AZUαBUKYαVEDEαGLAGOLIαDOBROαY",
      "ESTUαZHIVETEαDZELOαZEMLJAαIZHEβNITIAL IZHEβαDJERVIαKAKOαLJUDIJEαMYSLITEαNASHIαONUαPOKOJIαRI",
      "TSIαSLOVOαTVRIDOαUKUαFRITUαHERUαOTUαPEαSHTAαTSIαCHRIVIαSHAαYERUδIβATIαSPIDERY HAαYUαSMALL Y",
      "USκ WITH TAILαYOαIOTATED SMALL YUSαBIG YUSαIOTATED BIG YUSαFITAαIZHITSAαSHTAPICαTROKUTASTI ",
      "AαLATINATE MYSLITEαCAUDATE CHRIVIlSMALL LETTER AZUyBUKYyVEDEyGLAGOLIyDOBROyYESTUyZHIVETEyDZ",
      "ELOyZEMLJAyIZHEzNITIAL IZHEzyDJERVIyKAKOyLJUDIJEyMYSLITEyNASHIyONUyPOKOJIyRITSIySLOVOyTVRID",
      "OyUKUyFRITUyHERUyOTUyPEySHTAyTSIyCHRIVIySHAyYERUβIzATIySPIDERY HAyYUySMALL YUSθ WITH TAILyY",
      "OyIOTATED SMALL YUSyBIG YUSyIOTATED BIG YUSyFITAyIZHITSAySHTAPICyTROKUTASTI AyLATINATE MYSL",
      "ITEyCAUDATE CHRIVIaLATIN CAPITAL LETTER L WITH DOUBLE BARgSMALL LETTER L WITH DOUBLE BARgCA",
      "PITAL LETTER L WITH MIDDLE TILDEvP WITH STROKEvR WITH TAILgSMALL LETTER A WITH STROKEtT WIT",
      "H DIAGONAL STROKEgCAPITAL LETTER H WITH DESCENDERgSMALL LETTER H WITH DESCENDERgCAPITAL LET",
      "TER K WITH DESCENDERgSMALL LETTER K WITH DESCENDERgCAPITAL LETTER Z WITH DESCENDERgSMALL LE",
      "TTER Z WITH DESCENDERgCAPITAL LETTER ALPHAvM WITH HOOKvTURNED AδLPHAgSMALL LETTER V WITH RI",
      "GHT HOOKgCAPITAL LETTER W WITH HOOKgSMALL LETTER W WITH HOOKtV WITH CURLgCAPITAL LETTER HAL",
      "F HgSMALL LETTER HALF HtTAILLESS PHItE WITH NOTCHtTURNED R WITH TAILtO WITH LOW RING INSIDE",
      "gLETTER SMALL CAPITAL TURNED EgSUBSCRIPT SMALL LETTER JaMODIFIER LETTER CAPITAL VaLATIN CAP",
      "ITAL LETTER S WITH SWASH TAILvZ WITH SWASH TAILaCOPTIC CAPITAL LETTER ALFAhSMALL LETTER ALF",
      "AhCAPITAL LETTER VIDAhSMALL LETTER VIDAhCAPITAL LETTER GAMMAhSMALL LETTER GAMMAhCAPITAL LET",
      "TER DALDAhSMALL LETTER DALDAhCAPITAL LETTER EIEhSMALL LETTER EIEhCAPITAL LETTER SOUhSMALL L",
      "ETTER SOUhCAPITAL LETTER ZATAhSMALL LETTER ZATAhCAPITAL LETTER HATEhSMALL LETTER HATEhCAPIT",
      "AL LETTER THETHEhSMALL LETTER THETHEhCAPITAL LETTER IAUDAhSMALL LETTER IAUDAhCAPITAL LETTER",
      " KAPAhSMALL LETTER KAPAhCAPITAL LETTER LAULAhSMALL LETTER LAULAhCAPITAL LETTER MIhSMALL LET",
      "TER MIhCAPITAL LETTER NIhSMALL LETTER NIhCAPITAL LETTER KSIhSMALL LETTER KSIhCAPITAL LETTER",
      " OhSMALL LETTER OhCAPITAL LETTER PIhSMALL LETTER PIhCAPITAL LETTER ROhSMALL LETTER ROhCAPIT",
      "AL LETTER SIMAhSMALL LETTER SIMAhCAPITAL LETTER TAUhSMALL LETTER TAUhCAPITAL LETTER UAhSMAL",
      "L LETTER UAhCAPITAL LETTER FIhSMALL LETTER FIhCAPITAL LETTER KHIhSMALL LETTER KHIhCAPITAL L",
      "ETTER PSIhSMALL LETTER PSIhCAPITAL LETTER OOUhSMALL LETTER OOUhCAPITAL LETTER DIALECT-P ALE",
      "FhSMALL LETTER DIALECT-P ALEFhCAPITAL LETTER OLD COPTIC AINhSMALL LETTER OLD COPTIC AINhCAP",
      "ITAL LETTER CRYPTOGRAMMIC EIEhSMALL LETTER CRYPTOGRAMMIC EIEhCAPITAL LETTER DIALECT-P KAPAh",
      "SMALL LETTER DIALECT-P KAPAhCAPITAL LETTER DIALECT-P NIhSMALL LETTER DIALECT-P NIhCAPITAL L",
      "ETTER CRYPTOGRAMMIC NIhSMALL LETTER CRYPTOGRAMMIC NIhCAPITAL LETTER OLD COPTIC OOUhSMALL LE",
      "TTER OLD COPTIC OOUhCAPITAL LETTER SAMPIhSMALL LETTER SAMPIhCAPITAL LETTER CROSSED SHEIhSMA",
      "LL LETTER CROSSED SHEIhCAPITAL LETTER OLD COPTIC SHEIhSMALL LETTER OLD COPTIC SHEIhCAPITAL ",
      "LETTER OLD COPTIC ESHhSMALL LETTER OLD COPTIC ESHhCAPITAL LETTER AKHMIMIC KHEIhSMALL LETTER",
      " AKHMIMIC KHEIhCAPITAL LETTER DIALECT-P HORIhSMALL LETTER DIALECT-P HORIhCAPITAL LETTER OLD",
      " COPTIC HORIhSMALL LETTER OLD COPTIC HORIhCAPITAL LETTER OLD COPTIC HAhSMALL LETTER OLD COP",
      "TIC HAhCAPITAL LETTER L-SHAPED HAhSMALL LETTER L-SHAPED HAhCAPITAL LETTER OLD COPTIC HEIhSM",
      "ALL LETTER OLD COPTIC HEIhCAPITAL LETTER OLD COPTIC HAThSMALL LETTER OLD COPTIC HAThCAPITAL",
      " LETTER OLD COPTIC GANGIAhSMALL LETTER OLD COPTIC GANGIAhCAPITAL LETTER OLD COPTIC DJAhSMAL",
      "L LETTER OLD COPTIC DJAhCAPITAL LETTER OLD COPTIC SHIMAhSMALL LETTER OLD COPTIC SHIMAhCAPIT",
      "AL LETTER OLD NUBIAN SHIMAhSMALL LETTER OLD NUBIAN SHIMAhCAPITAL LETTER OLD NUBIAN NGIhSMAL",
      "L LETTER OLD NUBIAN NGIhCAPITAL LETTER OLD NUBIAN NYIhSMALL LETTER OLD NUBIAN NYIhCAPITAL L",
      "ETTER OLD NUBIAN WAUhSMALL LETTER OLD NUBIAN WAUiYMBOL KAIoMI ROoPI ROoSTAUROSoTAU ROoKHI R",
      "OoSHIMA SIMAhCAPITAL LETTER CRYPTOGRAMMIC SHEIhSMALL LETTER CRYPTOGRAMMIC SHEIhCAPITAL LETT",
      "ER CRYPTOGRAMMIC GANGIAhSMALL LETTER CRYPTOGRAMMIC GANGIAhCOMBINING NI ABOVErSPIRITUS ASPER",
      "αLENISiAPITAL LETTER BOHAIRIC KHEIhSMALL LETTER BOHAIRIC KHEI"]),
    (0x2CF9, ["COPTIC OLD NUBIAN FULL STOPsDIRECT QUESTION MARKsINDIRECT QUESTION MARKsVERSE DIVID",
      "ERhFRACTION ONE HALFiULL STOPhMORPHOLOGICAL DIVIDERaGEORGIAN SMALL LETTER ANwBANwGANwDONwEN",
      "wVINwZENwTANwINwKANwLASwMANwNARwONwPARwZHARwRAEwSANwTARwUNwPHARwKHARwGHANwQARwSHINwCHINxANw",
      "JILwCILxHARwXANwJHANwHAExExIEwWEwHARxOE"]),
    (0x2D27, ["GEORGIAN SMALL LETTER YN"]), (0x2D2D, ["GEORGIAN SMALL LETTER AEN"]),
    (0x2D30, ["TIFINAGH LETTER YAsBtHsGtHHqBERBER ACADEMY YAJqYAJsDtHtDuHrEYrAFsKqTUAREG YAKqYAKHH",
      "sHqBERBER ACADEMY YAHqTUAREG YAHqYAHHsAsKHqTUAREG YAKHqYAQqTUAREG YAQqYIrAZHqAHAGGAR YAZHqT",
      "UAREG YAZHqYALsMsNqTUAREG YAGNzNGqYAPrUrARtRsGHqTUAREG YAGHqAYER YAGHqYAStStHsTtHsCHsTTsVsW",
      "sYsZqTAWELLEMET YAZqYAZZrErO"]),
    (0x2D6F, ["TIFINAGH MODIFIER LETTER LABIALIZATION MARKjSEPARATOR MARK"]),
    (0x2D7F, ["TIFINAGH CONSONANT JOINERaETHIOPIC SYLLABLE LOAsMOAsROAsSOAtHOAsBOAsTOAsCOAsNOAtYOA",
      "sGLOTTAL OAsZOAsDOAtDOAsJOAsTHOAsCHOAsPHOAtOAsGGWAvIvEEw"]),
    (0x2DA0, ["ETHIOPIC SYLLABLE SSAuUuIuAAuEEvuO"]),
    (0x2DA8, ["ETHIOPIC SYLLABLE CCAuUuIuAAuEEvuO"]),
    (0x2DB0, ["ETHIOPIC SYLLABLE ZZAuUuIuAAuEEvuO"]),
    (0x2DB8, ["ETHIOPIC SYLLABLE CCHAvUvIvAAvEEwvO"]),
    (0x2DC0, ["ETHIOPIC SYLLABLE QYAuUuIuAAuEEvuO"]),
    (0x2DC8, ["ETHIOPIC SYLLABLE KYAuUuIuAAuEEvuO"]),
    (0x2DD0, ["ETHIOPIC SYLLABLE XYAuUuIuAAuEEvuO"]),
    (0x2DD8, ["ETHIOPIC SYLLABLE GYAuUuIuAAuEEvuO"]),
    (0x2DE0, ["COMBINING CYRILLIC LETTER BEαVEαGHEαDEαZHEβEαKAαELβMβNαOαPEαERβSαTEαHAαTSEαCHEαSHAγ",
      "CHAαFITAαES-TEαAαIEαDJERVαMONOGRAPH UKαYATβUαIOTIFIED AαLITTLE YUSαBIG YUSαIOTIFIED BIG YUS",
      "aRIGHT ANGLE SUBSTITUTION MARKERmDOTTED SUBSTITUTION MARKERaLEFT SUBSTITUTION BRACKETaRIGHT",
      " SUBSTITUTION BRACKETaLEFT DOTTED SUBSTITUTION BRACKETaRIGHT DOTTED SUBSTITUTION BRACKETbAI",
      "SED INTERPOLATION MARKERhDOTTED INTERPOLATION MARKERaDOTTED TRANSPOSITION MARKERaLEFT TRANS",
      "POSITION BRACKETaRIGHT TRANSPOSITION BRACKETbAISED SQUAREaLEFT RAISED OMISSION BRACKETaRIGH",
      "T RAISED OMISSION BRACKETaEDITORIAL CORONISaPARAGRAPHOSaFORKED PARAGRAPHOSaREVERSED FORKED ",
      "PARAGRAPHOSaHYPODIASTOLEaDOTTED OBELOScWNWARDS ANCORAaUPWARDS ANCORAaDOTTED RIGHT-POINTING ",
      "ANGLEcUBLE OBLIQUE HYPHENaINVERTED INTERROBANGaPALM BRANCHaHYPHEN WITH DIAERESISaTILDE WITH",
      " RING ABOVEaLEFT LOW PARAPHRASE BRACKETaRIGHT LOW PARAPHRASE BRACKETaTILDE WITH DOT ABOVEpB",
      "ELOWaLEFT VERTICAL BAR WITH QUILLaRIGHT VERTICAL BAR WITH QUILLaTOP LEFT HALF BRACKETeRIGHT",
      " HALF BRACKETaBOTTOM LEFT HALF BRACKEThRIGHT HALF BRACKETaLEFT SIDEWAYS U BRACKETaRIGHT SID",
      "EWAYS U BRACKETaLEFT DOUBLE PARENTHESISaRIGHT DOUBLE PARENTHESISaTWO DOTS OVER ONE DOT PUNC",
      "TUATIONaONE DOT OVER TWO DOTS PUNCTUATIONaSQUARED FOUR DOT PUNCTUATIONaFIVE DOT MARKaREVERS",
      "ED QUESTION MARKaVERTICAL TILDEaRING POINTaWORD SEPARATOR MIDDLE DOTaTURNED COMMAaRAISED DO",
      "ThCOMMAaTURNED SEMICOLONaDAGGER WITH LEFT GUARDmRIGHT GUARDaTURNED DAGGERbOP HALF SECTION S",
      "IGNbWO-EM DASHbHREE-EM DASHaSTENOGRAPHIC FULL STOPaVERTICAL SIX DOTSaWIGGLY VERTICAL LINEaC",
      "APITULUMaDOUBLE HYPHENaREVERSED COMMAaDOUBLE LOW-REVERSED-9 QUOTATION MARKbASH WITH LEFT UP",
      "TURNbOUBLE SUSPENSION MARKaINVERTED LOW KAVYKAt WITH KAVYKA ABOVEaLOW KAVYKAk WITH DOTaDOUB",
      "LE STACKED COMMAcTTED SOLIDUSaTRIPLE DAGGERaMEDIEVAL COMMAaPARAGRAPHUS MARKbUNCTUS ELEVATUS",
      " MARKaCORNISH VERSE DIVIDERbROSS PATTY WITH RIGHT CROSSBARrLEFT CROSSBARaTIRONIAN SIGN CAPI",
      "TAL ETaMEDIEVAL EXCLAMATION MARKjQUESTION MARKaLEFT SQUARE BRACKET WITH STROKEaRIGHT SQUARE",
      " BRACKET WITH STROKEaLEFT SQUARE BRACKET WITH DOUBLE STROKEaRIGHT SQUARE BRACKET WITH DOUBL",
      "E STROKEaTOP HALF LEFT PARENTHESISjRIGHT PARENTHESISaBOTTOM HALF LEFT PARENTHESISmRIGHT PAR",
      "ENTHESISaOBLIQUE HYPHEN"]),
    (0x2E80, ["CJK RADICAL REPEATmCLIFFmSECOND ONEtTWOuHREEmPERSONmBOXmTABLEmKNIFE ONEsTWOmDIVINAT",
      "IONmSEALnMALL ONEsTWOmLAME ONErTWOsHREErFOURmSNAKEmTHREADmSNOUT ONEsTWOmHEART ONEsTWOnANDmR",
      "AP"]),
    (0x2E9B, ["CJK RADICAL CHOKEmSUNmMOONmDEATHmMOTHERmCIVILIANmWATER ONEsTWOmFIREmPAW ONEqTWOmSIM",
      "PLIFIED HALF TREE TRUNKmCOWmDOGmJADEmBOLT OF CLOTHmEYEmSPIRIT ONEtTWOmBAMBOOmSILKmC-SIMPLIF",
      "IED SILKmNET ONEqTWOrHREEqFOURmMESHmSHEEPmRAMmEWEmOLDmBRUSH ONEsTWOmMEATnORTARmGRASS ONEsTW",
      "OtHREEmTIGERmCLOTHESmWEST ONErTWOmC-SIMPLIFIED SEEmSIMPLIFIED HORNmHORNmC-SIMPLIFIED SPEECH",
      "αHELLmFOOTmC-SIMPLIFIED CARTmSIMPLIFIED WALKmWALK ONErTWOmCITYn-SIMPLIFIED GOLDmLONG ONErTW",
      "OmC-SIMPLIFIED LONGzGATEmMOUND ONEsTWOmRAINmBLUEmC-SIMPLIFIED TANNED LEATHERzLEAFzWINDzFLYm",
      "EAT ONEqTWOrHREEmC-SIMPLIFIED EATmHEADmC-SIMPLIFIED HORSEmBONEmGHOSTmC-SIMPLIFIED FISHzBIRD",
      "zSALTmSIMPLIFIED WHEATxYELLOWmC-SIMPLIFIED FROGmJ-SIMPLIFIED EVENmC-SIMPLIFIED EVENmJ-SIMPL",
      "IFIED TOOTHmC-SIMPLIFIED TOOTHmJ-SIMPLIFIED DRAGONmC-SIMPLIFIED DRAGONmTURTLEmJ-SIMPLIFIED ",
      "TURTLEmC-SIMPLIFIED TURTLE"]),
    (0x2F00, ["KANGXI RADICAL ONEpLINEpDOTpSLASHqECONDpHOOKpTWOpLIDpMANpLEGSpENTERqIGHTpDOWN BOXpC",
      "OVERpICEpTABLEpOPEN BOXpKNIFEpPOWERpWRAPpSPOONpRIGHT OPEN BOXpHIDING ENCLOSUREpTENpDIVINATI",
      "ONpSEALpCLIFFpPRIVATEpAGAINpMOUTHpENCLOSUREqARTHpSCHOLARpGOr SLOWLYpEVENINGpBIGpWOMANpCHILD",
      "pROOFpINCHpSMALLpLAMEpCORPSEpSPROUTpMOUNTAINpRIVERpWORKpONESELFpTURBANpDRYpSHORT THREADpDOT",
      "TED CLIFFpLONG STRIDEpTWO HANDSpSHOOTpBOWpSNOUTpBRISTLEpSTEPpHEARTqALBERDpDOORpHANDpBRANCHp",
      "RAPpSCRIPTpDIPPERpAXEpSQUAREpNOTpSUNqAYpMOONpTREEpLACKpSTOPpDEATHpWEAPONpDO NOTpCOMPAREpFUR",
      "pCLANpSTEAMpWATERpFIREpCLAWpFATHERpDOUBLE XpHALF TREE TRUNKpSLICEpFANGpCOWpDOGpPROFOUNDpJAD",
      "EpMELONpTILEpSWEETpLIFEpUSEpFIELDpBOLT OF CLOTHpSICKNESSpDOTTED TENTpWHITEpSKINpDISHpEYEpSP",
      "EARpARROWpSTONEqPIRITpTRACKpGRAINpCAVEpSTANDpBAMBOOpRICEpSILKpJARpNETpSHEEPpFEATHERpOLDpAND",
      "pPLOWpEARpBRUSHpMEATqINISTERpSELFpARRIVEpMORTARpTONGUEpOPPOSEpBOATpSTOPPINGpCOLORpGRASSpTIG",
      "ERpINSECTpBLOODpWALK ENCLOSUREpCLOTHESpWESTpSEEpHORNpSPEECHpVALLEYpBEANpPIGpBADGERpSHELLpRE",
      "DqUNpFOOTpBODYpCARTpBITTERpMORNINGpWALKpCITYpWINEpDISTINGUISHpVILLAGEpGOLDpLONGpGATEpMOUNDp",
      "SLAVEqHORT TAILED BIRDpRAINpBLUEpWRONGpFACEpLEATHERpTANNED LEATHERpLEEKpSOUNDpLEAFpWINDpFLY",
      "pEATpHEADpFRAGRANTpHORSEpBONEpTALLpHAIRpFIGHTpSACRIFICIAL WINEpCAULDRONpGHOSTpFISHpBIRDpSAL",
      "TpDEERpWHEATpHEMPpYELLOWpMILLETpBLACKpEMBROIDERYpFROGpTRIPODpDRUMpRATpNOSEpEVENpTOOTHpDRAGO",
      "NpTURTLEpFLUTE"]),
    (0x2FF0, ["IDEOGRAPHIC DESCRIPTION CHARACTER LEFT TO RIGHTιABOVE TO BELOWιLEFT TO MIDDLE AND R",
      "IGHTιABOVE TO MIDDLE AND BELOWιFULL SURROUNDιSURROUND FROM ABOVEχBELOWχLEFTχUPPER LEFTωPER ",
      "RIGHTχLOWER LEFTιOVERLAID"]),
    (0x3000, ["IDEOGRAPHIC SPACEmCOMMAmFULL STOPaDITTO MARKaJAPANESE INDUSTRIAL STANDARD SYMBOLaID",
      "EOGRAPHIC ITERATION MARKmCLOSING MARKmNUMBER ZEROaLEFT ANGLE BRACKETaRIGHT ANGLE BRACKETaLE",
      "FT DOUBLE ANGLE BRACKETaRIGHT DOUBLE ANGLE BRACKETaLEFT CORNER BRACKETaRIGHT CORNER BRACKET",
      "aLEFT WHITE CORNER BRACKETaRIGHT WHITE CORNER BRACKETaLEFT BLACK LENTICULAR BRACKETaRIGHT B",
      "LACK LENTICULAR BRACKETaPOSTAL MARKaGETA MARKaLEFT TORTOISE SHELL BRACKETaRIGHT TORTOISE SH",
      "ELL BRACKETaLEFT WHITE LENTICULAR BRACKETaRIGHT WHITE LENTICULAR BRACKETaLEFT WHITE TORTOIS",
      "E SHELL BRACKETaRIGHT WHITE TORTOISE SHELL BRACKETaLEFT WHITE SQUARE BRACKETaRIGHT WHITE SQ",
      "UARE BRACKETaWAVE DASHaREVERSED DOUBLE PRIME QUOTATION MARKaDOUBLE PRIME QUOTATION MARKaLOW",
      " DOUBLE PRIME QUOTATION MARKaPOSTAL MARK FACEaHANGZHOU NUMERAL ONErTWOsHREErFOURsIVErSIXsEV",
      "ENrEIGHTrNINEaIDEOGRAPHIC LEVEL TONE MARKmRISING TONE MARKmDEPARTING TONE MARKmENTERING TON",
      "E MARKaHANGUL SINGLE DOT TONE MARKhDOUBLE DOT TONE MARKaWAVY DASHaVERTICAL KANA REPEAT MARK",
      "vWITH VOICED SOUND MARKvMARK UPPER HALFvWITH VOICED SOUND MARK UPPER HALFvMARK LOWER HALFaC",
      "IRCLED POSTAL MARKaIDEOGRAPHIC TELEGRAPH LINE FEED SEPARATOR SYMBOLaHANGZHOU NUMERAL TENsWE",
      "NTYsHIRTYaVERTICAL IDEOGRAPHIC ITERATION MARKaMASU MARKaPART ALTERNATION MARKaIDEOGRAPHIC V",
      "ARIATION INDICATORmHALF FILL SPACE"]),
    (0x3041, ["HIRAGANA LETTER SMALL AqAqSMALL IqIqSMALL UqUqSMALL EqEqSMALL OqOqKAqGAqKIqGIqKUqGU",
      "qKEqGEqKOqGOqSAqZAqSIqZIqSUqZUqSEqZEqSOqZOqTAqDAqTIqDIqSMALL TUqTUqDUqTEqDEqTOqDOqNArIrUrEr",
      "OqHAqBAqPAqHIqBIqPIqHUqBUqPUqHEqBEqPEqHOqBOqPOqMArIrUrErOqSMALL YAqYAqSMALL YUqYUqSMALL YOq",
      "YOqRArIrUrErOqSMALL WAqWArIrErOqNqVUqSMALL KAxE"]),
    (0x3099, ["COMBINING KATAKANA-HIRAGANA VOICED SOUND MARKγSEMI-VOICED SOUND MARKaKATAKANA-HIRAG",
      "ANA VOICED SOUND MARKsSEMI-VOICED SOUND MARKaHIRAGANA ITERATION MARKjVOICED ITERATION MARKj",
      "DIGRAPH YORIaKATAKANA-HIRAGANA DOUBLE HYPHENi LETTER SMALL AqAqSMALL IqIqSMALL UqUqSMALL Eq",
      "EqSMALL OqOqKAqGAqKIqGIqKUqGUqKEqGEqKOqGOqSAqZAqSIqZIqSUqZUqSEqZEqSOqZOqTAqDAqTIqDIqSMALL T",
      "UqTUqDUqTEqDEqTOqDOqNArIrUrErOqHAqBAqPAqHIqBIqPIqHUqBUqPUqHEqBEqPEqHOqBOqPOqMArIrUrErOqSMAL",
      "L YAqYAqSMALL YUqYUqSMALL YOqYOqRArIrUrErOqSMALL WAqWArIrErOqNqVUqSMALL KAxEqVArIrErOjMIDDL",
      "E DOTi-HIRAGANA PROLONGED SOUND MARKi ITERATION MARKjVOICED ITERATION MARKjDIGRAPH KOTO"]),
    (0x3105, ["BOPOMOFO LETTER BqPqMqFqDqTqNqLqGqKqHqJqQqXqZHqCHqSHqRqZqCqSqAqOqErHqAIqEIqAUqOUqAN",
      "qENqANGqENGrRqIqUqIUqVqNGqGNqIHqO WITH DOT ABOVEqNN"]),
    (0x3131, ["HANGUL LETTER KIYEOKoSSANGKIYEOKoKIYEOK-SIOSoNIEUNt-CIEUCuHIEUHoTIKEUToSSANGTIKEUTo",
      "RIEULt-KIYEOKuMIEUMuPIEUPuSIOSuTHIEUTHuPHIEUPHuHIEUHoMIEUMoPIEUPoSSANGPIEUPoPIEUP-SIOSoSIOS",
      "pSANGSIOSoIEUNGoCIEUCoSSANGCIEUCoCHIEUCHoKHIEUKHoTHIEUTHoPHIEUPHoHIEUHoApEoYAqEoEOpoYEOqoOo",
      "WAqEoOEoYOoUoWEOqpIoYUoEUoYIoIhFILLERhLETTER SSANGNIEUNoNIEUN-TIKEUTuSIOSuPANSIOSoRIEUL-KIY",
      "EOK-SIOSuTIKEUTuPIEUP-SIOSvANSIOSuYEORINHIEUHoMIEUM-PIEUPuSIOSuPANSIOSoKAPYEOUNMIEUMoPIEUP-",
      "KIYEOKuTIKEUTuSIOS-KIYEOKzTIKEUTuCIEUCuTHIEUTHoKAPYEOUNPIEUPwSSANGPIEUPoSIOS-KIYEOKtNIEUNtT",
      "IKEUTtPIEUPtCIEUCoPANSIOSoSSANGIEUNGoYESIEUNGw-SIOSxPANSIOSoKAPYEOUNPHIEUPHoSSANGHIEUHoYEOR",
      "INHIEUHpO-YAtErIpU-YEOtrIoARAEAtE"]),
    (0x3190, ["IDEOGRAPHIC ANNOTATION LINKING MARKxREVERSE MARKxONE MARKxTWO MARKyHREE MARKxFOUR M",
      "ARKxTOP MARKxMIDDLE MARKxBOTTOM MARKxFIRST MARKxSECOND MARKxTHIRD MARKxFOURTH MARKxHEAVEN M",
      "ARKxEARTH MARKxMAN MARKaBOPOMOFO LETTER BUqZIqJIqGUqEErNNqOOrNNqIRqANNqINNqUNNqIMqNGGqAINNr",
      "UNNrMqOMrNGqINNNjFINAL LETTER PwTwKwHjLETTER GHqLHqZYjFINAL LETTER GjLETTER GWqKWqOEqAHaCJK",
      " STROKE TlWGlXGlBXGlSWlHZZnGmPmZWGlSZWGlHZTnZPmPWGmZWnZZlNlHlSlPlSPlDlHZmGlSZmWZmTmGlPDmZlT",
      "NlSZZmWGlHXWGmZZZGlPGlQ"]),
    (0x31F0, ["KATAKANA LETTER SMALL KUwSIxUwTOwNUwHAxIxUxExOwMUwRAxIxUxExOaPARENTHESIZED HANGUL K",
      "IYEOKvNIEUNvTIKEUTvRIEULvMIEUMvPIEUPvSIOSvIEUNGvCIEUCwHIEUCHvKHIEUKHvTHIEUTHvPHIEUPHvHIEUHv",
      "KIYEOK AvNIEUN AvTIKEUT AvRIEUL AvMIEUM AvPIEUP AvSIOS AvIEUNG AvCIEUC AwHIEUCH AvKHIEUKH A",
      "vTHIEUTH AvPHIEUPH AvHIEUH AvCIEUC UoKOREAN CHARACTER OJEONη HU"]),
    (0x3220, ["PARENTHESIZED IDEOGRAPH ONEyTWOzHREEyFOURzIVEySIXzEVENyEIGHTyNINEyTENyMOONyFIREyWAT",
      "ERzOODyMETALyEARTHySUNzTOCKyHAVEySOCIETYyNAMEySPECIALyFINANCIALyCONGRATULATIONyLABORyREPRES",
      "ENTyCALLySTUDYzUPERVISEyENTERPRISEyRESOURCEyALLIANCEyFESTIVALyRESTySELFyREACHaCIRCLED IDEOG",
      "RAPH QUESTIONsKINDERGARTENsSCHOOLsKOTOiNUMBER TEN ON BLACK SQUAREqWENTY ON BLACK SQUAREqHIR",
      "TY ON BLACK SQUAREpFORTY ON BLACK SQUAREqIFTY ON BLACK SQUAREpSIXTY ON BLACK SQUAREqEVENTY ",
      "ON BLACK SQUAREpEIGHTY ON BLACK SQUAREaPARTNERSHIP SIGNaCIRCLED NUMBER TWENTY ONEwTWOxHREEw",
      "FOURxIVEwSIXxEVENwEIGHTwNINEqHIRTYv ONEwTWOxHREEwFOURxIVEiHANGUL KIYEOKpNIEUNpTIKEUTpRIEULp",
      "MIEUMpPIEUPpSIOSpIEUNGpCIEUCqHIEUCHpKHIEUKHpTHIEUTHpPHIEUPHpHIEUHpKIYEOK ApNIEUN ApTIKEUT A",
      "pRIEUL ApMIEUM ApPIEUP ApSIOS ApIEUNG ApCIEUC AqHIEUCH ApKHIEUKH ApTHIEUTH ApPHIEUPH ApHIEU",
      "H AiKOREAN CHARACTER CHAMKOzJUEUIiHANGUL IEUNG UaKOREAN STANDARD SYMBOLaCIRCLED IDEOGRAPH O",
      "NEsTWOtHREEsFOURtIVEsSIXtEVENsEIGHTsNINEsTENsMOONsFIREsWATERtOODsMETALsEARTHsSUNtTOCKsHAVEs",
      "SOCIETYsNAMEsSPECIALsFINANCIALsCONGRATULATIONsLABORsSECRETsMALEsFEMALEsSUITABLEsEXCELLENTsP",
      "RINTsATTENTIONsITEMsRESTsCOPYuRRECTsHIGHsCENTREsLOWtEFTsRIGHTsMEDICINEsRELIGIONsSTUDYtUPERV",
      "ISEsENTERPRISEsRESOURCEsALLIANCEsNIGHTiNUMBER THIRTY SIXxEVENwEIGHTwNINEpFORTYu ONEvTWOwHRE",
      "EvFOURwIVEvSIXwEVENvEIGHTvNINEqIFTYaIDEOGRAPHIC TELEGRAPH SYMBOL FOR JANUARYθFEBRUARYθMARCH",
      "θAPRILθMAYθJUNEκLYθAUGUSTθSEPTEMBERθOCTOBERθNOVEMBERθDECEMBERaSQUARE HGhERGiVaLIMITED LIABI",
      "LITY SIGNaCIRCLED KATAKANA ArIrUrErOrKAsIsUsEsOrSAsIsUsEsOrTAsIsUsEsOrNAsIsUsEsOrHAsIsUsEsO",
      "rMAsIsUsEsOrYAsUsOrRAsIsUsEsOrWAsIsEsOaSQUARE ERA NAME REIWAhAPAATOiRUHUAiNPEAiARUhININGUjT",
      "IhUONhESUKUUDOiEKAAhONSUiOMUhKAIRIjRATTOkORIIhGARONjNMAiIGAjNIIhKYURIIhGIRUDAAhKIROlGURAMUl",
      "MEETORUlWATTOhGURAMUnTONhKURUZEIROkOONEiEESUiORUNAjOPOhSAIKURUjNTIIMUiIRINGUiENTIlOhDAASUiE",
      "SIiORUhTONhNANOiOTTOhHAITUhPAASENTOkTUhBAARERUhPIASUTORUjKURUkOhBIRUhHUARADDOjIITOhBUSSYERU",
      "hHURANiEKUTAARUhPESOjNIHIhHERUTUhPENSUjEZIhBEETAhPOINTOhBORUTOhHONhPONDOhHOORUkNhMAIKUROkRU",
      "jHHAjRUKUjNSYONiIKURONjRIlBAARUiEGAlTONjETORUhYAADOkRUiUANhRITTORUjRAiUPIIjUBURUiEMUjNTOGEN",
      "hWATTOaIDEOGRAPHIC TELEGRAPH SYMBOL FOR HOUR ZEROνONEνTWOξHREEνFOURξIVEνSIXξEVENνEIGHTνNINE",
      "νTENνELEVENνTWELVEξHIRTEENνFOURTEENξIFTEENνSIXTEENξEVENTEENνEIGHTEENνNINETEENνTWENTYσ-ONEτT",
      "WOυHREEτFOURaSQUARE HPAhDAhAUhBARhOVhPChDMj SQUAREDkCUBEDhIUhERA NAME HEISEIqSYOUWAqTAISYOU",
      "qMEIZIhCORPORATIONhPA AMPShNAhMU AiAhKAiBhMBhGBhCALhKCALhPFhNFhMU FkGiGhKGhHZhKHZhMHZhGHZhT",
      "HZhMU LiLhDLhKLhFMhNMhMU MiMhCMhKMhMM SQUAREDhCM SQUAREDhM SQUAREDhKM SQUAREDhMM CUBEDhCM C",
      "UBEDhM CUBEDhKM CUBEDhM OVER Sp SQUAREDhPAhKPAhMPAhGPAhRADk OVER Sr SQUAREDhPShNShMU SiShPV",
      "hNVhMU ViVhKVhMV MEGAhPWhNWhMU WiWhKWhMW MEGAhK OHMhM OHMhAMhBQhCCiDi OVER KGiOhDBhGYhHAiPh",
      "INhKKiM CAPITALiThLMiNiOGiXhMB SMALLiILiOLhPHiMiPMiRhSRiVhWBhV OVER MhA OVER MaIDEOGRAPHIC ",
      "TELEGRAPH SYMBOL FOR DAY ONEμTWOνHREEμFOURνIVEμSIXνEVENμEIGHTμNINEμTENμELEVENμTWELVEνHIRTEE",
      "NμFOURTEENνIFTEENμSIXTEENνEVENTEENμEIGHTEENμNINETEENμTWENTYς-ONEσTWOτHREEσFOURτIVEσSIXτEVEN",
      "σEIGHTσNINEνHIRTYς-ONEaSQUARE GAL"]),
    (0x4DC0, ["HEXAGRAM FOR THE CREATIVE HEAVENrRECEPTIVE EARTHnDIFFICULTY AT THE BEGINNINGnYOUTHF",
      "UL FOLLYnWAITINGnCONFLICTnTHE ARMYnHOLDING TOGETHERnSMALL TAMINGnTREADINGnPEACEnSTANDSTILLn",
      "FELLOWSHIPnGREAT POSSESSIONnMODESTYnENTHUSIASMnFOLLOWINGnWORK ON THE DECAYEDnAPPROACHnCONTE",
      "MPLATIONnBITING THROUGHnGRACEnSPLITTING APARTnRETURNnINNOCENCEnGREAT TAMINGnMOUTH CORNERSnG",
      "REAT PREPONDERANCEnTHE ABYSMAL WATERrCLINGING FIREnINFLUENCEnDURATIONnRETREATnGREAT POWERnP",
      "ROGRESSnDARKENING OF THE LIGHTnTHE FAMILYnOPPOSITIONoBSTRUCTIONnDELIVERANCEpCREASEnINCREASE",
      "nBREAKTHROUGHnCOMING TO MEETnGATHERING TOGETHERnPUSHING UPWARDnOPPRESSIONnTHE WELLnREVOLUTI",
      "ONnTHE CAULDRONrAROUSING THUNDERrKEEPING STILL MOUNTAINnDEVELOPMENTnTHE MARRYING MAIDENnABU",
      "NDANCEnTHE WANDERERrGENTLE WINDrJOYOUS LAKEnDISPERSIONnLIMITATIONnINNER TRUTHnSMALL PREPOND",
      "ERANCEnAFTER COMPLETIONnBEFORE COMPLETION"]),
    (0xA000, ["YI SYLLABLE ITnXnnPnEToXooPmATnXnnPmUOXooPmOTnXnnPmEXnmWUmBIToXooPoETpXppPnAToXooPn",
      "UOXppPnOToXooPnEXooPnUToXooPoRXpnYToXooPoRXpmPIToXooPoEXppPnAToXooPnUOXppPnOToXooPnUToXooPo",
      "RXpnYToXooPoRXpmBBITpXppPpETqXqqPoATpXppPoUOXqqPoOTpXppPoEXppPoUTpXppPpRXqoYTpXppPmNBITpXpp",
      "PpEXqqPoATpXppPoOTpXppPoUTpXppPpRXqoYTpXppPpRXqmHMITpXppPpEXqqPoATpXppPoUOXqqPoOTpXppPoUTpX",
      "ppPpRXqoYXppPpRXqmMIToXooPoEXppPnAToXooPnUOTpXppPnOToXooPnEXonUToXooPoRXpnYToXooPmFIToXooPn",
      "AToXooPnOXooPnUToXooPoRXpnYToXooPmVIToXooPoETpXppPnAToXooPnOToXooPnEXoPnUToXooPoRXpnYToXooP",
      "oRXpmDIToXooPoEXppPnAToXooPnUOXpnOToXooPnEXooPnUToXooPoRXpmTIToXooPoEXppPnAToXooPnUOTpXppPn",
      "OToXooPnEXooPnUToXooPoRXpmDDITpXppPpEXqqPoATpXppPoUOXqqPoOTpXppPoEXppPoUTpXppPpRXqmNDITpXpp",
      "PpEXqoATpXppPoOTpXppPoEXppPoUTpXppPpRXqmHNITpXppPpETqXqqPoATpXppPoUOXqoOTpXpPoEXppPoUTmNITo",
      "XooPoEXppPnAXooPnUOXppPnOToXooPnEXooPnUToXooPoRXpmHLITpXppPpEXqqPoATpXppPoUOXqqPoOXppPoEXpp",
      "PoUTpXppPpRXqoYTpXppPpRXqmLIToXooPoETpXppPnAToXooPnUOTpXppPnOToXooPnEXooPnUToXooPoRXpnYToXo",
      "oPoRXpmGIToXooPoETpXppPnAToXooPnUOTpXppPnOToXooPnEToXooPnUToXooPoRXpmKIToXooPoEXppPnAToXooP",
      "nUOXppPnOToXooPnEToXooPnUToXooPoRXpmGGITpXppEXqqPoATpXppPoUOTqXqqPoOTpXppPoETpXppPoUTpXppPp",
      "RXqmMGIEXqoATpXppPoUOXqqPoOTpXppPoEXppPoUTpXppPpRXqmHXITpXppPpETqXqqPoATpXppPoUOTqXqqPoOTpX",
      "ppPoEXppPmNGIEXqqPoATpXppPoUOTqXqoOTpXppPoEXppPmHIToEXpnAToXooPnUOTpXppPnOToXooPnEXooPmWATo",
      "XooPnUOXppPnOXooPnEXooPmZIToXooPoEXppPnAToXooPnUOXppPnOToXooPnEXooPnUToXooPoRXpnYToXooPoRXp",
      "mCIToXooPoETpXppPnAToXooPnUOXppPnOToXooPnEXooPnUToXooPoRXpnYToXooPoRXpmZZITpXppPpETqXqqPoAT",
      "pXppPoOXppPoEXppPoUXppPpRXqoYTpXppPpRXqmNZITpXppPpEXqqPoATpXppPoUOXqoOXpPoEXpoUXppPpRXqoYTp",
      "XppPpRXqmSIToXooPoEXppPnAToXooPnUOXppPnOToXooPnEXooPnUToXooPoRXpnYToXooPoRXpnSITpXppPpEXqqP",
      "oATpXppPoOTpXppPoEXppPoUTpXppPoYTpXppPpRXqmZHATpXppPoUOXqqPoOTpXppPoETpXppPoUTpXppPpRXqoYTp",
      "XppPpRXqmCHATpXppPoUOTqXqqPoOTpXppPoETpXppPoUXppPpRXqoYTpXppPpRXqmRRAXpoUOXqoOTpXppPoETpXpp",
      "PoUTpXppPpRXqoYTpXppPpRXqmNRATpXppPoOXppPoETpXppPoUTpXppPpRXqoYTpXppPpRXqmSHATpXppPoUOXqqPo",
      "OTpXppPoETpXppPoUTpXppPpRXqoYTpXppPpRXqmRAToXooPnUOXppPnOToXooPnEXooPnUToXooPoRXpnYToXooPoR",
      "XpmJIToXooPoETpXppPnUOTpXppPnOToXooPnUToXooPoRXpnYToXooPoRXpmQIToXooPoETpXppPnUOTpXppPnOToX",
      "ooPnUToXooPoRXpnYToXooPoRXpmJJITpXppPpETqXqqPoUOXqqPoOTpXppPoUTpXppPpRXqoYTpXppPmNJITpXppPp",
      "ETqXqqPoUOXqoOTpXppPoUXppPpRXqoYTpXppPpRXqnYITpXppPpETqXqqPoUOXqqPoOTpXppPoUTpXppPmXIToXooP",
      "oETpXppPnUOXpnOToXooPnYToXooPoRXpmYIToXooPoETpXppPnUOTpXppPnOToXooPnUToXooPoRXpnYToXooPoRX",
      "p"]),
    (0xA490, ["YI RADICAL QOTlLIlKITlNYIPlCYPlSSIlGGOPmEPlMIlHXITlLYRlBBUTlMOPlYOlPUTlHXUOlTATlGAl",
      "ZUPlCYTlDDURlBURlGGUOlNYOPlTUlOPlJJUTlZOTlPYTlHMOlYITlVURlSHYlVEPlZAlJOlNZUPlJJYlGOTlJJIElW",
      "OlDUlSHURlLIElCYmUOPmIPlHXOPlSHATlZURlSHOPlCHElZZIETlNBIElKE"]),
    (0xA4D0, ["LISU LETTER BAmPAnHAmDAmTAnHAmGAmKAnHAmJAmCAnHAmDZAmTSAoHAmMAmNAmLAmSAmZHAnAmNGAmHA",
      "mXAmHHAmFAmWAmSHAmYAmGHAmAnEmEnUmImOmUnEnHmOEmTONE MYA TIrNA POrMYA CYAvBOvNAvJEUfPUNCTUATI",
      "ON COMMArFULL STOPaVAI SYLLABLE EEpNnHEEnWEEqNnPEEnBHEEoEEnMBEEnKPEEnMGBEEnGBEEnFEEnVEEnTEE",
      "oHEEnDHEEpHEEnLEEnREEnDEEnNDEEnSEEoHEEnZEEoHEEnCEEnJEEnNJEEnYEEnKEEnNGGEEnGEEnMEEnNEEoYEEnI",
      "oNnHIpNnWIpNnPInBHIoInMBInKPInMGBInGBInFInVInTIoHInDHIpHInLInRInDInNDInSIoHInZIoHInCInJInNJ",
      "InYInKInNGGInGInMInNIoYInAoNnNGANnHApNnWApNnPAnBHAoAnMBAnKPAqNnMGBAnGBAnFAnVAnTAoHAnDHApHAn",
      "LAnRAnDAnNDAnSAoHAnZAoHAnCAnJAnNJAnYAnKApNnNGGAnGAnMAnNAoYAnOOpNnHOOnWOOqNnPOOnBHOOoOOnMBOO",
      "nKPOOnMGBOOnGBOOnFOOnVOOnTOOoHOOnDHOOpHOOnLOOnROOnDOOnNDOOnSOOoHOOnZOOoHOOnCOOnJOOnNJOOnYOO",
      "nKOOnNGGOOnGOOnMOOnNOOoYOOnUoNnHUpNnWUpNnPUnBHUoUnMBUnKPUnMGBUnGBUnFUnVUnTUoHUnDHUpHUnLUnRU",
      "nDUnNDUnSUoHUnZUoHUnCUnJUnNJUnYUnKUnNGGUnGUnMUnNUoYUnOoNnNGONnHOpNnWOpNnPOnBHOoOnMBOnKPOnMG",
      "BOnGBOqNnFOnVOnTOoHOnDHOpHOnLOnROnDOnNDOnSOoHOnZOoHOnCOnJOnNJOnYOnKOnNGGOnGOnMOnNOoYOnEoNnN",
      "GENnHEpNnWEpNnPEnBHEoEnMBEnKPEqNnMGBEnGBEqNnFEnVEnTEoHEnDHEpHEnLEnREnDEnNDEnSEoHEnZEoHEnCEn",
      "JEnNJEnYEnKEnNGGErNnGEpNnMEnNEoYEoGnLENGTHENEReCOMMAeFULL STOPeQUESTION MARKeSYLLABLE NDOLE",
      " FAtKAtSOOgMBOL FEENGlKEENGlTINGlNIIlBANGlFAAlTAAlDANGmOONGlKUNGlTONGlDO-OlJONGeDIGIT ZEROk",
      "ONEkTWOlHREEkFOURlIVEkSIXlEVENkEIGHTkNINEeSYLLABLE NDOLE MAtDO"]),
    (0xA640, ["CYRILLIC CAPITAL LETTER ZEMLYAjSMALL LETTER ZEMLYAjCAPITAL LETTER DZELOjSMALL LETTE",
      "R DZELOjCAPITAL LETTER REVERSED DZEjSMALL LETTER REVERSED DZEjCAPITAL LETTER IOTAjSMALL LET",
      "TER IOTAjCAPITAL LETTER DJERVjSMALL LETTER DJERVjCAPITAL LETTER MONOGRAPH UKjSMALL LETTER M",
      "ONOGRAPH UKjCAPITAL LETTER BROAD OMEGAjSMALL LETTER BROAD OMEGAjCAPITAL LETTER NEUTRAL YERj",
      "SMALL LETTER NEUTRAL YERjCAPITAL LETTER YERU WITH BACK YERjSMALL LETTER YERU WITH BACK YERj",
      "CAPITAL LETTER IOTIFIED YATjSMALL LETTER IOTIFIED YATjCAPITAL LETTER REVERSED YUjSMALL LETT",
      "ER REVERSED YUjCAPITAL LETTER IOTIFIED AjSMALL LETTER IOTIFIED AjCAPITAL LETTER CLOSED LITT",
      "LE YUSjSMALL LETTER CLOSED LITTLE YUSjCAPITAL LETTER BLENDED YUSjSMALL LETTER BLENDED YUSjC",
      "APITAL LETTER IOTIFIED CLOSED LITTLE YUSjSMALL LETTER IOTIFIED CLOSED LITTLE YUSjCAPITAL LE",
      "TTER YNjSMALL LETTER YNjCAPITAL LETTER REVERSED TSEjSMALL LETTER REVERSED TSEjCAPITAL LETTE",
      "R SOFT DEjSMALL LETTER SOFT DEjCAPITAL LETTER SOFT ELjSMALL LETTER SOFT ELjCAPITAL LETTER S",
      "OFT EMjSMALL LETTER SOFT EMjCAPITAL LETTER MONOCULAR OjSMALL LETTER MONOCULAR OjCAPITAL LET",
      "TER BINOCULAR OjSMALL LETTER BINOCULAR OjCAPITAL LETTER DOUBLE MONOCULAR OjSMALL LETTER DOU",
      "BLE MONOCULAR OjLETTER MULTIOCULAR ObOMBINING CYRILLIC VZMETtTEN MILLIONS SIGNtHUNDRED MILL",
      "IONS SIGNtTHOUSAND MILLIONS SIGNaSLAVONIC ASTERISKaCOMBINING CYRILLIC LETTER UKRAINIAN IEαI",
      "αYIαUαHARD SIGNαYERUαSOFT SIGNαOMEGAtKAVYKAtPAYEROKbYRILLIC KAVYKAjPAYEROKjCAPITAL LETTER D",
      "WEjSMALL LETTER DWEjCAPITAL LETTER DZWEjSMALL LETTER DZWEjCAPITAL LETTER ZHWEjSMALL LETTER ",
      "ZHWEjCAPITAL LETTER CCHEjSMALL LETTER CCHEjCAPITAL LETTER DZZEjSMALL LETTER DZZEjCAPITAL LE",
      "TTER TE WITH MIDDLE HOOKjSMALL LETTER TE WITH MIDDLE HOOKjCAPITAL LETTER TWEjSMALL LETTER T",
      "WEjCAPITAL LETTER TSWEjSMALL LETTER TSWEjCAPITAL LETTER TSSEjSMALL LETTER TSSEjCAPITAL LETT",
      "ER TCHEjSMALL LETTER TCHEjCAPITAL LETTER HWEjSMALL LETTER HWEjCAPITAL LETTER SHWEjSMALL LET",
      "TER SHWEjCAPITAL LETTER DOUBLE OjSMALL LETTER DOUBLE OjCAPITAL LETTER CROSSED OjSMALL LETTE",
      "R CROSSED OaMODIFIER LETTER CYRILLIC HARD SIGNzSOFT SIGNaCOMBINING CYRILLIC LETTER EFαIOTIF",
      "IED EaBAMUM LETTER AnKAnUnKUnEEnREEnTAEnOnNYInInLAnPAnRIIpEEnLEEEEnMEEEEnTAAnNDAAoJAEMnMnSU",
      "UnMUnSHIIoIoHEUXoEUXnKYEEoETnNUAEpoJUAEnYOQnSHUnYUQoAnNSHAnKEUXnPEUXnNJEEoTEEnPUEnWUEnPEEnF",
      "EEnRUnLUnMInNInREUXoAEnKENnNGKWAENpGApAnSHOnPUAEnFUoOMnWAnNAnLInPInLOQnKOnMBENnRENnMENoAnTI",
      "nKInMOoBAAnTETnKPAnTENnNTUUnSAMBAnFAAMAEnKOVUUpGHOMgCOMBINING MARK KOQNDONvTUKWENTISgNJAEML",
      "IgFULL STOPgCOLONiMMAgSEMICOLONgQUESTION MARK"]),
    (0xA700, ["MODIFIER LETTER CHINESE TONE YIN PINGεANG PINGεIN SHANGεANG SHANGεIN QUεANG QUεIN R",
      "UεANG RUqEXTRA-HIGH DOTTED TONE BARqHIGH DOTTED TONE BARqMID DOTTED TONE BARqLOW DOTTED TON",
      "E BARqEXTRA-LOW DOTTED TONE BARwHIGH DOTTED LEFT-STEM TONE BARqHIGH DOTTED LEFT-STEM TONE B",
      "ARqMID DOTTED LEFT-STEM TONE BARqLOW DOTTED LEFT-STEM TONE BARqEXTRA-LOW DOTTED LEFT-STEM T",
      "ONE BARwHIGH LEFT-STEM TONE BARqHIGH LEFT-STEM TONE BARqMID LEFT-STEM TONE BARqLOW LEFT-STE",
      "M TONE BARqEXTRA-LOW LEFT-STEM TONE BARqDOT VERTICAL BARuSLASHuHORIZONTAL BARqLOWER RIGHT C",
      "ORNER ANGLEqRAISED UP ARROWxDOWN ARROWxEXCLAMATION MARKxINVERTED EXCLAMATION MARKqLOW INVER",
      "TED EXCLAMATION MARKqSTRESS AND HIGH TONEβLOW TONEaLATIN CAPITAL LETTER EGYPTOLOGICAL ALEFg",
      "SMALL LETTER EGYPTOLOGICAL ALEFgCAPITAL LETTER EGYPTOLOGICAL AINgSMALL LETTER EGYPTOLOGICAL",
      " AINgCAPITAL LETTER HENGgSMALL LETTER HENGgCAPITAL LETTER TZgSMALL LETTER TZgCAPITAL LETTER",
      " TRESILLOgSMALL LETTER TRESILLOgCAPITAL LETTER CUATRILLOgSMALL LETTER CUATRILLOgCAPITAL LET",
      "TER CUATRILLO WITH COMMAgSMALL LETTER CUATRILLO WITH COMMAgLETTER SMALL CAPITAL FβSgCAPITAL",
      " LETTER AAgSMALL LETTER AAgCAPITAL LETTER AOgSMALL LETTER AOgCAPITAL LETTER AUgSMALL LETTER",
      " AUgCAPITAL LETTER AVgSMALL LETTER AVgCAPITAL LETTER AV WITH HORIZONTAL BARgSMALL LETTER AV",
      " WITH HORIZONTAL BARgCAPITAL LETTER AYgSMALL LETTER AYgCAPITAL LETTER REVERSED C WITH DOTgS",
      "MALL LETTER REVERSED C WITH DOTgCAPITAL LETTER K WITH STROKEgSMALL LETTER K WITH STROKEgCAP",
      "ITAL LETTER K WITH DIAGONAL STROKEgSMALL LETTER K WITH DIAGONAL STROKEgCAPITAL LETTER K WIT",
      "H STROKE AND DIAGONAL STROKEgSMALL LETTER K WITH STROKE AND DIAGONAL STROKEgCAPITAL LETTER ",
      "BROKEN LgSMALL LETTER BROKEN LgCAPITAL LETTER L WITH HIGH STROKEgSMALL LETTER L WITH HIGH S",
      "TROKEgCAPITAL LETTER O WITH LONG STROKE OVERLAYgSMALL LETTER O WITH LONG STROKE OVERLAYgCAP",
      "ITAL LETTER O WITH LOOPgSMALL LETTER O WITH LOOPgCAPITAL LETTER OOgSMALL LETTER OOgCAPITAL ",
      "LETTER P WITH STROKE THROUGH DESCENDERgSMALL LETTER P WITH STROKE THROUGH DESCENDERgCAPITAL",
      " LETTER P WITH FLOURISHgSMALL LETTER P WITH FLOURISHgCAPITAL LETTER P WITH SQUIRREL TAILgSM",
      "ALL LETTER P WITH SQUIRREL TAILgCAPITAL LETTER Q WITH STROKE THROUGH DESCENDERgSMALL LETTER",
      " Q WITH STROKE THROUGH DESCENDERgCAPITAL LETTER Q WITH DIAGONAL STROKEgSMALL LETTER Q WITH ",
      "DIAGONAL STROKEgCAPITAL LETTER R ROTUNDAgSMALL LETTER R ROTUNDAgCAPITAL LETTER RUM ROTUNDAg",
      "SMALL LETTER RUM ROTUNDAgCAPITAL LETTER V WITH DIAGONAL STROKEgSMALL LETTER V WITH DIAGONAL",
      " STROKEgCAPITAL LETTER VYgSMALL LETTER VYgCAPITAL LETTER VISIGOTHIC ZgSMALL LETTER VISIGOTH",
      "IC ZgCAPITAL LETTER THORN WITH STROKEgSMALL LETTER THORN WITH STROKEgCAPITAL LETTER THORN W",
      "ITH STROKE THROUGH DESCENDERgSMALL LETTER THORN WITH STROKE THROUGH DESCENDERgCAPITAL LETTE",
      "R VENDgSMALL LETTER VENDgCAPITAL LETTER ETgSMALL LETTER ETgCAPITAL LETTER ISgSMALL LETTER I",
      "SgCAPITAL LETTER CONgSMALL LETTER CONaMODIFIER LETTER USaLATIN SMALL LETTER DUMtLUMtMUMtNUM",
      "tRUMgLETTER SMALL CAPITAL RUMgSMALL LETTER TUMtUMgCAPITAL LETTER INSULAR DgSMALL LETTER INS",
      "ULAR DgCAPITAL LETTER INSULAR FgSMALL LETTER INSULAR FgCAPITAL LETTER INSULAR GvTURNED INSU",
      "LAR GgSMALL LETTER TURNED INSULAR GgCAPITAL LETTER TURNED LgSMALL LETTER TURNED LgCAPITAL L",
      "ETTER INSULAR RgSMALL LETTER INSULAR RgCAPITAL LETTER INSULAR SgSMALL LETTER INSULAR SgCAPI",
      "TAL LETTER INSULAR TgSMALL LETTER INSULAR TaMODIFIER LETTER LOW CIRCUMFLEX ACCENTqCOLONqSHO",
      "RT EQUALS SIGNaLATIN CAPITAL LETTER SALTILLOgSMALL LETTER SALTILLOgCAPITAL LETTER TURNED Hg",
      "SMALL LETTER L WITH RETROFLEX HOOK AND BELTgLETTER SINOLOGICAL DOTgCAPITAL LETTER N WITH DE",
      "SCENDERgSMALL LETTER N WITH DESCENDERgCAPITAL LETTER C WITH BARgSMALL LETTER C WITH BARαPAL",
      "ATAL HOOKtH WITH PALATAL HOOKgCAPITAL LETTER B WITH FLOURISHgSMALL LETTER B WITH FLOURISHgC",
      "APITAL LETTER F WITH STROKEgSMALL LETTER F WITH STROKEgCAPITAL LETTER VOLAPUK AEgSMALL LETT",
      "ER VOLAPUK AEgCAPITAL LETTER VOLAPUK OEgSMALL LETTER VOLAPUK OEgCAPITAL LETTER VOLAPUK UEgS",
      "MALL LETTER VOLAPUK UEgCAPITAL LETTER G WITH OBLIQUE STROKEgSMALL LETTER G WITH OBLIQUE STR",
      "OKEgCAPITAL LETTER K WITH OBLIQUE STROKEgSMALL LETTER K WITH OBLIQUE STROKEgCAPITAL LETTER ",
      "N WITH OBLIQUE STROKEgSMALL LETTER N WITH OBLIQUE STROKEgCAPITAL LETTER R WITH OBLIQUE STRO",
      "KEgSMALL LETTER R WITH OBLIQUE STROKEgCAPITAL LETTER S WITH OBLIQUE STROKEgSMALL LETTER S W",
      "ITH OBLIQUE STROKEgCAPITAL LETTER H WITH HOOKvREVERSED OPEN EvSCRIPT GvL WITH BELTvSMALL CA",
      "PITAL IgLETTER SMALL CAPITAL QgCAPITAL LETTER TURNED KγTvJ WITH CROSSED-TAILvCHIvBETAgSMALL",
      " LETTER BETAgCAPITAL LETTER OMEGAgSMALL LETTER OMEGAgCAPITAL LETTER U WITH STROKEgSMALL LET",
      "TER U WITH STROKEgCAPITAL LETTER GLOTTAL AgSMALL LETTER GLOTTAL AgCAPITAL LETTER GLOTTAL Ig",
      "SMALL LETTER GLOTTAL IgCAPITAL LETTER GLOTTAL UgSMALL LETTER GLOTTAL UgCAPITAL LETTER OLD P",
      "OLISH OgSMALL LETTER OLD POLISH OgCAPITAL LETTER ANGLICANA WgSMALL LETTER ANGLICANA WgCAPIT",
      "AL LETTER C WITH PALATAL HOOKvS WITH HOOKvZ WITH PALATAL HOOKvD WITH SHORT STROKE OVERLAYgS",
      "MALL LETTER D WITH SHORT STROKE OVERLAYgCAPITAL LETTER S WITH SHORT STROKE OVERLAYgSMALL LE",
      "TTER S WITH SHORT STROKE OVERLAY"]),
    (0xA7D0, ["LATIN CAPITAL LETTER CLOSED INSULAR GgSMALL LETTER CLOSED INSULAR G"]),
    (0xA7D3, ["LATIN SMALL LETTER DOUBLE THORN"]),
    (0xA7D5, ["LATIN SMALL LETTER DOUBLE WYNNgCAPITAL LETTER MIDDLE SCOTS SgSMALL LETTER MIDDLE SC",
      "OTS SgCAPITAL LETTER SIGMOID SgSMALL LETTER SIGMOID S"]),
    (0xA7F2, ["MODIFIER LETTER CAPITAL CyFyQaLATIN CAPITAL LETTER REVERSED HALF HgSMALL LETTER REV",
      "ERSED HALF HgEPIGRAPHIC LETTER SIDEWAYS IaMODIFIER LETTER CAPITAL H WITH STROKEqSMALL LIGAT",
      "URE OEaLATIN LETTER SMALL CAPITAL TURNED MgEPIGRAPHIC LETTER REVERSED FθPyINVERTED Mz LONGA",
      "yARCHAIC MaSYLOTI NAGRI LETTER AuInSIGN DVISVARAnLETTER UuEuOnSIGN HASANTAnLETTER KOvHOuGOv",
      "HOnSIGN ANUSVARAnLETTER COvHOuJOvHOuTTOwHOuDDOwHOuTOvHOuDOvHOuNOuPOvHOuBOvHOuMOuROuLOuRROuS",
      "OuHOnVOWEL SIGN AyIyUyEyOOnPOETRY MARK-1z2z3z4nSIGN ALTERNATE HASANTA"]),
    (0xA830, ["NORTH INDIC FRACTION ONE QUARTERzHALFvTHREE QUARTERSvONE SIXTEENTHzEIGHTHvTHREE SIX",
      "TEENTHSmQUARTER MARKmPLACEHOLDER MARKmRUPEE MARKmQUANTITY MARK"]),
    (0xA840, ["PHAGS-PA LETTER KArHAqGAqNGAqCArHAqJAqNYAqTArHAqDAqNAqPArHAqBAqMAqTSAsHAqDZAqWAqZHA",
      "rAqSMALL AqYAqRAqLAqSHArAqHAqAqIqUqEqOqQAqXAqFAqGGAqEEjSUBJOINED LETTER WAαYAjLETTER TTAsHA",
      "qDDAqNNAqALTERNATE YAqVOICELESS SHAvD HAqASPIRATED FAjSUBJOINED LETTER RAlPERFIXED LETTER R",
      "AjLETTER CANDRABINDUjSINGLE HEAD MARKjDOUBLE HEAD MARKjMARK SHADoDOUBLE SHAD"]),
    (0xA880, ["SAURASHTRA SIGN ANUSVARAqVISARGAlLETTER AtAsItIsUtUsVOCALIC RβRαLβLsEtEsAIsOtOsAUsK",
      "AtHAsGAtHAsNGAsCAtHAsJAtHAsNYAsTTAuHAsDDAuHAsNNAsTAtHAsDAtHAsNAsPAtHAsBAtHAsMAsYAsRAsLAsVAs",
      "SHAtSAtAsHAsLLAlCONSONANT SIGN HAARUlVOWEL SIGN AAwIxIwUxUwVOCALIC RζRεLζLwExEwAIwOxOwAUlSI",
      "GN VIRAMAqCANDRABINDU"]),
    (0xA8CE, ["SAURASHTRA DANDAmOUBLE DANDAmIGIT ZEROrONErTWOsHREErFOURsIVErSIXsEVENrEIGHTrNINE"]),
    (0xA8E0, ["COMBINING DEVANAGARI DIGIT ZEROβONEβTWOγHREEβFOURγIVEβSIXγEVENβEIGHTβNINEvLETTER Aγ",
      "UγKAγNAγPAγRAγVIvSIGN AVAGRAHAaDEVANAGARI SIGN SPACING CANDRABINDUqCANDRABINDU VIRAMAqDOUBL",
      "E CANDRABINDU VIRAMAqCANDRABINDU TWOδHREEγAVAGRAHAqPUSHPIKAlGAP FILLERlCARETlHEADSTROKElSIG",
      "N SIDDHAMlJAIN OMlLETTER AYlVOWEL SIGN AYaKAYAH LI DIGIT ZEROpONEpTWOqHREEpFOURqIVEpSIXqEVE",
      "NpEIGHTpNINEjLETTER KArHAqGAqNGAqSArHAqZAqNYAqTAqHTAqNAqPArHAqMAqDAqBAqRAqYAqLAqWAqTHAqHAqV",
      "AqCAqAqOEqIqOOjVOWEL UEpEpUpEEpOjTONE PLOPHUoCALYAt PLOPHUjSIGN CWIoSHYAaREJANG LETTER KAoG",
      "AoNGAoTAoDAoNAoPAoBAoMAoCAoJAoNYAoSAoRAoLAoYAoWAoHAoMBAoNGGApDApYJAoAhVOWEL SIGN IsUsEsAIsO",
      "sAUsEUtAhCONSONANT SIGN NGxwRwHhVIRAMA"]),
    (0xA95F, ["REJANG SECTION MARKaHANGUL CHOSEONG TIKEUT-MIEUMxPIEUPxSIOSxCIEUCqRIEUL-KIYEOKwSSAN",
      "GKIYEOKwTIKEUTwSSANGTIKEUTwMIEUMwPIEUPwSSANGPIEUPwKAPYEOUNPIEUPwSIOSwCIEUCwKHIEUKHqMIEUM-KI",
      "YEOKwTIKEUTwSIOSqPIEUP-SIOS-THIEUTHwKHIEUKHwHIEUHqSSANGSIOS-PIEUPqIEUNG-RIEULwHIEUHqSSANGCI",
      "EUC-HIEUHvTHIEUTHqPHIEUPH-HIEUHqHIEUH-SIOSqSSANGYEORINHIEUH"]),
    (0xA980, ["JAVANESE SIGN PANYANGGAoCECAKoLAYARoWIGNYANjLETTER AqI KAWIrrIqUqPA CEREKqNGA LELET",
      "z RASWADIqEqAIqOqKAs SASAKtMURDAqGAs MURDAqNGAqCAs MURDAqJAqNYA MURDAqJA MAHAPRANAqNYAqTTAt",
      " MAHAPRANAqDDAt MAHAPRANAqNA MURDAqTAs MURDAqDAs MAHAPRANAqNAqPAs MURDAqBAs MURDAqMAqYAqRAs",
      " AGUNGqLAqWAqSA MURDAuAHAPRANAsqHAjSIGN CECAK TELUjVOWEL SIGN TARUNGvOLONGuWULUy MELIKuSUKU",
      "y MENDUTuTALINGuDIRGA MUREuPEPETjCONSONANT SIGN KERETyPENGKALyCAKRAjPANGKONjLEFT RERENGGANj",
      "RIGHT RERENGGANjPADA ANDAPoMADYAoLUHURoWINDUoPANGKAToLINGSApUNGSIoADEGs ADEGoPISELEHjTURNED",
      " PADA PISELEH"]),
    (0xA9CF, ["JAVANESE PANGRANGKEPjDIGIT ZEROpONEpTWOqHREEpFOURqIVEpSIXqEVENpEIGHTpNINE"]),
    (0xA9DE, ["JAVANESE PADA TIRTA TUMETESoISEN-ISENaMYANMAR LETTER SHAN GHAuCHAuJHAuNNAuBHAiSIGN ",
      "SHAN SAWiMODIFIER LETTER SHAN REDUPLICATIONiLETTER TAI LAING NYAzFAzGAαHAzJAαHAzDDAβHAzNNAi",
      "TAI LAING DIGIT ZEROyONEyTWOzHREEyFOURzIVEySIXzEVENyEIGHTyNINEiLETTER TAI LAING LLAzDAαHAzB",
      "AαHA"]),
    (0xAA00, ["CHAM LETTER AmImUmEmAImOmKAnHAmGAnHAmNGUEoAmCHAoHAmJAnHAmNHUEoAoJAmTAnHAmDAnHAmNUEn",
      "AmDDAmPAnPAnHAmBAnHAmMUEnAmBBAmYAmRAmLAmVAmSSAnAmHAfVOWEL SIGN AAqIrIqEIqUqOErqAIrUqUEfCONS",
      "ONANT SIGN YAuRAuLAuWA"]),
    (0xAA40, ["CHAM LETTER FINAL KsGsNGfCONSONANT SIGN FINAL NGfLETTER FINAL CHsTsNsPsYsRsLsSSfCON",
      "SONANT SIGN FINAL MαH"]),
    (0xAA50, ["CHAM DIGIT ZEROlONElTWOmHREElFOURmIVElSIXmEVENlEIGHTlNINE"]),
    (0xAA5C, ["CHAM PUNCTUATION SPIRALrDANDAsOUBLE DANDArTRIPLE DANDAaMYANMAR LETTER KHAMTI GAwCAx",
      "HAwJAxHAwNYAwTTAyHAwDDAyHAxHAwNAwSAwHAxHAwFAiMODIFIER LETTER KHAMTI REDUPLICATIONiLETTER KH",
      "AMTI XAwZAwRAjOGOGRAM KHAMTI OAYyQNyHMiSYMBOL AITON EXCLAMATIONvONEvTWOiLETTER AITON RAiSIG",
      "N PAO KAREN TONEnTAI LAING TONE-2γ5iLETTER SHWE PALAUNG CHAγSHAaTAI VIET LETTER LOW KOqHIGH",
      " KOqLOW KHOqHIGH KHOqLOW KHHOqHIGH KHHOqLOW GOqHIGH GOqLOW NGOqHIGH NGOqLOW COqHIGH COqLOW ",
      "CHOqHIGH CHOqLOW SOqHIGH SOqLOW NYOqHIGH NYOqLOW DOqHIGH DOqLOW TOqHIGH TOqLOW THOqHIGH THO",
      "qLOW NOqHIGH NOqLOW BOqHIGH BOqLOW POqHIGH POqLOW PHOqHIGH PHOqLOW FOqHIGH FOqLOW MOqHIGH M",
      "OqLOW YOqHIGH YOqLOW ROqHIGH ROqLOW LOqHIGH LOqLOW VOqHIGH VOqLOW HOqHIGH HOqLOW OqHIGH OjM",
      "AI KANGjVOWEL AApIpUEqpEpOjMAI KHITjVOWEL IApUEAqApAUEqYqNqMjTONE MAI EKsNUENGsTHOsSONG"]),
    (0xAADB, ["TAI VIET SYMBOL KONqNUENGqSAMqHO HOIqKOI KOIaMEETEI MAYEK LETTER EuOuCHAuNYAuTTAwHA",
      "uDDAwHAuNNAuSHAvSAnVOWEL SIGN IIyUUyAAIzUzAUnCHEIKHANnAHANG KHUDAMoNJInSYLLABLE REPETITION ",
      "MARKnWORD REPETITION MARKnVOWEL SIGN VISARGAoIRAMA"]),
    (0xAB01, ["ETHIOPIC SYLLABLE TTHUvIvAAvEEwvO"]),
    (0xAB09, ["ETHIOPIC SYLLABLE DDHUvIvAAvEEwvO"]), (0xAB11, ["ETHIOPIC SYLLABLE DZUuIuAAuEEvuO"]),
    (0xAB20, ["ETHIOPIC SYLLABLE CCHHAwUwIwAAwEExwO"]),
    (0xAB28, ["ETHIOPIC SYLLABLE BBAuUuIuAAuEEvuO"]),
    (0xAB30, ["LATIN SMALL LETTER BARRED ALPHAtA REVERSED-SCHWAtBLACKLETTER EuARRED EtE WITH FLOUR",
      "ISHtLENIS FtSCRIPT G WITH CROSSED-TAILtL WITH INVERTED LAZY SαDOUBLE MIDDLE TILDEαMIDDLE RI",
      "NGtM WITH CROSSED-TAILtN WITH CROSSED-TAILtENG WITH CROSSED-TAILtBLACKLETTER Oη WITH STROKE",
      "tOPEN O WITH STROKEtINVERTED OEtTURNED OE WITH STROKEιHORIZONTAL STROKEβ OPEN-Oι WITH STROK",
      "EtSTIRRUP RgLETTER SMALL CAPITAL R WITH RIGHT LEGgSMALL LETTER R WITHOUT HANDLEtDOUBLE RtR ",
      "WITH CROSSED-TAILtDOUBLE R WITH CROSSED-TAILtSCRIPT Rβ WITH RINGtBASELINE ESHtU WITH SHORT ",
      "RIGHT LEGvBAR WITH SHORT RIGHT LEGuItTURNED UItU WITH LEFT HOOKtCHIw WITH LOW RIGHT RINGηLE",
      "FT SERIFtX WITH LOW RIGHT RINGγNG LEFT LEGξ AND LOW RIGHT RINGοWITH SERIFtY WITH SHORT RIGH",
      "T LEGaMODIFIER BREVE WITH INVERTED BREVEjLETTER SMALL HENGwL WITH INVERTED LAZY SδMIDDLE TI",
      "LDEwU WITH LEFT HOOKaLATIN SMALL LETTER SAKHA YATtIOTIFIED EtOPEN OEtUOtINVERTED ALPHAaGREE",
      "K LETTER SMALL CAPITAL OMEGAaLATIN SMALL LETTER DZ DIGRAPH WITH RETROFLEX HOOKtTS DIGRAPH W",
      "ITH RETROFLEX HOOKuURNED R WITH MIDDLE TILDEaMODIFIER LETTER SMALL TURNED WqLEFT TACKqRIGHT",
      " TACK"]),
    (0xAB70, ["CHEROKEE SMALL LETTER AwEwIwOwUwVwGAwKAwGExIxOxUxVwHAxExIxOxUxVwLAxExIxOxUxVwMAxExI",
      "xOxUwNAwHNAwNAHxExIxOxUxVwQUAyEyIyOyUyVwSAxxExIxOxUxVwDAwTAwDEwTEwDIwTIwDOxUxVxLAwTLAyEyIyO",
      "yUyVxSAyEyIyOyUyVwWAxExIxOxUxVwYAaMEETEI MAYEK LETTER KOKuSAMuLAIuMITuPAuNAuCHILuTILuKHOUuN",
      "GOUuTHOUuWAIuYANGuHUKuUNuIuPHAMuATIYAuGOKuJHAMuRAIuBAuJILuDILuGHOUuDHOUuBHAMuKOK LONSUMuLAI",
      " LONSUMuMIT LONSUMuPA LONSUMuNA LONSUMuTIL LONSUMuNGOU LONSUMuI LONSUMnVOWEL SIGN ONAPyINAP",
      "yANAPyYENAPySOUNAPyUNAPyCHEINAPyNUNGnCHEIKHEInLUM IYEKnAPUN IYEK"]),
    (0xABF0, ["MEETEI MAYEK DIGIT ZEROtONEtTWOuHREEtFOURuIVEtSIXuEVENtEIGHTtNINE"]),
    (0xD7B0, ["HANGUL JUNGSEONG O-YEOtO-IrYO-AvEuEOrU-YEOtI-IrYU-AEuOrEU-AuEOvuOrI-YA-OvEuEOvtO-It",
      "YOuUtIrARAEA-AxE"]),
    (0xD7CB, ["HANGUL JONGSEONG NIEUN-RIEULxCHIEUCHrSSANGTIKEUTγ-PIEUPrTIKEUT-PIEUPySIOSγ-KIYEOKyC",
      "IEUCzHIEUCHyTHIEUTHrRIEUL-SSANGKIYEOKxKIYEOK-HIEUHrSSANGRIEUL-KHIEUKHrRIEUL-MIEUM-HIEUHxPIE",
      "UP-TIKEUTδPHIEUPHxYESIEUNGzORINHIEUH-HIEUHrKAPYEOUNRIEULrMIEUM-NIEUNxSSANGNIEUNrSSANGMIEUMr",
      "MIEUM-PIEUP-SIOSxCIEUCrPIEUP-TIKEUTxRIEUL-PHIEUPHxMIEUMrSSANGPIEUPrPIEUP-SIOS-TIKEUTxCIEUCy",
      "HIEUCHrSIOS-MIEUMwKAPYEOUNPIEUPsSANGSIOS-KIYEOKβTIKEUTsIOS-PANSIOSwCIEUCxHIEUCHwTHIEUTHwHIE",
      "UHrPANSIOS-PIEUPzKAPYEOUNPIEUPrYESIEUNG-MIEUMαHIEUHrCIEUC-PIEUPxSSANGPIEUPrSSANGCIEUCrPHIEU",
      "PH-SIOSzTHIEUTH"]),
    (0xF900, ["CJK COMPATIBILITY IDEOGRAPH-F900ζ1ζ2ζ3ζ4ζ5ζ6ζ7ζ8ζ9ζAζBζCζDζEζFε10ζ1ζ2ζ3ζ4ζ5ζ6ζ7ζ8ζ9",
      "ζAζBζCζDζEζFε20ζ1ζ2ζ3ζ4ζ5ζ6ζ7ζ8ζ9ζAζBζCζDζEζFε30ζ1ζ2ζ3ζ4ζ5ζ6ζ7ζ8ζ9ζAζBζCζDζEζFε40ζ1ζ2ζ3ζ4ζ5",
      "ζ6ζ7ζ8ζ9ζAζBζCζDζEζFε50ζ1ζ2ζ3ζ4ζ5ζ6ζ7ζ8ζ9ζAζBζCζDζEζFε60ζ1ζ2ζ3ζ4ζ5ζ6ζ7ζ8ζ9ζAζBζCζDζEζFε70ζ1",
      "ζ2ζ3ζ4ζ5ζ6ζ7ζ8ζ9ζAζBζCζDζEζFε80ζ1ζ2ζ3ζ4ζ5ζ6ζ7ζ8ζ9ζAζBζCζDζEζFε90ζ1ζ2ζ3ζ4ζ5ζ6ζ7ζ8ζ9ζAζBζCζDζ",
      "EζFεA0ζ1ζ2ζ3ζ4ζ5ζ6ζ7ζ8ζ9ζAζBζCζDζEζFεB0ζ1ζ2ζ3ζ4ζ5ζ6ζ7ζ8ζ9ζAζBζCζDζEζFεC0ζ1ζ2ζ3ζ4ζ5ζ6ζ7ζ8ζ9ζ",
      "AζBζCζDζEζFεD0ζ1ζ2ζ3ζ4ζ5ζ6ζ7ζ8ζ9ζAζBζCζDζEζFεE0ζ1ζ2ζ3ζ4ζ5ζ6ζ7ζ8ζ9ζAζBζCζDζEζFεF0ζ1ζ2ζ3ζ4ζ5ζ",
      "6ζ7ζ8ζ9ζAζBζCζDζEζFδA00ζ1ζ2ζ3ζ4ζ5ζ6ζ7ζ8ζ9ζAζBζCζDζEζFε10ζ1ζ2ζ3ζ4ζ5ζ6ζ7ζ8ζ9ζAζBζCζDζEζFε20ζ1",
      "ζ2ζ3ζ4ζ5ζ6ζ7ζ8ζ9ζAζBζCζDζEζFε30ζ1ζ2ζ3ζ4ζ5ζ6ζ7ζ8ζ9ζAζBζCζDζEζFε40ζ1ζ2ζ3ζ4ζ5ζ6ζ7ζ8ζ9ζAζBζCζDζ",
      "EζFε50ζ1ζ2ζ3ζ4ζ5ζ6ζ7ζ8ζ9ζAζBζCζDζEζFε60ζ1ζ2ζ3ζ4ζ5ζ6ζ7ζ8ζ9ζAζBζCζD"]),
    (0xFA70, ["CJK COMPATIBILITY IDEOGRAPH-FA70ζ1ζ2ζ3ζ4ζ5ζ6ζ7ζ8ζ9ζAζBζCζDζEζFε80ζ1ζ2ζ3ζ4ζ5ζ6ζ7ζ8ζ9",
      "ζAζBζCζDζEζFε90ζ1ζ2ζ3ζ4ζ5ζ6ζ7ζ8ζ9ζAζBζCζDζEζFεA0ζ1ζ2ζ3ζ4ζ5ζ6ζ7ζ8ζ9ζAζBζCζDζEζFεB0ζ1ζ2ζ3ζ4ζ5",
      "ζ6ζ7ζ8ζ9ζAζBζCζDζEζFεC0ζ1ζ2ζ3ζ4ζ5ζ6ζ7ζ8ζ9ζAζBζCζDζEζFεD0ζ1ζ2ζ3ζ4ζ5ζ6ζ7ζ8ζ9"]),
    (0xFB00, ["LATIN SMALL LIGATURE FFwIwLwFIxLvLONG S TvST"]),
    (0xFB13, ["ARMENIAN SMALL LIGATURE MEN NOWγECHγINIyVEW NOWyMEN XEH"]),
    (0xFB1D, ["HEBREW LETTER YOD WITH HIRIQhPOINT JUDEO-SPANISH VARIKAhLIGATURE YIDDISH YOD YOD PA",
      "TAHiETTER ALTERNATIVE AYINoWIDE ALEFtDALETtHEtKAFtLAMEDtFINAL MEMtRESHtTAVoALTERNATIVE PLUS",
      " SIGNoSHIN WITH SHIN DOTzIN DOTyDAGESH AND SHIN DOTλIN DOToALEF WITH PATAHyQAMATSyMAPIQoBET",
      " WITH DAGESHoGIMEL WITH DAGESHoDALET WITH DAGESHoHE WITH MAPIQoVAV WITH DAGESHoZAYIN WITH D",
      "AGESH"]),
    (0xFB38, ["HEBREW LETTER TET WITH DAGESHoYOD WITH DAGESHoFINAL KAF WITH DAGESHoKAF WITH DAGESH",
      "oLAMED WITH DAGESH"]),
    (0xFB3E, ["HEBREW LETTER MEM WITH DAGESH"]),
    (0xFB40, ["HEBREW LETTER NUN WITH DAGESHoSAMEKH WITH DAGESH"]),
    (0xFB43, ["HEBREW LETTER FINAL PE WITH DAGESHoPE WITH DAGESH"]),
    (0xFB46, ["HEBREW LETTER TSADI WITH DAGESHoQOF WITH DAGESHoRESH WITH DAGESHoSHIN WITH DAGESHoT",
      "AV WITH DAGESHoVAV WITH HOLAMoBET WITH RAFEoKAF WITH RAFEoPE WITH RAFEiIGATURE ALEF LAMEDaA",
      "RABIC LETTER ALEF WASLA ISOLATED FORMzFINAL FORMoBEEH ISOLATED FORMtFINAL FORMtINITIAL FORM",
      "tMEDIAL FORMoPEH ISOLATED FORMsFINAL FORMsINITIAL FORMsMEDIAL FORMoBEHEH ISOLATED FORMuFINA",
      "L FORMuINITIAL FORMuMEDIAL FORMoTTEHEH ISOLATED FORMvFINAL FORMvINITIAL FORMvMEDIAL FORMpEH",
      "EH ISOLATED FORMuFINAL FORMuINITIAL FORMuMEDIAL FORMpTEH ISOLATED FORMtFINAL FORMtINITIAL F",
      "ORMtMEDIAL FORMoVEH ISOLATED FORMsFINAL FORMsINITIAL FORMsMEDIAL FORMoPEHEH ISOLATED FORMuF",
      "INAL FORMuINITIAL FORMuMEDIAL FORMoDYEH ISOLATED FORMtFINAL FORMtINITIAL FORMtMEDIAL FORMoN",
      "YEH ISOLATED FORMtFINAL FORMtINITIAL FORMtMEDIAL FORMoTCHEH ISOLATED FORMuFINAL FORMuINITIA",
      "L FORMuMEDIAL FORMtEH ISOLATED FORMwFINAL FORMwINITIAL FORMwMEDIAL FORMoDDAHAL ISOLATED FOR",
      "MvFINAL FORMpAHAL ISOLATED FORMuFINAL FORMpUL ISOLATED FORMsFINAL FORMpDAL ISOLATED FORMtFI",
      "NAL FORMoJEH ISOLATED FORMsFINAL FORMoRREH ISOLATED FORMtFINAL FORMoKEHEH ISOLATED FORMuFIN",
      "AL FORMuINITIAL FORMuMEDIAL FORMoGAF ISOLATED FORMsFINAL FORMsINITIAL FORMsMEDIAL FORMpUEH ",
      "ISOLATED FORMtFINAL FORMtINITIAL FORMtMEDIAL FORMoNGOEH ISOLATED FORMuFINAL FORMuINITIAL FO",
      "RMuMEDIAL FORMpOON GHUNNA ISOLATED FORMαFINAL FORMoRNOON ISOLATED FORMuFINAL FORMuINITIAL F",
      "ORMuMEDIAL FORMoHEH WITH YEH ABOVE ISOLATED FORMθFINAL FORMsGOAL ISOLATED FORMxFINAL FORMxI",
      "NITIAL FORMxMEDIAL FORMsDOACHASHMEE ISOLATED FORMεFINAL FORMεINITIAL FORMεMEDIAL FORMoYEH B",
      "ARREE ISOLATED FORMzFINAL FORMzWITH HAMZA ABOVE ISOLATED FORMρFINAL FORMhSYMBOL DOT ABOVEsB",
      "ELOWoTWO DOTS ABOVExBELOWpHREE DOTS ABOVEzBELOWzPOINTING DOWNWARDS ABOVEσBELOWoFOUR DOTS AB",
      "OVEyBELOWoDOUBLE VERTICAL BAR BELOWoTWO DOTS VERTICALLY ABOVEιBELOWoRINGoSMALL TAH ABOVEyBE",
      "LOWoWASLA ABOVE"]),
    (0xFBD3, ["ARABIC LETTER NG ISOLATED FORMrFINAL FORMrINITIAL FORMrMEDIAL FORMoU ISOLATED FORMq",
      "FINAL FORMoOE ISOLATED FORMrFINAL FORMoYU ISOLATED FORMrFINAL FORMoU WITH HAMZA ABOVE ISOLA",
      "TED FORMoVE ISOLATED FORMrFINAL FORMoKIRGHIZ OE ISOLATED FORMzFINAL FORMwYU ISOLATED FORMzF",
      "INAL FORMoE ISOLATED FORMqFINAL FORMqINITIAL FORMqMEDIAL FORMoUIGHUR KAZAKH KIRGHIZ ALEF MA",
      "KSURA INITIAL FORMψMEDIAL FORMiIGATURE YEH WITH HAMZA ABOVE WITH ALEF ISOLATED FORMφFINAL F",
      "ORMςE ISOLATED FORMτFINAL FORMρWAW ISOLATED FORMυFINAL FORMρU ISOLATED FORMσFINAL FORMρOE I",
      "SOLATED FORMτFINAL FORMρYU ISOLATED FORMτFINAL FORMρE ISOLATED FORMσFINAL FORMσINITIAL FORM",
      "qUIGHUR KIRGHIZ YEH WITH HAMZA ABOVE WITH ALEF MAKSURA ISOLATED FORMωE WITH ALEF MAKSURA FI",
      "NAL FORMωE WITH ALEF MAKSURA INITIAL FORMiETTER FARSI YEH ISOLATED FORMyFINAL FORMyINITIAL ",
      "FORMyMEDIAL FORMiIGATURE YEH WITH HAMZA ABOVE WITH JEEM ISOLATED FORMρHAH ISOLATED FORMρMEE",
      "M ISOLATED FORMρALEF MAKSURA ISOLATED FORMρYEH ISOLATED FORMqBEH WITH JEEM ISOLATED FORMzHA",
      "H ISOLATED FORMzKHAH ISOLATED FORMzMEEM ISOLATED FORMzALEF MAKSURA ISOLATED FORMzYEH ISOLAT",
      "ED FORMqTEH WITH JEEM ISOLATED FORMzHAH ISOLATED FORMzKHAH ISOLATED FORMzMEEM ISOLATED FORM",
      "zALEF MAKSURA ISOLATED FORMzYEH ISOLATED FORMrHEH WITH JEEM ISOLATED FORMαMEEM ISOLATED FOR",
      "MαALEF MAKSURA ISOLATED FORMαYEH ISOLATED FORMqJEEM WITH HAH ISOLATED FORMαMEEM ISOLATED FO",
      "RMqHAH WITH JEEM ISOLATED FORMzMEEM ISOLATED FORMqKHAH WITH JEEM ISOLATED FORMαHAH ISOLATED",
      " FORMαMEEM ISOLATED FORMqSEEN WITH JEEM ISOLATED FORMαHAH ISOLATED FORMαKHAH ISOLATED FORMα",
      "MEEM ISOLATED FORMrAD WITH HAH ISOLATED FORMzMEEM ISOLATED FORMqDAD WITH JEEM ISOLATED FORM",
      "zHAH ISOLATED FORMzKHAH ISOLATED FORMzMEEM ISOLATED FORMqTAH WITH HAH ISOLATED FORMzMEEM IS",
      "OLATED FORMqZAH WITH MEEM ISOLATED FORMqAIN WITH JEEM ISOLATED FORMzMEEM ISOLATED FORMqGHAI",
      "N WITH JEEM ISOLATED FORMβMEEM ISOLATED FORMqFEH WITH JEEM ISOLATED FORMzHAH ISOLATED FORMz",
      "KHAH ISOLATED FORMzMEEM ISOLATED FORMzALEF MAKSURA ISOLATED FORMzYEH ISOLATED FORMqQAF WITH",
      " HAH ISOLATED FORMzMEEM ISOLATED FORMzALEF MAKSURA ISOLATED FORMzYEH ISOLATED FORMqKAF WITH",
      " ALEF ISOLATED FORMzJEEM ISOLATED FORMzHAH ISOLATED FORMzKHAH ISOLATED FORMzLAM ISOLATED FO",
      "RMzMEEM ISOLATED FORMzALEF MAKSURA ISOLATED FORMzYEH ISOLATED FORMqLAM WITH JEEM ISOLATED F",
      "ORMzHAH ISOLATED FORMzKHAH ISOLATED FORMzMEEM ISOLATED FORMzALEF MAKSURA ISOLATED FORMzYEH ",
      "ISOLATED FORMqMEEM WITH JEEM ISOLATED FORMαHAH ISOLATED FORMαKHAH ISOLATED FORMαMEEM ISOLAT",
      "ED FORMαALEF MAKSURA ISOLATED FORMαYEH ISOLATED FORMqNOON WITH JEEM ISOLATED FORMαHAH ISOLA",
      "TED FORMαKHAH ISOLATED FORMαMEEM ISOLATED FORMαALEF MAKSURA ISOLATED FORMαYEH ISOLATED FORM",
      "qHEH WITH JEEM ISOLATED FORMzMEEM ISOLATED FORMzALEF MAKSURA ISOLATED FORMzYEH ISOLATED FOR",
      "MqYEH WITH JEEM ISOLATED FORMzHAH ISOLATED FORMzKHAH ISOLATED FORMzMEEM ISOLATED FORMzALEF ",
      "MAKSURA ISOLATED FORMzYEH ISOLATED FORMqTHAL WITH SUPERSCRIPT ALEF ISOLATED FORMqREH WITH S",
      "UPERSCRIPT ALEF ISOLATED FORMqALEF MAKSURA WITH SUPERSCRIPT ALEF ISOLATED FORMqSHADDA WITH ",
      "DAMMATAN ISOLATED FORMγKASRATAN ISOLATED FORMγFATHA ISOLATED FORMγDAMMA ISOLATED FORMγKASRA",
      " ISOLATED FORMγSUPERSCRIPT ALEF ISOLATED FORMqYEH WITH HAMZA ABOVE WITH REH FINAL FORMρZAIN",
      " FINAL FORMρMEEM FINAL FORMρNOON FINAL FORMρALEF MAKSURA FINAL FORMρYEH FINAL FORMqBEH WITH",
      " REH FINAL FORMzZAIN FINAL FORMzMEEM FINAL FORMzNOON FINAL FORMzALEF MAKSURA FINAL FORMzYEH",
      " FINAL FORMqTEH WITH REH FINAL FORMzZAIN FINAL FORMzMEEM FINAL FORMzNOON FINAL FORMzALEF MA",
      "KSURA FINAL FORMzYEH FINAL FORMrHEH WITH REH FINAL FORMαZAIN FINAL FORMαMEEM FINAL FORMαNOO",
      "N FINAL FORMαALEF MAKSURA FINAL FORMαYEH FINAL FORMqFEH WITH ALEF MAKSURA FINAL FORMzYEH FI",
      "NAL FORMqQAF WITH ALEF MAKSURA FINAL FORMzYEH FINAL FORMqKAF WITH ALEF FINAL FORMzLAM FINAL",
      " FORMzMEEM FINAL FORMzALEF MAKSURA FINAL FORMzYEH FINAL FORMqLAM WITH MEEM FINAL FORMzALEF ",
      "MAKSURA FINAL FORMzYEH FINAL FORMqMEEM WITH ALEF FINAL FORMαMEEM FINAL FORMqNOON WITH REH F",
      "INAL FORMαZAIN FINAL FORMαMEEM FINAL FORMαNOON FINAL FORMαALEF MAKSURA FINAL FORMαYEH FINAL",
      " FORMqALEF MAKSURA WITH SUPERSCRIPT ALEF FINAL FORMqYEH WITH REH FINAL FORMzZAIN FINAL FORM",
      "zMEEM FINAL FORMzNOON FINAL FORMzALEF MAKSURA FINAL FORMzYEH FINAL FORMzHAMZA ABOVE WITH JE",
      "EM INITIAL FORMρHAH INITIAL FORMρKHAH INITIAL FORMρMEEM INITIAL FORMρHEH INITIAL FORMqBEH W",
      "ITH JEEM INITIAL FORMzHAH INITIAL FORMzKHAH INITIAL FORMzMEEM INITIAL FORMzHEH INITIAL FORM",
      "qTEH WITH JEEM INITIAL FORMzHAH INITIAL FORMzKHAH INITIAL FORMzMEEM INITIAL FORMzHEH INITIA",
      "L FORMrHEH WITH MEEM INITIAL FORMqJEEM WITH HAH INITIAL FORMαMEEM INITIAL FORMqHAH WITH JEE",
      "M INITIAL FORMzMEEM INITIAL FORMqKHAH WITH JEEM INITIAL FORMαMEEM INITIAL FORMqSEEN WITH JE",
      "EM INITIAL FORMαHAH INITIAL FORMαKHAH INITIAL FORMαMEEM INITIAL FORMrAD WITH HAH INITIAL FO",
      "RMzKHAH INITIAL FORMzMEEM INITIAL FORMqDAD WITH JEEM INITIAL FORMzHAH INITIAL FORMzKHAH INI",
      "TIAL FORMzMEEM INITIAL FORMqTAH WITH HAH INITIAL FORMqZAH WITH MEEM INITIAL FORMqAIN WITH J",
      "EEM INITIAL FORMzMEEM INITIAL FORMqGHAIN WITH JEEM INITIAL FORMβMEEM INITIAL FORMqFEH WITH ",
      "JEEM INITIAL FORMzHAH INITIAL FORMzKHAH INITIAL FORMzMEEM INITIAL FORMqQAF WITH HAH INITIAL",
      " FORMzMEEM INITIAL FORMqKAF WITH JEEM INITIAL FORMzHAH INITIAL FORMzKHAH INITIAL FORMzLAM I",
      "NITIAL FORMzMEEM INITIAL FORMqLAM WITH JEEM INITIAL FORMzHAH INITIAL FORMzKHAH INITIAL FORM",
      "zMEEM INITIAL FORMzHEH INITIAL FORMqMEEM WITH JEEM INITIAL FORMαHAH INITIAL FORMαKHAH INITI",
      "AL FORMαMEEM INITIAL FORMqNOON WITH JEEM INITIAL FORMαHAH INITIAL FORMαKHAH INITIAL FORMαME",
      "EM INITIAL FORMαHEH INITIAL FORMqHEH WITH JEEM INITIAL FORMzMEEM INITIAL FORMzSUPERSCRIPT A",
      "LEF INITIAL FORMqYEH WITH JEEM INITIAL FORMzHAH INITIAL FORMzKHAH INITIAL FORMzMEEM INITIAL",
      " FORMzHEH INITIAL FORMαAMZA ABOVE WITH MEEM MEDIAL FORMρHEH MEDIAL FORMqBEH WITH MEEM MEDIA",
      "L FORMzHEH MEDIAL FORMqTEH WITH MEEM MEDIAL FORMzHEH MEDIAL FORMrHEH WITH MEEM MEDIAL FORMα",
      "HEH MEDIAL FORMqSEEN WITH MEEM MEDIAL FORMαHEH MEDIAL FORMrHEEN WITH MEEM MEDIAL FORMβHEH M",
      "EDIAL FORMqKAF WITH LAM MEDIAL FORMzMEEM MEDIAL FORMqLAM WITH MEEM MEDIAL FORMqNOON WITH ME",
      "EM MEDIAL FORMαHEH MEDIAL FORMqYEH WITH MEEM MEDIAL FORMzHEH MEDIAL FORMqSHADDA WITH FATHA ",
      "MEDIAL FORMγDAMMA MEDIAL FORMγKASRA MEDIAL FORMqTAH WITH ALEF MAKSURA ISOLATED FORMzYEH ISO",
      "LATED FORMqAIN WITH ALEF MAKSURA ISOLATED FORMzYEH ISOLATED FORMqGHAIN WITH ALEF MAKSURA IS",
      "OLATED FORMβYEH ISOLATED FORMqSEEN WITH ALEF MAKSURA ISOLATED FORMαYEH ISOLATED FORMrHEEN W",
      "ITH ALEF MAKSURA ISOLATED FORMβYEH ISOLATED FORMqHAH WITH ALEF MAKSURA ISOLATED FORMzYEH IS",
      "OLATED FORMqJEEM WITH ALEF MAKSURA ISOLATED FORMαYEH ISOLATED FORMqKHAH WITH ALEF MAKSURA I",
      "SOLATED FORMαYEH ISOLATED FORMqSAD WITH ALEF MAKSURA ISOLATED FORMzYEH ISOLATED FORMqDAD WI",
      "TH ALEF MAKSURA ISOLATED FORMzYEH ISOLATED FORMqSHEEN WITH JEEM ISOLATED FORMβHAH ISOLATED ",
      "FORMβKHAH ISOLATED FORMβMEEM ISOLATED FORMβREH ISOLATED FORMrEEN WITH REH ISOLATED FORMrAD ",
      "WITH REH ISOLATED FORMqDAD WITH REH ISOLATED FORMqTAH WITH ALEF MAKSURA FINAL FORMzYEH FINA",
      "L FORMqAIN WITH ALEF MAKSURA FINAL FORMzYEH FINAL FORMqGHAIN WITH ALEF MAKSURA FINAL FORMβY",
      "EH FINAL FORMqSEEN WITH ALEF MAKSURA FINAL FORMαYEH FINAL FORMrHEEN WITH ALEF MAKSURA FINAL",
      " FORMβYEH FINAL FORMqHAH WITH ALEF MAKSURA FINAL FORMzYEH FINAL FORMqJEEM WITH ALEF MAKSURA",
      " FINAL FORMαYEH FINAL FORMqKHAH WITH ALEF MAKSURA FINAL FORMαYEH FINAL FORMqSAD WITH ALEF M",
      "AKSURA FINAL FORMzYEH FINAL FORMqDAD WITH ALEF MAKSURA FINAL FORMzYEH FINAL FORMqSHEEN WITH",
      " JEEM FINAL FORMβHAH FINAL FORMβKHAH FINAL FORMβMEEM FINAL FORMβREH FINAL FORMrEEN WITH REH",
      " FINAL FORMrAD WITH REH FINAL FORMqDAD WITH REH FINAL FORMqSHEEN WITH JEEM INITIAL FORMβHAH",
      " INITIAL FORMβKHAH INITIAL FORMβMEEM INITIAL FORMrEEN WITH HEH INITIAL FORMrHEEN WITH HEH I",
      "NITIAL FORMqTAH WITH MEEM INITIAL FORMqSEEN WITH JEEM MEDIAL FORMαHAH MEDIAL FORMαKHAH MEDI",
      "AL FORMrHEEN WITH JEEM MEDIAL FORMβHAH MEDIAL FORMβKHAH MEDIAL FORMqTAH WITH MEEM MEDIAL FO",
      "RMqZAH WITH MEEM MEDIAL FORMqALEF WITH FATHATAN FINAL FORMκISOLATED FORMaORNATE LEFT PARENT",
      "HESIShRIGHT PARENTHESISaARABIC LIGATURE RAHIMAHU ALLAAHsDI ALLAAHU ANHηAAηUMιAAθNNAqSALLALL",
      "AAHU ALAYHI WA-AALIHqALAYHI AS-SALAAMwM AS-SALAAMxAA AS-SALAAMw AS-SALAATU WAS-SALAAMqQUDDI",
      "SA SIRRAHqSALLALLAHU ALAYHI WAAALIHEE WA-SALLAMqALAYHAA AS-SALAAMqTABAARAKA WA-TAAALAAqRAHI",
      "MAHUM ALLAAHqTEH WITH JEEM WITH MEEM INITIAL FORMzHAH WITH JEEM FINAL FORMξINITIAL FORMιMEE",
      "M INITIAL FORMzKHAH WITH MEEM INITIAL FORMzMEEM WITH JEEM INITIAL FORMκHAH INITIAL FORMκKHA",
      "H INITIAL FORMqJEEM WITH MEEM WITH HAH FINAL FORMοINITIAL FORMqHAH WITH MEEM WITH YEH FINAL",
      " FORMκALEF MAKSURA FINAL FORMqSEEN WITH HAH WITH JEEM INITIAL FORMαJEEM WITH HAH INITIAL FO",
      "RMλALEF MAKSURA FINAL FORMαMEEM WITH HAH FINAL FORMοINITIAL FORMλJEEM INITIAL FORMλMEEM FIN",
      "AL FORMπINITIAL FORMrAD WITH HAH WITH HAH FINAL FORMνINITIAL FORMzMEEM WITH MEEM FINAL FORM",
      "rHEEN WITH HAH WITH MEEM FINAL FORMπINITIAL FORMβJEEM WITH YEH FINAL FORMβMEEM WITH KHAH FI",
      "NAL FORMρINITIAL FORMμMEEM FINAL FORMρINITIAL FORMqDAD WITH HAH WITH ALEF MAKSURA FINAL FOR",
      "MzKHAH WITH MEEM FINAL FORMοINITIAL FORMqTAH WITH MEEM WITH HAH FINAL FORMξINITIAL FORMκMEE",
      "M INITIAL FORMκYEH FINAL FORMqAIN WITH JEEM WITH MEEM FINAL FORMzMEEM WITH MEEM FINAL FORMο",
      "INITIAL FORMκALEF MAKSURA FINAL FORMqGHAIN WITH MEEM WITH MEEM FINAL FORMμYEH FINAL FORMμAL",
      "EF MAKSURA FINAL FORMqFEH WITH KHAH WITH MEEM FINAL FORMοINITIAL FORMqQAF WITH MEEM WITH HA",
      "H FINAL FORMκMEEM FINAL FORMqLAM WITH HAH WITH MEEM FINAL FORMιYEH FINAL FORMιALEF MAKSURA ",
      "FINAL FORMzJEEM WITH JEEM INITIAL FORMοFINAL FORMzKHAH WITH MEEM FINAL FORMοINITIAL FORMzME",
      "EM WITH HAH FINAL FORMξINITIAL FORMqMEEM WITH HAH WITH JEEM INITIAL FORMκMEEM INITIAL FORMκ",
      "YEH FINAL FORMαJEEM WITH HAH INITIAL FORMλMEEM INITIAL FORMαKHAH WITH JEEM INITIAL FORMλMEE",
      "M INITIAL FORM"]),
    (0xFD92, ["ARABIC LIGATURE MEEM WITH JEEM WITH KHAH INITIAL FORMqHEH WITH MEEM WITH JEEM INITI",
      "AL FORMκMEEM INITIAL FORMqNOON WITH HAH WITH MEEM INITIAL FORMκALEF MAKSURA FINAL FORMαJEEM",
      " WITH MEEM FINAL FORMπINITIAL FORMλALEF MAKSURA FINAL FORMαMEEM WITH YEH FINAL FORMλALEF MA",
      "KSURA FINAL FORMqYEH WITH MEEM WITH MEEM FINAL FORMοINITIAL FORMqBEH WITH KHAH WITH YEH FIN",
      "AL FORMqTEH WITH JEEM WITH YEH FINAL FORMκALEF MAKSURA FINAL FORMzKHAH WITH YEH FINAL FORMκ",
      "ALEF MAKSURA FINAL FORMzMEEM WITH YEH FINAL FORMκALEF MAKSURA FINAL FORMqJEEM WITH MEEM WIT",
      "H YEH FINAL FORMαHAH WITH ALEF MAKSURA FINAL FORMαMEEM WITH ALEF MAKSURA FINAL FORMqSEEN WI",
      "TH KHAH WITH ALEF MAKSURA FINAL FORMrAD WITH HAH WITH YEH FINAL FORMrHEEN WITH HAH WITH YEH",
      " FINAL FORMqDAD WITH HAH WITH YEH FINAL FORMqLAM WITH JEEM WITH YEH FINAL FORMzMEEM WITH YE",
      "H FINAL FORMqYEH WITH HAH WITH YEH FINAL FORMzJEEM WITH YEH FINAL FORMzMEEM WITH YEH FINAL ",
      "FORMqMEEM WITH MEEM WITH YEH FINAL FORMqQAF WITH MEEM WITH YEH FINAL FORMqNOON WITH HAH WIT",
      "H YEH FINAL FORMqQAF WITH MEEM WITH HAH INITIAL FORMqLAM WITH HAH WITH MEEM INITIAL FORMqAI",
      "N WITH MEEM WITH YEH FINAL FORMqKAF WITH MEEM WITH YEH FINAL FORMqNOON WITH JEEM WITH HAH I",
      "NITIAL FORMqMEEM WITH KHAH WITH YEH FINAL FORMqLAM WITH JEEM WITH MEEM INITIAL FORMqKAF WIT",
      "H MEEM WITH MEEM FINAL FORMqLAM WITH JEEM WITH MEEM FINAL FORMqNOON WITH JEEM WITH HAH FINA",
      "L FORMqJEEM WITH HAH WITH YEH FINAL FORMqHAH WITH JEEM WITH YEH FINAL FORMqMEEM WITH JEEM W",
      "ITH YEH FINAL FORMqFEH WITH MEEM WITH YEH FINAL FORMqBEH WITH HAH WITH YEH FINAL FORMqKAF W",
      "ITH MEEM WITH MEEM INITIAL FORMqAIN WITH JEEM WITH MEEM INITIAL FORMqSAD WITH MEEM WITH MEE",
      "M INITIAL FORMrEEN WITH KHAH WITH YEH FINAL FORMqNOON WITH JEEM WITH YEH FINAL FORM"]),
    (0xFDCF, ["ARABIC LIGATURE SALAAMUHU ALAYNAA"]),
    (0xFDF0, ["ARABIC LIGATURE SALLA USED AS KORANIC STOP SIGN ISOLATED FORMqQALA USED AS KORANIC ",
      "STOP SIGN ISOLATED FORMqALLAH ISOLATED FORMrKBAR ISOLATED FORMqMOHAMMAD ISOLATED FORMqSALAM",
      " ISOLATED FORMqRASOUL ISOLATED FORMqALAYHE ISOLATED FORMqWASALLAM ISOLATED FORMqSALLA ISOLA",
      "TED FORMvLLAHOU ALAYHE WASALLAMqJALLAJALALOUHOUaRIAL SIGNaARABIC LIGATURE BISMILLAH AR-RAHM",
      "AN AR-RAHEEMqSUBHAANAHU WA TAAALAAqAZZA WA JALLaVARIATION SELECTOR-1t2t3t4t5t6t7t8t9t10u1u2",
      "u3u4u5u6aPRESENTATION FORM FOR VERTICAL COMMAζIDEOGRAPHIC COMMAςFULL STOPζCOLONζSEMICOLONζE",
      "XCLAMATION MARKζQUESTION MARKζLEFT WHITE LENTICULAR BRACKETζRIGHT WHITE LENTICULAR BRAKCETζ",
      "HORIZONTAL ELLIPSIS"]),
    (0xFE20, ["COMBINING LIGATURE LEFT HALFtRIGHT HALFkDOUBLE TILDE LEFT HALFxRIGHT HALFkMACRON LE",
      "FT HALFrRIGHT HALFkCONJOINING MACRONkLIGATURE LEFT HALF BELOWtRIGHT HALF BELOWkTILDE LEFT H",
      "ALF BELOWqRIGHT HALF BELOWkMACRON LEFT HALF BELOWrRIGHT HALF BELOWkCONJOINING MACRON BELOWl",
      "YRILLIC TITLO LEFT HALFzRIGHT HALFaPRESENTATION FORM FOR VERTICAL TWO DOT LEADERζEM DASHηN ",
      "DASHζLOW LINEζWAVY LOW LINEζLEFT PARENTHESISζRIGHT PARENTHESISζLEFT CURLY BRACKETζRIGHT CUR",
      "LY BRACKETζLEFT TORTOISE SHELL BRACKETζRIGHT TORTOISE SHELL BRACKETζLEFT BLACK LENTICULAR B",
      "RACKETζRIGHT BLACK LENTICULAR BRACKETζLEFT DOUBLE ANGLE BRACKETζRIGHT DOUBLE ANGLE BRACKETζ",
      "LEFT ANGLE BRACKETζRIGHT ANGLE BRACKETζLEFT CORNER BRACKETζRIGHT CORNER BRACKETζLEFT WHITE ",
      "CORNER BRACKETζRIGHT WHITE CORNER BRACKETaSESAME DOTaWHITE SESAME DOTaPRESENTATION FORM FOR",
      " VERTICAL LEFT SQUARE BRACKETζRIGHT SQUARE BRACKETaDASHED OVERLINEaCENTRELINE OVERLINEaWAVY",
      " OVERLINEaDOUBLE WAVY OVERLINEbASHED LOW LINEaCENTRELINE LOW LINEaWAVY LOW LINEaSMALL COMMA",
      "gIDEOGRAPHIC COMMAgFULL STOP"]),
    (0xFE54, ["SMALL SEMICOLONgCOLONgQUESTION MARKgEXCLAMATION MARKhM DASHgLEFT PARENTHESISgRIGHT ",
      "PARENTHESISgLEFT CURLY BRACKETgRIGHT CURLY BRACKETgLEFT TORTOISE SHELL BRACKETgRIGHT TORTOI",
      "SE SHELL BRACKETgNUMBER SIGNgAMPERSANDhSTERISKgPLUS SIGNgHYPHEN-MINUSgLESS-THAN SIGNgGREATE",
      "R-THAN SIGNgEQUALS SIGN"]),
    (0xFE68, ["SMALL REVERSE SOLIDUSgDOLLAR SIGNgPERCENT SIGNgCOMMERCIAL AT"]),
    (0xFE70, ["ARABIC FATHATAN ISOLATED FORMhTATWEEL WITH FATHATAN ABOVEhDAMMATAN ISOLATED FORMhTA",
      "IL FRAGMENThKASRATAN ISOLATED FORM"]),
    (0xFE76, ["ARABIC FATHA ISOLATED FORMnMEDIAL FORMhDAMMA ISOLATED FORMnMEDIAL FORMhKASRA ISOLAT",
      "ED FORMnMEDIAL FORMhSHADDA ISOLATED FORMoMEDIAL FORMiUKUN ISOLATED FORMnMEDIAL FORMhLETTER ",
      "HAMZA ISOLATED FORMoALEF WITH MADDA ABOVE ISOLATED FORMλFINAL FORMyHAMZA ABOVE ISOLATED FOR",
      "MλFINAL FORMoWAW WITH HAMZA ABOVE ISOLATED FORMκFINAL FORMoALEF WITH HAMZA BELOW ISOLATED F",
      "ORMλFINAL FORMoYEH WITH HAMZA ABOVE ISOLATED FORMκFINAL FORMκINITIAL FORMκMEDIAL FORMoALEF ",
      "ISOLATED FORMtFINAL FORMoBEH ISOLATED FORMsFINAL FORMsINITIAL FORMsMEDIAL FORMoTEH MARBUTA ",
      "ISOLATED FORMαFINAL FORMsISOLATED FORMsFINAL FORMsINITIAL FORMsMEDIAL FORMpHEH ISOLATED FOR",
      "MtFINAL FORMtINITIAL FORMtMEDIAL FORMoJEEM ISOLATED FORMtFINAL FORMtINITIAL FORMtMEDIAL FOR",
      "MoHAH ISOLATED FORMsFINAL FORMsINITIAL FORMsMEDIAL FORMoKHAH ISOLATED FORMtFINAL FORMtINITI",
      "AL FORMtMEDIAL FORMoDAL ISOLATED FORMsFINAL FORMoTHAL ISOLATED FORMtFINAL FORMoREH ISOLATED",
      " FORMsFINAL FORMoZAIN ISOLATED FORMtFINAL FORMoSEEN ISOLATED FORMtFINAL FORMtINITIAL FORMtM",
      "EDIAL FORMpHEEN ISOLATED FORMuFINAL FORMuINITIAL FORMuMEDIAL FORMpAD ISOLATED FORMsFINAL FO",
      "RMsINITIAL FORMsMEDIAL FORMoDAD ISOLATED FORMsFINAL FORMsINITIAL FORMsMEDIAL FORMoTAH ISOLA",
      "TED FORMsFINAL FORMsINITIAL FORMsMEDIAL FORMoZAH ISOLATED FORMsFINAL FORMsINITIAL FORMsMEDI",
      "AL FORMoAIN ISOLATED FORMsFINAL FORMsINITIAL FORMsMEDIAL FORMoGHAIN ISOLATED FORMuFINAL FOR",
      "MuINITIAL FORMuMEDIAL FORMoFEH ISOLATED FORMsFINAL FORMsINITIAL FORMsMEDIAL FORMoQAF ISOLAT",
      "ED FORMsFINAL FORMsINITIAL FORMsMEDIAL FORMoKAF ISOLATED FORMsFINAL FORMsINITIAL FORMsMEDIA",
      "L FORMoLAM ISOLATED FORMsFINAL FORMsINITIAL FORMsMEDIAL FORMoMEEM ISOLATED FORMtFINAL FORMt",
      "INITIAL FORMtMEDIAL FORMoNOON ISOLATED FORMtFINAL FORMtINITIAL FORMtMEDIAL FORMoHEH ISOLATE",
      "D FORMsFINAL FORMsINITIAL FORMsMEDIAL FORMoWAW ISOLATED FORMsFINAL FORMoALEF MAKSURA ISOLAT",
      "ED FORMβFINAL FORMoYEH ISOLATED FORMsFINAL FORMsINITIAL FORMsMEDIAL FORMiIGATURE LAM WITH A",
      "LEF WITH MADDA ABOVE ISOLATED FORMφFINAL FORMκHAMZA ABOVE ISOLATED FORMφFINAL FORMπBELOW IS",
      "OLATED FORMφFINAL FORMεISOLATED FORMεFINAL FORM"]),
    (0xFEFF, ["ZERO WIDTH NO-BREAK SPACE"]),
    (0xFF01, ["FULLWIDTH EXCLAMATION MARKkQUOTATION MARKkNUMBER SIGNkDOLLAR SIGNkPERCENT SIGNkAMPE",
      "RSANDlPOSTROPHEkLEFT PARENTHESISkRIGHT PARENTHESISkASTERISKkPLUS SIGNkCOMMAkHYPHEN-MINUSkFU",
      "LL STOPkSOLIDUSkDIGIT ZEROqONEqTWOrHREEqFOURrIVEqSIXrEVENqEIGHTqNINEkCOLONkSEMICOLONkLESS-T",
      "HAN SIGNkEQUALS SIGNkGREATER-THAN SIGNkQUESTION MARKkCOMMERCIAL ATkLATIN CAPITAL LETTER AζB",
      "ζCζDζEζFζGζHζIζJζKζLζMζNζOζPζQζRζSζTζUζVζWζXζYζZlEFT SQUARE BRACKETkREVERSE SOLIDUSlIGHT SQ",
      "UARE BRACKETkCIRCUMFLEX ACCENTkLOW LINEkGRAVE ACCENTkLATIN SMALL LETTER AδBδCδDδEδFδGδHδIδJ",
      "δKδLδMδNδOδPδQδRδSδTδUδVδWδXδYδZlEFT CURLY BRACKETkVERTICAL LINEkRIGHT CURLY BRACKETkTILDEk",
      "LEFT WHITE PARENTHESISkRIGHT WHITE PARENTHESISaHALFWIDTH IDEOGRAPHIC FULL STOPkLEFT CORNER ",
      "BRACKETkRIGHT CORNER BRACKETkIDEOGRAPHIC COMMAkKATAKANA MIDDLE DOTtLETTER WOαSMALL AηIηUηEη",
      "OηYAθUθOηTUs-HIRAGANA PROLONGED SOUND MARKs LETTER AαIαUαEαOαKAβIβUβEβOαSAβIβUβEβOαTAβIβUβE",
      "βOαNAβIβUβEβOαHAβIβUβEβOαMAβIβUβEβOαYAβUβOαRAβIβUβEβOαWAαNtVOICED SOUND MARKtSEMI-VOICED SO",
      "UND MARKkHANGUL FILLERrLETTER KIYEOKySSANGKIYEOKyKIYEOK-SIOSyNIEUNδ-CIEUCεHIEUHyTIKEUTySSAN",
      "GTIKEUTyRIEULδ-KIYEOKεMIEUMεPIEUPεSIOSεTHIEUTHεPHIEUPHεHIEUHyMIEUMyPIEUPySSANGPIEUPyPIEUP-S",
      "IOSySIOSzSANGSIOSyIEUNGyCIEUCySSANGCIEUCyCHIEUCHyKHIEUKHyTHIEUTHyPHIEUPHyHIEUH"]),
    (0xFFC2, ["HALFWIDTH HANGUL LETTER AzEyYAαEyEOz"]),
    (0xFFCA, ["HALFWIDTH HANGUL LETTER YEOαyOyWAαEyOE"]),
    (0xFFD2, ["HALFWIDTH HANGUL LETTER YOyUyWEOαzIyYU"]),
    (0xFFDA, ["HALFWIDTH HANGUL LETTER EUyYIyI"]),
    (0xFFE0, ["FULLWIDTH CENT SIGNkPOUND SIGNkNOT SIGNkMACRONkBROKEN BARkYEN SIGNkWON SIGN"]),
    (0xFFE8, ["HALFWIDTH FORMS LIGHT VERTICALkLEFTWARDS ARROWkUPWARDS ARROWkRIGHTWARDS ARROWkDOWNW",
      "ARDS ARROWkBLACK SQUAREkWHITE CIRCLE"]),
    (0xFFF9, ["INTERLINEAR ANNOTATION ANCHORxSEPARATORxTERMINATORaOBJECT REPLACEMENT CHARACTERaREP",
      "LACEMENT CHARACTER"])
  ]

end ProseRules.Text
