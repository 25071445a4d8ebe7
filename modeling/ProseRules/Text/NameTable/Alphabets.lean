namespace ProseRules.Text

/-!
# Names of the characters below 0x2000

The names of the characters of each run, packed as `codeInRun?` reads them.
-/

/-- Runs of characters with their packed names. -/
def alphabetNames : List (Nat × List String) :=
  [
    (0x20, ["SPACEaEXCLAMATION MARKaQUOTATION MARKaNUMBER SIGNaDOLLAR SIGNaPERCENT SIGNaAMPERSANDb",
      "POSTROPHEaLEFT PARENTHESISaRIGHT PARENTHESISaASTERISKaPLUS SIGNaCOMMAaHYPHEN-MINUSaFULL STO",
      "PaSOLIDUSaDIGIT ZEROgONEgTWOhHREEgFOURhIVEgSIXhEVENgEIGHTgNINEaCOLONaSEMICOLONaLESS-THAN SI",
      "GNaEQUALS SIGNaGREATER-THAN SIGNaQUESTION MARKaCOMMERCIAL ATaLATIN CAPITAL LETTER AvBvCvDvE",
      "vFvGvHvIvJvKvLvMvNvOvPvQvRvSvTvUvVvWvXvYvZbEFT SQUARE BRACKETaREVERSE SOLIDUSbIGHT SQUARE B",
      "RACKETaCIRCUMFLEX ACCENTaLOW LINEaGRAVE ACCENTaLATIN SMALL LETTER AtBtCtDtEtFtGtHtItJtKtLtM",
      "tNtOtPtQtRtStTtUtVtWtXtYtZbEFT CURLY BRACKETaVERTICAL LINEaRIGHT CURLY BRACKETaTILDE"]),
    (0xA0, ["NO-BREAK SPACEaINVERTED EXCLAMATION MARKaCENT SIGNaPOUND SIGNaCURRENCY SIGNaYEN SIGNa",
      "BROKEN BARaSECTION SIGNaDIAERESISaCOPYRIGHT SIGNaFEMININE ORDINAL INDICATORaLEFT-POINTING D",
      "OUBLE ANGLE QUOTATION MARKaNOT SIGNaSOFT HYPHENaREGISTERED SIGNaMACRONaDEGREE SIGNaPLUS-MIN",
      "US SIGNaSUPERSCRIPT TWOnHREEaACUTE ACCENTaMICRO SIGNaPILCROW SIGNaMIDDLE DOTaCEDILLAaSUPERS",
      "CRIPT ONEaMASCULINE ORDINAL INDICATORaRIGHT-POINTING DOUBLE ANGLE QUOTATION MARKaVULGAR FRA",
      "CTION ONE QUARTERuHALFqTHREE QUARTERSaINVERTED QUESTION MARKaLATIN CAPITAL LETTER A WITH GR",
      "AVEγACUTEγCIRCUMFLEXγTILDEγDIAERESISγRING ABOVEwEvC WITH CEDILLAvE WITH GRAVEγACUTEγCIRCUMF",
      "LEXγDIAERESISvI WITH GRAVEγACUTEγCIRCUMFLEXγDIAERESISvETHvN WITH TILDEvO WITH GRAVEγACUTEγC",
      "IRCUMFLEXγTILDEγDIAERESISaMULTIPLICATION SIGNaLATIN CAPITAL LETTER O WITH STROKEvU WITH GRA",
      "VEγACUTEγCIRCUMFLEXγDIAERESISvY WITH ACUTEvTHORNgSMALL LETTER SHARP StA WITH GRAVEαACUTEαCI",
      "RCUMFLEXαTILDEαDIAERESISαRING ABOVEuEtC WITH CEDILLAtE WITH GRAVEαACUTEαCIRCUMFLEXαDIAERESI",
      "StI WITH GRAVEαACUTEαCIRCUMFLEXαDIAERESIStETHtN WITH TILDEtO WITH GRAVEαACUTEαCIRCUMFLEXαTI",
      "LDEαDIAERESISaDIVISION SIGNaLATIN SMALL LETTER O WITH STROKEtU WITH GRAVEαACUTEαCIRCUMFLEXα",
      "DIAERESIStY WITH ACUTEtTHORNtY WITH DIAERESISgCAPITAL LETTER A WITH MACRONgSMALL LETTER A W",
      "ITH MACRONgCAPITAL LETTER A WITH BREVEgSMALL LETTER A WITH BREVEgCAPITAL LETTER A WITH OGON",
      "EKgSMALL LETTER A WITH OGONEKgCAPITAL LETTER C WITH ACUTEgSMALL LETTER C WITH ACUTEgCAPITAL",
      " LETTER C WITH CIRCUMFLEXgSMALL LETTER C WITH CIRCUMFLEXgCAPITAL LETTER C WITH DOT ABOVEgSM",
      "ALL LETTER C WITH DOT ABOVEgCAPITAL LETTER C WITH CARONgSMALL LETTER C WITH CARONgCAPITAL L",
      "ETTER D WITH CARONgSMALL LETTER D WITH CARONgCAPITAL LETTER D WITH STROKEgSMALL LETTER D WI",
      "TH STROKEgCAPITAL LETTER E WITH MACRONgSMALL LETTER E WITH MACRONgCAPITAL LETTER E WITH BRE",
      "VEgSMALL LETTER E WITH BREVEgCAPITAL LETTER E WITH DOT ABOVEgSMALL LETTER E WITH DOT ABOVEg",
      "CAPITAL LETTER E WITH OGONEKgSMALL LETTER E WITH OGONEKgCAPITAL LETTER E WITH CARONgSMALL L",
      "ETTER E WITH CARONgCAPITAL LETTER G WITH CIRCUMFLEXgSMALL LETTER G WITH CIRCUMFLEXgCAPITAL ",
      "LETTER G WITH BREVEgSMALL LETTER G WITH BREVEgCAPITAL LETTER G WITH DOT ABOVEgSMALL LETTER ",
      "G WITH DOT ABOVEgCAPITAL LETTER G WITH CEDILLAgSMALL LETTER G WITH CEDILLAgCAPITAL LETTER H",
      " WITH CIRCUMFLEXgSMALL LETTER H WITH CIRCUMFLEXgCAPITAL LETTER H WITH STROKEgSMALL LETTER H",
      " WITH STROKEgCAPITAL LETTER I WITH TILDEgSMALL LETTER I WITH TILDEgCAPITAL LETTER I WITH MA",
      "CRONgSMALL LETTER I WITH MACRONgCAPITAL LETTER I WITH BREVEgSMALL LETTER I WITH BREVEgCAPIT",
      "AL LETTER I WITH OGONEKgSMALL LETTER I WITH OGONEKgCAPITAL LETTER I WITH DOT ABOVEgSMALL LE",
      "TTER DOTLESS IgCAPITAL LIGATURE IJgSMALL LIGATURE IJgCAPITAL LETTER J WITH CIRCUMFLEXgSMALL",
      " LETTER J WITH CIRCUMFLEXgCAPITAL LETTER K WITH CEDILLAgSMALL LETTER K WITH CEDILLAuRAgCAPI",
      "TAL LETTER L WITH ACUTEgSMALL LETTER L WITH ACUTEgCAPITAL LETTER L WITH CEDILLAgSMALL LETTE",
      "R L WITH CEDILLAgCAPITAL LETTER L WITH CARONgSMALL LETTER L WITH CARONgCAPITAL LETTER L WIT",
      "H MIDDLE DOTgSMALL LETTER L WITH MIDDLE DOTgCAPITAL LETTER L WITH STROKEgSMALL LETTER L WIT",
      "H STROKEgCAPITAL LETTER N WITH ACUTEgSMALL LETTER N WITH ACUTEgCAPITAL LETTER N WITH CEDILL",
      "AgSMALL LETTER N WITH CEDILLAgCAPITAL LETTER N WITH CARONgSMALL LETTER N WITH CARONvPRECEDE",
      "D BY APOSTROPHEgCAPITAL LETTER ENGgSMALL LETTER ENGgCAPITAL LETTER O WITH MACRONgSMALL LETT",
      "ER O WITH MACRONgCAPITAL LETTER O WITH BREVEgSMALL LETTER O WITH BREVEgCAPITAL LETTER O WIT",
      "H DOUBLE ACUTEgSMALL LETTER O WITH DOUBLE ACUTEgCAPITAL LIGATURE OEgSMALL LIGATURE OEgCAPIT",
      "AL LETTER R WITH ACUTEgSMALL LETTER R WITH ACUTEgCAPITAL LETTER R WITH CEDILLAgSMALL LETTER",
      " R WITH CEDILLAgCAPITAL LETTER R WITH CARONgSMALL LETTER R WITH CARONgCAPITAL LETTER S WITH",
      " ACUTEgSMALL LETTER S WITH ACUTEgCAPITAL LETTER S WITH CIRCUMFLEXgSMALL LETTER S WITH CIRCU",
      "MFLEXgCAPITAL LETTER S WITH CEDILLAgSMALL LETTER S WITH CEDILLAgCAPITAL LETTER S WITH CARON",
      "gSMALL LETTER S WITH CARONgCAPITAL LETTER T WITH CEDILLAgSMALL LETTER T WITH CEDILLAgCAPITA",
      "L LETTER T WITH CARONgSMALL LETTER T WITH CARONgCAPITAL LETTER T WITH STROKEgSMALL LETTER T",
      " WITH STROKEgCAPITAL LETTER U WITH TILDEgSMALL LETTER U WITH TILDEgCAPITAL LETTER U WITH MA",
      "CRONgSMALL LETTER U WITH MACRONgCAPITAL LETTER U WITH BREVEgSMALL LETTER U WITH BREVEgCAPIT",
      "AL LETTER U WITH RING ABOVEgSMALL LETTER U WITH RING ABOVEgCAPITAL LETTER U WITH DOUBLE ACU",
      "TEgSMALL LETTER U WITH DOUBLE ACUTEgCAPITAL LETTER U WITH OGONEKgSMALL LETTER U WITH OGONEK",
      "gCAPITAL LETTER W WITH CIRCUMFLEXgSMALL LETTER W WITH CIRCUMFLEXgCAPITAL LETTER Y WITH CIRC",
      "UMFLEXgSMALL LETTER Y WITH CIRCUMFLEXgCAPITAL LETTER Y WITH DIAERESISvZ WITH ACUTEgSMALL LE",
      "TTER Z WITH ACUTEgCAPITAL LETTER Z WITH DOT ABOVEgSMALL LETTER Z WITH DOT ABOVEgCAPITAL LET",
      "TER Z WITH CARONgSMALL LETTER Z WITH CARONtLONG StB WITH STROKEgCAPITAL LETTER B WITH HOOKγ",
      "TOPBARgSMALL LETTER B WITH TOPBARgCAPITAL LETTER TONE SIXgSMALL LETTER TONE SIXgCAPITAL LET",
      "TER OPEN OvC WITH HOOKgSMALL LETTER C WITH HOOKgCAPITAL LETTER AFRICAN DvD WITH HOOKγTOPBAR",
      "gSMALL LETTER D WITH TOPBARtTURNED DELTAgCAPITAL LETTER REVERSED EvSCHWAvOPEN EvF WITH HOOK",
      "gSMALL LETTER F WITH HOOKgCAPITAL LETTER G WITH HOOKwAMMAgSMALL LETTER HVgCAPITAL LETTER IO",
      "TAw WITH STROKEvK WITH HOOKgSMALL LETTER K WITH HOOKtL WITH BARuAMBDA WITH STROKEgCAPITAL L",
      "ETTER TURNED MvN WITH LEFT HOOKgSMALL LETTER N WITH LONG RIGHT LEGgCAPITAL LETTER O WITH MI",
      "DDLE TILDEγHORNgSMALL LETTER O WITH HORNgCAPITAL LETTER OIgSMALL LETTER OIgCAPITAL LETTER P",
      " WITH HOOKgSMALL LETTER P WITH HOOKgLETTER YRgCAPITAL LETTER TONE TWOgSMALL LETTER TONE TWO",
      "gCAPITAL LETTER ESHgLETTER REVERSED ESH LOOPgSMALL LETTER T WITH PALATAL HOOKgCAPITAL LETTE",
      "R T WITH HOOKgSMALL LETTER T WITH HOOKgCAPITAL LETTER T WITH RETROFLEX HOOKvU WITH HORNgSMA",
      "LL LETTER U WITH HORNgCAPITAL LETTER UPSILONvV WITH HOOKvY WITH HOOKgSMALL LETTER Y WITH HO",
      "OKgCAPITAL LETTER Z WITH STROKEgSMALL LETTER Z WITH STROKEgCAPITAL LETTER EZHy REVERSEDgSMA",
      "LL LETTER EZH REVERSEDxWITH TAILgLETTER TWO WITH STROKEgCAPITAL LETTER TONE FIVEgSMALL LETT",
      "ER TONE FIVEgLETTER INVERTED GLOTTAL STOP WITH STROKEnWYNNnDENTAL CLICKnLATERAL CLICKnALVEO",
      "LAR CLICKnRETROFLEX CLICKgCAPITAL LETTER DZ WITH CARONw WITH SMALL LETTER Z WITH CARONgSMAL",
      "L LETTER DZ WITH CARONgCAPITAL LETTER LJw WITH SMALL LETTER JgSMALL LETTER LJgCAPITAL LETTE",
      "R NJw WITH SMALL LETTER JgSMALL LETTER NJgCAPITAL LETTER A WITH CARONgSMALL LETTER A WITH C",
      "ARONgCAPITAL LETTER I WITH CARONgSMALL LETTER I WITH CARONgCAPITAL LETTER O WITH CARONgSMAL",
      "L LETTER O WITH CARONgCAPITAL LETTER U WITH CARONgSMALL LETTER U WITH CARONgCAPITAL LETTER ",
      "U WITH DIAERESIS AND MACRONgSMALL LETTER U WITH DIAERESIS AND MACRONgCAPITAL LETTER U WITH ",
      "DIAERESIS AND ACUTEgSMALL LETTER U WITH DIAERESIS AND ACUTEgCAPITAL LETTER U WITH DIAERESIS",
      " AND CARONgSMALL LETTER U WITH DIAERESIS AND CARONgCAPITAL LETTER U WITH DIAERESIS AND GRAV",
      "EgSMALL LETTER U WITH DIAERESIS AND GRAVEtTURNED EgCAPITAL LETTER A WITH DIAERESIS AND MACR",
      "ONgSMALL LETTER A WITH DIAERESIS AND MACRONgCAPITAL LETTER A WITH DOT ABOVE AND MACRONgSMAL",
      "L LETTER A WITH DOT ABOVE AND MACRONgCAPITAL LETTER AE WITH MACRONgSMALL LETTER AE WITH MAC",
      "RONgCAPITAL LETTER G WITH STROKEgSMALL LETTER G WITH STROKEgCAPITAL LETTER G WITH CARONgSMA",
      "LL LETTER G WITH CARONgCAPITAL LETTER K WITH CARONgSMALL LETTER K WITH CARONgCAPITAL LETTER",
      " O WITH OGONEKgSMALL LETTER O WITH OGONEKgCAPITAL LETTER O WITH OGONEK AND MACRONgSMALL LET",
      "TER O WITH OGONEK AND MACRONgCAPITAL LETTER EZH WITH CARONgSMALL LETTER EZH WITH CARONtJ WI",
      "TH CARONgCAPITAL LETTER DZw WITH SMALL LETTER ZgSMALL LETTER DZgCAPITAL LETTER G WITH ACUTE",
      "gSMALL LETTER G WITH ACUTEgCAPITAL LETTER HWAIRvWYNNvN WITH GRAVEgSMALL LETTER N WITH GRAVE",
      "gCAPITAL LETTER A WITH RING ABOVE AND ACUTEgSMALL LETTER A WITH RING ABOVE AND ACUTEgCAPITA",
      "L LETTER AE WITH ACUTEgSMALL LETTER AE WITH ACUTEgCAPITAL LETTER O WITH STROKE AND ACUTEgSM",
      "ALL LETTER O WITH STROKE AND ACUTEgCAPITAL LETTER A WITH DOUBLE GRAVEgSMALL LETTER A WITH D",
      "OUBLE GRAVEgCAPITAL LETTER A WITH INVERTED BREVEgSMALL LETTER A WITH INVERTED BREVEgCAPITAL",
      " LETTER E WITH DOUBLE GRAVEgSMALL LETTER E WITH DOUBLE GRAVEgCAPITAL LETTER E WITH INVERTED",
      " BREVEgSMALL LETTER E WITH INVERTED BREVEgCAPITAL LETTER I WITH DOUBLE GRAVEgSMALL LETTER I",
      " WITH DOUBLE GRAVEgCAPITAL LETTER I WITH INVERTED BREVEgSMALL LETTER I WITH INVERTED BREVEg",
      "CAPITAL LETTER O WITH DOUBLE GRAVEgSMALL LETTER O WITH DOUBLE GRAVEgCAPITAL LETTER O WITH I",
      "NVERTED BREVEgSMALL LETTER O WITH INVERTED BREVEgCAPITAL LETTER R WITH DOUBLE GRAVEgSMALL L",
      "ETTER R WITH DOUBLE GRAVEgCAPITAL LETTER R WITH INVERTED BREVEgSMALL LETTER R WITH INVERTED",
      " BREVEgCAPITAL LETTER U WITH DOUBLE GRAVEgSMALL LETTER U WITH DOUBLE GRAVEgCAPITAL LETTER U",
      " WITH INVERTED BREVEgSMALL LETTER U WITH INVERTED BREVEgCAPITAL LETTER S WITH COMMA BELOWgS",
      "MALL LETTER S WITH COMMA BELOWgCAPITAL LETTER T WITH COMMA BELOWgSMALL LETTER T WITH COMMA ",
      "BELOWgCAPITAL LETTER YOGHgSMALL LETTER YOGHgCAPITAL LETTER H WITH CARONgSMALL LETTER H WITH",
      " CARONgCAPITAL LETTER N WITH LONG RIGHT LEGgSMALL LETTER D WITH CURLgCAPITAL LETTER OUgSMAL",
      "L LETTER OUgCAPITAL LETTER Z WITH HOOKgSMALL LETTER Z WITH HOOKgCAPITAL LETTER A WITH DOT A",
      "BOVEgSMALL LETTER A WITH DOT ABOVEgCAPITAL LETTER E WITH CEDILLAgSMALL LETTER E WITH CEDILL",
      "AgCAPITAL LETTER O WITH DIAERESIS AND MACRONgSMALL LETTER O WITH DIAERESIS AND MACRONgCAPIT",
      "AL LETTER O WITH TILDE AND MACRONgSMALL LETTER O WITH TILDE AND MACRONgCAPITAL LETTER O WIT",
      "H DOT ABOVEgSMALL LETTER O WITH DOT ABOVEgCAPITAL LETTER O WITH DOT ABOVE AND MACRONgSMALL ",
      "LETTER O WITH DOT ABOVE AND MACRONgCAPITAL LETTER Y WITH MACRONgSMALL LETTER Y WITH MACRONt",
      "L WITH CURLtN WITH CURLtT WITH CURLtDOTLESS JuB DIGRAPHtQP DIGRAPHgCAPITAL LETTER A WITH ST",
      "ROKEvC WITH STROKEgSMALL LETTER C WITH STROKEgCAPITAL LETTER L WITH BARvT WITH DIAGONAL STR",
      "OKEgSMALL LETTER S WITH SWASH TAILtZ WITH SWASH TAILgCAPITAL LETTER GLOTTAL STOPgSMALL LETT",
      "ER GLOTTAL STOPgCAPITAL LETTER B WITH STROKEvU BARvTURNED VvE WITH STROKEgSMALL LETTER E WI",
      "TH STROKEgCAPITAL LETTER J WITH STROKEgSMALL LETTER J WITH STROKEgCAPITAL LETTER SMALL Q WI",
      "TH HOOK TAILgSMALL LETTER Q WITH HOOK TAILgCAPITAL LETTER R WITH STROKEgSMALL LETTER R WITH",
      " STROKEgCAPITAL LETTER Y WITH STROKEgSMALL LETTER Y WITH STROKEtTURNED AtALPHAtTURNED ALPHA",
      "tB WITH HOOKtOPEN OtC WITH CURLtD WITH TAILαHOOKtREVERSED EtSCHWAy WITH HOOKtOPEN EtREVERSE",
      "D OPEN Eι WITH HOOKtCLOSED REVERSED OPEN EtDOTLESS J WITH STROKEtG WITH HOOKtSCRIPT GgLETTE",
      "R SMALL CAPITAL GgSMALL LETTER GAMMAtRAMS HORNtTURNED HtH WITH HOOKuENG WITH HOOKtI WITH ST",
      "ROKEuOTAgLETTER SMALL CAPITAL IgSMALL LETTER L WITH MIDDLE TILDEαBELTαRETROFLEX HOOKuEZHtTU",
      "RNED Mβ WITH LONG LEGtM WITH HOOKtN WITH LEFT HOOKαRETROFLEX HOOKgLETTER SMALL CAPITAL NgSM",
      "ALL LETTER BARRED OgLETTER SMALL CAPITAL OEgSMALL LETTER CLOSED OMEGAtPHItTURNED Rβ WITH LO",
      "NG LEGθHOOKtR WITH LONG LEGαTAILαFISHHOOKuEVERSED R WITH FISHHOOKgLETTER SMALL CAPITAL RβIN",
      "VERTED RgSMALL LETTER S WITH HOOKtESHtDOTLESS J WITH STROKE AND HOOKtSQUAT REVERSED ESHtESH",
      " WITH CURLtTURNED Tu WITH RETROFLEX HOOKtU BARuPSILONtV WITH HOOKtTURNED VαWαYgLETTER SMALL",
      " CAPITAL YgSMALL LETTER Z WITH RETROFLEX HOOKαCURLtEZHw WITH CURLgLETTER GLOTTAL STOPnPHARY",
      "NGEAL VOICED FRICATIVEnINVERTED GLOTTAL STOPnSTRETCHED CnBILABIAL CLICKnSMALL CAPITAL BgSMA",
      "LL LETTER CLOSED OPEN EgLETTER SMALL CAPITAL G WITH HOOKβHgSMALL LETTER J WITH CROSSED-TAIL",
      "tTURNED KgLETTER SMALL CAPITAL LgSMALL LETTER Q WITH HOOKgLETTER GLOTTAL STOP WITH STROKEnR",
      "EVERSED GLOTTAL STOP WITH STROKEgSMALL LETTER DZ DIGRAPHuEZH DIGRAPHuZ DIGRAPH WITH CURLtTS",
      " DIGRAPHuESH DIGRAPHuC DIGRAPH WITH CURLtFENG DIGRAPHtLS DIGRAPHuZ DIGRAPHgLETTER BILABIAL ",
      "PERCUSSIVEpDENTAL PERCUSSIVEgSMALL LETTER TURNED H WITH FISHHOOKπ AND TAILaMODIFIER LETTER ",
      "SMALL Hx WITH HOOKwJwRwTURNED Rε WITH HOOKwCAPITAL INVERTED RwWwYqPRIMEqDOUBLE PRIMEqTURNED",
      " COMMAqAPOSTROPHEqREVERSED COMMArIGHT HALF RINGqLEFT HALF RINGqGLOTTAL STOPqREVERSED GLOTTA",
      "L STOPqLEFT ARROWHEADqRIGHT ARROWHEADqUP ARROWHEADqDOWN ARROWHEADqCIRCUMFLEX ACCENTaCARONaM",
      "ODIFIER LETTER VERTICAL LINEqMACRONqACUTE ACCENTqGRAVE ACCENTqLOW VERTICAL LINEuMACRONuGRAV",
      "E ACCENTuACUTE ACCENTqTRIANGULAR COLONqHALF TRIANGULAR COLONqCENTRED RIGHT HALF RINGyLEFT H",
      "ALF RINGqUP TACKqDOWN TACKqPLUS SIGNqMINUS SIGNaBREVEaDOT ABOVEaRING ABOVEaOGONEKaSMALL TIL",
      "DEaDOUBLE ACUTE ACCENTaMODIFIER LETTER RHOTIC HOOKqCROSS ACCENTqSMALL GAMMAwLwSwXwREVERSED ",
      "GLOTTAL STOPqEXTRA-HIGH TONE BARqHIGH TONE BARqMID TONE BARqLOW TONE BARqEXTRA-LOW TONE BAR",
      "qYIN DEPARTING TONE MARKrANG DEPARTING TONE MARKqVOICINGqUNASPIRATEDqDOUBLE APOSTROPHEqLOW ",
      "DOWN ARROWHEADuUP ARROWHEADuLEFT ARROWHEADuRIGHT ARROWHEADwNGqMIDDLE GRAVE ACCENTxDOUBLE GR",
      "AVE ACCENTεACUTE ACCENTqLOW TILDEqRAISED COLONqBEGIN HIGH TONEqEND HIGH TONEqBEGIN LOW TONE",
      "qEND LOW TONEqSHELFqOPEN SHELFqLOW LEFT ARROWaCOMBINING GRAVE ACCENTkACUTE ACCENTkCIRCUMFLE",
      "X ACCENTkTILDEkMACRONkOVERLINEkBREVEkDOT ABOVElIAERESISkHOOK ABOVEkRING ABOVEkDOUBLE ACUTE ",
      "ACCENTkCARONkVERTICAL LINE ABOVEkDOUBLE VERTICAL LINE ABOVErGRAVE ACCENTkCANDRABINDUkINVERT",
      "ED BREVEkTURNED COMMA ABOVEkCOMMA ABOVEkREVERSED COMMA ABOVEkCOMMA ABOVE RIGHTkGRAVE ACCENT",
      " BELOWkACUTE ACCENT BELOWkLEFT TACK BELOWkRIGHT TACK BELOWkLEFT ANGLE ABOVEkHORNkLEFT HALF ",
      "RING BELOWkUP TACK BELOWkDOWN TACK BELOWkPLUS SIGN BELOWkMINUS SIGN BELOWkPALATALIZED HOOK ",
      "BELOWkRETROFLEX HOOK BELOWkDOT BELOWlIAERESIS BELOWkRING BELOWkCOMMA BELOWlEDILLAkOGONEKkVE",
      "RTICAL LINE BELOWkBRIDGE BELOWkINVERTED DOUBLE ARCH BELOWkCARON BELOWlIRCUMFLEX ACCENT BELO",
      "WkBREVE BELOWkINVERTED BREVE BELOWkTILDE BELOWkMACRON BELOWkLOW LINEkDOUBLE LOW LINEkTILDE ",
      "OVERLAYkSHORT STROKE OVERLAYkLONG STROKE OVERLAYkSHORT SOLIDUS OVERLAYkLONG SOLIDUS OVERLAY",
      "kRIGHT HALF RING BELOWkINVERTED BRIDGE BELOWkSQUARE BELOWlEAGULL BELOWkX ABOVEkVERTICAL TIL",
      "DEkDOUBLE OVERLINEkGRAVE TONE MARKkACUTE TONE MARKkGREEK PERISPOMENIqKORONISqDIALYTIKA TONO",
      "SqYPOGEGRAMMENIkBRIDGE ABOVEkEQUALS SIGN BELOWkDOUBLE VERTICAL LINE BELOWkLEFT ANGLE BELOWk",
      "NOT TILDE ABOVEkHOMOTHETIC ABOVEkALMOST EQUAL TO ABOVEkLEFT RIGHT ARROW BELOWkUPWARDS ARROW",
      " BELOWkGRAPHEME JOINERkRIGHT ARROWHEAD ABOVEkLEFT HALF RING ABOVEkFERMATAkX BELOWkLEFT ARRO",
      "WHEAD BELOWkRIGHT ARROWHEAD BELOWαAND UP ARROWHEAD BELOWqHALF RING ABOVEkDOT ABOVE RIGHTkAS",
      "TERISK BELOWkDOUBLE RING BELOWkZIGZAG ABOVEkDOUBLE BREVE BELOWwrMACRONx BELOWrTILDErINVERTE",
      "D BREVErRIGHTWARDS ARROW BELOWkLATIN SMALL LETTER AδEδIδOδUδCδDδHδMδRδTδVδXaGREEK CAPITAL L",
      "ETTER HETAgSMALL LETTER HETAgCAPITAL LETTER ARCHAIC SAMPIgSMALL LETTER ARCHAIC SAMPIgNUMERA",
      "L SIGNgLOWER NUMERAL SIGNgCAPITAL LETTER PAMPHYLIAN DIGAMMAgSMALL LETTER PAMPHYLIAN DIGAMM",
      "A"]),
    (0x37A, ["GREEK YPOGEGRAMMENIgSMALL REVERSED LUNATE SIGMA SYMBOLmDOTTED LUNATE SIGMA SYMBOLmRE",
      "VERSED DOTTED LUNATE SIGMA SYMBOLgQUESTION MARKgCAPITAL LETTER YOT"]),
    (0x384, ["GREEK TONOSgDIALYTIKA TONOSgCAPITAL LETTER ALPHA WITH TONOSgANO TELEIAgCAPITAL LETTE",
      "R EPSILON WITH TONOSwTA WITH TONOSvIOTA WITH TONOS"]),
    (0x38C, ["GREEK CAPITAL LETTER OMICRON WITH TONOS"]),
    (0x38E, ["GREEK CAPITAL LETTER UPSILON WITH TONOSvOMEGA WITH TONOSgSMALL LETTER IOTA WITH DIAL",
      "YTIKA AND TONOSgCAPITAL LETTER ALPHAvBETAvGAMMAvDELTAvEPSILONvZETAvETAvTHETAvIOTAvKAPPAvLAM",
      "DAvMUvNUvXIvOMICRONvPIvRHO"]),
    (0x3A3, ["GREEK CAPITAL LETTER SIGMAvTAUvUPSILONvPHIvCHIvPSIvOMEGAvIOTA WITH DIALYTIKAvUPSILON",
      " WITH DIALYTIKAgSMALL LETTER ALPHA WITH TONOStEPSILON WITH TONOSuTA WITH TONOStIOTA WITH TO",
      "NOStUPSILON WITH DIALYTIKA AND TONOStALPHAtBETAtGAMMAtDELTAtEPSILONtZETAtETAtTHETAtIOTAtKAP",
      "PAtLAMDAtMUtNUtXItOMICRONtPItRHOtFINAL SIGMAtSIGMAtTAUtUPSILONtPHItCHItPSItOMEGAtIOTA WITH ",
      "DIALYTIKAtUPSILON WITH DIALYTIKAtOMICRON WITH TONOStUPSILON WITH TONOStOMEGA WITH TONOSgCAP",
      "ITAL KAI SYMBOLgBETA SYMBOLgTHETA SYMBOLgUPSILON WITH HOOK SYMBOLtACUTE AND HOOK SYMBOLtDIA",
      "ERESIS AND HOOK SYMBOLgPHI SYMBOLhI SYMBOLgKAI SYMBOLgLETTER ARCHAIC KOPPAgSMALL LETTER ARC",
      "HAIC KOPPAgLETTER STIGMAgSMALL LETTER STIGMAgLETTER DIGAMMAgSMALL LETTER DIGAMMAgLETTER KOP",
      "PAgSMALL LETTER KOPPAgLETTER SAMPIgSMALL LETTER SAMPIaCOPTIC CAPITAL LETTER SHEIhSMALL LETT",
      "ER SHEIhCAPITAL LETTER FEIhSMALL LETTER FEIhCAPITAL LETTER KHEIhSMALL LETTER KHEIhCAPITAL L",
      "ETTER HORIhSMALL LETTER HORIhCAPITAL LETTER GANGIAhSMALL LETTER GANGIAhCAPITAL LETTER SHIMA",
      "hSMALL LETTER SHIMAhCAPITAL LETTER DEIhSMALL LETTER DEIaGREEK KAPPA SYMBOLgRHO SYMBOLgLUNAT",
      "E SIGMA SYMBOLhETTER YOTgCAPITAL THETA SYMBOLgLUNATE EPSILON SYMBOLgREVERSED LUNATE EPSILON",
      " SYMBOLgCAPITAL LETTER SHOgSMALL LETTER SHOgCAPITAL LUNATE SIGMA SYMBOLpETTER SANgSMALL LET",
      "TER SANgRHO WITH STROKE SYMBOLgCAPITAL REVERSED LUNATE SIGMA SYMBOLoDOTTED LUNATE SIGMA SYM",
      "BOLoREVERSED DOTTED LUNATE SIGMA SYMBOLaCYRILLIC CAPITAL LETTER IE WITH GRAVEzOyDJEyGJEyUKR",
      "AINIAN IEyDZEyBYELORUSSIAN-UKRAINIAN IyYIyJEyLJEyNJEyTSHEyKJEyI WITH GRAVEySHORT UyDZHEyAyB",
      "EyVEyGHEyDEyIEyZHEzEyIySHORT IyKAyELzMzNyOyPEyERzSyTEyUyEFyHAyTSEyCHEySHAαCHAyHARD SIGNyYER",
      "UySOFT SIGNyEyYUzAjSMALL LETTER AwBEwVEwGHEwDEwIEwZHExEwIwSHORT IwKAwELxMxNwOwPEwERxSwTEwUw",
      "EFwHAwTSEwCHEwSHAyCHAwHARD SIGNwYERUwSOFT SIGNwEwYUxAwIE WITH GRAVExOwDJEwGJEwUKRAINIAN IEw",
      "DZEwBYELORUSSIAN-UKRAINIAN IwYIwJEwLJEwNJEwTSHEwKJEwI WITH GRAVEwSHORT UwDZHEjCAPITAL LETTE",
      "R OMEGAjSMALL LETTER OMEGAjCAPITAL LETTER YATjSMALL LETTER YATjCAPITAL LETTER IOTIFIED EjSM",
      "ALL LETTER IOTIFIED EjCAPITAL LETTER LITTLE YUSjSMALL LETTER LITTLE YUSjCAPITAL LETTER IOTI",
      "FIED LITTLE YUSjSMALL LETTER IOTIFIED LITTLE YUSjCAPITAL LETTER BIG YUSjSMALL LETTER BIG YU",
      "SjCAPITAL LETTER IOTIFIED BIG YUSjSMALL LETTER IOTIFIED BIG YUSjCAPITAL LETTER KSIjSMALL LE",
      "TTER KSIjCAPITAL LETTER PSIjSMALL LETTER PSIjCAPITAL LETTER FITAjSMALL LETTER FITAjCAPITAL ",
      "LETTER IZHITSAjSMALL LETTER IZHITSAjCAPITAL LETTER IZHITSA WITH DOUBLE GRAVE ACCENTjSMALL L",
      "ETTER IZHITSA WITH DOUBLE GRAVE ACCENTjCAPITAL LETTER UKjSMALL LETTER UKjCAPITAL LETTER ROU",
      "ND OMEGAjSMALL LETTER ROUND OMEGAjCAPITAL LETTER OMEGA WITH TITLOjSMALL LETTER OMEGA WITH T",
      "ITLOjCAPITAL LETTER OTjSMALL LETTER OTjCAPITAL LETTER KOPPAjSMALL LETTER KOPPAjTHOUSANDS SI",
      "GNbOMBINING CYRILLIC TITLOtPALATALIZATIONtDASIA PNEUMATAtPSILI PNEUMATAuOKRYTIEtHUNDRED THO",
      "USANDS SIGNtMILLIONS SIGNbYRILLIC CAPITAL LETTER SHORT I WITH TAILjSMALL LETTER SHORT I WIT",
      "H TAILjCAPITAL LETTER SEMISOFT SIGNjSMALL LETTER SEMISOFT SIGNjCAPITAL LETTER ER WITH TICKj",
      "SMALL LETTER ER WITH TICKjCAPITAL LETTER GHE WITH UPTURNjSMALL LETTER GHE WITH UPTURNjCAPIT",
      "AL LETTER GHE WITH STROKEjSMALL LETTER GHE WITH STROKEjCAPITAL LETTER GHE WITH MIDDLE HOOKj",
      "SMALL LETTER GHE WITH MIDDLE HOOKjCAPITAL LETTER ZHE WITH DESCENDERjSMALL LETTER ZHE WITH D",
      "ESCENDERjCAPITAL LETTER ZE WITH DESCENDERjSMALL LETTER ZE WITH DESCENDERjCAPITAL LETTER KA ",
      "WITH DESCENDERjSMALL LETTER KA WITH DESCENDERjCAPITAL LETTER KA WITH VERTICAL STROKEjSMALL ",
      "LETTER KA WITH VERTICAL STROKEjCAPITAL LETTER KA WITH STROKEjSMALL LETTER KA WITH STROKEjCA",
      "PITAL LETTER BASHKIR KAjSMALL LETTER BASHKIR KAjCAPITAL LETTER EN WITH DESCENDERjSMALL LETT",
      "ER EN WITH DESCENDERjCAPITAL LIGATURE EN GHEjSMALL LIGATURE EN GHEjCAPITAL LETTER PE WITH M",
      "IDDLE HOOKjSMALL LETTER PE WITH MIDDLE HOOKjCAPITAL LETTER ABKHASIAN HAjSMALL LETTER ABKHAS",
      "IAN HAjCAPITAL LETTER ES WITH DESCENDERjSMALL LETTER ES WITH DESCENDERjCAPITAL LETTER TE WI",
      "TH DESCENDERjSMALL LETTER TE WITH DESCENDERjCAPITAL LETTER STRAIGHT UjSMALL LETTER STRAIGHT",
      " UjCAPITAL LETTER STRAIGHT U WITH STROKEjSMALL LETTER STRAIGHT U WITH STROKEjCAPITAL LETTER",
      " HA WITH DESCENDERjSMALL LETTER HA WITH DESCENDERjCAPITAL LIGATURE TE TSEjSMALL LIGATURE TE",
      " TSEjCAPITAL LETTER CHE WITH DESCENDERjSMALL LETTER CHE WITH DESCENDERjCAPITAL LETTER CHE W",
      "ITH VERTICAL STROKEjSMALL LETTER CHE WITH VERTICAL STROKEjCAPITAL LETTER SHHAjSMALL LETTER ",
      "SHHAjCAPITAL LETTER ABKHASIAN CHEjSMALL LETTER ABKHASIAN CHEjCAPITAL LETTER ABKHASIAN CHE W",
      "ITH DESCENDERjSMALL LETTER ABKHASIAN CHE WITH DESCENDERjLETTER PALOCHKAjCAPITAL LETTER ZHE ",
      "WITH BREVEjSMALL LETTER ZHE WITH BREVEjCAPITAL LETTER KA WITH HOOKjSMALL LETTER KA WITH HOO",
      "KjCAPITAL LETTER EL WITH TAILjSMALL LETTER EL WITH TAILjCAPITAL LETTER EN WITH HOOKjSMALL L",
      "ETTER EN WITH HOOKjCAPITAL LETTER EN WITH TAILjSMALL LETTER EN WITH TAILjCAPITAL LETTER KHA",
      "KASSIAN CHEjSMALL LETTER KHAKASSIAN CHEjCAPITAL LETTER EM WITH TAILjSMALL LETTER EM WITH TA",
      "ILwPALOCHKAjCAPITAL LETTER A WITH BREVEjSMALL LETTER A WITH BREVEjCAPITAL LETTER A WITH DIA",
      "ERESISjSMALL LETTER A WITH DIAERESISjCAPITAL LIGATURE A IEjSMALL LIGATURE A IEjCAPITAL LETT",
      "ER IE WITH BREVEjSMALL LETTER IE WITH BREVEjCAPITAL LETTER SCHWAjSMALL LETTER SCHWAjCAPITAL",
      " LETTER SCHWA WITH DIAERESISjSMALL LETTER SCHWA WITH DIAERESISjCAPITAL LETTER ZHE WITH DIAE",
      "RESISjSMALL LETTER ZHE WITH DIAERESISjCAPITAL LETTER ZE WITH DIAERESISjSMALL LETTER ZE WITH",
      " DIAERESISjCAPITAL LETTER ABKHASIAN DZEjSMALL LETTER ABKHASIAN DZEjCAPITAL LETTER I WITH MA",
      "CRONjSMALL LETTER I WITH MACRONjCAPITAL LETTER I WITH DIAERESISjSMALL LETTER I WITH DIAERES",
      "ISjCAPITAL LETTER O WITH DIAERESISjSMALL LETTER O WITH DIAERESISjCAPITAL LETTER BARRED OjSM",
      "ALL LETTER BARRED OjCAPITAL LETTER BARRED O WITH DIAERESISjSMALL LETTER BARRED O WITH DIAER",
      "ESISjCAPITAL LETTER E WITH DIAERESISjSMALL LETTER E WITH DIAERESISjCAPITAL LETTER U WITH MA",
      "CRONjSMALL LETTER U WITH MACRONjCAPITAL LETTER U WITH DIAERESISjSMALL LETTER U WITH DIAERES",
      "ISjCAPITAL LETTER U WITH DOUBLE ACUTEjSMALL LETTER U WITH DOUBLE ACUTEjCAPITAL LETTER CHE W",
      "ITH DIAERESISjSMALL LETTER CHE WITH DIAERESISjCAPITAL LETTER GHE WITH DESCENDERjSMALL LETTE",
      "R GHE WITH DESCENDERjCAPITAL LETTER YERU WITH DIAERESISjSMALL LETTER YERU WITH DIAERESISjCA",
      "PITAL LETTER GHE WITH STROKE AND HOOKjSMALL LETTER GHE WITH STROKE AND HOOKjCAPITAL LETTER ",
      "HA WITH HOOKjSMALL LETTER HA WITH HOOKjCAPITAL LETTER HA WITH STROKEjSMALL LETTER HA WITH S",
      "TROKEjCAPITAL LETTER KOMI DEjSMALL LETTER KOMI DEjCAPITAL LETTER KOMI DJEjSMALL LETTER KOMI",
      " DJEjCAPITAL LETTER KOMI ZJEjSMALL LETTER KOMI ZJEjCAPITAL LETTER KOMI DZJEjSMALL LETTER KO",
      "MI DZJEjCAPITAL LETTER KOMI LJEjSMALL LETTER KOMI LJEjCAPITAL LETTER KOMI NJEjSMALL LETTER ",
      "KOMI NJEjCAPITAL LETTER KOMI SJEjSMALL LETTER KOMI SJEjCAPITAL LETTER KOMI TJEjSMALL LETTER",
      " KOMI TJEjCAPITAL LETTER REVERSED ZEjSMALL LETTER REVERSED ZEjCAPITAL LETTER EL WITH HOOKjS",
      "MALL LETTER EL WITH HOOKjCAPITAL LETTER LHAjSMALL LETTER LHAjCAPITAL LETTER RHAjSMALL LETTE",
      "R RHAjCAPITAL LETTER YAEjSMALL LETTER YAEjCAPITAL LETTER QAjSMALL LETTER QAjCAPITAL LETTER ",
      "WEjSMALL LETTER WEjCAPITAL LETTER ALEUT KAjSMALL LETTER ALEUT KAjCAPITAL LETTER EL WITH MID",
      "DLE HOOKjSMALL LETTER EL WITH MIDDLE HOOKjCAPITAL LETTER EN WITH MIDDLE HOOKjSMALL LETTER E",
      "N WITH MIDDLE HOOKjCAPITAL LETTER PE WITH DESCENDERjSMALL LETTER PE WITH DESCENDERjCAPITAL ",
      "LETTER SHHA WITH DESCENDERjSMALL LETTER SHHA WITH DESCENDERjCAPITAL LETTER EN WITH LEFT HOO",
      "KjSMALL LETTER EN WITH LEFT HOOKjCAPITAL LETTER DZZHEjSMALL LETTER DZZHEjCAPITAL LETTER DCH",
      "EjSMALL LETTER DCHEjCAPITAL LETTER EL WITH DESCENDERjSMALL LETTER EL WITH DESCENDER"]),
    (0x531, ["ARMENIAN CAPITAL LETTER AYByBENyGIMyDAyECHyZAyEHzTyTOyZHEyINIyLIWNyXEHyCAyKENyHOyJAy",
      "GHADyCHEHyMENyYIyNOWySHAyVOyCHAyPEHyJHEHyRAySEHyVEWyTIWNyREHyCOyYIWNyPIWRyKEHyOHyFEH"]),
    (0x559, ["ARMENIAN MODIFIER LETTER LEFT HALF RINGjAPOSTROPHEjEMPHASIS MARKkXCLAMATION MARKjCOM",
      "MAjQUESTION MARKjABBREVIATION MARKjSMALL LETTER TURNED AYBwAYBwBENwGIMwDAwECHwZAwEHxTwTOwZH",
      "EwINIwLIWNwXEHwCAwKENwHOwJAwGHADwCHEHwMENwYIwNOWwSHAwVOwCHAwPEHwJHEHwRAwSEHwVEWwTIWNwREHwCO",
      "wYIWNwPIWRwKEHwOHwFEHqIGATURE ECH YIWNqETTER YI WITH STROKEjFULL STOPjHYPHEN"]),
    (0x58D, ["RIGHT-FACING ARMENIAN ETERNITY SIGNaLEFT-FACING ARMENIAN ETERNITY SIGNaARMENIAN DRAM",
      " SIGN"]),
    (0x591, ["HEBREW ACCENT ETNAHTAoSEGOLpHALSHELEToZAQEF QATANuGADOLoTIPEHAoREVIAoZARQAoPASHTAoYE",
      "TIVoTEVIRoGERESHu MUQDAMrSHAYIMoQARNEY PARAoTELISHA GEDOLAoPAZERoATNAH HAFUKHoMUNAHpAHAPAKH",
      "pERKHAu KEFULAoDARGAoQADMAoTELISHA QETANAoYERAH BEN YOMOoOLEoILUYoDEHIoZINORhMARK MASORA CI",
      "RCLEhPOINT SHEVAnHATAF SEGOLtPATAHtQAMATSoIRIQnTSEREnSEGOLnPATAHnQAMATSnHOLAMs HASER FOR VA",
      "VnQUBUTSnDAGESH OR MAPIQnMETEGiUNCTUATION MAQAFiOINT RAFEiUNCTUATION PASEQiOINT SHIN DOToIN",
      " DOTiUNCTUATION SOF PASUQhMARK UPPER DOTmLOWER DOThPUNCTUATION NUN HAFUKHAiOINT QAMATS QATA",
      "N"]),
    (0x5D0, ["HEBREW LETTER ALEFoBEToGIMELoDALEToHEoVAVoZAYINoHEToTEToYODoFINAL KAFoKAFoLAMEDoFINA",
      "L MEMoMEMoFINAL NUNoNUNoSAMEKHoAYINoFINAL PEoPEoFINAL TSADIoTSADIoQOFoRESHoSHINoTAV"]),
    (0x5EF, ["HEBREW YOD TRIANGLEhLIGATURE YIDDISH DOUBLE VAVyVAV YODyDOUBLE YODhPUNCTUATION GERES",
      "HwSHAYIM"]),
    (0x600, ["ARABIC NUMBER SIGNhSIGN SANAHhFOOTNOTE MARKERhSIGN SAFHAoMVAThNUMBER MARK ABOVEg-IND",
      "IC CUBE ROOTnFOURTH ROOTg RAYg-INDIC PER MILLE SIGNrTEN THOUSAND SIGNbFGHANI SIGNbRABIC COM",
      "MAhDATE SEPARATORhPOETIC VERSE SIGNhSIGN MISRAmSALLALLAHOU ALAYHE WASSALLAMmALAYHE ASSALLAM",
      "mRAHMATULLAH ALAYHEoDI ALLAHOU ANHUmTAKHALLUSiMALL HIGH TAHsLIGATURE ALEF WITH LAM WITH YEH",
      "sZAINnFATHAnDAMMAnKASRAiEMICOLONhLETTER MARKhEND OF TEXT MARKhTRIPLE DOT PUNCTUATION MARKhQ",
      "UESTION MARKhLETTER KASHMIRI YEHoHAMZAoALEF WITH MADDA ABOVEyHAMZA ABOVEoWAW WITH HAMZA ABO",
      "VEoALEF WITH HAMZA BELOWoYEH WITH HAMZA ABOVEoALEFoBEHoTEH MARBUTArpHEHoJEEMoHAHoKHAHoDALoT",
      "HALoREHoZAINoSEENpHEENpADoDADoTAHoZAHoAINoGHAINoKEHEH WITH TWO DOTS ABOVEαHREE DOTS BELOWoF",
      "ARSI YEH WITH INVERTED VδTWO DOTS ABOVEεHREE DOTS ABOVEhTATWEELhLETTER FEHoQAFoKAFoLAMoMEEM",
      "oNOONoHEHoWAWoALEF MAKSURAoYEHhFATHATANhDAMMATANhKASRATANhFATHAhDAMMAhKASRAhSHADDAiUKUNhMAD",
      "DAH ABOVEhHAMZA ABOVEnBELOWhSUBSCRIPT ALEFhINVERTED DAMMAhMARK NOON GHUNNAhZWARAKAYhVOWEL S",
      "IGN SMALL V ABOVEsINVERTED SMALL V ABOVEsDOT BELOWhREVERSED DAMMAhFATHA WITH TWO DOTShWAVY ",
      "HAMZA BELOWg-INDIC DIGIT ZEROtONEtTWOuHREEtFOURuIVEtSIXuEVENtEIGHTtNINEg PERCENT SIGNhDECIM",
      "AL SEPARATORhTHOUSANDS SEPARATORhFIVE POINTED STARhLETTER DOTLESS BEHwQAFoSUPERSCRIPT ALEFo",
      "ALEF WASLAuITH WAVY HAMZA ABOVEκBELOWoHIGH HAMZAy ALEFzWAWoU WITH HAMZA ABOVEoHIGH HAMZA YE",
      "HoTTEHsEHoBEEHoTEH WITH RINGxTHREE DOTS ABOVE DOWNWARDSoPEHoTEHEHoBEHEHoHAH WITH HAMZA ABOV",
      "ExTWO DOTS VERTICAL ABOVEoNYEHoDYEHoHAH WITH THREE DOTS ABOVEoTCHEHtEHoDDALpAL WITH RINGxDO",
      "T BELOWη AND SMALL TAHqHALpDAHALpULpAL WITH THREE DOTS ABOVE DOWNWARDSxFOUR DOTS ABOVEoRREH",
      "pEH WITH SMALL VxRINGxDOT BELOWxSMALL V BELOWxDOT BELOW AND DOT ABOVExTWO DOTS ABOVEoJEHoRE",
      "H WITH FOUR DOTS ABOVEoSEEN WITH DOT BELOW AND DOT ABOVEyTHREE DOTS BELOWο AND THREE DOTS A",
      "BOVEpAD WITH TWO DOTS BELOWyHREE DOTS ABOVEoTAH WITH THREE DOTS ABOVEoAIN WITH THREE DOTS A",
      "BOVEoDOTLESS FEHoFEH WITH DOT MOVED BELOWβBELOWoVEHoFEH WITH THREE DOTS BELOWoPEHEHoQAF WIT",
      "H DOT ABOVExTHREE DOTS ABOVEoKEHEHoSWASH KAFoKAF WITH RINGxDOT ABOVEoNGoKAF WITH THREE DOTS",
      " BELOWoGAFr WITH RINGoNGOEHoGAF WITH TWO DOTS BELOWpUEHpAF WITH THREE DOTS ABOVEoLAM WITH S",
      "MALL VxDOT ABOVExTHREE DOTS ABOVEιBELOWoNOON WITH DOT BELOWtGHUNNAoRNOONoNOON WITH RINGyTHR",
      "EE DOTS ABOVEoHEH DOACHASHMEEoTCHEH WITH DOT ABOVEoHEH WITH YEH ABOVEsGOALw WITH HAMZA ABOV",
      "EoTEH MARBUTA GOALoWAW WITH RINGoKIRGHIZ OEoOEoUoYUoKIRGHIZ YUoWAW WITH TWO DOTS ABOVEoVEoF",
      "ARSI YEHoYEH WITH TAILxSMALL VoWAW WITH DOT ABOVEoEoYEH WITH THREE DOTS BELOWsBARREEy WITH ",
      "HAMZA ABOVEhFULL STOPhLETTER AEhSMALL HIGH LIGATURE SAD WITH LAM WITH ALEF MAKSURAβQAF WITH",
      " LAM WITH ALEF MAKSURAsMEEM INITIAL FORMsLAM ALEFsJEEMsTHREE DOTSsSEENhEND OF AYAHhSTART OF",
      " RUB EL HIZBiMALL HIGH ROUNDED ZEROsUPRIGHT RECTANGULAR ZEROsDOTLESS HEAD OF KHAHsMEEM ISOL",
      "ATED FORMnLOW SEENnHIGH MADDAnWAWnYEHnHIGH YEHsNOONhPLACE OF SAJDAHhEMPTY CENTRE LOW STOPuH",
      "IGH STOPhROUNDED HIGH STOP WITH FILLED CENTREhSMALL LOW MEEMhLETTER DAL WITH INVERTED VoREH",
      " WITH INVERTED VaEXTENDED ARABIC-INDIC DIGIT ZEROγONEγTWOδHREEγFOURδIVEγSIXδEVENγEIGHTγNINE",
      "aARABIC LETTER SHEEN WITH DOT BELOWoDAD WITH DOT BELOWoGHAIN WITH DOT BELOWhSIGN SINDHI AMP",
      "ERSANDtPOSTPOSITION MENhLETTER HEH WITH INVERTED VaSYRIAC END OF PARAGRAPHhSUPRALINEAR FULL",
      " STOPjBLINEAR FULL STOPjPRALINEAR COLONjBLINEAR COLONhHORIZONTAL COLONhCOLON SKEWED LEFTuRI",
      "GHThSUPRALINEAR COLON SKEWED LEFTjBLINEAR COLON SKEWED RIGHThCONTRACTIONhHARKLEAN OBELUSqME",
      "TOBELUSqASTERISCUS"]),
    (0x70F, ["SYRIAC ABBREVIATION MARKhLETTER ALAPHoSUPERSCRIPT ALAPHoBETHoGAMALt GARSHUNIoDALATHp",
      "OTLESS DALATH RISHoHEoWAWoZAINoHETHoTETHs GARSHUNIoYUDHs HEoKAPHoLAMADHoMIMoNUNoSEMKATHoFIN",
      "AL SEMKATHoEoPEoREVERSED PEoSADHEoQAPHoRISHoSHINoTAWoPERSIAN BHETHwGHAMALwDHALATHhPTHAHA AB",
      "OVEoBELOWoDOTTEDhZQAPHA ABOVEoBELOWoDOTTEDhRBASA ABOVEnBELOWhDOTTED ZLAMA HORIZONTALuANGULA",
      "RhHBASA ABOVEnBELOWm-ESASA DOTTEDhESASA ABOVEnBELOWhRWAHAhFEMININE DOThQUSHSHAYAhRUKKAKHAhT",
      "WO VERTICAL DOTS ABOVEzBELOWiHREE DOTS ABOVEsBELOWhOBLIQUE LINE ABOVEuBELOWhMUSIChBARREKH"]),
    (0x74D, ["SYRIAC LETTER SOGDIAN ZHAINwKHAPHwFEaARABIC LETTER BEH WITH THREE DOTS HORIZONTALLY ",
      "BELOWxDOT BELOW AND THREE DOTS ABOVExTHREE DOTS POINTING UPWARDS BELOWω BELOW AND TWO DOTS ",
      "ABOVEyWO DOTS BELOW AND DOT ABOVExINVERTED SMALL V BELOWxSMALL VoHAH WITH TWO DOTS ABOVEyHR",
      "EE DOTS POINTING UPWARDS BELOWoDAL WITH TWO DOTS VERTICALLY BELOW AND SMALL TAHxINVERTED SM",
      "ALL V BELOWoREH WITH STROKEoSEEN WITH FOUR DOTS ABOVEoAIN WITH TWO DOTS ABOVEyHREE DOTS POI",
      "NTING DOWNWARDS ABOVEyWO DOTS VERTICALLY ABOVEoFEH WITH TWO DOTS BELOWyHREE DOTS POINTING U",
      "PWARDS BELOWoKEHEH WITH DOT ABOVEzTHREE DOTS ABOVEλPOINTING UPWARDS BELOWoMEEM WITH DOT ABO",
      "VEγBELOWoNOON WITH TWO DOTS BELOWySMALL TAHεVoLAM WITH BARoREH WITH TWO DOTS VERTICALLY ABO",
      "VExHAMZA ABOVEoSEEN WITH TWO DOTS VERTICALLY ABOVEoHAH WITH SMALL ARABIC LETTER TAH BELOWφA",
      "ND TWO DOTSoSEEN WITH SMALL ARABIC LETTER TAH AND TWO DOTSoREH WITH SMALL ARABIC LETTER TAH",
      " AND TWO DOTSoHAH WITH SMALL ARABIC LETTER TAH ABOVEoALEF WITH EXTENDED ARABIC-INDIC DIGIT ",
      "TWO ABOVEωT THREE ABOVEoFARSI YEH WITH EXTENDED ARABIC-INDIC DIGIT TWO ABOVEω DIGIT THREE A",
      "BOVEω DIGIT FOUR BELOWoWAW WITH EXTENDED ARABIC-INDIC DIGIT TWO ABOVEω THREE ABOVEoYEH BARR",
      "EE WITH EXTENDED ARABIC-INDIC DIGIT TWO ABOVEωC DIGIT THREE ABOVEoHAH WITH EXTENDED ARABIC-",
      "INDIC DIGIT FOUR BELOWoSEEN WITH EXTENDED ARABIC-INDIC DIGIT FOUR ABOVEyINVERTED VoKAF WITH",
      " TWO DOTS ABOVEaTHAANA LETTER HAAoSHAVIYANIoNOONUoRAAoBAAoLHAVIYANIoKAAFUoALIFUoVAAVUoMEEMU",
      "oFAAFUoDHAALUoTHAAoLAAMUoGAAFUpNAVIYANIoSEENUoDAVIYANIoZAVIYANIoTAVIYANIoYAAoPAVIYANIoJAVIY",
      "ANIoCHAVIYANIoTTAAoHHAAoKHAAoTHAALUoZAAoSHEENUpAADHUoDAADHUoTOoZOoAINUoGHAINUoQAAFUoWAAVUhA",
      "BAFILIiABAAFILIhIBIFILIhEEBEEFILIhUBUFILIhOOBOOFILIhEBEFILIiYBEYFILIhOBOFILIiABOAFILIhSUKUN",
      "hLETTER NAA"]),
    (0x7C0, ["NKO DIGIT ZEROkONEkTWOlHREEkFOURlIVEkSIXlEVENkEIGHTkNINEeLETTER AlEElIlElUlOOmlDAGBA",
      "SINNAlNlBAlPAlTAlJAlCHAlDAlRAmRAlSAlGBAlFAlKAlLAlNA WOLOSOlMAlNYAmAlHAlWAlYAlNYA WOLOSOlJON",
      "A JAqCHAqRAeCOMBINING SHORT HIGH TONEuLOW TONEuRISING TONEoLONG DESCENDING TONEtHIGH TONEtL",
      "OW TONEtRISING TONEoNASALIZATION MARKoDOUBLE DOT ABOVEeHIGH TONE APOSTROPHEeLOW TONE APOSTR",
      "OPHEeSYMBOL OO DENNENlGBAKURUNENeCOMMAeEXCLAMATION MARKeLAJANYALAN"]),
    (0x7FD, ["NKO DANTAYALANfOROME SIGNeTAMAN SIGNaSAMARITAN LETTER ALAFrBITrGAMANrDALATrIYrBAArZE",
      "NrITrTITrYUTrKAAFrLABATrMIMrNUNrSINGAATrINrFIrTSAADIYrQUFrRISHrSHANrTAAFkMARK INr-ALAFpOCCL",
      "USIONpDAGESHlODIFIER LETTER EPENTHETIC YUTlARK EPENTHETIC YUTkVOWEL SIGN LONG EvEvOVERLONG ",
      "AAvLONG AAvAAvOVERLONG AvLONG AvAkMODIFIER LETTER SHORT AkVOWEL SIGN SHORT AvLONG UvUkMODIF",
      "IER LETTER IkVOWEL SIGN LONG IvIvOvSUKUNkMARK NEQUDAA"]),
    (0x830, ["SAMARITAN PUNCTUATION NEQUDAAwAFSAAQxNGEDwBAUwATMAAUwSHIYYAALAAkABBREVIATION MARKkPU",
      "NCTUATION MELODIC QITSAwZIQAAwQITSAwZAEFwTURUwARKAANUwSOF MASHFAATwANNAAU"]),
    (0x840, ["MANDAIC LETTER HALQApABqGqDqHpUSHENNApAZpITpATTqKSArqLqMqNqSpINpAPqSZqQqRqSHqTpDUSHE",
      "NNApKADpAINiAFFRICATION MARKiVOCALIZATION MARKiGEMINATION MARK"]),
    (0x85E, ["MANDAIC PUNCTUATION"]),
    (0x860, ["SYRIAC LETTER MALAYALAM NGAyJAyNYAyTTAyNNAαNAyBHAyRAyLLAαLAySSA"]),
    (0x870, ["ARABIC LETTER ALEF WITH ATTACHED FATHAθTOP RIGHT FATHAyRIGHT MIDDLE STROKEyLEFT MIDD",
      "LE STROKEyATTACHED KASRAθBOTTOM RIGHT KASRAθROUND DOT ABOVEιIGHT ROUND DOTθLEFT ROUND DOTθR",
      "OUND DOT BELOWyDOT ABOVEyATTACHED TOP RIGHT FATHA AND DOT ABOVEyRIGHT MIDDLE STROKE AND DOT",
      " ABOVEyATTACHED BOTTOM RIGHT KASRA AND DOT ABOVEθTOP RIGHT FATHA AND LEFT RINGyRIGHT MIDDLE",
      " STROKE AND LEFT RINGyATTACHED BOTTOM RIGHT KASRA AND LEFT RINGθRIGHT HAMZAθLEFT HAMZAhTATW",
      "EEL WITH OVERSTRUCK HAMZAζWAWuTWO DOTS BELOWhLETTER THIN YEHhBASELINE ROUND DOThRAISED ROUN",
      "D DOThLETTER NOON WITH INVERTED SMALL VoHAH WITH INVERTED SMALL V BELOWoTAH WITH DOT BELOWx",
      "THREE DOTS BELOWoKEHEH WITH TWO DOTS VERTICALLY BELOWhVERTICAL TAIL"]),
    (0x890, ["ARABIC POUND MARK ABOVEiIASTRE MARK ABOVE"]),
    (0x898, ["ARABIC SMALL HIGH WORD AL-JUZnLOW WORD ISHMAAMxMAALAwTASHEELhMADDA WAAJIBhSUPERSCRIP",
      "T ALEF MOKHASSAShDOUBLED MADDAhHALF MADDA OVER MADDAhLETTER BEH WITH SMALL V BELOWxHAMZA AB",
      "OVEoJEEM WITH TWO DOTS ABOVEoTAH WITH TWO DOTS ABOVEoFEH WITH DOT BELOW AND THREE DOTS ABOV",
      "EoQAF WITH DOT BELOWoLAM WITH DOUBLE BARoMEEM WITH THREE DOTS ABOVEoYEH WITH TWO DOTS BELOW",
      " AND HAMZA ABOVEρDOT ABOVEoREH WITH LOOPoWAW WITH DOT WITHINoROHINGYA YEHoLOW ALEFoDAL WITH",
      " THREE DOTS BELOWoSAD WITH THREE DOTS BELOWoGAF WITH INVERTED STROKEoSTRAIGHT WAWoZAIN WITH",
      " INVERTED V ABOVEoAIN WITH THREE DOTS BELOWoKAF WITH DOT BELOWoQAF WITH DOT BELOW AND NO DO",
      "TS ABOVEoBEH WITH SMALL MEEM ABOVEoPEH WITH SMALL MEEM ABOVEoTEH WITH SMALL TEH ABOVEoREH W",
      "ITH SMALL NOON ABOVEoYEH WITH TWO DOTS BELOW AND SMALL NOON ABOVEoAFRICAN FEHwQAFwNOONoPEH ",
      "WITH SMALL VoTEH WITH SMALL VpTEH WITH SMALL VpCHEH WITH SMALL VoKEHEH WITH SMALL VoGHAIN W",
      "ITH THREE DOTS ABOVEoAFRICAN QAF WITH THREE DOTS ABOVEoJEEM WITH THREE DOTS ABOVEκBELOWoLAM",
      " WITH SMALL ARABIC LETTER TAH ABOVEoGRAFhSMALL FARSI YEHnHIGH FARSI YEHsYEH BARREE WITH TWO",
      " DOTS BELOWsWORD SAHsZAHhLARGE ROUND DOT ABOVExBELOWhSUKUN BELOWhLARGE CIRCLE BELOWnROUND D",
      "OT INSIDE CIRCLE BELOWhSMALL LOW WAWnHIGH WORD AR-RUBsSADsAINsQAFsNOON WITH KASRAnLOW NOON ",
      "WITH KASRAnHIGH WORD ATH-THALATHAyS-SAJDAyN-NISFxSAKTAxQIFxWAQFAsFOOTNOTE MARKERsSIGN SAFHA",
      "hDISPUTED END OF AYAHhTURNED DAMMA BELOWhCURLY FATHAnDAMMAnKASRAnFATHATANnDAMMATANnKASRATAN",
      "hTONE ONE DOT ABOVEmTWO DOTS ABOVEmLOOP ABOVEmONE DOT BELOWmTWO DOTS BELOWmLOOP BELOWhOPEN ",
      "FATHATANmDAMMATANmKASRATANhSMALL HIGH WAWhFATHA WITH RINGsDOT ABOVEhKASRA WITH DOT BELOWhLE",
      "FT ARROWHEAD ABOVEhRIGHT ARROWHEAD ABOVEhLEFT ARROWHEAD BELOWhRIGHT ARROWHEAD BELOWhDOUBLE ",
      "RIGHT ARROWHEAD ABOVEκ WITH DOThRIGHT ARROWHEAD ABOVE WITH DOThDAMMA WITH DOThMARK SIDEWAYS",
      " NOON GHUNNAaDEVANAGARI SIGN INVERTED CANDRABINDUqCANDRABINDUqANUSVARAqVISARGAlLETTER SHORT",
      " AsAtAsItIsUtUsVOCALIC RαLsCANDRA EsSHORT EsEsAIsCANDRA OsSHORT OsOsAUsKAtHAsGAtHAsNGAsCAtH",
      "AsJAtHAsNYAsTTAuHAsDDAuHAsNNAsTAtHAsDAtHAsNAtNNAsPAtHAsBAtHAsMAsYAsRAtRAsLAtLAuLAsVAsSHAtSA",
      "tAsHAlVOWEL SIGN OExOElSIGN NUKTAqAVAGRAHAlVOWEL SIGN AAwIxIwUxUwVOCALIC RζRwCANDRA EwSHORT",
      " EwEwAIwCANDRA OwSHORT OwOwAUlSIGN VIRAMAlVOWEL SIGN PRISHTHAMATRA EwAWlOMlSTRESS SIGN UDAT",
      "TAxANUDATTAlGRAVE ACCENTlACUTE ACCENTlVOWEL SIGN CANDRA LONG EwUExUElLETTER QAsKHHAsGHHAsZA",
      "sDDDHAsRHAsFAsYYAsVOCALIC RRαLLlVOWEL SIGN VOCALIC LζLlDANDAmOUBLE DANDAmIGIT ZEROrONErTWOs",
      "HREErFOURsIVErSIXsEVENrEIGHTrNINElABBREVIATION SIGNlSIGN HIGH SPACING DOTlLETTER CANDRA AsO",
      "EtOEsAWsUEtUEsMARWARI DDAsZHAsHEAVY YAsGGAsJJAsGLOTTAL STOPsDDDAsBBAaBENGALI ANJIiSIGN CAND",
      "RABINDUnANUSVARAnVISARGA"]),
    (0x985, ["BENGALI LETTER AqApIqIpUqUpVOCALIC RxL"]), (0x98F, ["BENGALI LETTER EpAI"]),
    (0x993, ["BENGALI LETTER OpAUpKAqHApGAqHApNGApCAqHApJAqHApNYApTTArHApDDArHApNNApTAqHApDAqHApN",
      "A"]),
    (0x9AA, ["BENGALI LETTER PAqHApBAqHApMApYApRA"]), (0x9B2, ["BENGALI LETTER LA"]),
    (0x9B6, ["BENGALI LETTER SHAqSAqApHA"]),
    (0x9BC, ["BENGALI SIGN NUKTAnAVAGRAHAiVOWEL SIGN AAtIuItUuUtVOCALIC RγR"]),
    (0x9C7, ["BENGALI VOWEL SIGN EtAI"]),
    (0x9CB, ["BENGALI VOWEL SIGN OtAUiSIGN VIRAMAiLETTER KHANDA TA"]),
    (0x9D7, ["BENGALI AU LENGTH MARK"]), (0x9DC, ["BENGALI LETTER RRAqHA"]),
    (0x9DF, ["BENGALI LETTER YYApVOCALIC RRxLLiVOWEL SIGN VOCALIC LγL"]),
    (0x9E6, ["BENGALI DIGIT ZEROoONEoTWOpHREEoFOURpIVEoSIXpEVENoEIGHToNINEiLETTER RA WITH MIDDLE D",
      "IAGONALxLOWER DIAGONALiRUPEE MARKoSIGNiCURRENCY NUMERATOR ONEβTWOγHREEβFOURβONE LESS THAN T",
      "HE DENOMINATORrDENOMINATOR SIXTEENiISSHARiGANDA MARKiLETTER VEDIC ANUSVARAiABBREVIATION SIG",
      "NiSANDHI MARK"]),
    (0xA01, ["GURMUKHI SIGN ADAK BINDIoBINDIoVISARGA"]), (0xA05, ["GURMUKHI LETTER ArAqIrIqUrU"]),
    (0xA0F, ["GURMUKHI LETTER EEqAI"]),
    (0xA13, ["GURMUKHI LETTER OOqAUqKArHAqGArHAqNGAqCArHAqJArHAqNYAqTTAsHAqDDAsHAqNNAqTArHAqDArHAq",
      "NA"]),
    (0xA2A, ["GURMUKHI LETTER PArHAqBArHAqMAqYAqRA"]), (0xA32, ["GURMUKHI LETTER LArLA"]),
    (0xA35, ["GURMUKHI LETTER VAqSHA"]), (0xA38, ["GURMUKHI LETTER SAqHA"]),
    (0xA3C, ["GURMUKHI SIGN NUKTA"]), (0xA3E, ["GURMUKHI VOWEL SIGN AAuIvIuUvU"]),
    (0xA47, ["GURMUKHI VOWEL SIGN EEuAI"]), (0xA4B, ["GURMUKHI VOWEL SIGN OOuAUjSIGN VIRAMA"]),
    (0xA51, ["GURMUKHI SIGN UDAAT"]), (0xA59, ["GURMUKHI LETTER KHHAqGHHAqZAqRRA"]),
    (0xA5E, ["GURMUKHI LETTER FA"]),
    (0xA66, ["GURMUKHI DIGIT ZEROpONEpTWOqHREEpFOURqIVEpSIXqEVENpEIGHTpNINEjTIPPIjADDAKjIRIjURAjEK",
      " ONKARjSIGN YAKASHjABBREVIATION SIGN"]),
    (0xA81, ["GUJARATI SIGN CANDRABINDUoANUSVARAoVISARGA"]),
    (0xA85, ["GUJARATI LETTER ArAqIrIqUrUqVOCALIC RyLjVOWEL CANDRA E"]),
    (0xA8F, ["GUJARATI LETTER EqAIjVOWEL CANDRA O"]),
    (0xA93, ["GUJARATI LETTER OqAUqKArHAqGArHAqNGAqCArHAqJArHAqNYAqTTAsHAqDDAsHAqNNAqTArHAqDArHAqN",
      "A"]),
    (0xAAA, ["GUJARATI LETTER PArHAqBArHAqMAqYAqRA"]), (0xAB2, ["GUJARATI LETTER LArLA"]),
    (0xAB5, ["GUJARATI LETTER VAqSHArSArAqHA"]),
    (0xABC, ["GUJARATI SIGN NUKTAoAVAGRAHAjVOWEL SIGN AAuIvIuUvUuVOCALIC RδRuCANDRA E"]),
    (0xAC7, ["GUJARATI VOWEL SIGN EuAIuCANDRA O"]),
    (0xACB, ["GUJARATI VOWEL SIGN OuAUjSIGN VIRAMA"]), (0xAD0, ["GUJARATI OM"]),
    (0xAE0, ["GUJARATI LETTER VOCALIC RRyLLjVOWEL SIGN VOCALIC LδL"]),
    (0xAE6, ["GUJARATI DIGIT ZEROpONEpTWOqHREEpFOURqIVEpSIXqEVENpEIGHTpNINEjABBREVIATION SIGNjRUPE",
      "E SIGN"]),
    (0xAF9, ["GUJARATI LETTER ZHAjSIGN SUKUNpHADDAoMADDAHoTHREE-DOT NUKTA ABOVEoCIRCLE NUKTA ABOVE",
      "oTWO-CIRCLE NUKTA ABOVE"]),
    (0xB01, ["ORIYA SIGN CANDRABINDUlANUSVARAlVISARGA"]),
    (0xB05, ["ORIYA LETTER AoAnIoInUoUnVOCALIC RvL"]), (0xB0F, ["ORIYA LETTER EnAI"]),
    (0xB13, ["ORIYA LETTER OnAUnKAoHAnGAoHAnNGAnCAoHAnJAoHAnNYAnTTApHAnDDApHAnNNAnTAoHAnDAoHAnNA"]),
    (0xB2A, ["ORIYA LETTER PAoHAnBAoHAnMAnYAnRA"]), (0xB32, ["ORIYA LETTER LAoLA"]),
    (0xB35, ["ORIYA LETTER VAnSHAoSAoAnHA"]),
    (0xB3C, ["ORIYA SIGN NUKTAlAVAGRAHAgVOWEL SIGN AArIsIrUsUrVOCALIC RαR"]),
    (0xB47, ["ORIYA VOWEL SIGN ErAI"]), (0xB4B, ["ORIYA VOWEL SIGN OrAUgSIGN VIRAMA"]),
    (0xB55, ["ORIYA SIGN OVERLINEgAI LENGTH MARKhU LENGTH MARK"]), (0xB5C, ["ORIYA LETTER RRAoHA"]),
    (0xB5F, ["ORIYA LETTER YYAnVOCALIC RRvLLgVOWEL SIGN VOCALIC LαL"]),
    (0xB66, ["ORIYA DIGIT ZEROmONEmTWOnHREEmFOURnIVEmSIXnEVENmEIGHTmNINEgISSHARgLETTER WAgFRACTION",
      " ONE QUARTERtHALFpTHREE QUARTERSpONE SIXTEENTHtEIGHTHpTHREE SIXTEENTHS"]),
    (0xB82, ["TAMIL SIGN ANUSVARAlVISARGA"]), (0xB85, ["TAMIL LETTER AoAnIoInUoU"]),
    (0xB8E, ["TAMIL LETTER EoEnAI"]), (0xB92, ["TAMIL LETTER OoOnAUnKA"]),
    (0xB99, ["TAMIL LETTER NGAnCA"]), (0xB9C, ["TAMIL LETTER JA"]),
    (0xB9E, ["TAMIL LETTER NYAnTTA"]), (0xBA3, ["TAMIL LETTER NNAnTA"]),
    (0xBA8, ["TAMIL LETTER NAoNNAnPA"]),
    (0xBAE, ["TAMIL LETTER MAnYAnRAoRAnLAoLApLAnVAnSHAoSAoAnHA"]),
    (0xBBE, ["TAMIL VOWEL SIGN AArIsIrUsU"]), (0xBC6, ["TAMIL VOWEL SIGN EsErAI"]),
    (0xBCA, ["TAMIL VOWEL SIGN OsOrAUgSIGN VIRAMA"]), (0xBD0, ["TAMIL OM"]),
    (0xBD7, ["TAMIL AU LENGTH MARK"]),
    (0xBE6, ["TAMIL DIGIT ZEROmONEmTWOnHREEmFOURnIVEmSIXnEVENmEIGHTmNINEgNUMBER TENnONE HUNDREDrTH",
      "OUSANDgDAY SIGNgMONTH SIGNgYEAR SIGNgDEBIT SIGNgCREDIT SIGNgAS ABOVE SIGNgRUPEE SIGNgNUMBER",
      " SIGN"]),
    (0xC00, ["TELUGU SIGN COMBINING CANDRABINDU ABOVEnANDRABINDUmANUSVARAmVISARGAmCOMBINING ANUSVA",
      "RA ABOVEhLETTER ApAoIpIoUpUoVOCALIC RwL"]),
    (0xC0E, ["TELUGU LETTER EpEoAI"]),
    (0xC12, ["TELUGU LETTER OpOoAUoKApHAoGApHAoNGAoCApHAoJApHAoNYAoTTAqHAoDDAqHAoNNAoTApHAoDApHAoN",
      "A"]),
    (0xC2A, ["TELUGU LETTER PApHAoBApHAoMAoYAoRApRAoLApLAqLAoVAoSHApSApAoHA"]),
    (0xC3C, ["TELUGU SIGN NUKTAmAVAGRAHAhVOWEL SIGN AAsItIsUtUsVOCALIC RβR"]),
    (0xC46, ["TELUGU VOWEL SIGN EtEsAI"]), (0xC4A, ["TELUGU VOWEL SIGN OtOsAUhSIGN VIRAMA"]),
    (0xC55, ["TELUGU LENGTH MARKhAI LENGTH MARK"]), (0xC58, ["TELUGU LETTER TSAoDZAoRRRA"]),
    (0xC5D, ["TELUGU LETTER NAKAARA POLLU"]),
    (0xC60, ["TELUGU LETTER VOCALIC RRwLLhVOWEL SIGN VOCALIC LβL"]),
    (0xC66, ["TELUGU DIGIT ZEROnONEnTWOoHREEnFOURoIVEnSIXoEVENnEIGHTnNINE"]),
    (0xC77, ["TELUGU SIGN SIDDHAMhFRACTION DIGIT ZERO FOR ODD POWERS OF FOURwONE FOR ODD POWERS OF",
      " FOURwTWO FOR ODD POWERS OF FOURxHREE FOR ODD POWERS OF FOURwONE FOR EVEN POWERS OF FOURwTW",
      "O FOR EVEN POWERS OF FOURxHREE FOR EVEN POWERS OF FOURhSIGN TUUMUaKANNADA SIGN SPACING CAND",
      "RABINDUnCANDRABINDUnANUSVARAnVISARGAnSIDDHAMiLETTER AqApIqIpUqUpVOCALIC RxL"]),
    (0xC8E, ["KANNADA LETTER EqEpAI"]),
    (0xC92, ["KANNADA LETTER OqOpAUpKAqHApGAqHApNGApCAqHApJAqHApNYApTTArHApDDArHApNNApTAqHApDAqHAp",
      "NA"]),
    (0xCAA, ["KANNADA LETTER PAqHApBAqHApMApYApRAqRApLAqLA"]),
    (0xCB5, ["KANNADA LETTER VApSHAqSAqApHA"]),
    (0xCBC, ["KANNADA SIGN NUKTAnAVAGRAHAiVOWEL SIGN AAtIuItUuUtVOCALIC RγR"]),
    (0xCC6, ["KANNADA VOWEL SIGN EuEtAI"]), (0xCCA, ["KANNADA VOWEL SIGN OuOtAUiSIGN VIRAMA"]),
    (0xCD5, ["KANNADA LENGTH MARKiAI LENGTH MARK"]), (0xCDD, ["KANNADA LETTER NAKAARA POLLUpFA"]),
    (0xCE0, ["KANNADA LETTER VOCALIC RRxLLiVOWEL SIGN VOCALIC LγL"]),
    (0xCE6, ["KANNADA DIGIT ZEROoONEoTWOpHREEoFOURpIVEoSIXpEVENoEIGHToNINE"]),
    (0xCF1, ["KANNADA SIGN JIHVAMULIYAnUPADHMANIYA"]),
    (0xD00, ["MALAYALAM SIGN COMBINING ANUSVARA ABOVEqANDRABINDUpANUSVARApVISARGAkLETTER VEDIC ANU",
      "SVARArAsArIsIrUsUrVOCALIC RzL"]),
    (0xD0E, ["MALAYALAM LETTER EsErAI"]),
    (0xD12, ["MALAYALAM LETTER OsOrAUrKAsHArGAsHArNGArCAsHArJAsHArNYArTTAtHArDDAtHArNNArTAsHArDAsH",
      "ArNAsNNArPAsHArBAsHArMArYArRAsRArLAsLAtLArVArSHAsSAsArHArTTTAkSIGN VERTICAL BAR VIRAMApCIRC",
      "ULAR VIRAMApAVAGRAHAkVOWEL SIGN AAvIwIvUwUvVOCALIC RεR"]),
    (0xD46, ["MALAYALAM VOWEL SIGN EwEvAI"]),
    (0xD4A, ["MALAYALAM VOWEL SIGN OwOvAUkSIGN VIRAMAkLETTER DOT REPHkSIGN PARA"]),
    (0xD54, ["MALAYALAM LETTER CHILLU MyYyLLLkAU LENGTH MARKkFRACTION ONE ONE-HUNDRED-AND-SIXTIETH",
      "xFORTIETHtTHREE EIGHTIETHStONE TWENTIETHyENTHtTHREE TWENTIETHStONE FIFTHkLETTER ARCHAIC IIr",
      "VOCALIC RRzLLkVOWEL SIGN VOCALIC LεL"]),
    (0xD66, ["MALAYALAM DIGIT ZEROqONEqTWOrHREEqFOURrIVEqSIXrEVENqEIGHTqNINEkNUMBER TENrONE HUNDRE",
      "DvTHOUSANDkFRACTION ONE QUARTERxHALFtTHREE QUARTERStONE SIXTEENTHxEIGHTHtTHREE SIXTEENTHSkD",
      "ATE MARKkLETTER CHILLU NNzyRRyLzLyK"]),
    (0xD81, ["SINHALA SIGN CANDRABINDUnANUSVARAYAnVISARGAYA"]),
    (0xD85, ["SINHALA LETTER AYANNAqAYANNAqEYANNArEYANNApIYANNAqIYANNApUYANNAqUYANNApIRUYANNAsUYAN",
      "NAqLUYANNAsUYANNApEYANNAqEYANNApAIYANNApOYANNAqOYANNApAUYANNA"]),
    (0xD9A, ["SINHALA LETTER ALPAPRAANA KAYANNApMAHAAPRAANA KAYANNApALPAPRAANA GAYANNApMAHAAPRAANA",
      " GAYANNApKANTAJA NAASIKYAYApSANYAKA GAYANNApALPAPRAANA CAYANNApMAHAAPRAANA CAYANNApALPAPRAA",
      "NA JAYANNApMAHAAPRAANA JAYANNApTAALUJA NAASIKYAYAxSANYOOGA NAAKSIKYAYApSANYAKA JAYANNApALPA",
      "PRAANA TTAYANNApMAHAAPRAANA TTAYANNApALPAPRAANA DDAYANNApMAHAAPRAANA DDAYANNAqUURDHAJA NAYA",
      "NNApSANYAKA DDAYANNApALPAPRAANA TAYANNApMAHAAPRAANA TAYANNApALPAPRAANA DAYANNApMAHAAPRAANA ",
      "DAYANNApDANTAJA NAYANNA"]),
    (0xDB3, ["SINHALA LETTER SANYAKA DAYANNApALPAPRAANA PAYANNApMAHAAPRAANA PAYANNApALPAPRAANA BAY",
      "ANNApMAHAAPRAANA BAYANNArYANNApAMBA BAYANNApYAYANNApRAYANNA"]),
    (0xDBD, ["SINHALA LETTER DANTAJA LAYANNA"]),
    (0xDC0, ["SINHALA LETTER VAYANNApTAALUJA SAYANNApMUURDHAJA SAYANNApDANTAJA SAYANNApHAYANNApMUU",
      "RDHAJA LAYANNApFAYANNA"]),
    (0xDCA, ["SINHALA SIGN AL-LAKUNA"]),
    (0xDCF, ["SINHALA VOWEL SIGN AELA-PILLAtKETTI AEDA-PILLAtDIGA AEDA-PILLAtKETTI IS-PILLAtDIGA I",
      "S-PILLAtKETTI PAA-PILLA"]),
    (0xDD6, ["SINHALA VOWEL SIGN DIGA PAA-PILLA"]),
    (0xDD8, ["SINHALA VOWEL SIGN GAETTA-PILLAtKOMBUVAtDIGA KOMBUVAtKOMBU DEKAyVA HAA AELA-PILLAζDI",
      "GA AELA-PILLAζGAYANUKITTAtGAYANUKITTA"]),
    (0xDE6, ["SINHALA LITH DIGIT ZEROtONEtTWOuHREEtFOURuIVEtSIXuEVENtEIGHTtNINE"]),
    (0xDF2, ["SINHALA VOWEL SIGN DIGA GAETTA-PILLAαYANUKITTAiPUNCTUATION KUNDDALIYA"]),
    (0xE01, ["THAI CHARACTER KO KAIqHO KHAIvUATvWAIvONtRAKHANGpNGO NGUpCHO CHANvINGvANGpSO SOpCHO ",
      "CHOEpYO YINGpDO CHADApTO PATAKqHO THANtNANGMONTHOtPHUTHAOpNO NENpDO DEKpTO TAOqHO THUNGvAHA",
      "NvONGpNO NUpBO BAIMAIpPO PLAqHO PHUNGpFO FApPHO PHANpFO FANpPHO SAMPHAOpMO MApYO YAKpRO RUA",
      "qUpLO LINGqUpWO WAENpSO SALAsRUSIsSUApHO HIPpLO CHULApO ANGpHO NOKHUKpPAIYANNOIpSARA ApMAI ",
      "HAN-AKATpSARA AAvMuIvIuUEwEvvUpPHINTHU"]),
    (0xE3F, ["THAI CURRENCY SYMBOL BAHTgHARACTER SARA EuAEuOuAI MAIMUANβALAIpLAKKHANGYAOpMAIYAMOKs",
      "TAIKHUs EKtTHOuRItCHATTAWApTHANTHAKHATpNIKHAHITpYAMAKKANpFONGMANfDIGIT ZEROlONElTWOmHREElFO",
      "URmIVElSIXmEVENlEIGHTlNINEfCHARACTER ANGKHANKHUpKHOMUT"]),
    (0xE81, ["LAO LETTER KOmHO SUNG"]), (0xE84, ["LAO LETTER KHO TAM"]),
    (0xE86, ["LAO LETTER PALI GHAlNGOlCOlPALI CHAlSO TAM"]),
    (0xE8C, ["LAO LETTER PALI JHAlNYOlPALI NYAqTTAsHAqDDAsHAqNNAlDOlTOmHO SUNGpTAMlPALI DHAlNOlBOl",
      "POmHO SUNGlFO TAMlPHO TAMlFO SUNGlPALI BHAlMOlYOlLO LING"]),
    (0xEA5, ["LAO LETTER LO LOOT"]),
    (0xEA7, ["LAO LETTER WOlSANSKRIT SHAvSAmO SUNGlHO SUNGlPALI LLAlOlHO TAMeELLIPSISeVOWEL SIGN A",
      "pMAI KANpAAqMpIqIpYqYpUqUeSIGN PALI VIRAMAeVOWEL SIGN MAI KONeSEMIVOWEL SIGN LOtNYO"]),
    (0xEC0, ["LAO VOWEL SIGN EqIpOpAYqI"]), (0xEC6, ["LAO KO LA"]),
    (0xEC8, ["LAO TONE MAI EKnTHOoInCATAWAeCANCELLATION MARKeNIGGAHITA"]),
    (0xED0, ["LAO DIGIT ZEROkONEkTWOlHREEkFOURlIVEkSIXlEVENkEIGHTkNINE"]),
    (0xEDC, ["LAO HO NOhMOeLETTER KHMU GOqNYO"]),
    (0xF00, ["TIBETAN SYLLABLE OMiMARK GTER YIG MGO TRUNCATED Aα-UM RNAM BCAD MAεGTER TSHEG MAnINI",
      "TIAL YIG MGO MDUN MAnCLOSING YIG MGO SGAB MAoARET YIG MGO PHUR SHAD MAnYIG MGO TSHEG SHAD M",
      "AnSBRUL SHADnBSKUR YIG MGOoKA- SHOG YIG MGOnINTERSYLLABIC TSHEGnDELIMITER TSHEG BSTARnSHADn",
      "NYIS SHADnTSHEG SHADnNYIS TSHEG SHADnRIN CHEN SPUNGS SHADoGYA GRAM SHADnCARET -DZUD RTAGS M",
      "E LONG CANnGTER TSHEGiLOGOTYPE SIGN CHAD RTAGSwLHAG RTAGSiASTROLOGICAL SIGN SGRA GCAN -CHAR",
      " RTAGSα-KHYUD PAαSDONG TSHUGSiSIGN RDEL DKAR GCIGyNYISySUMsNAG GCIGxNYISsDKAR RDEL NAGiDIGI",
      "T ZEROoONEoTWOpHREEoFOURpIVEoSIXpEVENoEIGHToNINEoHALF ONEtTWOuHREEtFOURuIVEtSIXuEVENtEIGHTt",
      "NINEtZEROiMARK BSDUS RTAGSnNGAS BZUNG NYI ZLAnCARET -DZUD RTAGS BZHI MIG CANnNGAS BZUNG SGO",
      "R RTAGSnCHE MGOnTSA -PHRUnGUG RTAGS GYONzASnANG KHANG GYONzASiSIGN YAR TSHESnMAR TSHESiLETT",
      "ER KAqHApGAqHApNGApCAqHApJA"]),
    (0xF49, ["TIBETAN LETTER NYApTTArHApDDArHApNNApTAqHApDAqHApNApPAqHApBAqHApMApTSArHApDZArHApWAp",
      "ZHAqAp-ApYApRApLApSHAqSAqApHApApKSSApFIXED-FORM RApKKApRRA"]),
    (0xF71, ["TIBETAN VOWEL SIGN AAtIuItUuUtVOCALIC RγRβLγLtEuEtOuOiSIGN RJES SU NGA ROoNAM BCADiV",
      "OWEL SIGN REVERSED IδIiSIGN NYI ZLA NAA DAnSNA LDANiMARK HALANTAnPALUTAiSIGN LCI RTAGSnYANG",
      " RTAGSnLCE TSA CANnMCHU CANnGRU CAN RGYINGSrMED RGYINGSnINVERTED MCHU CANjUBJOINED SIGN LCE",
      " TSA CANxMCHU CANxINVERTED MCHU CANsLETTER KAαHAzGAαHAzNGAzCAαHAzJA"]),
    (0xF99, ["TIBETAN SUBJOINED LETTER NYAzTTAβHAzDDAβHAzNNAzTAαHAzDAαHAzNAzPAαHAzBAαHAzMAzTSAβHAz",
      "DZAβHAzWAzZHAαAz-AzYAzRAzLAzSHAαSAαAzHAzAzKSSAzFIXED-FORM WAλYAλRA"]),
    (0xFBE, ["TIBETAN KU RU KHAr BZHI MIG CANiCANTILLATION SIGN HEAVY BEATαLIGHT BEATαCANG TE-UαSB",
      "UB -CHALiSYMBOL DRIL BUpRDO RJEpPADMA GDANpRDO RJE RGYA GRAMpPHUR PApNOR BUv NYIS -KHYILwGS",
      "UM -KHYILwBZHI -KHYIL"]),
    (0xFCE, ["TIBETAN SIGN RDEL NAG RDEL DKARwGSUMiMARK BSKA- SHOG GI MGO RGYANnMNYAM YIG GI MGO R",
      "GYANnNYIS TSHEGnINITIAL BRDA RNYING YIG MGO MDUN MAnCLOSING BRDA RNYING YIG MGO SGAB MAaRIG",
      "HT-FACING SVASTI SIGNaLEFT-FACING SVASTI SIGNaRIGHT-FACING SVASTI SIGN WITH DOTSaLEFT-FACIN",
      "G SVASTI SIGN WITH DOTSaTIBETAN MARK LEADING MCHAN RTAGSnTRAILING MCHAN RTAGS"]),
    (0x1000, ["MYANMAR LETTER KAqHApGAqHApNGApCAqHApJAqHApNYAqNYApTTArHApDDArHApNNApTAqHApDAqHApNA",
      "pPAqHApBAqHApMApYApRApLApWApSApHApLLApApSHAN ApIqIpUqUpEpMON EpOpAUiVOWEL SIGN TALL AAtAAtI",
      "uItUuUtEtAItMON IIxOtE ABOVEiSIGN ANUSVARAnDOT BELOWnVISARGApRAMAnASATiCONSONANT SIGN MEDIA",
      "L YAεRAεWAεHAiLETTER GREAT SAiDIGIT ZEROoONEoTWOpHREEoFOURpIVEoSIXpEVENoEIGHToNINEiSIGN LIT",
      "TLE SECTIONnSECTIONjYMBOL LOCATIVEpCOMPLETEDpAFOREMENTIONEDpGENITIVEiLETTER SHAqSApVOCALIC ",
      "RyRxLyLiVOWEL SIGN VOCALIC RγRβLγLiLETTER MON NGAtJHAtBBAvEiCONSONANT SIGN MON MEDIAL NAιMA",
      "ιLAiLETTER SGAW KAREN SHAiVOWEL SIGN SGAW KAREN EUiTONE MARK SGAW KAREN HATHIδKE PHOiLETTER",
      " WESTERN PWO KAREN THAθPWAiVOWEL SIGN WESTERN PWO KAREN EUμUEiSIGN WESTERN PWO KAREN TONE-1",
      "λ2λ3λ4λ5iLETTER EASTERN PWO KAREN NNAθYWAθGHWAiVOWEL SIGN GEBA KAREN ItKAYAH OEzUzEEiLETTER",
      " SHAN KAvHAuGAuCAuZAuNYAuDAuNAuPHAuFAuBAuTHAuHAiCONSONANT SIGN SHAN MEDIAL WAiVOWEL SIGN SH",
      "AN AAyEz ABOVEyFINAL YiSIGN SHAN TONE-2x3x5x6sCOUNCIL TONE-2ζ3αEMPHATIC TONEiLETTER RUMAI P",
      "ALAUNG FAiSIGN RUMAI PALAUNG TONE-5jHAN DIGIT ZEROtONEtTWOuHREEtFOURuIVEtSIXuEVENtEIGHTtNIN",
      "EjIGN KHAMTI TONE-1z3iVOWEL SIGN AITON AαIiSYMBOL SHAN ONEuEXCLAMATIONaGEORGIAN CAPITAL LET",
      "TER ANyBANyGANyDONyENyVINyZENyTANyINyKANyLASyMANyNARyONyPARyZHARyRAEySANyTARyUNyPHARyKHARyG",
      "HANyQARySHINyCHINzANyJILyCILzHARyXANyJHANyHAEzEzIEyWEyHARzOE"]),
    (0x10C7, ["GEORGIAN CAPITAL LETTER YN"]), (0x10CD, ["GEORGIAN CAPITAL LETTER AEN"]),
    (0x10D0, ["GEORGIAN LETTER ANqBANqGANqDONqENqVINqZENqTANqINqKANqLASqMANqNARqONqPARqZHARqRAEqSA",
      "NqTARqUNqPHARqKHARqGHANqQARqSHINqCHINrANqJILqCILrHARqXANqJHANqHAErErIEqWEqHARrOEqFIqYNqELIF",
      "IqTURNED GANqAINjPARAGRAPH SEPARATORaMODIFIER LETTER GEORGIAN NARaGEORGIAN LETTER AENqHARD ",
      "SIGNqLABIAL SIGNaHANGUL CHOSEONG KIYEOKqSSANGKIYEOKqNIEUNqTIKEUTqSSANGTIKEUTqRIEULqMIEUMqPI",
      "EUPqSSANGPIEUPrIOSrSANGSIOSqIEUNGqCIEUCqSSANGCIEUCqCHIEUCHqKHIEUKHqTHIEUTHqPHIEUPHqHIEUHqNI",
      "EUN-KIYEOKqSSANGNIEUNqNIEUN-TIKEUTwPIEUPqTIKEUT-KIYEOKqRIEUL-NIEUNqSSANGRIEULqRIEUL-HIEUHqK",
      "APYEOUNRIEULqMIEUM-PIEUPqKAPYEOUNMIEUMqPIEUP-KIYEOKwNIEUNwTIKEUTwSIOSα-KIYEOKβTIKEUTβPIEUPx",
      "SANGSIOSxIOS-CIEUCwCIEUCxHIEUCHwTHIEUTHwPHIEUPHqKAPYEOUNPIEUPySSANGPIEUPqSIOS-KIYEOKvNIEUNv",
      "TIKEUTvRIEULvMIEUMvPIEUPα-KIYEOKvSSANGSIOSvIEUNGvCIEUCwHIEUCHvKHIEUKHvTHIEUTHvPHIEUPHvHIEUH",
      "qCHITUEUMSIOSzSANGSIOSrEONGCHIEUMSIOSγSANGSIOSqPANSIOSqIEUNG-KIYEOKwTIKEUTwMIEUMwPIEUPwSIOS",
      "wPANSIOSqSSANGIEUNGqIEUNG-CIEUCxHIEUCHwTHIEUTHwPHIEUPHqYESIEUNGqCIEUC-IEUNGrHITUEUMCIEUCySS",
      "ANGCIEUCrEONGCHIEUMCIEUCβSSANGCIEUCrHIEUCH-KHIEUKHyHIEUHtTUEUMCHIEUCHrEONGCHIEUMCHIEUCHqPHI",
      "EUPH-PIEUPqKAPYEOUNPHIEUPHqSSANGHIEUHqYEORINHIEUHqKIYEOK-TIKEUTqNIEUN-SIOSwCIEUCwHIEUHqTIKE",
      "UT-RIEULqFILLERhJUNGSEONG FILLERrAsErYAtErEOsrYEOtrOrWAtErOErYOrUrWEOtsIrYUrEUrYIrIrA-OtUrY",
      "A-OuYOrEO-OuUuEUrYEO-OvUrO-EOutYEtOtUrYO-YAwEvEOuOuIrU-AuEtEO-EUtYEtUrYU-AuEOvuYEOwuUuIrEU-",
      "UuEUrYI-UrI-AtYAtOtUtEUtARAEArARAEAw-EOxUxIrSSANGARAEArA-EUrYA-UsEO-YArO-YAvEiONGSEONG KIYE",
      "OKrSSANGKIYEOKrKIYEOK-SIOSrNIEUNw-CIEUCxHIEUHrTIKEUTrRIEULw-KIYEOKxMIEUMxPIEUPxSIOSxTHIEUTH",
      "xPHIEUPHxHIEUHrMIEUMrPIEUPw-SIOSrSIOSsSANGSIOSrIEUNGrCIEUCsHIEUCHrKHIEUKHrTHIEUTHrPHIEUPHrH",
      "IEUHrKIYEOK-RIEULySIOS-KIYEOKrNIEUN-KIYEOKxTIKEUTxSIOSxPANSIOSxTHIEUTHrTIKEUT-KIYEOKyRIEULr",
      "RIEUL-KIYEOK-SIOSxNIEUNxTIKEUTδ-HIEUHrSSANGRIEULrRIEUL-MIEUM-KIYEOKδSIOSxPIEUP-SIOSδHIEUHxK",
      "APYEOUNPIEUPxSSANGSIOSxPANSIOSxKHIEUKHxYEORINHIEUHrMIEUM-KIYEOKxRIEULxPIEUPxSIOSySANGSIOSxP",
      "ANSIOSxCHIEUCHxHIEUHrKAPYEOUNMIEUMrPIEUP-RIEULxPHIEUPHxHIEUHrKAPYEOUNPIEUPrSIOS-KIYEOKwTIKE",
      "UTwRIEULwPIEUPrPANSIOSrIEUNG-KIYEOKxSSANGKIYEOKrSSANGIEUNGrIEUNG-KHIEUKHrYESIEUNGz-SIOSαPAN",
      "SIOSrPHIEUPH-PIEUPrKAPYEOUNPHIEUPHrHIEUH-NIEUNxRIEULxMIEUMxPIEUPrYEORINHIEUHrKIYEOK-NIEUNyP",
      "IEUPyCHIEUCHyKHIEUKHyHIEUHrSSANGNIEUNaETHIOPIC SYLLABLE HAtUtItAAtEEutOuAsLAtUtItAAtEEutOtW",
      "AsHHAuUuIuAAuEEvuOuWAsMAtUtItAAtEEutOtWAsSZAuUuIuAAuEEvuOuWAsRAtUtItAAtEEutOtWAsSAtUtItAAtE",
      "EutOtWAtHAuUuIuAAuEEvuOuWAsQAtUtItAAtEEutOuAtWA"]),
    (0x124A, ["ETHIOPIC SYLLABLE QWIuAAuEEv"]), (0x1250, ["ETHIOPIC SYLLABLE QHAuUuIuAAuEEvuO"]),
    (0x1258, ["ETHIOPIC SYLLABLE QHWA"]), (0x125A, ["ETHIOPIC SYLLABLE QHWIvAAvEEw"]),
    (0x1260, ["ETHIOPIC SYLLABLE BAtUtItAAtEEutOtWAsVAtUtItAAtEEutOtWAsTAtUtItAAtEEutOtWAsCAtUtItA",
      "AtEEutOtWAsXAtUtItAAtEEutOuAtWA"]),
    (0x128A, ["ETHIOPIC SYLLABLE XWIuAAuEEv"]),
    (0x1290, ["ETHIOPIC SYLLABLE NAtUtItAAtEEutOtWAtYAuUuIuAAuEEvuOuWAsGLOTTAL AαUαIαAAαEEβαOαWAsK",
      "AtUtItAAtEEutOuAtWA"]),
    (0x12B2, ["ETHIOPIC SYLLABLE KWIuAAuEEv"]), (0x12B8, ["ETHIOPIC SYLLABLE KXAuUuIuAAuEEvuO"]),
    (0x12C0, ["ETHIOPIC SYLLABLE KXWA"]), (0x12C2, ["ETHIOPIC SYLLABLE KXWIvAAvEEw"]),
    (0x12C8, ["ETHIOPIC SYLLABLE WAtUtItAAtEEutOuAsPHARYNGEAL AδUδIδAAδEEεδO"]),
    (0x12D8, ["ETHIOPIC SYLLABLE ZAtUtItAAtEEutOtWAtHAuUuIuAAuEEvuOuWAsYAtUtItAAtEEutOuAsDAtUtItAA",
      "tEEutOtWAtDAuUuIuAAuEEvuOuWAsJAtUtItAAtEEutOtWAsGAtUtItAAtEEutOuAtWA"]),
    (0x1312, ["ETHIOPIC SYLLABLE GWIuAAuEEv"]),
    (0x1318, ["ETHIOPIC SYLLABLE GGAuUuIuAAuEEvuOuWAAsTHAuUuIuAAuEEvuOuWAsCHAuUuIuAAuEEvuOuWAsPHAu",
      "UuIuAAuEEvuOuWAsTSAuUuIuAAuEEvuOuWAtZAuUuIuAAuEEvuOvAsFAtUtItAAtEEutOtWAsPAtUtItAAtEEutOtWA",
      "sRYAsMYAsFYA"]),
    (0x135D, ["ETHIOPIC COMBINING GEMINATION AND VOWEL LENGTH MARKtVOWEL LENGTH MARKtGEMINATION MA",
      "RKjSECTION MARKjWORDSPACEjFULL STOPjCOMMAjSEMICOLONjCOLONjPREFACE COLONjQUESTION MARKjPARAG",
      "RAPH SEPARATORjDIGIT ONEpTWOqHREEpFOURqIVEpSIXqEVENpEIGHTpNINEjNUMBER TENrWENTYrHIRTYqFORTY",
      "rIFTYqSIXTYrEVENTYqEIGHTYqNINETYqHUNDREDqTEN THOUSAND"]),
    (0x1380, ["ETHIOPIC SYLLABLE SEBATBEIT MWAsMWIuEEvsSEBATBEIT BWAsBWIuEEvsSEBATBEIT FWAsFWIuEEv",
      "sSEBATBEIT PWAsPWIuEEvjTONAL MARK YIZETuDERETuRIKRIKuSHORT RIKRIKuDIFATuKENATuCHIRETuHIDETu",
      "DERET-HIDETuKURT"]),
    (0x13A0, ["CHEROKEE LETTER AqEqIqOqUqVqGAqKAqGErIrOrUrVqHArErIrOrUrVqLArErIrOrUrVqMArErIrOrUqN",
      "AqHNAqNAHrErIrOrUrVqQUAsEsIsOsUsVqSArrErIrOrUrVqDAqTAqDEqTEqDIqTIqDOrUrVrLAqTLAsEsIsOsUsVrS",
      "AsEsIsOsUsVqWArErIrOrUrVqYArErIrOrUrVqMV"]),
    (0x13F8, ["CHEROKEE SMALL LETTER YExIxOxUxVwMV"]),
    (0x1400, ["CANADIAN SYLLABICS HYPHENtEtAAItIuItOuOtY-CREE OOtCARRIER EEβItAuAtWEvST-CREE WEuIu",
      "EST-CREE WIuIIuEST-CREE WIIuOuEST-CREE WOuOOuEST-CREE WOOtNASKAPI WOOtWAuEST-CREE WAuAAuEST",
      "-CREE WAAtNASKAPI WAAtAItY-CREE WtGLOTTAL STOPtFINAL ACUTEzGRAVEzBOTTOM HALF RINGzTOP HALF ",
      "RINGzRIGHT HALF RINGβNGzDOUBLE ACUTEηSHORT VERTICAL STROKESzMIDDLE DOTzSHORT HORIZONTAL STR",
      "OKEzPLUSzDOWN TACKtENtINtONtANtPEuAAIuIvIuOvOtY-CREE POOtCARRIER HEEγItPAvAuWEtWEST-CREE PW",
      "EtPWItWEST-CREE PWItPWIItWEST-CREE PWIItPWOtWEST-CREE PWOtPWOOtWEST-CREE PWOOtPWAtWEST-CREE",
      " PWAtPWAAtWEST-CREE PWAAtY-CREE PWAAtPtWEST-CREE PtCARRIER HtTEuAAIuIvIuOvOtY-CREE TOOtCARR",
      "IER DEEγItTAvAuWEtWEST-CREE TWEtTWItWEST-CREE TWItTWIItWEST-CREE TWIItTWOtWEST-CREE TWOtTWO",
      "OtWEST-CREE TWOOtTWAtWEST-CREE TWAtTWAAtWEST-CREE TWAAtNASKAPI TWAAtTuTEvIvOvAtKEuAAIuIvIuO",
      "vOtY-CREE KOOtKAvAuWEtWEST-CREE KWEtKWItWEST-CREE KWItKWIItWEST-CREE KWIItKWOtWEST-CREE KWO",
      "tKWOOtWEST-CREE KWOOtKWAtWEST-CREE KWAtKWAAtWEST-CREE KWAAtNASKAPI KWAAtKuWtSOUTH-SLAVEY KE",
      "HθIHθOHθAHtCEuAAIuIvIuOvOtY-CREE COOtCAvAuWEtWEST-CREE CWEtCWItWEST-CREE CWItCWIItWEST-CREE",
      " CWIItCWOtWEST-CREE CWOtCWOOtWEST-CREE CWOOtCWAtWEST-CREE CWAtCWAAtWEST-CREE CWAAtNASKAPI C",
      "WAAtCtSAYISI THtMEuAAIuIvIuOvOtY-CREE MOOtMAvAuWEtWEST-CREE MWEtMWItWEST-CREE MWItMWIItWEST",
      "-CREE MWIItMWOtWEST-CREE MWOtMWOOtWEST-CREE MWOOtMWAtWEST-CREE MWAtMWAAtWEST-CREE MWAAtNASK",
      "API MWAAtMtWEST-CREE MtMHtATHAPASCAN MtSAYISI MtNEuAAIuIvIuOvOtY-CREE NOOtNAvAuWEtWEST-CREE",
      " NWEtNWAtWEST-CREE NWAtNWAAtWEST-CREE NWAAtNASKAPI NWAAutCARRIER NGtNHtLEuAAIuIvIuOvOtY-CRE",
      "E LOOtLAvAuWEtWEST-CREE LWEtLWItWEST-CREE LWItLWIItWEST-CREE LWIItLWOtWEST-CREE LWOtLWOOtWE",
      "ST-CREE LWOOtLWAtWEST-CREE LWAtLWAAtWEST-CREE LWAAtLtWEST-CREE LtMEDIAL LtSEuAAIuIvIuOvOtY-",
      "CREE SOOtSAvAuWEtWEST-CREE SWEtSWItWEST-CREE SWItSWIItWEST-CREE SWIItSWOtWEST-CREE SWOtSWOO",
      "tWEST-CREE SWOOtSWAtWEST-CREE SWAtSWAAtWEST-CREE SWAAtNASKAPI SWAAtStATHAPASCAN StSWtBLACKF",
      "OOT StMOOSE-CREE SKtNASKAPI SKWγ-WγPWAγTWAγKWAγCWAtSHEvIwIvOwOvAwAvWEtWEST-CREE SHWEtSHWItW",
      "EST-CREE SHWItSHWIItWEST-CREE SHWIItSHWOtWEST-CREE SHWOtSHWOOtWEST-CREE SHWOOtSHWAtWEST-CRE",
      "E SHWAtSHWAAtWEST-CREE SHWAAtSHtYEuAAIuIvIuOvOu-CREE YOOuAvAuWEtWEST-CREE YWEtYWItWEST-CREE",
      " YWItYWIItWEST-CREE YWIItYWOtWEST-CREE YWOtYWOOtWEST-CREE YWOOtYWAtWEST-CREE YWAtYWAAtWEST-",
      "CREE YWAAtNASKAPI YWAAtYtBIBLE-CREE YtWEST-CREE YtSAYISI YItREu-CREE REtWEST-CREE LEtRAAIuI",
      "vIuOvOtWEST-CREE LOtRAvAtWEST-CREE LAtRWAAtWEST-CREE RWAAtRtWEST-CREE RtMEDIAL RtFEuAAIuIvI",
      "uOvOuAvAuWAAtWEST-CREE FWAAtFtTHEtN-CREE THEtTHItN-CREE THItTHIItN-CREE THIItTHOwOvAwAvWAAt",
      "WEST-CREE THWAAtTHuTHEwIwOwAwuYEvIvOvAtNUNAVIK HEγIδIγOδOγAδAγyUT HtHKtQAAIuIvIuOvOuAvAutTL",
      "HEwIwOwAtWEST-CREE REεIεOεAtNGAAIvIwIvOwOvAwAvuNGtSAYISI SHEγIγOγAtWOODS-CREE THEηIηOηAηtLH",
      "IwIvOwOvAwAvtTH-CREE THEδIεIδOεOδAεAδtAIVILIK BtBLACKFOOT EδIδOδAδWEεIεOεAδNEεIεOεAδKEεIεOε",
      "AtSAYISI HEβIβOβAtCARRIER GHUδOδEεEδIδAβRUγOγEδEγIγAβWUγOγEδEγIγAβHWUδOδEεEδIδAβTHUδOδEεEδI",
      "δAγTUδOδEεEδIδAβPUγOγEδEγIγAγβGUγOγEδEγIγAβKHUδOδEεEδIδAγKUδOδEεEδIδAδβNUγOγEδEγIγAβMUγOγEδ",
      "EγIγAβYUγOγEδEγIγAβJUtSAYISI JUtCARRIER JOγEδEγItSAYISI JItCARRIER JAγJUδOδEεEδIδAβLUγOγEδE",
      "γIγAβDLUδOδEεEδIδAβLHUδOδEεEδIδAβTLHUεOεEζEεIεAδUδOδEεEδIδAβZUγOγEδEγIγAγβINITIAL ZβDZUδOδE",
      "εEδIδAβSUγOγEδEγIγAγHUδOδEεEδIδAδβTSUδOδEεEδIδAβCHUδOδEεEδIδAβTTSUεOεEζEεIεAuHI SIGNtFULL S",
      "TOPtQAItNGAIuNGIxIwOxOwAxAtWOODS-CREE THWEEθIιIθOιOθAιAεFINAL THtBLACKFOOT WaOGHAM SPACE MA",
      "RKgLETTER BEITHnLUISnFEARNnSAILnNIONnUATHnDAIRnTINNEnCOLLoEIRTnMUINnGORTnNGEADALnSTRAIFnRUI",
      "SnAILMnONNnURnEADHADHnIODHADHnEABHADHnORnUILLEANNnIFINnEAMHANCHOLLnPEITHgFEATHER MARKgREVER",
      "SED FEATHER MARK"]),
    (0x16A0, ["RUNIC LETTER FEHU FEOH FE FnVnURUZ UR UnYRonWnTHURISAZ THURS THORNnETHnANSUZ AnOS O",
      "nAC AoESCnLONG-BRANCH-OSS OnSHORT-TWIG-OSS OnOoEoNnRAIDO RAD REID RnKAUNAnCENnKAUN KnGnENGn",
      "GEBO GYFU GoARnWUNJO WYNN WnHAGLAZ HpEGL HnLONG-BRANCH-HAGALL HnSHORT-TWIG-HAGALL HnNAUDIZ ",
      "NYD NAUD NnSHORT-TWIG-NAUD NnDOTTED-NnISAZ IS ISS InEnJERAN JnGERnLONG-BRANCH-AR AEnSHORT-T",
      "WIG-AR AnIWAZ EOHnPERTHO PEORTH PnALGIZ EOLHXnSOWILO SoIGEL LONG-BRANCH-SOL SoHORT-TWIG-SOL",
      " SnCnZnTIWAZ TIR TYR TnSHORT-TWIG-TYR TnDnBERKANAN BEORC BJARKAN BnSHORT-TWIG-BJARKAN BnDOT",
      "TED-PnOPEN-PnEHWAZ EH EnMANNAZ MAN MnLONG-BRANCH-MADR MnSHORT-TWIG-MADR MnLAUKAZ LAGU LOGR ",
      "LnDOTTED-LnINGWAZqnDAGAZ DAEG DnOTHALAN ETHEL OnEARnIORnCWEORTHoALCoEALCnSTANnLONG-BRANCH-Y",
      "RnSHORT-TWIG-YRnICELANDIC-YRnQnXgSINGLE PUNCTUATIONgMULTIPLE PUNCTUATIONgCROSS PUNCTUATIONg",
      "ARLAUG SYMBOLgTVIMADUR SYMBOLgBELGTHOR SYMBOLgLETTER KnSHnOOnFRANKS CASKET OSβISβEHβACγES",
      "C"]),
    (0x1700, ["TAGALOG LETTER ApIpUpKApGApNGApTApDApNApPApBApMApYApRApLApWApSApHAiVOWEL SIGN ItUiS",
      "IGN VIRAMAnPAMUDPOD"]),
    (0x171F, ["TAGALOG LETTER ARCHAIC RAaHANUNOO LETTER ApIpUpKApGApNGApTApDApNApPApBApMApYApRApLA",
      "pWApSApHAiVOWEL SIGN ItUiSIGN PAMUDPODaPHILIPPINE SINGLE PUNCTUATIONlDOUBLE PUNCTUATION"]),
    (0x1740, ["BUHID LETTER AnInUnKAnGAnNGAnTAnDAnNAnPAnBAnMAnYAnRAnLAnWAnSAnHAgVOWEL SIGN IrU"]),
    (0x1760, ["TAGBANWA LETTER AqIqUqKAqGAqNGAqTAqDAqNAqPAqBAqMAqYA"]),
    (0x176E, ["TAGBANWA LETTER LAqWAqSA"]), (0x1772, ["TAGBANWA VOWEL SIGN IuU"]),
    (0x1780, ["KHMER LETTER KAoHAoOoHOnNGOnCAoHAoOoHOnNYOnDAnTTHAnDOnTTHOnNNOnTAoHAoOoHOnNOnBAnPHA",
      "oOoHOnMOnYOnROnLOnVOnSHAoSOoAnHAnLAnQAgINDEPENDENT VOWEL QAQαAzIαIzUαKαUβVyRYαYyLYαYyQEzAIz",
      "OO TYPE ONEθTWOzAUgVOWEL INHERENT AQwAmSIGN AArIsIrYsYrUsUsArOErYArIErErAEsIrOOrAUgSIGN NIK",
      "AHITlREAHMUKlYUUKALEAPINTUlMUUSIKATOANlTRIISAPlBANTOClROBATlTOANDAKHIATlKAKABATlAHSDAlSAMYO",
      "K SANNYAlVIRIAMlCOENGlBATHAMASATlKHANlBARIYOOSANlCAMNUC PII KUUHlLEK TOOlBEYYALlPHNAEK MUAN",
      "lKOOMUUTgCURRENCY SYMBOL RIELgSIGN AVAKRAHASANYAmTTHACAN"]),
    (0x17E0, ["KHMER DIGIT ZEROmONEmTWOnHREEmFOURnIVEmSIXnEVENmEIGHTmNINE"]),
    (0x17F0, ["KHMER SYMBOL LEK ATTAK SONxMUOYxPIIxBEIyUONxPRAMβ-MUOYγPIIγBEIδUON"]),
    (0x1800, ["MONGOLIAN BIRGAkELLIPSISkCOMMAkFULL STOPkCOLONkFOUR DOTSkTODO SOFT HYPHENkSIBE SYLL",
      "ABLE BOUNDARY MARKERkMANCHU COMMArFULL STOPkNIRUGUkFREE VARIATION SELECTOR ONEιTWOκHREEkVOW",
      "EL SEPARATORkFREE VARIATION SELECTOR FOURkDIGIT ZEROqONEqTWOrHREEqFOURrIVEqSIXrEVENqEIGHTqN",
      "INE"]),
    (0x1820, ["MONGOLIAN LETTER ArErIrOrUrOErUErEErNArANGrBArPArQArGArMArLArSAsHArTArDArCHArJArYAr",
      "RArWArFArKAsHArTSArZArHAArZRArLHArZHIrCHIrTODO LONG VOWEL SIGNwEwIwOwUwOEwUEwANGwBAwPAwQAwG",
      "AwMAwTAwDAwCHAwJAwTSAwYAwWAwKAwGAAwHAAwJIAwNIAwDZArSIBE EwIxYwUExwANGwKAwGAwHAwPAwSHAwTAwDA",
      "wJAwFAwGAAwHAAwTSAwZAwRAAwCHAwZHArMANCHU IyKAyRAyFAyZHArCHA WITH TWO DOTS"]),
    (0x1880, ["MONGOLIAN LETTER ALI GALI ANUSVARA ONEαVISARGA ONEαDAMARUαUBADAMAαINVERTED UBADAMAα",
      "BALUDAαTHREE BALUDAαAαIαKAαNGAαCAαTTAγHAαDDAαNNAαTAαDAαPAβHAαSSAαZHAβAαAHrTODO ALI GALI TAζ",
      "ZHArMANCHU ALI GALI GHAθNGAθCAθJHAθTTAθDDHAθTAθDHAθSSAθCYAθZHAιArALI GALI HALF UζYArMANCHU ",
      "ALI GALI BHArALI GALI DAGALGArMANCHU ALI GALI LHA"]),
    (0x18B0, ["CANADIAN SYLLABICS OYtAYuAYtWAYtPOYuAYuWOYtTAYtKAYuWAYtMAYtNOYuAYtLAYtSOYuAYuHOYvAY",
      "vWOYtYOYuAYtRAYtNWItOJIBWAY NWItNWIItOJIBWAY NWIItNWOtOJIBWAY NWOtNWOOtOJIBWAY NWOOtRWEEvIw",
      "IvOwOvAtOJIBWAY PβTβKβCβMβNβSγHtEASTERN WtWESTERN WtFINAL SMALL RINGzRAISED DOTtR-CREE RWEt",
      "WEST-CREE LOOεAAtTHWEwAuTHWEwOOwAAuLHWEwOOtSAYISI SHWEγOOαHOOtCARRIER GWUβDENE GEEβGAAγWAtS",
      "AYISI JUUtCARRIER JWAtBEAVER DENE LζRtCARRIER DENTAL S"]),
    (0x1900, ["LIMBU VOWEL-CARRIER LETTERgLETTER KAoHAnGAoHAnNGAnCAoHAnJAoHAnYANnTAoHAnDAoHAnNAnPA",
      "oHAnBAoHAnMAnYAnRAnLAnWAnSHAoSAoAnHAnGYANnTRA"]),
    (0x1920, ["LIMBU VOWEL SIGN ArIrUrEErAIrOOrAUrErOgSUBJOINED LETTER YAxRAxWA"]),
    (0x1930, ["LIMBU SMALL LETTER KAtNGAtANUSVARAtTAtNAtPAtMAtRAtLAhIGN MUKPHRENGlKEMPHRENGlSA-I"]),
    (0x1940, ["LIMBU SIGN LOO"]),
    (0x1944, ["LIMBU EXCLAMATION MARKgQUESTION MARKgDIGIT ZEROmONEmTWOnHREEmFOURnIVEmSIXnEVENmEIGH",
      "TmNINEaTAI LE LETTER KAoXAoNGAoTSAoSAoYAoTApHAoLAoPApHAoMAoFAoVAoHAoQAoKHAoTSHAoNAoAoIoEEpH",
      "oUoOOpoUEoEoAUEpI"]),
    (0x1970, ["TAI LE LETTER TONE-2t3t4t5t6"]),
    (0x1980, ["NEW TAI LUE LETTER HIGH QAtLOW QAtHIGH KAyXAyNGAtLOW KAxXAxNGAtHIGH TSAySAyYAtLOW T",
      "SAxSAxYAtHIGH TAzHAyNAtLOW TAyHAxNAtHIGH PAzHAyMAtLOW PAyHAxMAtHIGH FAyVAyLAtLOW FAxVAxLAtH",
      "IGH HAyDAyBAtLOW HAxDAxBAtHIGH KVAyXVAtLOW KVAxXVAtHIGH SUAtLOW SUA"]),
    (0x19B0, ["NEW TAI LUE VOWEL SIGN VOWEL SHORTENERxAAxIIxUyUxExAExOyAxUExAYyAYxUYxOYyAYxUEYxIYm",
      "LETTER FINAL VzNGαzMzKzDzBmTONE MARK-1w2"]),
    (0x19D0, ["NEW TAI LUE DIGIT ZEROsONEsTWOtHREEsFOURtIVEsSIXtEVENsEIGHTsNINEmTHAM DIGIT ONE"]),
    (0x19DE, ["NEW TAI LUE SIGN LAEuVaKHMER SYMBOL PATHAMASATnMUOY KOETnPII KOETnBEI KOEToUON KOET",
      "nPRAM KOETr-MUOY KOETsPII KOETsBEI KOETtUON KOETnDAP KOETq-MUOY KOETrPII KOETrBEI KOETsUON ",
      "KOETrPRAM KOETnTUTEYASATnMUOY ROCnPII ROCnBEI ROCoUON ROCnPRAM ROCr-MUOY ROCsPII ROCsBEI RO",
      "CtUON ROCnDAP ROCq-MUOY ROCrPII ROCrBEI ROCsUON ROCrPRAM ROCaBUGINESE LETTER KAqGAqNGAsKAqP",
      "AqBAqMArPAqTAqDAqNArRAqCAqJAqNYAsCAqYAqRAqLAqVAqSAqAqHAjVOWEL SIGN IuUuEuOuAE"]),
    (0x1A1E, ["BUGINESE PALLAWAjEND OF SECTIONaTAI THAM LETTER HIGH KAwHAwXAqLOW KAvXAvHAqNGAqHIGH",
      " CAwHAqLOW CAuSAuCHAqNYAqRATAqHIGH RATHAqDAqLOW RATHAqRANAqHIGH TAwHAqLOW TAvHAqNAqBAqHIGH ",
      "PAwHAvFAqLOW PAuFAuPHAqMAqLOW YAqHIGH YAqRArUEqLArUEqWAqHIGH SHAwSAwAvHAqLLAqAqLOW HAqIrIqU",
      "rUqEEqOOqLAEqGREAT SAjCONSONANT SIGN MEDIAL RAζLAyLA TANG LAIjSIGN MAI KANG LAIjCONSONANT S",
      "IGN FINAL NGAyLOW PAyHIGH RATHA OR LOW PAyMAyBAySA"]),
    (0x1A60, ["TAI THAM SIGN SAKOTjVOWEL SIGN AuMAI SATuAAuTALL AAuIvIuUEvUEvvUuOvA BELOWvYuEuAEuO",
      "OuAIuTHAM AIuOA ABOVEjSIGN MAI KANGoTONE-1t2oKHUEN TONE-3z4z5oRA HAAMoMAI SAMoKHUEN-LUE KAR",
      "AN"]),
    (0x1A7F, ["TAI THAM COMBINING CRYPTOGRAMMIC DOTjHORA DIGIT ZEROuONEuTWOvHREEuFOURvIVEuSIXvEVEN",
      "uEIGHTuNINE"]),
    (0x1A90, ["TAI THAM THAM DIGIT ZEROuONEuTWOvHREEuFOURvIVEuSIXvEVENuEIGHTuNINE"]),
    (0x1AA0, ["TAI THAM SIGN WIANGtWAAKoSAWANoKEOWoHOYoDOKMAIoREVERSED ROTATED RANAoMAI YAMOKoKAAN",
      "sKUUoSATKAANvKUUoHANGoCAANG"]),
    (0x1AB0, ["COMBINING DOUBLED CIRCUMFLEX ACCENTlIAERESIS-RINGkINFINITYkDOWNWARDS ARROWkTRIPLE D",
      "OTkX-X BELOWkWIGGLY LINE BELOWkOPEN MARK BELOWkDOUBLE OPEN MARK BELOWkLIGHT CENTRALIZATION ",
      "STROKE BELOWkSTRONG CENTRALIZATION STROKE BELOWkPARENTHESES ABOVEkDOUBLE PARENTHESES ABOVEk",
      "PARENTHESES BELOWwOVERLAYkLATIN SMALL LETTER W BELOWδTURNED W BELOWlEFT PARENTHESIS ABOVE L",
      "EFTkRIGHT PARENTHESIS ABOVE RIGHTkLEFT PARENTHESIS BELOW LEFTkRIGHT PARENTHESIS BELOW RIGHT",
      "kSQUARE BRACKETS ABOVEkNUMBER SIGN ABOVEkINVERTED DOUBLE ARCH ABOVEkPLUS SIGN ABOVEkDOUBLE ",
      "PLUS SIGN ABOVEβBELOWkTRIPLE ACUTE ACCENTkLATIN SMALL LETTER INSULAR GμRμT"]),
    (0x1B00, ["BALINESE SIGN ULU RICEMsCANDRAoCECEKoSURANGoBISAHjLETTER AKARAv TEDUNGqIKARAv TEDUN",
      "GqUKARAv TEDUNGqRA REPAx TEDUNGqLA LENGAy TEDUNGqEKARAqAIKARAqOKARAv TEDUNGqKAs MAHAPRANAqG",
      "As GORAqNGAqCAs LACAqJAs JERAqNYAqTA LATIKtMURDA MAHAPRANAqDA MURDA ALPAPRANAzMAHAPRANAqNA ",
      "RAMBATqTAs TAWAqDAs MADUqNAqPAs KAPALqBAs KEMBANGqMAqYAqRAqLAqWAqSA SAGAvPAsqHAjSIGN REREKA",
      "NjVOWEL SIGN TEDUNGuULUx SARIuSUKUy ILUTuRA REPAβ TEDUNGuLA LENGAγ TEDUNGuTALINGα REPAβTEDU",
      "NGβREPA TEDUNGuPEPETz TEDUNGjADEG ADEGjLETTER KAF SASAKrHOT SASAKqTZIR SASAKqEF SASAKqVE SA",
      "SAKqZAL SASAKqASYURA SASAKrRCHAIC JNYA"]),
    (0x1B50, ["BALINESE DIGIT ZEROpONEpTWOqHREEpFOURqIVEpSIXqEVENpEIGHTpNINEjPANTIlMADAjWINDUjCARI",
      "K PAMUNGKAHpSIKIpPARERENjPAMENENGjMUSICAL SYMBOL DONGzENGzUNGzANGγ SURANGzINGzAENGzEUNGzAIN",
      "GαNG GEDEyCOMBINING TEGEHιENDEPιKEMPULνLIιJEGOGANιKEMPUL WITH JEGOGANνLI WITH JEGOGANιBENDE",
      "ιGONGyRIGHT-HAND OPEN DUGπAGκCLOSED TUKςAKyLEFT-HAND OPEN PANGοUNGιCLOSED PLAKςUKιOPEN PING",
      "jPANTI LANTANGlMADA LANTANG"]),
    (0x1B80, ["SUNDANESE SIGN PANYECEKsGLAYARtWISADkLETTER ArIrUrAErOrEsUrKArQArGArNGArCArJArZArNY",
      "ArTArDArNArPArFArVArBArMArYArRArLArWArSArXArHAkCONSONANT SIGN PAMINGKALβNYAKRAδIKUkVOWEL SI",
      "GN PANGHULUyYUKUyAELAENGyOLONGxMEPETxNEULEUNGkSIGN PAMAAEHpVIRAMAkCONSONANT SIGN PASANGAN M",
      "AιWAkLETTER KHArSYAkDIGIT ZEROqONEqTWOrHREEqFOURrIVEqSIXrEVENqEIGHTqNINEkAVAGRAHAkLETTER RE",
      "UrLEUrBHArFINAL KxMaBATAK LETTER AnSIMALUNGUN AnHAnSIMALUNGUN HAnMANDAILING HAnBAnKARO BAnP",
      "AnSIMALUNGUN PAnNAnMANDAILING NAnWAnSIMALUNGUN WAnPAKPAK WAnGAnSIMALUNGUN GAnJAnDAnRAnSIMAL",
      "UNGUN RAnMAnSIMALUNGUN MAoOUTHERN TAnNORTHERN TAnSAoIMALUNGUN SAnMANDAILING SAnYAnSIMALUNGU",
      "N YAnNGAnLAnSIMALUNGUN LAnNYAnCAnNDAnMBAnInUgSIGN TOMPIgVOWEL SIGN ErPAKPAK ErEErIrKARO IrO",
      "rKARO OrUs FOR SIMALUNGUN SAgCONSONANT SIGN NGvHgPANGOLATjONGONAN"]),
    (0x1BFC, ["BATAK SYMBOL BINDU NA METEKtPINARBORAStJUDULtPANGOLATaLEPCHA LETTER KApLApHAoGApLAo",
      "NGAoCApHAoJAoNYAoTApHAoDAoNAoPApLApHAoFApLAoBApLAoMApLAoTSAqHAoDZAoYAoRAoLAoHApLAoVAoSApHAo",
      "WAoAhSUBJOINED LETTER YAyRAhVOWEL SIGN AAsIsOtOsUtUsEhCONSONANT SIGN KwMwLwNwPwRwTwNYIN-DOw",
      "KANGhSIGN RANmNUKTA"]),
    (0x1C3B, ["LEPCHA PUNCTUATION TA-ROLtNYET THYOOM TA-ROLtCER-WAtTSHOOK CER-WAzhDIGIT ZEROnONEnT",
      "WOoHREEnFOURoIVEnSIXoEVENnEIGHTnNINE"]),
    (0x1C4D, ["LEPCHA LETTER TTAqHAoDDAaOL CHIKI DIGIT ZEROpONEpTWOqHREEpFOURqIVEpSIXqEVENpEIGHTpN",
      "INEjLETTER LAqATrGrNGrLqLAAqAAKsJsMsWqLIqISrHrNYrRqLUqUCrDrNNrYqLEqEPrDDrNrRRqLOqOTTrBrVrHj",
      "MU TTUDDAGjGAAHLAA TTUDDAAGjMU-GAAHLAA TTUDDAAGjRELAAjPHAARKAAjAHADjPUNCTUATION MUCAADvDOUB",
      "LE MUCAADaCYRILLIC SMALL LETTER ROUNDED VEwLONG-LEGGED DEwNARROW OwWIDE ESwTALL TExHREE-LEG",
      "GED TExALL HARD SIGNβYATwUNBLENDED UK"]),
    (0x1C90, ["GEORGIAN MTAVRULI CAPITAL LETTER ANθBANθGANθDONθENθVINθZENθTANθINθKANθLASθMANθNARθO",
      "NθPARθZHARθRAEθSANθTARθUNθPHARθKHARθGHANθQARθSHINθCHINιANθJILθCILιHARθXANθJHANθHAEιEιIEθWEθ",
      "HARιOEθFIθYNθELIFIθTURNED GANθAIN"]),
    (0x1CBD, ["GEORGIAN MTAVRULI CAPITAL LETTER AENθHARD SIGNθLABIAL SIGNaSUNDANESE PUNCTUATION BI",
      "NDU SURYAγPANGLONGδURNAMAγCAKRAγLEU SATANGAγKA SATANGAγDA SATANGAγBA SATANGA"]),
    (0x1CD0, ["VEDIC TONE KARSHANAlSHARAlPRENKHAgSIGN NIHSHVASAlYAJURVEDIC MIDLINE SVARITAgTONE YA",
      "JURVEDIC AGGRAVATED INDEPENDENT SVARITAwINDEPENDENT SVARITAwKATHAKA INDEPENDENT SVARITAlCAN",
      "DRA BELOWlYAJURVEDIC KATHAKA INDEPENDENT SVARITA SCHROEDERlDOUBLE SVARITAlTRIPLE SVARITAlKA",
      "THAKA ANUDATTAlDOT BELOWlTWO DOTS BELOWmHREE DOTS BELOWlRIGVEDIC KASHMIRI INDEPENDENT SVARI",
      "TAlATHARVAVEDIC INDEPENDENT SVARITAgSIGN VISARGA SVARITAtUDATTAlREVERSED VISARGA UDATTAlVIS",
      "ARGA ANUDATTAlREVERSED VISARGA ANUDATTAlVISARGA UDATTA WITH TAILtANUDATTA WITH TAILlANUSVAR",
      "A ANTARGOMUKHAuBAHIRGOMUKHAuVAMAGOMUKHAζ WITH TAILlTIRYAKlHEXIFORM LONG ANUSVARAlLONG ANUSV",
      "ARAlRTHANG LONG ANUSVARAlANUSVARA UBHAYATO MUKHAmRDHAVISARGAlROTATED ARDHAVISARGAgTONE CAND",
      "RA ABOVEgSIGN JIHVAMULIYAlUPADHMANIYAlATIKRAMAgTONE RING ABOVElDOUBLE RING ABOVEgSIGN DOUBL",
      "E ANUSVARA ANTARGOMUKHA"]),
    (0x1D00, ["LATIN LETTER SMALL CAPITAL AγEgSMALL LETTER TURNED AEgLETTER SMALL CAPITAL BARRED B",
      "βCβDβETHγgSMALL LETTER TURNED OPEN EαIgLETTER SMALL CAPITAL JβKβL WITH STROKEβMβREVERSED Nβ",
      "OγPEN OgSMALL LETTER SIDEWAYS OδPEN Oδ WITH STROKEtTURNED OEgLETTER SMALL CAPITAL OUgSMALL ",
      "LETTER TOP HALF OtBOTTOM HALF OgLETTER SMALL CAPITAL PβREVERSED RβTURNED RγβUgSMALL LETTER ",
      "SIDEWAYS UγDIAERESIZED UγTURNED MgLETTER SMALL CAPITAL VβWβZβEZHnVOICED LARYNGEAL SPIRANTnA",
      "INaGREEK LETTER SMALL CAPITAL GAMMAβLAMDAβPIβRHOβPSIaCYRILLIC LETTER SMALL CAPITAL ELaMODIF",
      "IER LETTER CAPITAL AzEyBzARRED ByDyEyREVERSED EyGyHyIyJyKyLyMyNyREVERSED NyOzUyPyRyTyUyWqSM",
      "ALL AwTURNED AwALPHAwTURNED AEwBwDwEwSCHWAwOPEN EwTURNED OPEN EwGwTURNED IwKwMwENGwOxPEN Ow",
      "TOP HALF OwBOTTOM HALF OwPwTwUwSIDEWAYS UwTURNED MwVwAINwBETAwGREEK GAMMAwDELTAwGREEK PHIwC",
      "HIaLATIN SUBSCRIPT SMALL LETTER IδRδUδVaGREEK SUBSCRIPT SMALL LETTER BETAδGAMMAδRHOδPHIδCHI",
      "aLATIN SMALL LETTER UEtB WITH MIDDLE TILDEtD WITH MIDDLE TILDEtF WITH MIDDLE TILDEtM WITH M",
      "IDDLE TILDEtN WITH MIDDLE TILDEtP WITH MIDDLE TILDEtR WITH MIDDLE TILDEαFISHHOOK AND MIDDLE",
      " TILDEtS WITH MIDDLE TILDEtT WITH MIDDLE TILDEtZ WITH MIDDLE TILDEtTURNED GaMODIFIER LETTER",
      " CYRILLIC ENaLATIN SMALL LETTER INSULAR GtTH WITH STRIKETHROUGHmCAPITAL LETTER I WITH STROK",
      "EmLETTER IOTA WITH STROKEtP WITH STROKEmCAPITAL LETTER U WITH STROKEmLETTER UPSILON WITH ST",
      "ROKEtB WITH PALATAL HOOKtD WITH PALATAL HOOKtF WITH PALATAL HOOKtG WITH PALATAL HOOKtK WITH",
      " PALATAL HOOKtL WITH PALATAL HOOKtM WITH PALATAL HOOKtN WITH PALATAL HOOKtP WITH PALATAL HO",
      "OKtR WITH PALATAL HOOKtS WITH PALATAL HOOKtESH WITH PALATAL HOOKtV WITH PALATAL HOOKtX WITH",
      " PALATAL HOOKtZ WITH PALATAL HOOKtA WITH RETROFLEX HOOKuLPHA WITH RETROFLEX HOOKtD WITH HOO",
      "K AND TAILtE WITH RETROFLEX HOOKtOPEN E WITH RETROFLEX HOOKtREVERSED OPEN E WITH RETROFLEX ",
      "HOOKtSCHWA WITH RETROFLEX HOOKtI WITH RETROFLEX HOOKtOPEN O WITH RETROFLEX HOOKtESH WITH RE",
      "TROFLEX HOOKtU WITH RETROFLEX HOOKtEZH WITH RETROFLEX HOOKaMODIFIER LETTER SMALL TURNED ALP",
      "HAwCx WITH CURLwETHwREVERSED OPEN EwFwDOTLESS J WITH STROKEwSCRIPT GwTURNED HwI WITH STROKE",
      "xOTAwCAPITAL Iζ WITH STROKEwJ WITH CROSSED-TAILwL WITH RETROFLEX HOOKδPALATAL HOOKwCAPITAL ",
      "LwM WITH HOOKwTURNED M WITH LONG LEGwN WITH LEFT HOOKδRETROFLEX HOOKwCAPITAL NwBARRED OwPHI",
      "wS WITH HOOKwESHwT WITH PALATAL HOOKwU BARxPSILONwCAPITAL UwV WITH HOOKwTURNED VwZx WITH RE",
      "TROFLEX HOOKδCURLwEZHwTHETAaCOMBINING DOTTED GRAVE ACCENTrACUTE ACCENTkSNAKE BELOWlUSPENSIO",
      "N MARKkMACRON-ACUTEkGRAVE-MACRONkMACRON-GRAVEkACUTE-MACRONkGRAVE-ACUTE-GRAVEkACUTE-GRAVE-AC",
      "UTEkLATIN SMALL LETTER R BELOWkBREVE-MACRONkMACRON-BREVEkDOUBLE CIRCUMFLEX ABOVEkOGONEK ABO",
      "VEkZIGZAG BELOWkIS BELOWkUR ABOVElS ABOVEkLATIN SMALL LETTER FLATTENED OPEN A ABOVEδAEεOεVδ",
      "C CEDILLAδINSULAR DδETHδGqLETTER SMALL CAPITAL GqSMALL LETTER KδLqLETTER SMALL CAPITAL LμMq",
      "SMALL LETTER NqLETTER SMALL CAPITAL NμRqSMALL LETTER R ROTUNDAδSδLONG SδZδALPHAδBεETAδSCHWA",
      "δFδL WITH DOUBLE MIDDLE TILDEδO WITH LIGHT CENTRALIZATION STROKEδPδESHδU WITH LIGHT CENTRAL",
      "IZATION STROKEδWδA WITH DIAERESISδO WITH DIAERESISδU WITH DIAERESISkUP TACK ABOVEkKAVYKA AB",
      "OVE RIGHTxLEFTkDOT ABOVE LEFTkWIDE INVERTED BRIDGE BELOWkDOT BELOW LEFTlELETION MARKlOUBLE ",
      "INVERTED BREVE BELOWkALMOST EQUAL TO BELOWkLEFT ARROWHEAD ABOVEkRIGHT ARROWHEAD AND DOWN AR",
      "ROWHEAD BELOWaLATIN CAPITAL LETTER A WITH RING BELOWgSMALL LETTER A WITH RING BELOWgCAPITAL",
      " LETTER B WITH DOT ABOVEgSMALL LETTER B WITH DOT ABOVEgCAPITAL LETTER B WITH DOT BELOWgSMAL",
      "L LETTER B WITH DOT BELOWgCAPITAL LETTER B WITH LINE BELOWgSMALL LETTER B WITH LINE BELOWgC",
      "APITAL LETTER C WITH CEDILLA AND ACUTEgSMALL LETTER C WITH CEDILLA AND ACUTEgCAPITAL LETTER",
      " D WITH DOT ABOVEgSMALL LETTER D WITH DOT ABOVEgCAPITAL LETTER D WITH DOT BELOWgSMALL LETTE",
      "R D WITH DOT BELOWgCAPITAL LETTER D WITH LINE BELOWgSMALL LETTER D WITH LINE BELOWgCAPITAL ",
      "LETTER D WITH CEDILLAgSMALL LETTER D WITH CEDILLAgCAPITAL LETTER D WITH CIRCUMFLEX BELOWgSM",
      "ALL LETTER D WITH CIRCUMFLEX BELOWgCAPITAL LETTER E WITH MACRON AND GRAVEgSMALL LETTER E WI",
      "TH MACRON AND GRAVEgCAPITAL LETTER E WITH MACRON AND ACUTEgSMALL LETTER E WITH MACRON AND A",
      "CUTEgCAPITAL LETTER E WITH CIRCUMFLEX BELOWgSMALL LETTER E WITH CIRCUMFLEX BELOWgCAPITAL LE",
      "TTER E WITH TILDE BELOWgSMALL LETTER E WITH TILDE BELOWgCAPITAL LETTER E WITH CEDILLA AND B",
      "REVEgSMALL LETTER E WITH CEDILLA AND BREVEgCAPITAL LETTER F WITH DOT ABOVEgSMALL LETTER F W",
      "ITH DOT ABOVEgCAPITAL LETTER G WITH MACRONgSMALL LETTER G WITH MACRONgCAPITAL LETTER H WITH",
      " DOT ABOVEgSMALL LETTER H WITH DOT ABOVEgCAPITAL LETTER H WITH DOT BELOWgSMALL LETTER H WIT",
      "H DOT BELOWgCAPITAL LETTER H WITH DIAERESISgSMALL LETTER H WITH DIAERESISgCAPITAL LETTER H ",
      "WITH CEDILLAgSMALL LETTER H WITH CEDILLAgCAPITAL LETTER H WITH BREVE BELOWgSMALL LETTER H W",
      "ITH BREVE BELOWgCAPITAL LETTER I WITH TILDE BELOWgSMALL LETTER I WITH TILDE BELOWgCAPITAL L",
      "ETTER I WITH DIAERESIS AND ACUTEgSMALL LETTER I WITH DIAERESIS AND ACUTEgCAPITAL LETTER K W",
      "ITH ACUTEgSMALL LETTER K WITH ACUTEgCAPITAL LETTER K WITH DOT BELOWgSMALL LETTER K WITH DOT",
      " BELOWgCAPITAL LETTER K WITH LINE BELOWgSMALL LETTER K WITH LINE BELOWgCAPITAL LETTER L WIT",
      "H DOT BELOWgSMALL LETTER L WITH DOT BELOWgCAPITAL LETTER L WITH DOT BELOW AND MACRONgSMALL ",
      "LETTER L WITH DOT BELOW AND MACRONgCAPITAL LETTER L WITH LINE BELOWgSMALL LETTER L WITH LIN",
      "E BELOWgCAPITAL LETTER L WITH CIRCUMFLEX BELOWgSMALL LETTER L WITH CIRCUMFLEX BELOWgCAPITAL",
      " LETTER M WITH ACUTEgSMALL LETTER M WITH ACUTEgCAPITAL LETTER M WITH DOT ABOVEgSMALL LETTER",
      " M WITH DOT ABOVEgCAPITAL LETTER M WITH DOT BELOWgSMALL LETTER M WITH DOT BELOWgCAPITAL LET",
      "TER N WITH DOT ABOVEgSMALL LETTER N WITH DOT ABOVEgCAPITAL LETTER N WITH DOT BELOWgSMALL LE",
      "TTER N WITH DOT BELOWgCAPITAL LETTER N WITH LINE BELOWgSMALL LETTER N WITH LINE BELOWgCAPIT",
      "AL LETTER N WITH CIRCUMFLEX BELOWgSMALL LETTER N WITH CIRCUMFLEX BELOWgCAPITAL LETTER O WIT",
      "H TILDE AND ACUTEgSMALL LETTER O WITH TILDE AND ACUTEgCAPITAL LETTER O WITH TILDE AND DIAER",
      "ESISgSMALL LETTER O WITH TILDE AND DIAERESISgCAPITAL LETTER O WITH MACRON AND GRAVEgSMALL L",
      "ETTER O WITH MACRON AND GRAVEgCAPITAL LETTER O WITH MACRON AND ACUTEgSMALL LETTER O WITH MA",
      "CRON AND ACUTEgCAPITAL LETTER P WITH ACUTEgSMALL LETTER P WITH ACUTEgCAPITAL LETTER P WITH ",
      "DOT ABOVEgSMALL LETTER P WITH DOT ABOVEgCAPITAL LETTER R WITH DOT ABOVEgSMALL LETTER R WITH",
      " DOT ABOVEgCAPITAL LETTER R WITH DOT BELOWgSMALL LETTER R WITH DOT BELOWgCAPITAL LETTER R W",
      "ITH DOT BELOW AND MACRONgSMALL LETTER R WITH DOT BELOW AND MACRONgCAPITAL LETTER R WITH LIN",
      "E BELOWgSMALL LETTER R WITH LINE BELOWgCAPITAL LETTER S WITH DOT ABOVEgSMALL LETTER S WITH ",
      "DOT ABOVEgCAPITAL LETTER S WITH DOT BELOWgSMALL LETTER S WITH DOT BELOWgCAPITAL LETTER S WI",
      "TH ACUTE AND DOT ABOVEgSMALL LETTER S WITH ACUTE AND DOT ABOVEgCAPITAL LETTER S WITH CARON ",
      "AND DOT ABOVEgSMALL LETTER S WITH CARON AND DOT ABOVEgCAPITAL LETTER S WITH DOT BELOW AND D",
      "OT ABOVEgSMALL LETTER S WITH DOT BELOW AND DOT ABOVEgCAPITAL LETTER T WITH DOT ABOVEgSMALL ",
      "LETTER T WITH DOT ABOVEgCAPITAL LETTER T WITH DOT BELOWgSMALL LETTER T WITH DOT BELOWgCAPIT",
      "AL LETTER T WITH LINE BELOWgSMALL LETTER T WITH LINE BELOWgCAPITAL LETTER T WITH CIRCUMFLEX",
      " BELOWgSMALL LETTER T WITH CIRCUMFLEX BELOWgCAPITAL LETTER U WITH DIAERESIS BELOWgSMALL LET",
      "TER U WITH DIAERESIS BELOWgCAPITAL LETTER U WITH TILDE BELOWgSMALL LETTER U WITH TILDE BELO",
      "WgCAPITAL LETTER U WITH CIRCUMFLEX BELOWgSMALL LETTER U WITH CIRCUMFLEX BELOWgCAPITAL LETTE",
      "R U WITH TILDE AND ACUTEgSMALL LETTER U WITH TILDE AND ACUTEgCAPITAL LETTER U WITH MACRON A",
      "ND DIAERESISgSMALL LETTER U WITH MACRON AND DIAERESISgCAPITAL LETTER V WITH TILDEgSMALL LET",
      "TER V WITH TILDEgCAPITAL LETTER V WITH DOT BELOWgSMALL LETTER V WITH DOT BELOWgCAPITAL LETT",
      "ER W WITH GRAVEgSMALL LETTER W WITH GRAVEgCAPITAL LETTER W WITH ACUTEgSMALL LETTER W WITH A",
      "CUTEgCAPITAL LETTER W WITH DIAERESISgSMALL LETTER W WITH DIAERESISgCAPITAL LETTER W WITH DO",
      "T ABOVEgSMALL LETTER W WITH DOT ABOVEgCAPITAL LETTER W WITH DOT BELOWgSMALL LETTER W WITH D",
      "OT BELOWgCAPITAL LETTER X WITH DOT ABOVEgSMALL LETTER X WITH DOT ABOVEgCAPITAL LETTER X WIT",
      "H DIAERESISgSMALL LETTER X WITH DIAERESISgCAPITAL LETTER Y WITH DOT ABOVEgSMALL LETTER Y WI",
      "TH DOT ABOVEgCAPITAL LETTER Z WITH CIRCUMFLEXgSMALL LETTER Z WITH CIRCUMFLEXgCAPITAL LETTER",
      " Z WITH DOT BELOWgSMALL LETTER Z WITH DOT BELOWgCAPITAL LETTER Z WITH LINE BELOWgSMALL LETT",
      "ER Z WITH LINE BELOWtH WITH LINE BELOWtT WITH DIAERESIStW WITH RING ABOVEtY WITH RING ABOVE",
      "tA WITH RIGHT HALF RINGtLONG S WITH DOT ABOVEηIAGONAL STROKEζHIGH STROKEgCAPITAL LETTER SHA",
      "RP SgSMALL LETTER DELTAgCAPITAL LETTER A WITH DOT BELOWgSMALL LETTER A WITH DOT BELOWgCAPIT",
      "AL LETTER A WITH HOOK ABOVEgSMALL LETTER A WITH HOOK ABOVEgCAPITAL LETTER A WITH CIRCUMFLEX",
      " AND ACUTEgSMALL LETTER A WITH CIRCUMFLEX AND ACUTEgCAPITAL LETTER A WITH CIRCUMFLEX AND GR",
      "AVEgSMALL LETTER A WITH CIRCUMFLEX AND GRAVEgCAPITAL LETTER A WITH CIRCUMFLEX AND HOOK ABOV",
      "EgSMALL LETTER A WITH CIRCUMFLEX AND HOOK ABOVEgCAPITAL LETTER A WITH CIRCUMFLEX AND TILDEg",
      "SMALL LETTER A WITH CIRCUMFLEX AND TILDEgCAPITAL LETTER A WITH CIRCUMFLEX AND DOT BELOWgSMA",
      "LL LETTER A WITH CIRCUMFLEX AND DOT BELOWgCAPITAL LETTER A WITH BREVE AND ACUTEgSMALL LETTE",
      "R A WITH BREVE AND ACUTEgCAPITAL LETTER A WITH BREVE AND GRAVEgSMALL LETTER A WITH BREVE AN",
      "D GRAVEgCAPITAL LETTER A WITH BREVE AND HOOK ABOVEgSMALL LETTER A WITH BREVE AND HOOK ABOVE",
      "gCAPITAL LETTER A WITH BREVE AND TILDEgSMALL LETTER A WITH BREVE AND TILDEgCAPITAL LETTER A",
      " WITH BREVE AND DOT BELOWgSMALL LETTER A WITH BREVE AND DOT BELOWgCAPITAL LETTER E WITH DOT",
      " BELOWgSMALL LETTER E WITH DOT BELOWgCAPITAL LETTER E WITH HOOK ABOVEgSMALL LETTER E WITH H",
      "OOK ABOVEgCAPITAL LETTER E WITH TILDEgSMALL LETTER E WITH TILDEgCAPITAL LETTER E WITH CIRCU",
      "MFLEX AND ACUTEgSMALL LETTER E WITH CIRCUMFLEX AND ACUTEgCAPITAL LETTER E WITH CIRCUMFLEX A",
      "ND GRAVEgSMALL LETTER E WITH CIRCUMFLEX AND GRAVEgCAPITAL LETTER E WITH CIRCUMFLEX AND HOOK",
      " ABOVEgSMALL LETTER E WITH CIRCUMFLEX AND HOOK ABOVEgCAPITAL LETTER E WITH CIRCUMFLEX AND T",
      "ILDEgSMALL LETTER E WITH CIRCUMFLEX AND TILDEgCAPITAL LETTER E WITH CIRCUMFLEX AND DOT BELO",
      "WgSMALL LETTER E WITH CIRCUMFLEX AND DOT BELOWgCAPITAL LETTER I WITH HOOK ABOVEgSMALL LETTE",
      "R I WITH HOOK ABOVEgCAPITAL LETTER I WITH DOT BELOWgSMALL LETTER I WITH DOT BELOWgCAPITAL L",
      "ETTER O WITH DOT BELOWgSMALL LETTER O WITH DOT BELOWgCAPITAL LETTER O WITH HOOK ABOVEgSMALL",
      " LETTER O WITH HOOK ABOVEgCAPITAL LETTER O WITH CIRCUMFLEX AND ACUTEgSMALL LETTER O WITH CI",
      "RCUMFLEX AND ACUTEgCAPITAL LETTER O WITH CIRCUMFLEX AND GRAVEgSMALL LETTER O WITH CIRCUMFLE",
      "X AND GRAVEgCAPITAL LETTER O WITH CIRCUMFLEX AND HOOK ABOVEgSMALL LETTER O WITH CIRCUMFLEX ",
      "AND HOOK ABOVEgCAPITAL LETTER O WITH CIRCUMFLEX AND TILDEgSMALL LETTER O WITH CIRCUMFLEX AN",
      "D TILDEgCAPITAL LETTER O WITH CIRCUMFLEX AND DOT BELOWgSMALL LETTER O WITH CIRCUMFLEX AND D",
      "OT BELOWgCAPITAL LETTER O WITH HORN AND ACUTEgSMALL LETTER O WITH HORN AND ACUTEgCAPITAL LE",
      "TTER O WITH HORN AND GRAVEgSMALL LETTER O WITH HORN AND GRAVEgCAPITAL LETTER O WITH HORN AN",
      "D HOOK ABOVEgSMALL LETTER O WITH HORN AND HOOK ABOVEgCAPITAL LETTER O WITH HORN AND TILDEgS",
      "MALL LETTER O WITH HORN AND TILDEgCAPITAL LETTER O WITH HORN AND DOT BELOWgSMALL LETTER O W",
      "ITH HORN AND DOT BELOWgCAPITAL LETTER U WITH DOT BELOWgSMALL LETTER U WITH DOT BELOWgCAPITA",
      "L LETTER U WITH HOOK ABOVEgSMALL LETTER U WITH HOOK ABOVEgCAPITAL LETTER U WITH HORN AND AC",
      "UTEgSMALL LETTER U WITH HORN AND ACUTEgCAPITAL LETTER U WITH HORN AND GRAVEgSMALL LETTER U ",
      "WITH HORN AND GRAVEgCAPITAL LETTER U WITH HORN AND HOOK ABOVEgSMALL LETTER U WITH HORN AND ",
      "HOOK ABOVEgCAPITAL LETTER U WITH HORN AND TILDEgSMALL LETTER U WITH HORN AND TILDEgCAPITAL ",
      "LETTER U WITH HORN AND DOT BELOWgSMALL LETTER U WITH HORN AND DOT BELOWgCAPITAL LETTER Y WI",
      "TH GRAVEgSMALL LETTER Y WITH GRAVEgCAPITAL LETTER Y WITH DOT BELOWgSMALL LETTER Y WITH DOT ",
      "BELOWgCAPITAL LETTER Y WITH HOOK ABOVEgSMALL LETTER Y WITH HOOK ABOVEgCAPITAL LETTER Y WITH",
      " TILDEgSMALL LETTER Y WITH TILDEgCAPITAL LETTER MIDDLE-WELSH LLgSMALL LETTER MIDDLE-WELSH L",
      "LgCAPITAL LETTER MIDDLE-WELSH VgSMALL LETTER MIDDLE-WELSH VgCAPITAL LETTER Y WITH LOOPgSMAL",
      "L LETTER Y WITH LOOPaGREEK SMALL LETTER ALPHA WITH PSILIεDASIAεPSILI AND VARIAεDASIA AND VA",
      "RIAεPSILI AND OXIAεDASIA AND OXIAεPSILI AND PERISPOMENIεDASIA AND PERISPOMENIgCAPITAL LETTE",
      "R ALPHA WITH PSILIηDASIAηPSILI AND VARIAηDASIA AND VARIAηPSILI AND OXIAηDASIA AND OXIAηPSIL",
      "I AND PERISPOMENIηDASIA AND PERISPOMENIgSMALL LETTER EPSILON WITH PSILIηDASIAηPSILI AND VAR",
      "IAηDASIA AND VARIAηPSILI AND OXIAηDASIA AND OXIA"]),
    (0x1F18, ["GREEK CAPITAL LETTER EPSILON WITH PSILIιDASIAιPSILI AND VARIAιDASIA AND VARIAιPSILI",
      " AND OXIAιDASIA AND OXIA"]),
    (0x1F20, ["GREEK SMALL LETTER ETA WITH PSILIγDASIAγPSILI AND VARIAγDASIA AND VARIAγPSILI AND O",
      "XIAγDASIA AND OXIAγPSILI AND PERISPOMENIγDASIA AND PERISPOMENIgCAPITAL LETTER ETA WITH PSIL",
      "IεDASIAεPSILI AND VARIAεDASIA AND VARIAεPSILI AND OXIAεDASIA AND OXIAεPSILI AND PERISPOMENI",
      "εDASIA AND PERISPOMENIgSMALL LETTER IOTA WITH PSILIδDASIAδPSILI AND VARIAδDASIA AND VARIAδP",
      "SILI AND OXIAδDASIA AND OXIAδPSILI AND PERISPOMENIδDASIA AND PERISPOMENIgCAPITAL LETTER IOT",
      "A WITH PSILIζDASIAζPSILI AND VARIAζDASIA AND VARIAζPSILI AND OXIAζDASIA AND OXIAζPSILI AND ",
      "PERISPOMENIζDASIA AND PERISPOMENIgSMALL LETTER OMICRON WITH PSILIηDASIAηPSILI AND VARIAηDAS",
      "IA AND VARIAηPSILI AND OXIAηDASIA AND OXIA"]),
    (0x1F48, ["GREEK CAPITAL LETTER OMICRON WITH PSILIιDASIAιPSILI AND VARIAιDASIA AND VARIAιPSILI",
      " AND OXIAιDASIA AND OXIA"]),
    (0x1F50, ["GREEK SMALL LETTER UPSILON WITH PSILIηDASIAηPSILI AND VARIAηDASIA AND VARIAηPSILI A",
      "ND OXIAηDASIA AND OXIAηPSILI AND PERISPOMENIηDASIA AND PERISPOMENI"]),
    (0x1F59, ["GREEK CAPITAL LETTER UPSILON WITH DASIA"]),
    (0x1F5B, ["GREEK CAPITAL LETTER UPSILON WITH DASIA AND VARIA"]),
    (0x1F5D, ["GREEK CAPITAL LETTER UPSILON WITH DASIA AND OXIA"]),
    (0x1F5F, ["GREEK CAPITAL LETTER UPSILON WITH DASIA AND PERISPOMENIgSMALL LETTER OMEGA WITH PSI",
      "LIεDASIAεPSILI AND VARIAεDASIA AND VARIAεPSILI AND OXIAεDASIA AND OXIAεPSILI AND PERISPOMEN",
      "IεDASIA AND PERISPOMENIgCAPITAL LETTER OMEGA WITH PSILIηDASIAηPSILI AND VARIAηDASIA AND VAR",
      "IAηPSILI AND OXIAηDASIA AND OXIAηPSILI AND PERISPOMENIηDASIA AND PERISPOMENIgSMALL LETTER A",
      "LPHA WITH VARIAεOXIAtEPSILON WITH VARIAηOXIAuTA WITH VARIAγOXIAtIOTA WITH VARIAδOXIAtOMICRO",
      "N WITH VARIAηOXIAtUPSILON WITH VARIAηOXIAtOMEGA WITH VARIAεOXIA"]),
    (0x1F80, ["GREEK SMALL LETTER ALPHA WITH PSILI AND YPOGEGRAMMENIεDASIA AND YPOGEGRAMMENIεPSILI",
      " AND VARIA AND YPOGEGRAMMENIεDASIA AND VARIA AND YPOGEGRAMMENIεPSILI AND OXIA AND YPOGEGRAM",
      "MENIεDASIA AND OXIA AND YPOGEGRAMMENIεPSILI AND PERISPOMENI AND YPOGEGRAMMENIεDASIA AND PER",
      "ISPOMENI AND YPOGEGRAMMENIgCAPITAL LETTER ALPHA WITH PSILI AND PROSGEGRAMMENIηDASIA AND PRO",
      "SGEGRAMMENIηPSILI AND VARIA AND PROSGEGRAMMENIηDASIA AND VARIA AND PROSGEGRAMMENIηPSILI AND",
      " OXIA AND PROSGEGRAMMENIηDASIA AND OXIA AND PROSGEGRAMMENIηPSILI AND PERISPOMENI AND PROSGE",
      "GRAMMENIηDASIA AND PERISPOMENI AND PROSGEGRAMMENIgSMALL LETTER ETA WITH PSILI AND YPOGEGRAM",
      "MENIγDASIA AND YPOGEGRAMMENIγPSILI AND VARIA AND YPOGEGRAMMENIγDASIA AND VARIA AND YPOGEGRA",
      "MMENIγPSILI AND OXIA AND YPOGEGRAMMENIγDASIA AND OXIA AND YPOGEGRAMMENIγPSILI AND PERISPOME",
      "NI AND YPOGEGRAMMENIγDASIA AND PERISPOMENI AND YPOGEGRAMMENIgCAPITAL LETTER ETA WITH PSILI ",
      "AND PROSGEGRAMMENIεDASIA AND PROSGEGRAMMENIεPSILI AND VARIA AND PROSGEGRAMMENIεDASIA AND VA",
      "RIA AND PROSGEGRAMMENIεPSILI AND OXIA AND PROSGEGRAMMENIεDASIA AND OXIA AND PROSGEGRAMMENIε",
      "PSILI AND PERISPOMENI AND PROSGEGRAMMENIεDASIA AND PERISPOMENI AND PROSGEGRAMMENIgSMALL LET",
      "TER OMEGA WITH PSILI AND YPOGEGRAMMENIεDASIA AND YPOGEGRAMMENIεPSILI AND VARIA AND YPOGEGRA",
      "MMENIεDASIA AND VARIA AND YPOGEGRAMMENIεPSILI AND OXIA AND YPOGEGRAMMENIεDASIA AND OXIA AND",
      " YPOGEGRAMMENIεPSILI AND PERISPOMENI AND YPOGEGRAMMENIεDASIA AND PERISPOMENI AND YPOGEGRAMM",
      "ENIgCAPITAL LETTER OMEGA WITH PSILI AND PROSGEGRAMMENIηDASIA AND PROSGEGRAMMENIηPSILI AND V",
      "ARIA AND PROSGEGRAMMENIηDASIA AND VARIA AND PROSGEGRAMMENIηPSILI AND OXIA AND PROSGEGRAMMEN",
      "IηDASIA AND OXIA AND PROSGEGRAMMENIηPSILI AND PERISPOMENI AND PROSGEGRAMMENIηDASIA AND PERI",
      "SPOMENI AND PROSGEGRAMMENIgSMALL LETTER ALPHA WITH VRACHYεMACRONεVARIA AND YPOGEGRAMMENIεYP",
      "OGEGRAMMENIεOXIA AND YPOGEGRAMMENI"]),
    (0x1FB6, ["GREEK SMALL LETTER ALPHA WITH PERISPOMENIπ AND YPOGEGRAMMENIgCAPITAL LETTER ALPHA W",
      "ITH VRACHYηMACRONηVARIAηOXIAηPROSGEGRAMMENIgKORONISgPROSGEGRAMMENIhSILIhERISPOMENIgDIALYTIK",
      "A AND PERISPOMENIgSMALL LETTER ETA WITH VARIA AND YPOGEGRAMMENIγYPOGEGRAMMENIγOXIA AND YPOG",
      "EGRAMMENI"]),
    (0x1FC6, ["GREEK SMALL LETTER ETA WITH PERISPOMENIξ AND YPOGEGRAMMENIgCAPITAL LETTER EPSILON W",
      "ITH VARIAιOXIAwTA WITH VARIAεOXIAεPROSGEGRAMMENIgPSILI AND VARIAqOXIAqPERISPOMENIgSMALL LET",
      "TER IOTA WITH VRACHYδMACRONδDIALYTIKA AND VARIAςOXIA"]),
    (0x1FD6, ["GREEK SMALL LETTER IOTA WITH PERISPOMENIδDIALYTIKA AND PERISPOMENIgCAPITAL LETTER I",
      "OTA WITH VRACHYζMACRONζVARIAζOXIA"]),
    (0x1FDD, ["GREEK DASIA AND VARIAqOXIAqPERISPOMENIgSMALL LETTER UPSILON WITH VRACHYηMACRONηDIAL",
      "YTIKA AND VARIAυOXIAtRHO WITH PSILIγDASIAtUPSILON WITH PERISPOMENIηDIALYTIKA AND PERISPOMEN",
      "IgCAPITAL LETTER UPSILON WITH VRACHYιMACRONιVARIAιOXIAvRHO WITH DASIAgDIALYTIKA AND VARIAuO",
      "XIAgVARIA"]),
    (0x1FF2, ["GREEK SMALL LETTER OMEGA WITH VARIA AND YPOGEGRAMMENIεYPOGEGRAMMENIεOXIA AND YPOGEG",
      "RAMMENI"]),
    (0x1FF6, ["GREEK SMALL LETTER OMEGA WITH PERISPOMENIπ AND YPOGEGRAMMENIgCAPITAL LETTER OMICRON",
      " WITH VARIAιOXIAxEGA WITH VARIAηOXIAηPROSGEGRAMMENIgOXIAgDASIA"])
  ]

end ProseRules.Text
