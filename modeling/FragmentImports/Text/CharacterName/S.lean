namespace FragmentImports.CharacterName

def fromS : List String :=
  ["aS IN TRIANGLEaSAFETY PINbVESTaSAGITTARIUSaSAILBOATaSAKE BOTTLE AND CUPaSALT SHAKERaSALTIRE",
   "aSALUTING FACEaSAMARITAN ABBREVIATION MARKbLETTER ALAFcBAAcBITcDALATcFIcGAMANcINcITcIYcKAAF",
   "cLABATcMIMcNUNcQUFcRISHcSHANcSINGAATcTAAFcTITcTSAADIYcYUTcZENbMARK DAGESHcEPENTHETIC YUTcIN",
   "cIN-ALAFcNEQUDAAcOCCLUSIONbMODIFIER LETTER EPENTHETIC YUTdIdSHORT AbPUNCTUATION AFSAAQcANGED",
   "cANNAAUcARKAANUcATMAAUcBAUcMELODIC QITSAcNEQUDAAcQITSAcSHIYYAALAAcSOF MASHFAATcTURUcZAEFcZIQAA",
   "bVOWEL SIGN AdAAdEdIdLONG AeAAeEeIeUdOdOVERLONG AeAAdSHORT AdSUKUNdUaSANDWICH",
   "aSANS-SERIF HEAVY DOUBLE COMMA QUOTATION MARK ORNAMENTdTURNED COMMA QUOTATION MARK ORNAMENT",
   "cLOW DOUBLE COMMA QUOTATION MARK ORNAMENTbINTERROBANG ORNAMENTaSARIaSATELLITEbANTENNAaSATURN",
   "aSAURASHTRA CONSONANT SIGN HAARUbDANDAbDIGIT EIGHTcFIVEcFOURcNINEcONEcSEVENcSIXcTHREEcTWOcZERO",
   "bDOUBLE DANDAbLETTER AcAAcAIcAUcBAcBHAcCAcCHAcDAcDDAcDDHAcDHAcEcEEcGAcGHAcHAcIcIIcJAcJHAcKA",
   "cKHAcLAcLLAcMAcNAcNGAcNNAcNYAcOcOOcPAcPHAcRAcSAcSHAcSSAcTAcTHAcTTAcTTHAcUcUUcVAcVOCALIC LdLLdR",
   "dRRcYAbSIGN ANUSVARAcCANDRABINDUcVIRAMAcVISARGAbVOWEL SIGN AAdAIdAUdEdEEdIdIIdOdOOdUdUU",
   "dVOCALIC LeLLeReRRaSAUROPODaSAXOPHONEaSCALESaSCARFaSCHOOLbSATCHELaSCIaSCOOTERaSCORPION",
   "aSCORPIUSaSCREENaSCREWDRIVERaSCRIPT CAPITAL BcEcFcHcIcLcMcPcRbLIGATURE ET ORNAMENTbSMALL EcGcL",
   "cOaSCROLLaSCRUPLEaSEALaSEATaSECOND PLACE MEDALaSECTION SIGNaSECTORaSEDNAaSEE-NO-EVIL MONKEY",
   "aSEEDLINGaSEGMENTaSEGMENTED DIGIT EIGHTcFIVEcFOURcNINEcONEcSEVENcSIXcTHREEcTWOcZEROaSELFIE",
   "aSEMICOLONaSEMIDIRECT PRODUCT WITH BOTTOM CLOSEDaSEMISEXTILEaSEPARATED SYMBOL",
   "aSERIOUS FACE WITH SYMBOLS COVERING MOUTHaSERVICE MARKaSESAME DOTaSESQUIQUADRATEaSET MINUS",
   "bTRANSMIT STATEaSEWING NEEDLEaSEXTILEaSGCaSHADOWED WHITE CIRCLEcLATIN CROSScSTAR",
   "aSHALLOW PAN OF FOODaSHAMROCKaSHARADA ABBREVIATION SIGNbCONTINUATION SIGNbDANDAbDIGIT EIGHT",
   "cFIVEcFOURcNINEcONEcSEVENcSIXcTHREEcTWOcZERObDOUBLE DANDAbEKAMbEXTRA SHORT VOWEL MARK",
   "bHEADSTROKEbLETTER AcAAcAIcAUcBAcBHAcCAcCHAcDAcDDAcDDHAcDHAcEcGAcGHAcHAcIcIIcJAcJHAcKAcKHAcLA",
   "cLLAcMAcNAcNGAcNNAcNYAcOcPAcPHAcRAcSAcSHAcSSAcTAcTHAcTTAcTTHAcUcUUcVAcVOCALIC LdLLdRdRRcYAbOM",
   "bSANDHI MARKbSECTION MARK-1cMARK-2bSEPARATORbSIGN ANUSVARAcAVAGRAHAcCANDRABINDU",
   "cINVERTED CANDRABINDUcJIHVAMULIYAcNUKTAcSIDDHAMcUPADHMANIYAcVIRAMAcVISARGAbSUTRA MARK",
   "bVOWEL MODIFIER MARKcSIGN AAdAIdAUdEdIdIIdOdPRISHTHAMATRA EdUdUUdVOCALIC LeLLeReRRaSHARK",
   "aSHAVED ICEaSHAVIAN LETTER ADOcAGEcAHcAIRcAREcARRAYcASHcAWEcBIBcCHURCHcDEADcEARcEATcEGGcERR",
   "cFEEcGAGcHA-HAcHUNGcIANcICEcIFcJUDGEcKICKcLOLLcMEASUREcMIMEcNUNcOAKcOILcONcOOZEcORcOUTcPEEP",
   "cROARcSOcSUREcTHEYcTHIGHcTOTcUPcVOWcWOEcWOOLcYEAcYEWcZOOaSHEEPaSHIELDaSHIFT INbOUT",
   "aSHINTO SHRINEaSHIPaSHOCKED FACE WITH EXPLODING HEADaSHOOTING STARaSHOPPING BAGSbTROLLEY",
   "aSHORT BACKSLANTED SOUTH ARROWbBENT ARROW POINTING DOWNWARDS THEN NORTH EASTbDOWN TACK",
   "dWITH OVERBARbLEFT TACKbRIGHTWARDS ARROW ABOVE LEFTWARDS ARROWbSLANTED NORTH ARROWbUP TACK",
   "dABOVE SHORT DOWN TACKdWITH UNDERBARaSHORTCAKEaSHORTHAND FORMAT CONTINUING OVERLAPcDOWN STEP",
   "cLETTER OVERLAPcUP STEPaSHORTSaSHOULDERED OPEN BOXaSHOWERaSHRIMPaSHRUGaSHUFFLE PRODUCTaSHYaSI",
   "aSIDDHAM DANDAbDOUBLE DANDAbEND OF TEXT MARKbLETTER AcAAcAIcALTERNATE UcAUcBAcBHAcCAcCHAcDA",
   "cDDAcDDHAcDHAcEcGAcGHAcHAcIcIIcJAcJHAcKAcKHAcLAcMAcNAcNGAcNNAcNYAcOcPAcPHAcRAcSAcSHAcSSAcTA",
   "cTHAcTHREE-CIRCLE ALTERNATE IcTTAcTTHAcTWO-CIRCLE ALTERNATE IeIIcUcUUcVAcVOCALIC LdLLdRdRRcYA",
   "bREPETITION MARK-1cMARK-2cMARK-3bSECTION MARK DOUBLE RINGfWITH RAYS",
   "dWITH CIRCLES AND FOUR ENCLOSURESgRAYSgTWO ENCLOSURESeDOUBLE CRESCENTSeQUADRUPLE CRESCENTS",
   "eRAYS AND DOTTED CRESCENTShDOUBLE CRESCENTShTRIPLE CRESCENTSeSEPTUPLE CRESCENTS",
   "eTRIDENT AND DOTTED CRESCENTSgU-SHAPED ORNAMENTSeTRIPLE CRESCENTSbSEPARATOR BARcDOT",
   "bSIGN ANUSVARAcCANDRABINDUcNUKTAcSIDDHAMcVIRAMAcVISARGAbVOWEL SIGN AAdAIdALTERNATE UeUUdAUdEdI",
   "dIIdOdUdUUdVOCALIC ReRRaSIDEWAYS BLACK DOWN POINTING INDEXcLEFT POINTING INDEX",
   "cRIGHT POINTING INDEXcUP POINTING INDEXbWHITE DOWN POINTING INDEXcLEFT POINTING INDEX",
   "cRIGHT POINTING INDEXcUP POINTING INDEXaSIGN OF THE HORNSaSIGNWRITING AIR BLOW SMALL ROTATIONS",
   "cBLOWING OUTcSUCK SMALL ROTATIONScSUCKING INbBREATH EXHALEcINHALEbBRUSH BETWEENcMULTIPLE",
   "cSINGLEbCHEEKS NEUTRALcPUFFEDcSUCKEDbCOLONbCOMMAbDREAMY EYEBROWS DOWN NEUTRALdNEUTRAL DOWNeUP",
   "dUP NEUTRALbDYNAMIC ARROWHEAD LARGEdSMALLcEVERY OTHER TIMEcFASTcGRADUALcRELAXEDcSIMULTANEOUS",
   "dALTERNATINGcSLOWcTENSEbEARSbEXCITEMENTbEYE BLINK MULTIPLEdSINGLEcWINKbEYEBROWS STRAIGHT DOWN",
   "dNEUTRALdUPbEYEGAZE-FLOORPLANE CURVEDcSTRAIGHTdALTERNATINGdDOUBLEbEYEGAZE-WALLPLANE CIRCLING",
   "cCURVEDcSTRAIGHTdALTERNATINGdDOUBLEbEYELASHES DOWNcFLUTTERINGcUPbEYES CLOSEDcHALF CLOSEDdOPEN",
   "cOPENcSQUEEZEDcWIDE OPENcWIDENING MOVEMENTbFACE DIRECTION POSITION NOSE FORWARD TILTING",
   "fUP OR DOWNiTILTINGbFILL MODIFIER-2cMODIFIER-3cMODIFIER-4cMODIFIER-5cMODIFIER-6bFINGER",
   "bFLICK LARGE MULTIPLEdSINGLEcSEQUENTIALcSMALL MULTIPLEdSINGLEbFLOORPLANE SHOULDER HIP MOVE",
   "bFOREHEAD CONTACTcNEUTRALcWRINKLEDbFULL STOPbGRASP BETWEENcMULTIPLEcSINGLEbHAIRbHAND-ANGLE",
   "cINDEXdMIDDLE LITTLEeRINGdRING LITTLEfOUTdTHUMBeINeOUTcLITTLE INDEXeTHUMB INDEX THUMBhOUTdUP",
   "cMIDDLE RING LITTLEfINfOUTcRING DOWN MIDDLE THUMB INDEX CROSSdLITTLEbHAND-CIRCLEcINDEXdBENT",
   "dHINGEdMIDDLEeCROSS LITTLEeCROSSEDeLITTLEeRINGeTHUMBdRING LITTLEcLITTLE INDEXdUP",
   "cMIDDLE RING LITTLEfBENTdUPcRING LITTLEbHAND-CLAWcFOUR FINGERS CONJOINED",
   "cINDEX THUMB CURVE THUMB INSIDEcMIDDLE RING LITTLE CONJOINEDgSIDEcNO THUMBcTHUMB FORWARDdSIDE",
   "bHAND-CUPcFIVE FINGERS SPREADfOPENcINDEXdRING LITTLEdTHUMBeOPENcMIDDLE RING LITTLEcNO THUMB",
   "cOPENdNO THUMBdTHUMB FORWARDeSIDEcTHUMB FORWARDdSIDEbHAND-CURLICUEcINDEX RING LITTLE ON",
   "cMIDDLE RING LITTLE ONcOPENbHAND-FISTcFOUR FINGERS CONJOINED BENTcHEELcINDEXdBENTeOVER MIDDLE",
   "dCUPPEDdHINGEDeLOWeMIDDLE UPgTHUMB SIDEdMIDDLEeBENTfTHUMB STRAIGHTeCONJOINEDfCUPPED",
   "gTHUMB FORWARDfHINGEDgTHUMB SIDEfINDEX BENTfMIDDLE BENTfTHUMB FORWARDgSIDEhBENThCONJOINED",
   "eCROSS LITTLEeCROSSEDfTHUMB SIDEeHINGEDfSPREAD THUMB SIDEeLITTLEeRAISED KNUCKLESeRINGfBENT",
   "fCONJOINEDeSTRAIGHT THUMB BENTeTHUMBfANGLEDgOUTfBENTfCIRCLEDfCONJOINED HINGEDfCUPPEDfHINGED",
   "fHOOKEDeUP SPREAD THUMB FORWARDdRAISED KNUCKLEdRING LITTLEdTHUMB ANGLED IN MIDDLE UP",
   "fOUT MIDDLE UPeCIRCLEeCIRCLED MIDDLE UPeCUPPED MIDDLE UPeCURLICUEeCURVE THUMB INSIDEgUNDER",
   "eFORWARD INDEX BENTgSTRAIGHTeHOOKeHOOKED MIDDLE HINGEDgUPeSIDEfBOTH BENTfINDEX BENTgHINGE",
   "fTHUMB BENTgCONJOINEDgDIAGONALdUP MIDDLE HINGEDgTHUMB CONJOINEDhSIDEcLITTLE BENTdDOWN",
   "eOTHERS CIRCLEDeRIPPLE CURVEDfSTRAIGHTdINDEXeTHUMBdRAISED KNUCKLEdTHUMBdTOUCHES THUMBdUP",
   "cMIDDLE BENT OVER INDEXdDOWNdLITTLEdRAISED KNUCKLEdRING LITTLEdTHUMB ANGLED INDEX UP",
   "fOUT INDEX CROSSEDhUPeCIRCLED INDEX HINGEDgUPeCUPPED INDEX UPeHOOKED INDEX UPeLITTLEdUP",
   "eTHUMB SIDEcRING DOWNdINDEXdLITTLEdMIDDLEeCONJOINEDeRAISED KNUCKLESdRAISED KNUCKLEdTHUMBdUP",
   "cTHUMBdBETWEEN INDEX MIDDLEgSTRAIGHTeMIDDLE RINGeRING LITTLEdFORWARDdHEEL",
   "dOVER FOUR RAISED KNUCKLESeTWO FINGERSdSIDE BENTeCONJOINEDeDIAGONALdUNDER FOUR FINGERS",
   "eINDEX BENTeLITTLE UPeTHREE FINGERSeTWO FINGERSbHAND-FLATcBETWEEN PALM FACINGS",
   "cFIVE FINGERS SPREADfBENTfFOUR BENTfHINGEDgNO THUMBgTHUMB SIDEfTHUMB FORWARDcFOUR FINGERSeBENT",
   "eCONJOINEDfSPLITeHINGEDcHEELdFIVE FINGERS SPREADgBENTgFOUR BENTdTHUMB SIDEcSPLIT CENTRE",
   "eTHUMB SIDEgBENTdINDEX THUMB SIDEdLITTLEcTHUMB BENTdFORWARDdSIDEbHAND-HINGE",
   "cFIVE FINGERS SPREAD OPENcFOUR FINGERS CONJOINEDcINDEXdHINGEDdMIDDLE LITTLEeRINGfCONJOINED",
   "dRING LITTLEdTHUMBeLARGEeOPENeSIDEeSMALLcLITTLEdINDEXeTHUMBdTHUMBcMIDDLEdRING LITTLEcNO THUMB",
   "cOPENdNO THUMBdTHUMB FORWARDeSIDEcRINGdDOWN INDEX THUMB HOOK MIDDLEcSMALL",
   "cTHUMB BETWEEN MIDDLE RINGdSIDEeTOUCHING INDEXbHAND-HOOKcCURLICUEcINDEX RING LITTLE INfOUT",
   "fUNDERcMIDDLE RING LITTLE CONJOINEDgINgOUTdTHUMBcRING THUMBbHAND-OVALcFIVE FINGERS SPREAD",
   "cINDEXcLITTLE UPcNO THUMBcRING LITTLEcTHUMB FORWARDdSIDEbHEADcMOVEMENT CIRCLE",
   "cMOVEMENT-FLOORPLANE CURVEdSTRAIGHTcMOVEMENT-WALLPLANE CURVEdSTRAIGHTdTILTcRIM",
   "bLIMB COMBINATIONcLENGTH-1cLENGTH-2cLENGTH-3cLENGTH-4cLENGTH-5cLENGTH-6cLENGTH-7",
   "bLIP LOWER OVER UPPERcUPPER OVER LOWERbLIPS PRESSED TOGETHERbLOCATION DEPTHcHEAD NECKcHEIGHT",
   "cLIMBS DIGITScTORSOcWIDTHbLOCATION-FLOORPLANE SPACEbLOCATION-WALLPLANE SPACE",
   "bMOUTH CLOSED CONTACTdFORWARDdNEUTRALcCORNERScFROWNdOPENdWRINKLEDcKISSdFORWARDdWRINKLED",
   "cOPEN CIRCLEdFORWARDdOVALeWRINKLEDeYAWNdRECTANGLEeWRINKLEDeYAWNdWRINKLEDcSMILEdOPENdWRINKLED",
   "cTENSEdFORWARDdSUCKEDcWRINKLES DOUBLEdSINGLEbMOVEMENT-DIAGONAL AWAY LARGEdLARGESTdMEDIUMdSMALL",
   "cBETWEEN AWAY LARGEeLARGESTeMEDIUMeSMALLdTOWARDS LARGEeLARGESTeMEDIUMeSMALLcTOWARDS LARGE",
   "dLARGESTdMEDIUMdSMALLbMOVEMENT-FLOORPLANE ARM CIRCLE HITTING WALL LARGE DOUBLEhSINGLE",
   "gMEDIUM DOUBLEhSINGLEgSMALL DOUBLEhSINGLEcBENDcBOX LARGEdMEDIUMdSMALLcCHECKcCORNER LARGE",
   "dMEDIUMdSMALLcCROSScCURVE COMBINEDdHITTING CEILING LARGEfSMALLeFLOOR LARGEfSMALLdLARGEdLARGEST",
   "dMEDIUMdSMALLcDOUBLE ALTERNATINGeWRIST FLEXdSTRAIGHTdWRIST FLEX",
   "cFINGER CIRCLES HITTING WALL DOUBLEgSINGLEdCONTACTcHUMP HITTING CEILING LARGE DOUBLEgTRIPLE",
   "fSMALL DOUBLEgTRIPLEeFLOOR LARGE DOUBLEfSMALL DOUBLEfTRIPLE LARGE TRIPLEgSMALL TRIPLEdSMALL",
   "cJAWcLOOP HITTING CEILING LARGE DOUBLEgSINGLEfSMALL DOUBLEgSINGLEeFLOOR LARGE DOUBLEgSINGLE",
   "fSMALL DOUBLEgSINGLEdSMALLcPEAKS LARGEdMEDIUMdSMALLcSHAKING PARALLELcSINGLE STRAIGHT LARGE",
   "eLARGESTeMEDIUMeSMALLdWRIST FLEXcTRIPLE ALTERNATING MOVEMENTeWRIST FLEXdSTRAIGHT MOVEMENT",
   "dWRIST FLEXcWAVE HITTING CEILING LARGEfSMALLeFLOOR LARGEfSMALLdLARGEdSMALLdSNAKE",
   "cWRIST CIRCLE HITTING WALL DOUBLEgSINGLEcZIGZAG LARGEdMEDIUMdSMALL",
   "bMOVEMENT-HINGE DOWN SEQUENTIALcSIDE TO SIDE SCISSORScUP DOWN ALTERNATING LARGEfSMALLeLARGE",
   "eSMALLdSEQUENTIALbMOVEMENT-WALLPLANE ARM CIRCLE MEDIUM DOUBLEfSINGLEeSMALL DOUBLEfSINGLE",
   "cBEND LARGEdMEDIUMdSMALLcBOX LARGEdMEDIUMdSMALLcCHECK LARGEdMEDIUMdSMALLcCORNER LARGEdMEDIUM",
   "dROTATIONdSMALLcCROSScCURVE HALF-CIRCLE LARGEeLARGESTeMEDIUMeSMALLdHITTING CHESTeFRONT WALL",
   "dQUARTER LARGEeLARGESTeMEDIUMeSMALLdTHEN STRAIGHTdTHREE-QUARTER CIRCLE MEDIUMfSMALL",
   "cCURVED CROSS MEDIUMeSMALLcDOUBLE ALTERNATINGeWRIST FLEXdSTRAIGHTdWRIST FLEX",
   "cFINGER CIRCLES DOUBLEeSINGLEdCONTACTcHUMP HITTING CHESTeFRONT WALLdLARGEdMEDIUMdSMALLcJAW",
   "cLOOP HITTING CHESTeFRONT WALLdLARGEdMEDIUMdSMALLeDOUBLEcPEAKS LARGEdMEDIUMdSMALLcSHAKING",
   "cSINGLE STRAIGHT LARGEeLARGESTeMEDIUMeSMALLdWRIST FLEXcTRIPLE ALTERNATINGeWRIST FLEX",
   "dSTRAIGHT MOVEMENTdWRIST FLEXcWAVE CURVE DOUBLE LARGEfMEDIUMfSMALLeTRIPLE LARGEfMEDIUMfSMALL",
   "dDIAGONAL PATH LARGEfMEDIUMfSMALLdHITTING CHESTeFRONT WALLcWRIST CIRCLE FRONT DOUBLEfSINGLE",
   "cZIGZAG LARGEdMEDIUMdSMALLbNECKbNOSE CONTACTcNEUTRALcWIGGLEScWRINKLESbPARENTHESIS",
   "bROTATION MODIFIER-10cMODIFIER-11cMODIFIER-12cMODIFIER-13cMODIFIER-14cMODIFIER-15cMODIFIER-16",
   "cMODIFIER-2cMODIFIER-3cMODIFIER-4cMODIFIER-5cMODIFIER-6cMODIFIER-7cMODIFIER-8cMODIFIER-9",
   "bROTATION-FLOORPLANE ALTERNATINGdHITTING CEILINGeFLOORcDOUBLEdHITTING CEILINGeFLOORcSINGLE",
   "dHITTING CEILINGeFLOORbROTATION-WALLPLANE ALTERNATEcALTERNATING HITTING CHESTeFRONT WALL",
   "cDOUBLEdHITTING CHESTeFRONT WALLcSINGLEdHITTING CHESTeFRONT WALLbRUB BETWEENcMULTIPLEcSINGLE",
   "bSEMICOLONbSHOULDER HIP POSITIONSdSPINEcTILTING FROM WAISTbSQUEEZE FLICK ALTERNATING",
   "cLARGE MULTIPLEdSINGLEcSEQUENTIALcSMALL MULTIPLEdSINGLEbSTRIKE BETWEENcMULTIPLEcSINGLE",
   "bSURFACE BETWEENcSYMBOLSbTEETHcBITE LIPScMOVEMENTcON LIPSeMOVEMENTdTONGUEeMOVEMENT",
   "bTENSE CHEEKS HIGHdLOWdMIDDLEbTONGUE CENTRE INSIDE MOUTHdSTICKING OUTcINSIDE MOUTH RELAXED",
   "cLICKING LIPScMOVES AGAINST CHEEKcSTICKING OUT FARcTIP BETWEEN LIPSdTOUCHING INSIDE MOUTH",
   "bTORSO-FLOORPLANE TWISTINGbTORSO-WALLPLANE CURVED BENDcSTRAIGHT STRETCHbTOUCH BETWEENcMULTIPLE",
   "cSINGLEbTRAVEL-FLOORPLANE ROTATION-FLOORPLANE ALTERNATINGdDOUBLEdSINGLE",
   "cROTATION-WALLPLANE ALTERNATINGdDOUBLEdSINGLEcSHAKINGbTRAVEL-WALLPLANE ARM SPIRAL DOUBLE",
   "eSINGLEeTRIPLEcROTATION-FLOORPLANE ALTERNATINGdDOUBLEdSINGLEcROTATION-WALLPLANE ALTERNATING",
   "dDOUBLEdSINGLEcSHAKINGbUPPER BODY TILTING FROM HIP JOINTSbWALLPLANE SHOULDER HIP MOVE",
   "aSILHOUETTE OF JAPANaSIMILAR ABOVE GREATER-THAN ABOVE EQUALS SIGNcLESS-THAN ABOVE EQUALS SIGN",
   "bMINUS SIMILARbOR GREATER-THANcLESS-THANaSINE WAVEaSINGLE CHARACTER INTRODUCER",
   "bGRAPHIC CHARACTER INTRODUCERbHIGH-REVERSED-9 QUOTATION MARK",
   "bLEFT-POINTING ANGLE QUOTATION MARKbLOW-9 QUOTATION MARKbRIGHT-POINTING ANGLE QUOTATION MARK",
   "bSHIFT THREEcTWOaSINGLE-SHIFT-2aSINGLE-SHIFT-3aSINHALA ARCHAIC DIGIT EIGHTdFIVEdFOURdNINEdONE",
   "dSEVENdSIXdTHREEdTWOcNUMBER EIGHTYdFIFTYdFORTYdNINETYdONE HUNDREDeTHOUSANDdSEVENTYdSIXTYdTEN",
   "dTHIRTYdTWENTYbLETTER AAYANNAcAEEYANNAcAEYANNAcAIYANNAcALPAPRAANA BAYANNAdCAYANNAdDAYANNA",
   "dDDAYANNAdGAYANNAdJAYANNAdKAYANNAdPAYANNAdTAYANNAdTTAYANNAcAMBA BAYANNAcAUYANNAcAYANNA",
   "cDANTAJA LAYANNAdNAYANNAdSAYANNAcEEYANNAcEYANNAcFAYANNAcHAYANNAcIIYANNAcILUUYANNAcILUYANNA",
   "cIRUUYANNAcIRUYANNAcIYANNAcKANTAJA NAASIKYAYAcMAHAAPRAANA BAYANNAdCAYANNAdDAYANNAdDDAYANNA",
   "dGAYANNAdJAYANNAdKAYANNAdPAYANNAdTAYANNAdTTAYANNAcMAYANNAcMUURDHAJA LAYANNAdNAYANNAdSAYANNA",
   "cOOYANNAcOYANNAcRAYANNAcSANYAKA DAYANNAdDDAYANNAdGAYANNAdJAYANNAcTAALUJA NAASIKYAYA",
   "dSANYOOGA NAAKSIKYAYAdSAYANNAcUUYANNAcUYANNAcVAYANNAcYAYANNAbLITH DIGIT EIGHTdFIVEdFOURdNINE",
   "dONEdSEVENdSIXdTHREEdTWOdZERObPUNCTUATION KUNDDALIYAbSIGN AL-LAKUNAcANUSVARAYAcCANDRABINDU",
   "cVISARGAYAbVOWEL SIGN AELA-PILLAdDIGA AEDA-PILLAeGAETTA-PILLAeGAYANUKITTAeIS-PILLAeKOMBUVA",
   "ePAA-PILLAdGAETTA-PILLAdGAYANUKITTAdKETTI AEDA-PILLAeIS-PILLAePAA-PILLAdKOMBU DEKAdKOMBUVA",
   "eHAA AELA-PILLAfDIGA AELA-PILLAfGAYANUKITTAaSIX PETALLED BLACK AND WHITE FLORETTE",
   "bPOINTED BLACK STARcPINWHEEL STARcSTAR WITH MIDDLE DOTaSIX-PER-EM SPACE",
   "aSIXTEEN POINTED ASTERISKaSKATEBOARDaSKI AND SKI BOOTaSKIERaSKULLbAND CROSSBONESaSKUNK",
   "aSLANTED EQUAL TO OR GREATER-THANfWITH DOT INSIDEeLESS-THANfWITH DOT INSIDE",
   "bNORTH ARROW WITH HOOKED HEADeHORIZONTAL TAILaSLAVONIC ASTERISKaSLEDaSLEEPING ACCOMMODATION",
   "bFACEbSYMBOLaSLEEPY FACEaSLEUTH OR SPYaSLICE OF PIZZAaSLIGHTLY FROWNING FACEbSMILING FACE",
   "aSLOPEaSLOPING LARGE ANDcORaSLOT MACHINEaSLOTHaSMALL AIRPLANEbAMPERSANDbASTERISKbBLUE DIAMOND",
   "bCOLONbCOMMAbCOMMERCIAL ATbCONTAINS AS MEMBERcWITH OVERBAR",
   "dVERTICAL BAR AT END OF HORIZONTAL STROKEbDOLLAR SIGNbELEMENT OFdWITH OVERBAR",
   "eVERTICAL BAR AT END OF HORIZONTAL STROKEbEM DASHbEQUALS SIGNbEXCLAMATION MARKbFULL STOP",
   "bGREATER-THAN SIGNbHYPHEN-MINUSbIDEOGRAPHIC COMMAbLEFT CURLY BRACKETcPARENTHESIS",
   "cTORTOISE SHELL BRACKETbLESS-THAN SIGNbNUMBER SIGNbORANGE DIAMONDbPERCENT SIGNbPLUS SIGN",
   "bQUESTION MARKbREVERSE SOLIDUSbRIGHT CURLY BRACKETcPARENTHESIScTORTOISE SHELL BRACKET",
   "bROMAN NUMERAL EIGHTdELEVENdFIFTYdFIVEeHUNDREDdFOURdNINEdONEeHUNDREDeTHOUSANDdSEVENdSIXdTEN",
   "dTHREEdTWELVEdTWObSEMICOLONbTILDEbTWO DOTS OVER ONE DOT PUNCTUATIONbVEE WITH UNDERBAR",
   "aSMALLER THANcOR EQUAL TOaSMASH PRODUCTaSMILEaSMILING CAT FACE WITH HEART-SHAPED EYES",
   "eOPEN MOUTHbFACE WITH HALOdHEART-SHAPED EYESdHORNSdOPEN MOUTHfAND COLD SWEATgSMILING EYES",
   "gTIGHTLY-CLOSED EYESdSMILING EYESfAND HAND COVERING MOUTHgTHREE HEARTSdSUNGLASSESdTEAR",
   "aSMIRKING FACEaSMOKING SYMBOLaSNAILaSNAKEaSNEEZING FACEaSNOW CAPPED MOUNTAINaSNOWBOARDER",
   "aSNOWFLAKEaSNOWMANbWITHOUT SNOWaSOaSOCCER BALLaSOCKSaSOFT HYPHENbICE CREAMbSHELL FLOPPY DISK",
   "aSOFTBALLaSOFTWARE-FUNCTION SYMBOLaSOGDIAN COMBINING CURVE ABOVEdBELOWcDOT ABOVEdBELOW",
   "cHOOK ABOVEdBELOWcLONG HOOK BELOWcRESH BELOWcSTROKE BELOWcTWO DOTS ABOVEeBELOW",
   "bINDEPENDENT SHINbLETTER ALEPHcAYINcBETHcFETHcGIMELcHEcHETHcKAPHcLAMEDHcLESHcMEMcNUNcPE",
   "cRESH-AYINcSADHEcSAMEKHcSHINcTAWcWAWcYODHcZAYINbNUMBER ONEdHUNDREDcTENcTWENTY",
   "bPUNCTUATION CIRCLE WITH DOTcHALF CIRCLE WITH DOTcTWO CIRCLES WITH DOTSdVERTICAL BARS",
   "fWITH DOTSaSOHaSOLID QUILT SQUARE ORNAMENTeIN BLACK SQUAREaSOLIDUSbWITH OVERBARaSOM SIGN",
   "aSOON WITH RIGHTWARDS ARROW ABOVEaSORA SOMPENG DIGIT EIGHTdFIVEdFOURdNINEdONEdSEVENdSIXdTHREE",
   "dTWOdZEROcLETTER AHdBAHdCAHdDAHdEEHdEHdGAHdHAHdIHdJAHdKAHdLAHdMAEdMAHdNAHdNGAHdNYAHdOHdPAHdRAH",
   "dSAHdTAHdUHdVAHdYAHaSOSaSOUND RECORDING COPYRIGHTaSOUTH EAST ARROWdAND SOUTH WEST ARROW",
   "dCROSSING NORTH EAST ARROWdTO CORNERdWITH HOOKcBLACK ARROWcDOUBLE ARROWcPOINTING BUDdLEAF",
   "dVINE LEAFcSANS-SERIF ARROWcTRIANGLE-HEADED ARROWeTO BARcWHITE ARROWbWEST ARROW",
   "dAND NORTH WEST ARROWdWITH HOOKcBLACK ARROWcDOUBLE ARROWcPOINTING BUDdLEAFdVINE LEAF",
   "cSANS-SERIF ARROWcTRIANGLE-HEADED ARROWeTO BARcWHITE ARROWaSOYOMBO CLUSTER-INITIAL LETTER LA",
   "dRAdSAdSHAbFINAL CONSONANT SIGN -AeBeDeGeKeLeMeNeNGeReSeSHbGEMINATION MARK",
   "bHEAD MARK WITH MOON AND SUNhAND FLAMEiTRIPLE FLAMEbLETTER -AcAcBAcBHAcCAcCHAcDAcDDAcDDHAcDHA",
   "cDZAcGAcGHAcHAcJAcJHAcKAcKHAcKSSAcLAcMAcNAcNGAcNNAcNYAcPAcPHAcRAcSAcSHAcSSAcTAcTHAcTSAcTSHA",
   "cTTAcTTHAcVAcYAcZAcZHAbMARK DOUBLE SHADcPLUTAcSHADcTSHEGbSIGN ANUSVARAcJIHVAMULIYAcUPADHMANIYA",
   "cVISARGAbSUBJOINERbTERMINAL MARK-1cMARK-2bVOWEL LENGTH MARKcSIGN AIdAUdEdIdOdOEdUdUEdVOCALIC L",
   "eRaSPaSPAaSPACEaSPAGHETTIaSPARKLEaSPARKLESaSPARKLING HEARTaSPEAK-NO-EVIL MONKEYaSPEAKER",
   "bWITH CANCELLATION STROKEcONE SOUND WAVEcTHREE SOUND WAVESaSPEAKING HEAD IN SILHOUETTE",
   "aSPEECH BALLOONaSPEEDBOATaSPESMILO SIGNaSPHERICAL ANGLEcOPENING LEFTdUPaSPIDERbWEB",
   "aSPIRAL CALENDAR PADbNOTE PADbSHELLaSPLASHING SWEAT SYMBOLaSPONGEaSPOOL OF THREADaSPOON",
   "aSPORTS MEDALaSPOUTING WHALEaSQUARE A OVER MbAARUbAMbANPEAbAPAATObARUHUAbAUbBAARERUbBARbBEETA",
   "bBIRUbBORUTObBQbBUSSYERUbC OVER KGbCALbCAPbCCbCDbCMcCUBEDcSQUAREDbCObCORPORATIONbCUPbDAbDAASU",
   "bDBbDESIbDJbDLbDMcCUBEDcSQUAREDbDORUbEEKAAbERA NAME HEISEIdMEIZIdREIWAdSYOUWAdTAISYOUbERG",
   "bESUKUUDObEVbFMbFOOTbFOUR CORNERSbGALbGANMAbGARONbGBbGHZbGIGAbGINIIbGIRUDAAbGPAbGURAMU",
   "bGURAMUTONbGYbHAbHAITUbHEKUTAARUbHERUTUbHGbHIRAGANA HOKAbHONbHOONbHOORUbHPbHPAbHUARADDObHUIITO",
   "bHURANbHZbIMAGE OFdOR EQUAL TOeNOT EQUAL TObINbININGUbINTIbIUbK OHMbKAbKAIRIbKARATTObKARORII",
   "bKBbKCALbKEESUbKGbKHZbKIRObKIROGURAMUbKIROMEETORUbKIROWATTObKKbKLbKMcCAPITALcCUBEDcSQUARED",
   "bKOOPObKORUNAbKPAbKTbKUROONEbKURUZEIRObKVbKWbKYURIIbLEFT OPEN BOX OPERATORbLMbLNbLOGbLOZENGE",
   "bLXbM CUBEDcOHMcOVER SeSQUAREDcSQUAREDbMAbMAHHAbMAIKURObMAIRUbMANSYONbMARUKUbMBcSMALLbMEETORU",
   "bMEGAbMEGATONbMGbMHZbMIKURONbMILbMIRIbMIRIBAARUbMLbMMcCUBEDcSQUAREDbMOLbMPAbMSbMU AcFcGcLcMcS",
   "cVcWbMVcMEGAbMWcMEGAbNAbNANObNFbNMbNOTTObNSbNVbNWbONSUbOOMUbORIGINAL OFdOR EQUAL TO",
   "eNOT EQUAL TObOVbPAcAMPSbPAASENTObPAATUbPCbPEEZIbPENIHIbPENSUbPESObPFbPHbPIASUTORUbPIKObPIKURU",
   "bPMbPOINTObPONDObPOSITION INDICATORbPPMbPRbPSbPVbPWbRADcOVER SeSQUAREDbREMUbRENTOGEN",
   "bRIGHT OPEN BOX OPERATORbRIRAbRITTORUbROOTbRUPIIbRUUBURUbSAIKURUbSANTIIMUbSENTIbSENTObSIRINGU",
   "bSRbSVbTARGETbTHZbTONbUONbV OVER MbWATTObWBbWITH BOTTOM HALF BLACKcCONTOURED OUTLINE",
   "cDIAGONAL CROSSHATCH FILLcHORIZONTAL FILLcLEFT HALF BLACKcLOWER LEFT DIAGONAL HALF BLACK",
   "dRIGHT DIAGONAL HALF BLACKcORTHOGONAL CROSSHATCH FILLcRIGHT HALF BLACKcTOP HALF BLACK",
   "cUPPER LEFT DIAGONAL HALF BLACKeTO LOWER RIGHT FILLdRIGHT DIAGONAL HALF BLACK",
   "eTO LOWER LEFT FILLcVERTICAL FILLbYAADObYAARUbYUANaSQUARED ASTERISKbCJK UNIFIED IDEOGRAPH-4E00",
   "dIDEOGRAPH-4E09dIDEOGRAPH-4E2DdIDEOGRAPH-4E8CdIDEOGRAPH-4EA4dIDEOGRAPH-518DdIDEOGRAPH-521D",
   "dIDEOGRAPH-524DdIDEOGRAPH-5272dIDEOGRAPH-53CCdIDEOGRAPH-53F3dIDEOGRAPH-5408dIDEOGRAPH-5439",
   "dIDEOGRAPH-55B6dIDEOGRAPH-58F0dIDEOGRAPH-591AdIDEOGRAPH-5929dIDEOGRAPH-5B57dIDEOGRAPH-5DE6",
   "dIDEOGRAPH-5F8CdIDEOGRAPH-624BdIDEOGRAPH-6253dIDEOGRAPH-6295dIDEOGRAPH-6307dIDEOGRAPH-6355",
   "dIDEOGRAPH-6599dIDEOGRAPH-65B0dIDEOGRAPH-6620dIDEOGRAPH-6708dIDEOGRAPH-6709dIDEOGRAPH-6E80",
   "dIDEOGRAPH-6F14dIDEOGRAPH-7121dIDEOGRAPH-751FdIDEOGRAPH-7533dIDEOGRAPH-7981dIDEOGRAPH-7A7A",
   "dIDEOGRAPH-7D42dIDEOGRAPH-89E3dIDEOGRAPH-8CA9dIDEOGRAPH-8D70dIDEOGRAPH-904AdIDEOGRAPH-914DbCL",
   "bCOOLbDOT OPERATORbEIGHT KbFALLING DIAGONAL SLASHbFIVE POINT ONEbFOUR DOT PUNCTUATIONcKbFREE",
   "bHCbHDRbHI-RESbHVbIDbKATAKANA DEcKOKOcSAbKEYbLATIN CAPITAL LETTER AeBeCeDeEeFeGeHeIeJeKeLeMeN",
   "eOePeQeReSeTeUeVeWeXeYeZcSMALL LETTER DbLOGICAL ANDcORbLOSSLESSbMINUSbMVbNEWbNGbOK",
   "bONE HUNDRED TWENTY PbPLUSbPPVbRISING DIAGONAL SLASHbSALTIREbSDbSECOND SCREENbSEVEN POINT ONE",
   "bSHVbSIXTY PbSMALL CIRCLEbSOSbSQUAREbSSbTHREE DbTIMESbTWENTY-TWO POINT TWObTWO KbUHD",
   "bUP WITH EXCLAMATION MARKbVODbVSbWCaSQUAT BLACK RIGHTWARDS ARROWaSQUIDaSS2aSS3aSSAaSTaSTADIUM",
   "aSTAFF OF AESCULAPIUScHERMESaSTAMPED ENVELOPEaSTANDING PERSONaSTAR AND CRESCENTbEQUALS",
   "bOF DAVIDbOPERATORbWITH LEFT HALF BLACKcRIGHT HALF BLACKaSTART OF GUARDED AREAcHEADING",
   "cPROTECTED AREAcSELECTED AREAcSTRINGcTEXTaSTATIONaSTATUE OF LIBERTYaSTEAM LOCOMOTIVE",
   "aSTEAMING BOWLaSTENOGRAPHIC FULL STOPaSTETHOSCOPEaSTICK FIGUREcLEANING LEFTdRIGHT",
   "cWITH ARMS RAISEDdDRESSaSTOCK CHARTaSTOPWATCHaSTRAIGHT RULERaSTRAIGHTNESSaSTRAWBERRY",
   "aSTRESS OUTLINED WHITE STARaSTRICTLY EQUIVALENT TOaSTRING TERMINATORaSTSaSTUDIO MICROPHONE",
   "aSTUFFED FLATBREADaSTUPAaSTXaSUBaSUBSCRIPT EIGHTbEQUALS SIGNbFIVEbFOURbLEFT PARENTHESISbMINUS",
   "bNINEbONEbPLUS SIGNbRIGHT PARENTHESISbSEVENbSIXbTHREEbTWObZEROaSUBSET ABOVE RIGHTWARDS ARROW",
   "cSUBSETcSUPERSETbOFcABOVE ALMOST EQUAL TOdEQUALS SIGNdNOT EQUAL TOdTILDE OPERATORcOR EQUAL TO",
   "fWITH DOT ABOVEcWITH NOT EQUAL TObWITH DOTcMULTIPLICATION SIGN BELOWcPLUS SIGN BELOW",
   "aSUBSTITUTEaSUCCEEDSbABOVE ALMOST EQUAL TOcEQUALS SIGNcNOT ALMOST EQUAL TOdEQUAL TO",
   "cSINGLE-LINE EQUALS SIGNdNOT EQUAL TObBUT NOT EQUIVALENT TObOR EQUAL TOcEQUIVALENT TO",
   "bUNDER RELATIONaSUMMATION BOTTOMbTOPbWITH INTEGRALaSUNbBEHIND CLOUDbWITH FACE",
   "aSUNDANESE AVAGRAHAbCONSONANT SIGN PAMINGKALdPANYAKRAdPANYIKUdPASANGAN MAeWAbDIGIT EIGHTcFIVE",
   "cFOURcNINEcONEcSEVENcSIXcTHREEcTWOcZERObLETTER AcAEcBAcBHAcCAcDAcEcEUcFAcFINAL KdMcGAcHAcIcJA",
   "cKAcKHAcLAcLEUcMAcNAcNGAcNYAcOcPAcQAcRAcREUcSAcSYAcTAcUcVAcWAcXAcYAcZA",
   "bPUNCTUATION BINDU BA SATANGAdCAKRAdDA SATANGAdKA SATANGAdLEU SATANGAdPANGLONGdPURNAMAdSURYA",
   "bSIGN PAMAAEHcPANGLAYARcPANGWISADcPANYECEKcVIRAMAbVOWEL SIGN PAMEPETdPANAELAENGdPANEULEUNG",
   "dPANGHULUdPANOLONGdPANYUKUaSUNFLOWERaSUNRISEbOVER MOUNTAINSaSUNSET OVER BUILDINGSaSUPERHERO",
   "aSUPERSCRIPT EIGHTbEQUALS SIGNbFIVEbFOURbLATIN SMALL LETTER IeNbLEFT PARENTHESISbMINUSbNINE",
   "bONEbPLUS SIGNbRIGHT PARENTHESISbSEVENbSIXbTHREEbTWObZEROaSUPERSET ABOVE LEFTWARDS ARROW",
   "cSUBSETcSUPERSETbBESIDE AND JOINED BY DASH WITH SUBSETcSUBSETbOFcABOVE ALMOST EQUAL TO",
   "dEQUALS SIGNdNOT EQUAL TOdTILDE OPERATORcOR EQUAL TOfWITH DOT ABOVEcWITH NOT EQUAL TO",
   "bPRECEDING SOLIDUSbWITH DOTcMULTIPLICATION SIGN BELOWcPLUS SIGN BELOWaSUPERVILLAIN",
   "aSURFACE INTEGRALaSURFERaSUSHIaSUSPENSION RAILWAYaSWANaSWASH AMPERSAND ORNAMENTaSWIMMER",
   "aSWUNG DASHaSYLOTI NAGRI LETTER AdBHOdBOdCHOdCOdDDHOdDDOdDHOdDOdEdGHOdGOdHOdIdJHOdJOdKHOdKOdLO",
   "dMOdNOdOdPHOdPOdROdRROdSOdTHOdTOdTTHOdTTOdUcPOETRY MARK-1dMARK-2dMARK-3dMARK-4",
   "cSIGN ALTERNATE HASANTAdANUSVARAdDVISVARAdHASANTAcVOWEL SIGN AeEeIeOOeUaSYMBOL FOR ACKNOWLEDGE",
   "cBACKSPACEcBELLcCANCELcCARRIAGE RETURNcDATA LINK ESCAPEcDELETEdFORM TWOcDEVICE CONTROL FOUR",
   "eONEeTHREEeTWOcEND OF MEDIUMeTEXTeTRANSMISSIONfBLOCKcENQUIRYcESCAPEcFILE SEPARATORcFORM FEED",
   "cGROUP SEPARATORcHORIZONTAL TABULATIONcLINE FEEDcMARKS CHAPTERcNEGATIVE ACKNOWLEDGEcNEWLINE",
   "cNULLcRECORD SEPARATORcSAMARITAN SOURCEcSHIFT INdOUTcSPACEcSTART OF HEADINGeTEXTcSUBSTITUTE",
   "dFORM TWOcSYNCHRONOUS IDLEcTYPE A ELECTRONICScUNIT SEPARATORcVERTICAL TABULATIONaSYMMETRYaSYN",
   "aSYNAGOGUEaSYNCHRONOUS IDLEaSYRIAC ABBREVIATION MARKbBARREKHbCOLON SKEWED LEFTdRIGHT",
   "bCONTRACTIONbDOTTED ZLAMA ANGULARdHORIZONTALbEND OF PARAGRAPHbESASA ABOVEcBELOWbFEMININE DOT",
   "bHARKLEAN ASTERISCUScMETOBELUScOBELUSbHBASA ABOVEcBELOWbHBASA-ESASA DOTTEDbHORIZONTAL COLON",
   "bLETTER ALAPHcBETHcDALATHcDOTLESS DALATH RISHcEcFINAL SEMKATHcGAMALdGARSHUNIcHEcHETHcKAPH",
   "cLAMADHcMALAYALAM BHAdJAdLLAdLLLAdNGAdNNAdNNNAdNYAdRAdSSAdTTAcMIMcNUNcPEcPERSIAN BHETHdDHALATH",
   "dGHAMALcQAPHcREVERSED PEcRISHcSADHEcSEMKATHcSHINcSOGDIAN FEdKHAPHdZHAINcSUPERSCRIPT ALAPHcTAW",
   "cTETHdGARSHUNIcWAWcYUDHdHEcZAINbMUSICbOBLIQUE LINE ABOVEdBELOWbPTHAHA ABOVEcBELOWcDOTTED",
   "bQUSHSHAYAbRBASA ABOVEcBELOWbRUKKAKHAbRWAHAbSUBLINEAR COLONdSKEWED LEFTeRIGHTcFULL STOP",
   "bSUPRALINEAR COLONdSKEWED LEFTcFULL STOPbTHREE DOTS ABOVEdBELOWbTWO VERTICAL DOTS ABOVEeBELOW",
   "bZQAPHA ABOVEcBELOWcDOTTEDaSYRINGE"]

end FragmentImports.CharacterName
