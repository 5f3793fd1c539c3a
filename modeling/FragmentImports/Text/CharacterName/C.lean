namespace FragmentImports.CharacterName

def fromC : List String :=
  ["aCACTUSaCADA UNAaCADUCEUSaCALENDARaCALL ME HANDaCAMERAbWITH FLASHaCAMPINGaCAN",
   "aCANADIAN SYLLABICS AcAAcAAIcAAYcAIcAIVILIK BcANcATHAPASCAN MdScAYcBEAVER DENE LeR",
   "cBIBLE-CREE YcBLACKFOOT AdEdIdKAdKEdKIdKOdNAdNEdNIdNOdOdSdWdWAdWEdWIdWOcCcCAcCAAcCAAI",
   "cCARRIER CHAdCHEdCHEEdCHIdCHOdCHUdDEEdDENE GEEdDENTAL SdDIdDLAdDLEdDLEEdDLIdDLOdDLUdDZAdDZE",
   "dDZEEdDZIdDZOdDZUdEEdGAdGAAdGEdGEEdGHAdGHEdGHEEdGHIdGHOdGHUdGIdGOdGUdGWAdGWUdHdHEEdHIdHWAdHWE",
   "dHWEEdHWIdHWOdHWUdIdINITIAL ZdJAdJEdJEEdJIdJJAdJJEdJJEEdJJIdJJOdJJUdJOdJUdJWAdKHAdKHEdKHEEdKHI",
   "dKHOdKHUdKKdKKAdKKEdKKEEdKKIdKKOdKKUdLAdLEdLEEdLHAdLHEdLHEEdLHIdLHOdLHUdLIdLOdLUdMAdMEdMEEdMI",
   "dMOdMUdNAdNEdNEEdNGdNIdNOdNUdPdPAdPEdPEEdPIdPOdPUdRAdREdREEdRIdROdRUdSAdSEdSEEdSHdSHAdSHEdSHEE",
   "dSHIdSHOdSHUdSIdSOdSUdTHAdTHEdTHEEdTHIdTHOdTHUdTLAdTLEdTLEEdTLHAdTLHEdTLHEEdTLHIdTLHOdTLHUdTLI",
   "dTLOdTLUdTSAdTSEdTSEEdTSIdTSOdTSUdTTAdTTEdTTEEdTTIdTTOdTTSAdTTSEdTTSEEdTTSIdTTSOdTTSUdTTUdWA",
   "dWEdWEEdWIdWOdWUdYAdYEdYEEdYIdYOdYUdZdZAdZEdZEEdZIdZOdZUcCEcCHI SIGNcCIcCIIcCOcCOOcCWAcCWAA",
   "cCWEcCWIcCWIIcCWOcCWOOcEcEASTERN WcENcFcFAcFAAcFAAIcFEcFIcFIIcFINAL ACUTEdBOTTOM HALF RING",
   "dDOUBLE ACUTEeSHORT VERTICAL STROKESdDOWN TACKdGRAVEdMIDDLE DOTdPLUSdRAISED DOT",
   "dRIGHT HALF RINGdRINGdSHORT HORIZONTAL STROKEdSMALL RINGdTOP HALF RINGcFOcFOOcFULL STOPcFWAA",
   "cGLOTTAL STOPcHKcHYPHENcIcIIcINcKcKAcKAAcKAAIcKAYcKEcKIcKIIcKOcKOOcKWcKWAcKWAAcKWAYcKWEcKWI",
   "cKWIIcKWOcKWOOcLcLAcLAAcLAAIcLAYcLEcLHcLHAcLHAAcLHIcLHIIcLHOcLHOOcLIcLIIcLOcLOOcLWAcLWAAcLWE",
   "cLWIcLWIIcLWOcLWOOcMcMAcMAAcMAAIcMAYcMEcMEDIAL LdRcMHcMIcMIIcMOcMOOcMOOSE-CREE SKcMWAcMWAAcMWE",
   "cMWIcMWIIcMWOcMWOOcNcN-CREE THEdTHIdTHIIcNAcNAAcNAAIcNASKAPI CWAAdKWAAdMWAAdNWAAdS-WdSCWAdSKW",
   "dSKWAdSPWAdSTWAdSWAAdTWAAdWAAdWOOdYWAAcNATTILIK HAdHAAdHIdHIIdHOdHOOdSHRAdSHRAAdSHRIdSHRII",
   "dSHROdSHROOcNAYcNEcNGcNGAcNGAAcNGAAIcNGAIcNGIcNGIIcNGOcNGOOcNHcNIcNIIcNNGcNNGAcNNGAAcNNGI",
   "cNNGIIcNNGOcNNGOOcNOcNOOcNOYcNUNAVIK HdHAdHAAdHEdHIdHIIdHOdHOOcNUNAVUT HcNWAcNWAAcNWEcNWIcNWII",
   "cNWOcNWOOcOcOJIBWAY CdKdMdNdNWIdNWIIdNWOdNWOOdPdSdSHdTcONcOOcOYcPcPAcPAAcPAAIcPAYcPEcPIcPIIcPO",
   "cPOOcPOYcPWAcPWAAcPWEcPWIcPWIIcPWOcPWOOcPWOYcQcQAcQAAcQAAIcQAIcQIcQIIcQOcQOOcRcR-CREE REdRWE",
   "cRAcRAAcRAAIcRAYcREcRIcRIIcROcROOcRWAcRWAAcRWEEcRWIcRWIIcRWOcRWOOcScSAcSAAcSAAIcSAYcSAYISI HA",
   "dHEdHIdHOdHOOdJIdJUdJUUdMdSHAdSHEdSHIdSHOdSHOOdSHWEdTHdYIcSEcSHcSHAcSHAAcSHAYcSHEcSHIcSHIIcSHO",
   "cSHOOcSHOYcSHWAcSHWAAcSHWEcSHWIcSHWIIcSHWOcSHWOOcSHWOYcSIcSIIcSOcSOOcSOUTH-SLAVEY KAHdKEHdKIH",
   "dKOHcSOYcSPAcSPEcSPIcSPOcSWcSWAcSWAAcSWEcSWIcSWIIcSWOcSWOOcTcTAcTAAcTAAIcTAYcTEcTHcTH-CREE TH",
   "dTHAdTHAAdTHEdTHIdTHIIdTHOdTHOOcTHAcTHAAcTHEcTHIcTHIIcTHOcTHOOcTHWAcTHWAAcTHWEcTIcTIIcTLHA",
   "cTLHEcTLHIcTLHOcTLHOOcTLHWEcTOcTOOcTTAcTTEcTTHcTTHAcTTHAAcTTHEcTTHIcTTHOcTTHOOcTTHWEcTTIcTTO",
   "cTWAcTWAAcTWEcTWIcTWIIcTWOcTWOOcTYAcTYEcTYIcTYOcWAcWAAcWAYcWEcWEST-CREE CWAdCWAAdCWEdCWIdCWII",
   "dCWOdCWOOdFWAAdKWAdKWAAdKWEdKWIdKWIIdKWOdKWOOdLdLAdLAAdLEdLOdLOOdLWAdLWAAdLWEdLWIdLWIIdLWO",
   "dLWOOdMdMWAdMWAAdMWEdMWIdMWIIdMWOdMWOOdNWAdNWAAdNWEdPdPWAdPWAAdPWEdPWIdPWIIdPWOdPWOOdRdRAdRE",
   "dRIdROdRWAAdSHWAdSHWAAdSHWEdSHWIdSHWIIdSHWOdSHWOOdSWAdSWAAdSWEdSWIdSWIIdSWOdSWOOdTHWAAdTWA",
   "dTWAAdTWEdTWIdTWIIdTWOdTWOOdWAdWAAdWEdWIdWIIdWOdWOOdYdYWAdYWAAdYWEdYWIdYWIIdYWOdYWOOcWESTERN W",
   "cWIcWIIcWOcWOOcWOODS-CREE FINAL THdTHdTHAdTHEdTHIdTHOdTHWAdTHWAAdTHWEEdTHWIdTHWIIdTHWOdTHWOOcY",
   "cY-CREE COOdKOOdLOOdMOOdNOOdOOdPOOdPWAAdSOOdTOOdWdYOOcYAcYAAcYAAIcYAYcYEcYIcYIIcYOcYOOcYOYcYWA",
   "cYWAAcYWEcYWIcYWIIcYWOcYWOOaCANCELbCHARACTERbTAGaCANCELLATION XaCANCERaCANDLEaCANDY",
   "aCANNED FOODaCANOEaCAPITULUMaCAPRICORNaCAR SLIDINGaCARD FILE BOXbINDEXcDIVIDERSaCARE OFaCARET",
   "bINSERTION POINTaCARIAN LETTER AcA2cBcC-18cC-39cDcD2cEcE2cGcG2cIcIIcKcK2cLcLDcLD2cMcMBcMB2cMB3",
   "cMB4cNcNDcNGcNNcOcPcP2cQcRcRRcScSHcSH2cSScSTcST2cTcTTcTT2cUcUUcUUUcUUU2cUUU3cUUUUcXaCARON",
   "aCAROUSEL HORSEaCARP STREAMERaCARPENTRY SAWaCARRIAGE RETURNaCARROTaCASTLEaCATbFACE",
   "cWITH TEARS OF JOYdWRY SMILEaCAUCASIAN ALBANIAN CITATION MARKcLETTER ALTdAORdBETdCARdCAYNdCHA",
   "dCHATdCHIdCHOYdCYAWdCYAYdDATdDYANdDZAYdDZYAYdEBdEYNdFAMdGHEYSdGIMdHEYTdINYAdIRBdIWNdJAYNdJHOX",
   "dKARdKIWdLANdLYITdMAQdNOWCdONdPENdPIWRdQARdQAYdRATdSEYKdSHAdSHAKdSHOYdTASdTIWRdTYAYdVEYZdXEYN",
   "dYAYDdYOWDdZARLdZHAdZHILaCAUTION SIGNaCCHaCEDI SIGNaCEDILLAaCELTIC CROSSaCENT SIGN",
   "aCENTRE LINE SYMBOLaCENTRELINE LOW LINEbOVERLINEaCERESaCGJaCHAINSaCHAIRaCHAKMA AU MARKbDANDA",
   "bDIGIT EIGHTcFIVEcFOURcNINEcONEcSEVENcSIXcTHREEcTWOcZERObDOUBLE DANDAbLETTER AAcBAAcBHAAcCAA",
   "cCHAAcDAAcDDAAcDDHAAcDHAAcEcGAAcGHAAcHAAcIcJAAcJHAAcKAAcKHAAcLAAcLHAAcMAAcNAAcNGAAcNNAAcNYAA",
   "cPAAcPHAAcRAAcSAAcTAAcTHAAcTTAAcTTHAAcUcVAAcWAAcYAAcYYAAbMAAYYAAbO MARKbQUESTION MARK",
   "bSECTION MARKbSIGN ANUSVARAcCANDRABINDUcVISARGAbVIRAMAbVOWEL SIGN AdAAdAIdAUdEdEIdIdIIdOdOIdU",
   "dUUaCHAM CONSONANT SIGN FINAL HeMeNGdLAdRAdWAdYAbDIGIT EIGHTcFIVEcFOURcNINEcONEcSEVENcSIX",
   "cTHREEcTWOcZERObLETTER AcAIcBAcBBAcBHAcCHAcCHHAcDAcDDAcDHAcEcFINAL CHdGdKdLdNdNGdPdRdSSdTdYcGA",
   "cGHAcHAcIcJAcJHAcKAcKHAcLAcMAcMUEcNAcNGAcNGUEcNHAcNHJAcNHUEcNUEcOcPAcPHAcPPAcRAcSAcSSAcTAcTHA",
   "cUcVAcYAbPUNCTUATION DANDAcDOUBLE DANDAcSPIRALcTRIPLE DANDAbVOWEL SIGN AAdAIdAUdEIdIdIIdOdOEdU",
   "dUEaCHARACTER TABULATIONcSETcWITH JUSTIFICATIONbTIEaCHART WITH DOWNWARDS TRENDcUPWARDS TREND",
   "eAND YEN SIGNaCHECK MARKaCHECKER BOARDcFILLaCHEERING MEGAPHONEaCHEESE WEDGEaCHEQUERED FLAG",
   "aCHEROKEE LETTER AcDAcDEcDIcDLAcDOcDUcDVcEcGAcGEcGIcGOcGUcGVcHAcHEcHIcHNAcHOcHUcHVcIcKAcLAcLE",
   "cLIcLOcLUcLVcMAcMEcMIcMOcMUcMVcNAcNAHcNEcNIcNOcNUcNVcOcQUAcQUEcQUIcQUOcQUUcQUVcScSAcSEcSIcSO",
   "cSUcSVcTAcTEcTIcTLAcTLEcTLIcTLOcTLUcTLVcTSAcTSEcTSIcTSOcTSUcTSVcUcVcWAcWEcWIcWOcWUcWVcYAcYEcYI",
   "cYOcYUcYVbSMALL LETTER AdDAdDEdDIdDLAdDOdDUdDVdEdGAdGEdGIdGOdGUdGVdHAdHEdHIdHNAdHOdHUdHVdIdKA",
   "dLAdLEdLIdLOdLUdLVdMAdMEdMIdMOdMUdMVdNAdNAHdNEdNIdNOdNUdNVdOdQUAdQUEdQUIdQUOdQUUdQUVdSdSAdSE",
   "dSIdSOdSUdSVdTAdTEdTIdTLAdTLEdTLIdTLOdTLUdTLVdTSAdTSEdTSIdTSOdTSUdTSVdUdVdWAdWEdWIdWOdWUdWVdYA",
   "dYEdYIdYOdYUdYVaCHERRIESaCHERRY BLOSSOMaCHESTNUTaCHI RHOaCHICKENaCHILDaCHILDREN CROSSING",
   "aCHIPMUNKaCHIRONaCHOCOLATE BARaCHOPSTICKSaCHORASMIAN LETTER ALEPHcAYINcBETHcCURLED WAWcDALETH",
   "cGIMELcHEcHETHcKAPHcLAMEDHcMEMcNUNcPEcRESHcSAMEKHcSHINcSMALL ALEPHcTAWcWAWcYODHcZAYIN",
   "bNUMBER FOURcONEdHUNDREDcTENcTHREEcTWENTYcTWOaCHRISTMAS TREEaCHURCHaCINEMA",
   "aCIRCLE DIVIDED BY HORIZONTAL BAR AND TOP HALF DIVIDED BY VERTICAL BAR",
   "bWITH ALL BUT UPPER LEFT QUADRANT BLACKcHORIZONTAL BARcLEFT HALF BLACKcLOWER HALF BLACK",
   "cRIGHT HALF BLACKcSMALL CIRCLE TO THE RIGHTcSUPERIMPOSED XcTWO HORIZONTAL STROKES TO THE RIGHT",
   "cUPPER HALF BLACKdRIGHT QUADRANT BLACKcVERTICAL FILLaCIRCLED ANTICLOCKWISE ARROW",
   "bANTICLOCKWISE-ROTATED DIVISION SIGNbASTERISK OPERATORbBOLD XbBULLETbC WITH OVERLAID BACKSLASH",
   "bCCbCDbCROSS FORMEEdWITH FOUR DOTSeTWO DOTScPOMMEEbCROSSING LANESbDASHbDIGIT EIGHTcFIVEcFOUR",
   "cNINEcONEcSEVENcSIXcTHREEcTWOcZERObDIVISION SIGNcSLASHbDOLLAR SIGN WITH OVERLAID BACKSLASH",
   "bDOT OPERATORbEQUALSbGREATER-THANbHANGUL CHIEUCHdAcCIEUCdAcHIEUHdAcIEUNGdAdUcKHIEUKHdAcKIYEOK",
   "dAcMIEUMdAcNIEUNdAcPHIEUPHdAcPIEUPdAcRIEULdAcSIOSdAcTHIEUTHdAcTIKEUTdA",
   "bHEAVY WHITE RIGHTWARDS ARROWbHORIZONTAL BAR WITH NOTCHbHUMAN FIGUREbIDEOGRAPH ACCEPT",
   "cADVANTAGEcALLIANCEcATTENTIONcCENTREcCONGRATULATIONcCOPYcCORRECTcEARTHcEIGHTcENTERPRISE",
   "cEXCELLENTcFEMALEcFINANCIALcFIREcFIVEcFOURcHAVEcHIGHcITEMcKINDERGARTENcKOTOcLABORcLEFTcLOW",
   "cMALEcMEDICINEcMETALcMOONcNAMEcNIGHTcNINEcONEcPRINTcQUESTIONcRELIGIONcRESOURCEcRESTcRIGHT",
   "cSCHOOLcSECRETcSEVENcSIXcSOCIETYcSPECIALcSTOCKcSTUDYcSUITABLEcSUNcSUPERVISEcTENcTHREEcTWO",
   "cWATERcWOODbINFORMATION SOURCEbITALIC LATIN CAPITAL LETTER CfRbKATAKANA AcEcHAcHEcHIcHOcHUcI",
   "cKAcKEcKIcKOcKUcMAcMEcMIcMOcMUcNAcNEcNIcNOcNUcOcRAcREcRIcROcRUcSAcSEcSIcSOcSUcTAcTEcTIcTOcTUcU",
   "cWAcWEcWIcWOcYAcYOcYUbKOREAN CHARACTER CHAMKOdJUEUIbLATIN CAPITAL LETTER AeBeCeDeEeFeGeHeIeJeK",
   "eLeMeNeOePeQeReSeTeUeVeWeXeYeZcSMALL LETTER AeBeCeDeEeFeGeHeIeJeKeLeMeNeOePeQeReSeTeUeVeWeXeY",
   "eZbLESS-THANbMINUSbMULTIPLICATION SIGN WITH CIRCUMFLEX ACCENTbNUMBER EIGHTEEN",
   "cEIGHTY ON BLACK SQUAREcELEVENcFIFTEENcFIFTYdON BLACK SQUAREcFORTYdEIGHTdFIVEdFOURdNINE",
   "dON BLACK SQUAREdONEdSEVENdSIXdTHREEdTWOcFOURTEENcNINETEENcSEVENTEENcSEVENTY ON BLACK SQUARE",
   "cSIXTEENcSIXTY ON BLACK SQUAREcTENdON BLACK SQUAREcTHIRTEENcTHIRTYdEIGHTdFIVEdFOURdNINE",
   "dON BLACK SQUAREdONEdSEVENdSIXdTHREEdTWOcTWELVEcTWENTYdEIGHTdFIVEdFOURdNINEdON BLACK SQUARE",
   "dONEdSEVENdSIXdTHREEdTWObOPEN CENTRE EIGHT POINTED STARbPARALLELbPERPENDICULARbPLUS",
   "bPOSTAL MARKbREVERSE SOLIDUSbRING OPERATORbSQUAREbTIMESbTRIANGLEcDOWNbVERTICAL BAR",
   "bWHITE BULLETcSTARbWZbXbZERO WITH SLASHaCIRCULATION FUNCTIONaCIRCUMFLEX ACCENTaCIRCUS TENT",
   "aCITYSCAPEbAT DUSKaCJK RADICAL BAMBOOcBLUEcBOLT OF CLOTHcBONEcBOXcBRUSH ONEdTWO",
   "cC-SIMPLIFIED BIRDdCARTdDRAGONdEATdEVENdFISHdFLYdFROGdGATEdGOLDdHORSEdLEAFdLONGdSALTdSEEdSHELL",
   "dSILKdSPEECHdTANNED LEATHERdTOOTHdTURTLEdWINDcCHOKEcCITYcCIVILIANcCLIFFcCLOTHEScCOWcDEATH",
   "cDIVINATIONcDOGcEAT ONEdTHREEdTWOcEWEcEYEcFIREcFOOTcGHOSTcGRASS ONEdTHREEdTWOcHANDcHEAD",
   "cHEART ONEdTWOcHORNcJ-SIMPLIFIED DRAGONdEVENdTOOTHdTURTLEcJADEcKNIFE ONEdTWOcLAME FOURdONE",
   "dTHREEdTWOcLONG ONEdTWOcMEATcMESHcMOONcMORTARcMOTHERcMOUND ONEdTWOcNET FOURdONEdTHREEdTWOcOLD",
   "cPAW ONEdTWOcPERSONcRAINcRAMcRAPcREPEATcSEALcSECOND ONEdTHREEdTWOcSHEEPcSILK",
   "cSIMPLIFIED HALF TREE TRUNKdHORNdWALKdWHEATdYELLOWcSMALL ONEdTWOcSNAKEcSNOUT ONEdTWO",
   "cSPIRIT ONEdTWOcSUNcTABLEcTHREADcTIGERcTURTLEcWALK ONEdTWOcWATER ONEdTWOcWEST ONEdTWO",
   "bSTROKE BXGcDcHcHGcHPcHPWGcHXWGcHZcHZGcHZTcHZWcHZWGcHZZcHZZPcHZZZcHZZZGcNcPcPDcPGcPZcQcScSGcSP",
   "cSTcSWcSWGcSWZcSZcSZWGcSZZcTcTNcWGcXGaCLAMSHELL MOBILE PHONEaCLAPPER BOARDaCLAPPING HANDS SIGN",
   "aCLASSICAL BUILDINGaCLEAR SCREEN SYMBOLaCLINKING BEER MUGSbGLASSESaCLIPBOARD",
   "aCLOCK FACE EIGHT OCLOCKcEIGHT-THIRTYcELEVEN OCLOCKcELEVEN-THIRTYcFIVE OCLOCKcFIVE-THIRTY",
   "cFOUR OCLOCKcFOUR-THIRTYcNINE OCLOCKcNINE-THIRTYcONE OCLOCKcONE-THIRTYcSEVEN OCLOCK",
   "cSEVEN-THIRTYcSIX OCLOCKcSIX-THIRTYcTEN OCLOCKcTEN-THIRTYcTHREE OCLOCKcTHREE-THIRTY",
   "cTWELVE OCLOCKcTWELVE-THIRTYcTWO OCLOCKcTWO-THIRTYaCLOCKWISE CLOSED CIRCLE ARROW",
   "bCONTOUR INTEGRALbDOWNWARDS AND UPWARDS OPEN CIRCLE ARROWSbGAPPED CIRCLE ARROWbINTEGRAL",
   "bOPEN CIRCLE ARROWbRIGHT AND LEFT SEMICIRCLE ARROWS",
   "bRIGHTWARDS AND LEFTWARDS OPEN CIRCLE ARROWShWITH CIRCLED ONE OVERLAYbTOP SEMICIRCLE ARROW",
   "bTRIANGLE-HEADED OPEN CIRCLE ARROWaCLOSE UPaCLOSED BOOKbINTERSECTION WITH SERIFSbLOCK WITH KEY",
   "bMAILBOX WITH LOWERED FLAGdRAISED FLAGbSUBSETcOR EQUAL TObSUPERSETcOR EQUAL TObUMBRELLA",
   "bUNION WITH SERIFSeAND SMASH PRODUCTaCLOUDbWITH LIGHTNINGcRAINcSNOWcTORNADOaCLOWN FACEaCOAT",
   "aCOCKROACHaCOCKTAIL GLASSaCOCONUTaCOFFINaCOINaCOLLISION SYMBOLaCOLONbEQUALSbSIGN",
   "aCOMBINING ACUTE ACCENTdBELOWcTONE MARKbACUTE-GRAVE-ACUTEbACUTE-MACRONbALMOST EQUAL TO ABOVE",
   "eBELOWbANNUITY SYMBOLbANTICLOCKWISE ARROW ABOVEcRING OVERLAYbASTERISK ABOVEcBELOWbBINDU BELOW",
   "bBREVEcBELOWbBREVE-MACRONbBRIDGE ABOVEcBELOWbCANDRABINDUbCARONcBELOWbCEDILLAbCIRCUMFLEX ACCENT",
   "dBELOWbCLOCKWISE ARROW ABOVEcRING OVERLAYbCOMMA ABOVEdRIGHTcBELOWbCONJOINING MACRONdBELOW",
   "bCYRILLIC DASIA PNEUMATAcHUNDRED MILLIONS SIGNdTHOUSANDS SIGNcKAVYKAcLETTER AdBEdBIG YUSdCHE",
   "dDEdDJERVdEFdELdEMdENdERdESdES-TEdFITAdGHEdHAdHARD SIGNdIdIEdIOTIFIED AeBIG YUSeEdKA",
   "dLITTLE YUSdMONOGRAPH UKdOdOMEGAdPEdSHAdSHCHAdSOFT SIGNdTEdTSEdUdUKRAINIAN IEdVEdYATdYERUdYI",
   "dYUdZEdZHEcMILLIONS SIGNcPALATALIZATIONcPAYEROKcPOKRYTIEcPSILI PNEUMATAcTEN MILLIONS SIGN",
   "cTHOUSAND MILLIONS SIGNcTITLOdLEFT HALFdRIGHT HALFcVZMETbDELETION MARKbDEVANAGARI DIGIT EIGHT",
   "dFIVEdFOURdNINEdONEdSEVENdSIXdTHREEdTWOdZEROcLETTER AdKAdNAdPAdRAdUdVIcSIGN AVAGRAHAbDIAERESIS",
   "cBELOWbDIAERESIS-RINGbDOT ABOVEdLEFTdRIGHTcBELOWdLEFTbDOTTED ACUTE ACCENTcGRAVE ACCENT",
   "bDOUBLE ACUTE ACCENTcBREVEdBELOWcCIRCUMFLEX ABOVEcGRAVE ACCENTcINVERTED BREVEeBELOWcLOW LINE",
   "cMACRONdBELOWcOPEN MARK BELOWcOVERLINEcPARENTHESES ABOVEcPLUS SIGN ABOVEeBELOW",
   "cRIGHTWARDS ARROW BELOWcRING BELOWcTILDEdLEFT HALFdRIGHT HALFcVERTICAL LINE ABOVEeBELOW",
   "dSTROKE OVERLAYbDOUBLED CIRCUMFLEX ACCENTbDOWN TACK BELOWbDOWNWARDS ARROWbENCLOSING CIRCLE",
   "dBACKSLASHcDIAMONDcKEYCAPcSCREENcSQUAREcUPWARD POINTING TRIANGLEbEQUALS SIGN BELOWbFERMATA",
   "bFOUR DOTS ABOVEbGLAGOLITIC LETTER AZUdBIG YUSdBUKYdCHRIVIdDJERVIdDOBROdFITAdFRITUdGLAGOLI",
   "dHERUdIdINITIAL IZHEdIOTATED BIG YUSeSMALL YUSdIZHEdKAKOdLJUDIJEdMYSLITEdNASHIdONUdPOKOJI",
   "dRITSIdSHAdSHTAdSLOVOdSMALL YUSdTSIdTVRIDOdUKUdVEDEdYATIdYERIdYERUdYESTUdYOdYUdZEMLJAdZHIVETE",
   "bGRANTHA DIGIT FIVEdFOURdONEdSIXdTHREEdTWOdZEROcLETTER AdKAdNAdPAdVIbGRAPHEME JOINER",
   "bGRAVE ACCENTdBELOWcTONE MARKbGRAVE-ACUTE-GRAVEbGRAVE-MACRONbGREEK DIALYTIKA TONOScKORONIS",
   "cMUSICAL PENTASEMEdTETRASEMEdTRISEMEcPERISPOMENIcYPOGEGRAMMENIbHOMOTHETIC ABOVEbHOOK ABOVE",
   "bHORNbINFINITYbINVERTED BREVEdBELOWcBRIDGE BELOWcDOUBLE ARCH ABOVEeBELOWbIS BELOW",
   "bKATAKANA-HIRAGANA SEMI-VOICED SOUND MARKcVOICED SOUND MARKbKAVYKA ABOVE LEFTdRIGHT",
   "bLATIN LETTER SMALL CAPITAL GfLfMfNfRcSMALL LETTER AfWITH DIAERESISeAEeALPHAeAOeAVeBeBETAeC",
   "fCEDILLAeDeEeESHeETHeFeFLATTENED OPEN A ABOVEeGeHeIeINSULAR DfGfRfTeKeL",
   "fWITH DOUBLE MIDDLE TILDEeLONG SeMeNeOfWITH DIAERESISgLIGHT CENTRALIZATION STROKEePeRfBELOW",
   "fROTUNDAeSeSCHWAeTeTURNED W BELOWeUfWITH DIAERESISgLIGHT CENTRALIZATION STROKEeVeWfBELOWeXeZ",
   "bLEFT ANGLE ABOVEdBELOWcARROW ABOVEdBELOWcARROWHEAD ABOVEdBELOWcHALF RING ABOVEeBELOW",
   "cHARPOON ABOVEcPARENTHESIS ABOVE LEFTdBELOW LEFTcRIGHT ARROW ABOVEeBELOWcTACK BELOW",
   "bLEFTWARDS ARROW OVERLAYcHARPOON WITH BARB DOWNWARDSbLIGATURE LEFT HALFeBELOWcRIGHT HALFeBELOW",
   "bLIGHT CENTRALIZATION STROKE BELOWbLONG DOUBLE SOLIDUS OVERLAYcSOLIDUS OVERLAYcSTROKE OVERLAY",
   "cVERTICAL LINE OVERLAYbLOW LINEbMACRONcBELOWcLEFT HALFeBELOWcRIGHT HALFeBELOWbMACRON-ACUTE",
   "bMACRON-BREVEbMACRON-GRAVEbMINUS SIGN BELOWbNOT TILDE ABOVEbNUMBER SIGN ABOVEbOGONEKcABOVE",
   "bOLD PERMIC LETTER ANeDOIeNENOEeSIIeZATAbOPEN MARK BELOWbOVERLINEbPALATALIZED HOOK BELOW",
   "bPARENTHESES ABOVEcBELOWcOVERLAYbPLUS SIGN ABOVEdBELOWbRETROFLEX HOOK BELOW",
   "bREVERSE SOLIDUS OVERLAYbREVERSED COMMA ABOVEbRIGHT ARROW ABOVEdBELOWcARROWHEAD ABOVE",
   "dAND DOWN ARROWHEAD BELOWeUP ARROWHEAD BELOWdBELOWcHALF RING ABOVEeBELOWcHARPOON ABOVE",
   "cPARENTHESIS ABOVE RIGHTdBELOW RIGHTcTACK BELOWbRIGHTWARDS HARPOON WITH BARB DOWNWARDS",
   "bRING ABOVEcBELOWcOVERLAYbSEAGULL BELOWbSHORT SOLIDUS OVERLAYcSTROKE OVERLAY",
   "cVERTICAL LINE OVERLAYbSNAKE BELOWbSQUARE BELOWcBRACKETS ABOVE",
   "bSTRONG CENTRALIZATION STROKE BELOWbSUSPENSION MARKbTHREE DOTS ABOVEbTILDEcBELOW",
   "cLEFT HALF BELOWcOVERLAYcRIGHT HALF BELOWbTRIPLE ACUTE ACCENTcDOTcUNDERDOTbTURNED COMMA ABOVE",
   "bUP TACK ABOVEdBELOWbUPWARDS ARROW BELOWbUR ABOVEbUS ABOVEbVERTICAL LINE ABOVEdBELOWcTILDE",
   "bWIDE BRIDGE ABOVEcINVERTED BRIDGE BELOWbWIGGLY LINE BELOWbX ABOVEcBELOWbX-X BELOW",
   "bZIGZAG ABOVEcBELOWaCOMETaCOMMAaCOMMERCIAL ATbMINUS SIGNaCOMPASSaCOMPLEMENTaCOMPOSITION SYMBOL",
   "aCOMPRESSIONaCONFETTI BALLaCONFOUNDED FACEaCONFUSED FACEaCONGRUENT WITH DOT ABOVE",
   "aCONICAL TAPERaCONJUNCTIONaCONSTRUCTION SIGNbWORKERaCONTAINS AS MEMBERcNORMAL SUBGROUP",
   "eOR EQUAL TObWITH LONG HORIZONTAL STROKEcOVERBARcVERTICAL BAR AT END OF HORIZONTAL STROKE",
   "aCONTINUOUS UNDERLINE SYMBOLaCONTOUR INTEGRALaCONTROL KNOBSbSEQUENCE INTRODUCER",
   "aCONVENIENCE STOREaCOOKED RICEaCOOKIEaCOOKINGaCOPTIC CAPITAL LETTER AKHMIMIC KHEIdALFA",
   "dBOHAIRIC KHEIdCROSSED SHEIdCRYPTOGRAMMIC EIEeGANGIAeNIeSHEIdDALDAdDEIdDIALECT-P ALEFeHORI",
   "eKAPAeNIdEIEdFEIdFIdGAMMAdGANGIAdHATEdHORIdIAUDAdKAPAdKHEIdKHIdKSIdL-SHAPED HAdLAULAdMIdNIdO",
   "dOLD COPTIC AINfDJAfESHfGANGIAfHAfHATfHEIfHORIfOOUfSHEIfSHIMAeNUBIAN NGIfNYIfSHIMAfWAUdOOUdPI",
   "dPSIdROdSAMPIdSHEIdSHIMAdSIMAdSOUdTAUdTHETHEdUAdVIDAdZATAbCOMBINING NI ABOVEcSPIRITUS ASPER",
   "dLENISbEPACT DIGIT EIGHTdFIVEdFOURdNINEdONEdSEVENdSIXdTHREEdTWOcNUMBER EIGHT HUNDREDdEIGHTY",
   "dFIFTYdFIVE HUNDREDdFORTYdFOUR HUNDREDdNINE HUNDREDdNINETYdONE HUNDREDdSEVEN HUNDREDdSEVENTY",
   "dSIX HUNDREDdSIXTYdTENdTHIRTYdTHREE HUNDREDdTWENTYdTWO HUNDREDcTHOUSANDS MARK",
   "bFRACTION ONE HALFbFULL STOPbMORPHOLOGICAL DIVIDERbOLD NUBIAN DIRECT QUESTION MARKdFULL STOP",
   "dINDIRECT QUESTION MARKdVERSE DIVIDERbSMALL LETTER AKHMIMIC KHEIdALFAdBOHAIRIC KHEI",
   "dCROSSED SHEIdCRYPTOGRAMMIC EIEeGANGIAeNIeSHEIdDALDAdDEIdDIALECT-P ALEFeHORIeKAPAeNIdEIEdFEI",
   "dFIdGAMMAdGANGIAdHATEdHORIdIAUDAdKAPAdKHEIdKHIdKSIdL-SHAPED HAdLAULAdMIdNIdOdOLD COPTIC AIN",
   "fDJAfESHfGANGIAfHAfHATfHEIfHORIfOOUfSHEIfSHIMAeNUBIAN NGIfNYIfSHIMAfWAUdOOUdPIdPSIdROdSAMPI",
   "dSHEIdSHIMAdSIMAdSOUdTAUdTHETHEdUAdVIDAdZATAbSYMBOL KAIcKHI ROcMI ROcPI ROcSHIMA SIMAcSTAUROS",
   "cTAU ROaCOPYLEFT SYMBOLaCOPYRIGHT SIGNaCORALaCORNISH VERSE DIVIDERaCORRESPONDS TO",
   "aCOUCH AND LAMPaCOUNTERBOREaCOUNTERSINKaCOUNTING ROD TENS DIGIT EIGHTeFIVEeFOUReNINEeONEeSEVEN",
   "eSIXeTHREEeTWOcUNIT DIGIT EIGHTeFIVEeFOUReNINEeONEeSEVENeSIXeTHREEeTWOaCOUPLE WITH HEARTaCOW",
   "bFACEaCRaCRABaCREDIT CARDaCRESCENT MOONaCRICKETbBAT AND BALLaCROCODILEaCROISSANTaCROSS MARK",
   "bOF JERUSALEMcLORRAINEbPATTY WITH LEFT CROSSBARdRIGHT CROSSBARbPOMMEEcWITH HALF-CIRCLE BELOW",
   "aCROSSED FLAGSbNEGATIVE SQUARED LATIN CAPITAL LETTER PbSWORDSaCROSSING LANESaCROWNaCRUTCH",
   "aCRUZEIRO SIGNaCRYING CAT FACEbFACEaCRYSTAL BALLaCSIaCUBE ROOTaCUCUMBER",
   "aCUNEIFORM NUMERIC SIGN EIGHT ASHeDISHeGESH2eSHAR2eUfVARIANT FORMeVARIANT FORM USSUgUSSU3",
   "dELAMITE FIFTYeFORTYeONE THIRDeTWO THIRDSdFIVE ASHfTENUeBAN2fVARIANT FORMeBURUeDISHeGESH2",
   "eGESHUeSHAR2eSHARUeSIXTHS DISHeUfVARIANT FORMdFOUR ASHfTENUeBAN2fVARIANT FORMeBURUeDISHeGESH2",
   "eGESHUeSHAR2eSHARUeUfVARIANT FORMeVARIANT FORM LIMMUhAhBgLIMMU4dNIGIDAESHdNIGIDAMINdNINE ASH",
   "eDISHeGESH2eSHAR2eUfVARIANT FORMeVARIANT FORM ILIMMUhAgILIMMU3gILIMMU4",
   "dOLD ASSYRIAN ONE QUARTERgSIXTHdONE BAN2eBURUeEIGHTH ASHeESHE3eGESH2eGESHUeHALF GUR",
   "eQUARTER ASHfGUReSHARUeTHIRD DISHfVARIANT FORM AdSEVEN ASHeDISHeGESH2eSHAR2eUfVARIANT FORM",
   "eVARIANT FORM IMIN AhBgIMIN3dSHAR2 TIMES GAL PLUS DISHhMINdSIX ASHfTENUeDISHeGESH2eSHAR2eU",
   "fVARIANT FORMeVARIANT FORM ASH9dTHREE ASHfTENUeBAN2eBURUfVARIANT FORMeDISHeGESH2eGESHUeSHAR2",
   "fVARIANT FORMeSHARUfVARIANT FORMeVARIANT FORM ESH16gESH21dTWO ASHfTENUeBAN2eBURUeESHE3eGESH2",
   "eGESHUeSHAR2eSHARUeTHIRDS DISHfVARIANT FORM AbPUNCTUATION SIGN DIAGONAL COLONeQUADCOLON",
   "eTRICOLONdOLD ASSYRIAN WORD DIVIDERdVERTICAL COLONbSIGN AdTIMES AeBADeGAN2 TENUeHAeIGI",
   "eLAGAR GUNUeMUSHeSAGcA2cABdGUNUdTIMES ASH2eDUN3 GUNUeGALeGAN2 TENUeHAeIGI GUNUeIMINeLAGABeNUN",
   "fTENUeSHESHeSHU2eU PLUS U PLUS UcAB2dTIMES AeBALAGeGAN2 TENUeME PLUS ENeSHA3eTAK4cAD",
   "dTIMES ESH2cAKdTIMES ERIN2eSHITA PLUS GISHcALdTIMES ALeDIM2eGISHeHAeKAD3eKIeSHEeUSHcALANcALEPH",
   "cAMARdTIMES KUGeSHEcANdOVER ANdPLUS NAGA OPPOSING AN PLUS NAGAfSQUAREDdTHREE TIMEScANSHEcAPIN",
   "cARADdTIMES KURcARKABcASAL2cASHdKABA TENUdOVER ASH OVER ASHhCROSSING ASH OVER ASH OVER ASH",
   "fTUG2 OVER TUG2 TUG2 OVER TUG2 PAPdZIDA TENUcASH2cASHGABcBAcBADdTIMES DISH TENUcBAG3cBAHAR2",
   "dTIMES AB2eNIeZAcBALdOVER BALcBALAGcBARcBARA2cBIdTIMES AeGAReIGI GUNUcBUdCROSSING BU",
   "dOVER BU ABfTIMES NA2fUNcBULUGdOVER BULUGcBURcBUR2cDAdTIMES TAK4cDAGdKISIM5 TIMES A PLUS MASH",
   "fAMARfBALAGfBIfGAgPLUS MASHfGIfGIR2fGUDfHAfIRgPLUS LUfKAKfLAfLUgPLUS MASH2fLUMfNEfPAP PLUS PAP",
   "fSIfTAK4fU2 PLUS GIR2hMASHfUSHdTIMES KURcDAG3cDAMcDARcDARA3cDARA4cDIcDIBcDIMdTIMES IGIeSHE",
   "eU U UcDIM2dTIMES UDcDINdKASKAL U GUNU DISHcDISHdPLUS SHUcDUdGUNUdOVER DUdSHESHIGcDUB",
   "dTIMES ESH2eSHEcDUB2cDUGdTIMES ANSHEeASHfAT LEFTeDINeDUNeERIN2eGAeGIeGIR2 GUNUeGISHeHAeHI",
   "eIGI GUNUeKASKALeKUReKUSHU2fPLUS KASKALeLAK-020eLAMfTIMES KUReLUH PLUS GISHeMASHeMESeMIeNIePI",
   "eSHEeSI GUNUcDUGUDcDUHcDUNcDUN3dGUNUeGUNUcDUN4cDUR2cEdOVER E NUN OVER NUNdTIMES PAPcE2",
   "dTIMES A PLUS HA PLUS DAeGAReKUReMIePAPeSALeSHEeUcEDINcEGIRcELcENdCROSSING ENdOPPOSING EN",
   "dSQUAREDdTIMES GAN2fTENUeMEcERENcERIN2dXcESH2dCROSSING ESH2cEZENdSHESHIG TIMES ASHfHIfIGI GUNU",
   "fLAfLALfMEfMESfSUdTIMES AfPLUS LALhTIMES LALeANeBADeDUN3 GUNUgGUNUeGUDeHAfGUNUeIGI GUNUeKASKAL",
   "fSQUAREDeKU3eLAeLAL TIMES LALeLIeLUeSHEeSUeU2eUDcGAdGUNUcGA2dOVER GA2dTIMES A PLUS DA PLUS HA",
   "gHAgIGIeAB2 TENU PLUS TABeANfPLUS KAK PLUS AeASHeASH2fPLUS GALeBADeBAHAR2eBAR PLUS RAeBUR",
   "fPLUS RAeDAeDIeDIM GUNUfTIMES SHEeDUBeDUG TIMES IGI GUNUgKASKALeELfPLUS LAeENfTIMES GAN2 TENU",
   "eERENeGAeGAN2 TENUeGARfPLUS DIgNEeGIeGI4fPLUS AeGIR2 PLUS SUeHA PLUS AgLU PLUS ESH2eHAL",
   "fPLUS LAeHI PLUS LIeHUB2eIGI GUNUeISH PLUS HU PLUS ASHeKAKeKASKALeKIDfPLUS LALeKU3 PLUS AN",
   "eKUSHU2 PLUS KASKALeLAeLAMfTIMES KUReLUHeME PLUS ENeMIeMUSHeNEfPLUS E2gGIeNUNfOVER NUNePAeSAL",
   "eSAReSHEfPLUS TUReSHIDeSHIMeSUMeTAK4eUeUDfPLUS DUeZIZ2cGABAdCROSSING GABA",
   "dROTATED NINETY DEGREEScGADdOVER GAD GAR OVER GARcGALdGAD OVER GAD GAR OVER GARcGALAMcGAMcGAN",
   "cGAN2dCROSSING GAN2dOVER GAN2dTENUcGARcGAR3cGASHANcGE22cGESHTINdTIMES KUReUcGIdCROSSING GI",
   "dTIMES EeUcGI4dCROSSING GI4dOVER GI4cGIDIMcGIGcGIR2dGUNUcGIR3dTIMES A PLUS IGIeGAN2 TENUeIGI",
   "eLU PLUS IGIePAcGISALcGISHdCROSSING GISHdTENUdTIMES BADeGISH CROSSING GISHeTAK4cGUdCROSSING GU",
   "cGU2dGUNUdTIMES IGI GUNUeKAKfTIMES IGI GUNUeNUNeSAL PLUS TUG2cGUDdOVER GUD LUGAL",
   "dPLUS GISH TIMES TAK4dTIMES A PLUS KUReKURcGULcGUMdTIMES SHEcGURcGUR7cGURUNcGURUSHcHAdGUNU",
   "dTENUeGUNUcHALcHIdTIMES ASHfOVER HI TIMES ASHeASH2eBADeDISHeGADeKINeNUNeSHEeUcHUcHUB2dTIMES AN",
   "eHALeKASKALeLISHeUDcHUL2cHUSHcIdAcIBcIDIMdOVER IDIM BURfSQUAREDcIGcIGIdDIBdGUNU",
   "dOVER IGI SHIR OVER SHIR UD OVER UDdRIcILdTIMES GAN2 TENUcIL2cIMdCROSSING IMdOPPOSING IM",
   "dSQUAREDdTIMES TAK4cIMINcINcIRcISHcKAdTIMES AeADfPLUS KU3eANSHEeASH2eASH3eBADeBALAGeBAReBIeBU",
   "eERIN2eESH2eGAeGALeGAN2 TENUeGARfPLUS SHA3 PLUS AeGIeGIR2eGISHfCROSSING GISHfPLUS SAReGUeGUD",
   "eGUR7eHI TIMES ASH2eIGIeIMeKAeKAKeKIeKIDeLIeLUeLUMeMEfPLUS DUgGIgTEeMIfPLUS NUNUZeNEeNUNePAePI",
   "eRUeSAeSAReSHAeSHEeSHIDeSHUeSHULeSIGeSUHUReTAReTUeUfU UeU2eUDeUMUM TIMES PAeUReUR2eUSHeZIcKA2",
   "dCROSSING KA2cKABcKAD2cKAD3cKAD4cKAD5dOVER KAD5cKAKdTIMES IGI GUNUcKALdCROSSING KALdTIMES BAD",
   "cKAM2cKAM4cKAP ELAMITEcKASKALdLAGAB TIMES U OVER LAGAB TIMES U",
   "dOVER KASKAL LAGAB TIMES U OVER LAGAB TIMES UcKESH2cKIdTIMES BADeUeUDcKIDcKINcKISALcKISH",
   "cKISIM5dOVER KISIM5cKUdOVER HI TIMES ASH2 KU OVER HI TIMES ASH2cKU3cKU4dVARIANT FORMcKU7cKUL",
   "dGUNUcKUNcKURdOPPOSING KURcKUSHU2cKWU318cLAcLAGABdSQUAREDdTIMES AfPLUS DA PLUS HAgGARgLALeAL",
   "eANeASH ZIDA TENUeBADeBIeDAReENeGAeGAReGIeGUDfPLUS GUDeHAeHALeHI TIMES NUNeIGI GUNUeIMfPLUS HA",
   "gLUeKIeKINeKU3eKULfPLUS HI PLUS AeLAGABeLISHeLUeLULeMEfPLUS ENeMUSHeNEeSHE PLUS SUM",
   "eSHITA PLUS GISH PLUS ERIN2hTENUeSHU2fPLUS SHU2eSUMeTAGeTAK4eTE PLUS A PLUS SU PLUS NAeU",
   "fPLUS AgU PLUS UeU2 PLUS ASHeUDeUSHeZU OVER ZUcLAGARdGUNUeOVER LAGAR GUNU SHEdTIMES SHE",
   "fPLUS SUMcLAHSHUcLAK-003cLAK-021cLAK-025cLAK-030cLAK-050cLAK-051cLAK-062",
   "cLAK-079 OVER LAK-079 GUNUcLAK-080cLAK-081 OVER LAK-081cLAK-092cLAK-130cLAK-142cLAK-210",
   "cLAK-219cLAK-220cLAK-225cLAK-228cLAK-238cLAK-265cLAK-266cLAK-343cLAK-347cLAK-348cLAK-383",
   "cLAK-384cLAK-390cLAK-441cLAK-449dTIMES GUeIGIePAP PLUS LU3gPAP PLUS LU3eU2 PLUS BAcLAK-450",
   "cLAK-457cLAK-470cLAK-483cLAK-490cLAK-492cLAK-493cLAK-495cLAK-550cLAK-608cLAK-617dTIMES ASHeBAD",
   "eDUN3 GUNU GUNUeKU3eLAeTAReTEeU2eUDeURUDAcLAK-636cLAK-648dTIMES DUBeGAeIGIfGUNUeNI",
   "ePAP PLUS PAP PLUS LU3eSHESH PLUS KIeUDeURUDAcLAK-724cLAK-749cLALdTIMES LALcLAMdTIMES KUR",
   "fPLUS RUcLIcLILcLIMMU2cLISHcLUdTIMES BADcLU2dCROSSING LU2dGUNU TIMES ASHdOPPOSING LU2dSHESHIG",
   "eTIMES BADdSQUAREDdTENUdTIMES ALeBADeDISHeESH2fPLUS LALfTENUeGAN2 TENUeHALeHI TIMES BADeIM",
   "eKAD2eKAD3fPLUS ASHeKIeLA PLUS ASHeLAGABeME PLUS ENeNEeNUePAPfPLUS PAP PLUS LU3eSHU",
   "eSI PLUS ASHeSIK2 PLUS BUeTAK4eTUG2cLU3cLUGALdOPPOSING LUGALdOVER LUGALdSHESHIGcLUHcLULcLUM",
   "dOVER LUMfGAR OVER GARcMAdGUNUdTIMES TAK4cMA2cMAHcMARcMASHcMASH2cMEcMEScMESHcMIdPLUS ZA7cMIN",
   "cMUdOVER MUcMUGdGUNUcMUNSUBcMURGU2cMUSHdCROSSING MUSHdOVER MUSHfTIMES A PLUS NAgGAgKAKdTIMES A",
   "eKUReZAcMUSH3dGUNUdTIMES AfPLUS DIeDIeZAcNAcNA2cNA4cNAGAdINVERTEDdOPPOSING NAGAdTIMES SHU TENU",
   "cNAGARcNAMdNUTILLUcNAM2cNEdSHESHIGdTIMES AeUDcNIdTIMES EcNI2cNIMdTIMES GAN2 TENU",
   "eGAR PLUS GAN2 TENUcNINcNIN9cNINDA2dTIMES ANeASHfPLUS ASHeBALeDIM GUNUeGIeGISHeGUDeGULeHI",
   "eKESH2eLAK-050eMASHeME PLUS GAN2 TENUeNEeNUNePAP PLUS PAPeSHEfPLUS A ANgASHhPLUS ASHeUfPLUS U",
   "eU2 PLUS ASHeURUDAeUSHcNISAGcNUcNU11dOVER NU11 BUR OVER BURdROTATED NINETY DEGREESdTENUcNUN",
   "dCROSSING NUNfLAGAR OVER LAGARdLAGAR TIMES GARfMASHfSALgOVER NUN LAGAR TIMES SALfUSHdOVER NUN",
   "dTENUcNUNUZdAB2 TIMES ASHGABfBIfDUGfGUDfIGI GUNUfKAD3fLAfNEfSILA3fU2dKISIM5 TIMES BIgUcPAcPAD",
   "cPANcPAPcPESH2dASTERISKcPIdCROSSING PIdTIMES AeABeBIeBUeEeIeIBeUeU2cPIR2cPIRIGdOPPOSING PIRIG",
   "dTIMES KALeUDeZAcRAcRABcRIcRUcSAcSAGdGUNUeTIMES HAdNUTILLUdOVER SAGdTIMES AeDUeDUBeENeHA",
   "eIGI GUNUeKAKeKUReLUMeMIeNUNeSALeSHE AT LEFTeSHIDeTABeTAK4eU2eUBeUMeUReUSHcSAL",
   "dLAGAB TIMES ASH2cSANGA2cSARcSHAcSHA3dTIMES AeBADeGISHeNEeSHU2eTUReUfPLUS AcSHA6dTENUcSHAB6",
   "cSHAR2cSHEdHUdOVER SHEfGAD OVER GAD GAR OVER GARfTAB OVER TAB GAR OVER GARdPLUS HUB2eNAM2eSAR",
   "cSHEG9cSHENcSHESHcSHESH2cSHESHLAMcSHIDdTIMES AeIMcSHIMdTIMES AeBALeBULUGeDINeGAReIGIfGUNU",
   "eKUSHU2eLULeMUGeSALcSHINIGcSHIRdOVER SHIR BUR OVER BURdTENUcSHITAcSHUdOVER INVERTED SHUcSHU2",
   "dPLUS DUG TIMES NIeE2 TIMES ANcSHUBURcSIdGUNUdTIMES TAK4cSIGcSIG4dOVER SIG4 SHU2cSIK2cSILA3cSU",
   "dOVER SUcSUDcSUD2cSUHURcSUMcSUMASHcSURcSUR9cTAdASTERISKdGUNUdTIMES HIeMIcTAB",
   "dOVER TAB NI OVER NI DISH OVER DISHdSQUAREDcTAGdTIMES BIeGUDeSHEeSHUeTUG2eUDcTAK4dPLUS SAGcTAR",
   "cTEdGUNUcTIdTENUcTI2cTILcTIRdOVER TIRfGAD OVER GAD GAR OVER GARdTIMES TAK4cTUcTUG2cTUKcTUM",
   "dTIMES GAN2 TENUeTHREE DISHcTURdOVER TUR ZA OVER ZAcUdGUDdOVER U PA OVER PA GAR OVER GAR",
   "fSUR OVER SURfU REVERSED OVER U REVERSEDdUeUcU2cUBcUDdGUNUdKUSHU2dSHESHIGeTIMES BADdTIMES BAD",
   "eMIeU PLUS U PLUS UjGUNUcUDUGcUMdTIMES LAGABeMEfPLUS DAeSHA3eUcUMBINcUMUMdTIMES KASKALePAcUN",
   "dGUNUcURdCROSSING URdSHESHIGcUR2dINVERTEDdTIMES A PLUS HAgNAeALeHAeNUNeU2fPLUS ASHgBIeUDcUR4",
   "cURIcURI3cURUdTIMES AeASHGABeBAReDARA3eDUNeGAeGALeGAN2 TENUeGAReGUeHAeIGIeIMeISHeKIeLAK-668",
   "eLU3eLUMeMINePAeSHEeSIG4eTUeU PLUS GUDeUDeURUDAcURUDAdTIMES UcUSHdTIMES AeKUeKUReTAK4cUSH2",
   "cUSHUMXcUSHXcUTUKIcUZ3dTIMES KASKALcUZUcZAdSQUARED TIMES KURdTENUcZA7cZAGcZAMXcZE2cZIdOVER ZI",
   "cZI3cZIBdKABA TENUcZIGcZIZ2cZUdOVER ZU PLUS SARcZU5dTIMES AeTHREE DISH TENUcZUBURcZUM",
   "aCUP ON BLACK SQUAREbWITH STRAWaCUPCAKEaCUPIDOaCURLING STONEaCURLY BRACKET EXTENSION",
   "bLOGICAL ANDcORbLOOPaCURRENCY EXCHANGEbSIGNaCURRY AND RICEaCURVED STEM PARAGRAPH SIGN ORNAMENT",
   "aCUSTARDaCUSTOMSaCUT OF MEATaCYCLONEaCYLINDRICITYaCYPRIOT SYLLABLE AcEcIcJAcJOcKAcKEcKIcKOcKU",
   "cLAcLEcLIcLOcLUcMAcMEcMIcMOcMUcNAcNEcNIcNOcNUcOcPAcPEcPIcPOcPUcRAcREcRIcROcRUcSAcSEcSIcSOcSU",
   "cTAcTEcTIcTOcTUcUcWAcWEcWIcWOcXAcXEcZAcZOaCYPRO-MINOAN SIGN CM001cCM002cCM004cCM005cCM006",
   "cCM007cCM008cCM009cCM010cCM011cCM012cCM012BcCM013cCM015cCM017cCM019cCM021cCM023cCM024cCM025",
   "cCM026cCM027cCM028cCM029cCM030cCM033cCM034cCM035cCM036cCM037cCM038cCM039cCM040cCM041cCM044",
   "cCM046cCM047cCM049cCM050cCM051cCM052cCM053cCM054cCM055cCM056cCM058cCM059cCM060cCM061cCM062",
   "cCM063cCM064cCM066cCM067cCM068cCM069cCM070cCM071cCM072cCM073cCM074cCM075cCM075BcCM076cCM078",
   "cCM079cCM080cCM081cCM082cCM083cCM084cCM085cCM086cCM087cCM088cCM089cCM090cCM091cCM092cCM094",
   "cCM095cCM096cCM097cCM098cCM099cCM100cCM101cCM102cCM103cCM104cCM105cCM107cCM108cCM109cCM110",
   "cCM112cCM114cCM301cCM302aCYRILLIC CAPITAL LETTER AeWITH BREVEfDIAERESISdABKHASIAN CHE",
   "fWITH DESCENDEReDZEeHAdALEUT KAdBARRED OfWITH DIAERESISdBASHKIR KAdBEdBIG YUSdBINOCULAR O",
   "dBLENDED YUSdBROAD OMEGAdBYELORUSSIAN-UKRAINIAN IdCCHEdCHEeWITH DESCENDERfDIAERESIS",
   "fVERTICAL STROKEdCLOSED LITTLE YUSdCROSSED OdDCHEdDEdDJEdDJERVdDOUBLE MONOCULAR OeOdDWEdDZE",
   "dDZELOdDZHEdDZWEdDZZEdDZZHEdEeWITH DIAERESISdEFdELeWITH DESCENDERfHOOKfMIDDLE HOOKfTAILdEM",
   "eWITH TAILdENeWITH DESCENDERfHOOKfLEFT HOOKfMIDDLE HOOKfTAILdEReWITH TICKdESeWITH DESCENDER",
   "dFITAdGHEeWITH DESCENDERfMIDDLE HOOKfSTROKEgAND HOOKfUPTURNdGJEdHAeWITH DESCENDERfHOOKfSTROKE",
   "dHARD SIGNdHWEdIeWITH DIAERESISfGRAVEfMACRONdIEeWITH BREVEfGRAVEdIOdIOTAdIOTIFIED AeBIG YUS",
   "eCLOSED LITTLE YUSeEeLITTLE YUSeYATdIZHITSAeWITH DOUBLE GRAVE ACCENTdJEdKAeWITH DESCENDERfHOOK",
   "fSTROKEfVERTICAL STROKEdKHAKASSIAN CHEdKJEdKOMI DEeDJEeDZJEeLJEeNJEeSJEeTJEeZJEdKOPPAdKSIdLHA",
   "dLITTLE YUSdLJEdMONOCULAR OdMONOGRAPH UKdNEUTRAL YERdNJEdOeWITH DIAERESISdOMEGAeWITH TITLOdOT",
   "dPEeWITH DESCENDERfMIDDLE HOOKdPSIdQAdREVERSED DZEeTSEeYUeZEdRHAdROUND OMEGAdSCHWA",
   "eWITH DIAERESISdSEMISOFT SIGNdSHAdSHCHAdSHHAeWITH DESCENDERdSHORT IfWITH TAILeUdSHWEdSOFT DE",
   "eELeEMeSIGNdSTRAIGHT UfWITH STROKEdTCHEdTEeWITH DESCENDERfMIDDLE HOOKdTSEdTSHEdTSSEdTSWEdTWEdU",
   "eWITH DIAERESISfDOUBLE ACUTEfMACRONdUKdUKRAINIAN IEdVEdWEdYAdYAEdYATdYERUeWITH BACK YER",
   "fDIAERESISdYIdYNdYUdZEeWITH DESCENDERfDIAERESISdZEMLYAdZHEeWITH BREVEfDESCENDERfDIAERESISdZHWE",
   "cLIGATURE A IEdEN GHEdTE TSEbKAVYKAbLETTER MULTIOCULAR OcPALOCHKAcSMALL CAPITAL ELbPAYEROK",
   "bSMALL LETTER AeWITH BREVEfDIAERESISdABKHASIAN CHEfWITH DESCENDEReDZEeHAdALEUT KAdBARRED O",
   "fWITH DIAERESISdBASHKIR KAdBEdBIG YUSdBINOCULAR OdBLENDED YUSdBROAD OMEGA",
   "dBYELORUSSIAN-UKRAINIAN IdCCHEdCHEeWITH DESCENDERfDIAERESISfVERTICAL STROKEdCLOSED LITTLE YUS",
   "dCROSSED OdDCHEdDEdDJEdDJERVdDOUBLE MONOCULAR OeOdDWEdDZEdDZELOdDZHEdDZWEdDZZEdDZZHEdE",
   "eWITH DIAERESISdEFdELeWITH DESCENDERfHOOKfMIDDLE HOOKfTAILdEMeWITH TAILdENeWITH DESCENDERfHOOK",
   "fLEFT HOOKfMIDDLE HOOKfTAILdEReWITH TICKdESeWITH DESCENDERdFITAdGHEeWITH DESCENDERfMIDDLE HOOK",
   "fSTROKEgAND HOOKfUPTURNdGJEdHAeWITH DESCENDERfHOOKfSTROKEdHARD SIGNdHWEdIeWITH DIAERESISfGRAVE",
   "fMACRONdIEeWITH BREVEfGRAVEdIOdIOTAdIOTIFIED AeBIG YUSeCLOSED LITTLE YUSeEeLITTLE YUSeYAT",
   "dIZHITSAeWITH DOUBLE GRAVE ACCENTdJEdKAeWITH DESCENDERfHOOKfSTROKEfVERTICAL STROKE",
   "dKHAKASSIAN CHEdKJEdKOMI DEeDJEeDZJEeLJEeNJEeSJEeTJEeZJEdKOPPAdKSIdLHAdLITTLE YUSdLJE",
   "dLONG-LEGGED DEdMONOCULAR OdMONOGRAPH UKdNARROW OdNEUTRAL YERdNJEdOeWITH DIAERESISdOMEGA",
   "eWITH TITLOdOTdPALOCHKAdPEeWITH DESCENDERfMIDDLE HOOKdPSIdQAdREVERSED DZEeTSEeYUeZEdRHA",
   "dROUND OMEGAdROUNDED VEdSCHWAeWITH DIAERESISdSEMISOFT SIGNdSHAdSHCHAdSHHAeWITH DESCENDER",
   "dSHORT IfWITH TAILeUdSHWEdSOFT DEeELeEMeSIGNdSTRAIGHT UfWITH STROKEdTALL HARD SIGNeTEeYATdTCHE",
   "dTEeWITH DESCENDERfMIDDLE HOOKdTHREE-LEGGED TEdTSEdTSHEdTSSEdTSWEdTWEdUeWITH DIAERESIS",
   "fDOUBLE ACUTEfMACRONdUKdUKRAINIAN IEdUNBLENDED UKdVEdWEdWIDE ESdYAdYAEdYATdYERUeWITH BACK YER",
   "fDIAERESISdYIdYNdYUdZEeWITH DESCENDERfDIAERESISdZEMLYAdZHEeWITH BREVEfDESCENDERfDIAERESISdZHWE",
   "cLIGATURE A IEdEN GHEdTE TSEbTHOUSANDS SIGN"]

end FragmentImports.CharacterName
